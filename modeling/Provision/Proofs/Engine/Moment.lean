import Mathlib.Logic.Relation
import Provision.Proofs.Engine.Evaluation

/-! A run in single moves. A moment is what is being done, the handlers that wait for steps they
inserted, innermost first, and the session as it stands. Moves need no bound on how deeply
insertions nest, and a run that never ends has moments all the same. -/

namespace Provision

/-- A handler that waits for the steps it inserted. It is burdened once an insertion has failed
under it. -/
structure Caller (σ : Type) where
  step : Step
  burdened : Bool
  rest : List Step
  resume : Except Fault Unit → Handling σ Frame

inductive Activity (σ : Type) where
  /-- The main loop looks for the next step. -/
  | turn
  | enter (step : Step)
  | handle (step : Step) (burdened : Bool) (work : Handling σ Frame)
  /-- A step has been executed. -/
  | leave (outcome : Except Fault Unit)
  | drain
  | ended (outcome : Except Fault Unit)

structure Moment (σ : Type) where
  activity : Activity σ
  callers : List (Caller σ)
  session : Session σ

namespace Moment

variable {σ : Type}

/-- A step is executed: a POP at once, any other by its handler. -/
def enter (runtime : Runtime σ) (software : Software) (step : Step) (callers : List (Caller σ))
    (session : Session σ) : Moment σ :=
  if step.isPop then
    ⟨.leave (session.pop runtime.clean).1, callers, (session.pop runtime.clean).2⟩
  else
    match runtime.handlers step.operation with
    | none => ⟨.leave (.error (.noHandler step.operation)), callers, session⟩
    | some handler =>
      match Placeholder.resolve runtime.constants session.stack step.parameter with
      | .error fault => ⟨.leave (.error fault), callers, session⟩
      | .ok parameter =>
        ⟨.handle step false (handler ⟨parameter, software, runtime.facts, runtime.constants⟩),
          callers, session⟩

/-- A handler makes its next request, or comes to its end. -/
def handle (runtime : Runtime σ) (step : Step) (burdened : Bool) (callers : List (Caller σ))
    (session : Session σ) : Handling σ Frame → Moment σ
  | .done frame => ⟨.leave (.ok ()), callers, (runtime.report step frame session).push step frame⟩
  | .failed failure => ⟨.leave (.error (failure.toFault step.operation)), callers, session⟩
  | .observe next => ⟨.handle step burdened (next session.world), callers, session⟩
  | .update world next => ⟨.handle step burdened next, callers, { session with world }⟩
  | .look next =>
    ⟨.handle step burdened (next ⟨session.stack, session.pending⟩), callers, session⟩
  | .children next =>
    ⟨.handle step burdened (next session.takeChildren.1), callers, session.takeChildren.2⟩
  | .insert [] next => ⟨.handle step burdened (next (.ok ())), callers, session⟩
  | .insert (first :: rest) next => ⟨.enter first, ⟨step, burdened, rest, next⟩ :: callers, session⟩
  | .report other frame next =>
    ⟨.handle step burdened next, callers, runtime.report other frame session⟩

/-- The outcome of a step goes to the handler that inserted it, or else to the main loop. -/
def leave (outcome : Except Fault Unit) (session : Session σ) : List (Caller σ) → Moment σ
  | [] =>
    match outcome with
    | .ok () => ⟨.turn, [], session⟩
    | .error fault => ⟨.ended (.error fault), [], session⟩
  | caller :: callers =>
    match outcome, caller.rest with
    | .error fault, _ =>
      ⟨.handle caller.step true (caller.resume (.error fault)), callers, session⟩
    | .ok (), [] =>
      ⟨.handle caller.step caller.burdened (caller.resume (.ok ())), callers, session⟩
    | .ok (), first :: rest => ⟨.enter first, { caller with rest } :: callers, session⟩

/-- The next moment, until the run is over. -/
def next? (runtime : Runtime σ) (software : Software) : Moment σ → Option (Moment σ)
  | ⟨.turn, callers, session⟩ =>
    match session.pending with
    | [] => some ⟨.drain, callers, session⟩
    | step :: rest => some ⟨.enter step, callers, { session with pending := rest }⟩
  | ⟨.enter step, callers, session⟩ => some (enter runtime software step callers session)
  | ⟨.handle step burdened work, callers, session⟩ =>
    some (handle runtime step burdened callers session work)
  | ⟨.leave outcome, callers, session⟩ => some (leave outcome session callers)
  | ⟨.drain, callers, session⟩ =>
    match session.stack with
    | [] => some ⟨.ended (.ok ()), callers, session⟩
    | _ :: _ =>
      match session.pop runtime.clean with
      | (.ok (), session) => some ⟨.drain, callers, session⟩
      | (.error fault, session) => some ⟨.ended (.error fault), callers, session⟩
  | ⟨.ended _, _, _⟩ => none

/-- All that a move can be. -/
inductive Moves (runtime : Runtime σ) (software : Software) : Moment σ → Moment σ → Prop where
  | finish {callers : List (Caller σ)} {session : Session σ} (nothing : session.pending = []) :
    Moves runtime software ⟨.turn, callers, session⟩ ⟨.drain, callers, session⟩
  | take {callers : List (Caller σ)} {session : Session σ} {step : Step} {rest : List Step}
    (waiting : session.pending = step :: rest) :
    Moves runtime software ⟨.turn, callers, session⟩
      ⟨.enter step, callers, { session with pending := rest }⟩
  | enter (step : Step) (callers : List (Caller σ)) (session : Session σ) :
    Moves runtime software ⟨.enter step, callers, session⟩
      (enter runtime software step callers session)
  | handle (step : Step) (burdened : Bool) (callers : List (Caller σ)) (session : Session σ)
    (work : Handling σ Frame) :
    Moves runtime software ⟨.handle step burdened work, callers, session⟩
      (handle runtime step burdened callers session work)
  | leave (outcome : Except Fault Unit) (session : Session σ) (callers : List (Caller σ)) :
    Moves runtime software ⟨.leave outcome, callers, session⟩ (leave outcome session callers)
  | drained {callers : List (Caller σ)} {session : Session σ} (empty : session.stack = []) :
    Moves runtime software ⟨.drain, callers, session⟩ ⟨.ended (.ok ()), callers, session⟩
  | popped {callers : List (Caller σ)} {session after : Session σ}
    (went : session.pop runtime.clean = (.ok (), after)) :
    Moves runtime software ⟨.drain, callers, session⟩ ⟨.drain, callers, after⟩
  | stopped {callers : List (Caller σ)} {session after : Session σ} {fault : Fault}
    (failed : session.pop runtime.clean = (.error fault, after)) :
    Moves runtime software ⟨.drain, callers, session⟩ ⟨.ended (.error fault), callers, after⟩

theorem moves_of_next? {runtime : Runtime σ} {software : Software} {first second : Moment σ}
    (move : first.next? runtime software = some second) : first.Moves runtime software second := by
  rcases first with ⟨activity, callers, session⟩
  cases activity with
  | turn =>
    simp only [next?] at move
    split at move
    · rename_i nothing
      cases move
      exact .finish nothing
    · rename_i step rest waiting
      cases move
      exact .take waiting
  | enter step => exact Option.some.inj move ▸ .enter step callers session
  | handle step burdened work => exact Option.some.inj move ▸ .handle step burdened callers session work
  | leave outcome => exact Option.some.inj move ▸ .leave outcome session callers
  | drain =>
    simp only [next?] at move
    split at move
    · rename_i empty
      cases move
      exact .drained empty
    · split at move
      · rename_i after went
        cases move
        exact .popped went
      · rename_i fault after failed
        cases move
        exact .stopped failed
  | ended outcome => cases move

/-- A run comes from the first moment to the second. -/
def Reaches (runtime : Runtime σ) (software : Software) : Moment σ → Moment σ → Prop :=
  Relation.ReflTransGen fun first second => first.next? runtime software = some second

/-- The moment so many moves later, if the run lasts that long. -/
def later? (runtime : Runtime σ) (software : Software) : (moves : Nat) → Moment σ → Option (Moment σ)
  | 0, moment => some moment
  | moves + 1, moment => (moment.next? runtime software).bind (later? runtime software moves)

theorem reaches_of_later {runtime : Runtime σ} {software : Software} {moves : Nat}
    {first last : Moment σ} (later : later? runtime software moves first = some last) :
    first.Reaches runtime software last := by
  induction moves generalizing first with
  | zero => exact Option.some.inj later ▸ Relation.ReflTransGen.refl
  | succ moves ih =>
    obtain ⟨second, move, rest⟩ := Option.bind_eq_some_iff.mp later
    exact (ih rest).head move

/-- The moment before the first step of a run. -/
def begin (session : Session σ) : Moment σ := ⟨.turn, [], session⟩

end Moment

variable {σ : Type} {runtime : Runtime σ} {software : Software}
  {related : Session σ → Session σ → Prop}

/-- A run begins with the seed alone. -/
theorem Runtime.start_ok {world : σ} {session : Session σ}
    (started : runtime.start software world = .ok session) :
    ∃ text, Placeholder.resolve runtime.constants [] software.parameter = .ok text ∧
      session = Session.push ⟨software.steps, [], [], world⟩ none (.ofValue text) := by
  unfold Runtime.start at started
  cases resolved : Placeholder.resolve runtime.constants [] software.parameter with
  | error fault =>
    rw [resolved] at started
    cases started
  | ok text =>
    rw [resolved] at started
    cases started
    exact ⟨text, rfl, rfl⟩

theorem Runtime.Respects.enter (respects : runtime.Respects related) (step : Step)
    (callers : List (Caller σ)) (session : Session σ) :
    related session (Moment.enter runtime software step callers session).session := by
  unfold Moment.enter
  split
  · exact respects.pop session
  · split
    · exact respects.refl session
    · split
      · exact respects.refl session
      · exact respects.refl session

theorem Runtime.Respects.handle (respects : runtime.Respects related) (step : Step)
    (burdened : Bool) (callers : List (Caller σ)) (session : Session σ) (work : Handling σ Frame) :
    related session (Moment.handle runtime step burdened callers session work).session := by
  cases work with
  | done frame =>
    exact respects.trans (respects.report session step frame) (respects.push _ step frame)
  | failed failure => exact respects.refl session
  | observe next => exact respects.refl session
  | update world next => exact respects.world session world
  | look next => exact respects.refl session
  | children next => exact respects.take session _ ⟨_, session.pending.splitChildren_append⟩
  | insert steps next => cases steps <;> exact respects.refl session
  | report other frame next => exact respects.report session other frame

theorem Moment.leave_session (outcome : Except Fault Unit) (session : Session σ)
    (callers : List (Caller σ)) : (leave outcome session callers).session = session := by
  cases callers with
  | nil => cases outcome <;> rfl
  | cons caller callers =>
    cases outcome with
    | error fault => rfl
    | ok _ => cases rest : caller.rest <;> simp [leave, rest]

/-- No move leaves a relation that every single act respects. -/
theorem Runtime.Respects.next? (respects : runtime.Respects related) {first second : Moment σ}
    (move : first.next? runtime software = some second) :
    related first.session second.session := by
  cases Moment.moves_of_next? move with
  | finish nothing => exact respects.refl _
  | take waiting => exact respects.take _ _ (waiting ▸ List.suffix_cons ..)
  | enter step callers session => exact respects.enter step callers session
  | handle step burdened callers session work =>
    exact respects.handle step burdened callers session work
  | leave outcome session callers =>
    rw [Moment.leave_session]
    exact respects.refl session
  | drained empty => exact respects.refl _
  | @popped callers session after went =>
    have kept := respects.pop session
    rwa [went] at kept
  | @stopped callers session after fault failed =>
    have kept := respects.pop session
    rwa [failed] at kept

theorem Runtime.Respects.reaches (respects : runtime.Respects related) {first last : Moment σ}
    (reaches : first.Reaches runtime software last) : related first.session last.session := by
  induction reaches with
  | refl => exact respects.refl _
  | tail _ move ih => exact respects.trans ih (respects.next? move)

end Provision
