import Provision.Proofs.Engine.Moment

/-! Whatever comes of executing a step, a handler or a whole recipe is what the moves of a run come
to, so that the moments of the run are the points that the execution passes through. -/

namespace Provision

variable {σ : Type} {runtime : Runtime σ} {software : Software}
  {exec : Step → Session σ → Outcome σ Fault Unit}

theorem Session.drain_nil {clean : Cleanup → σ → Except (List String) Unit × σ} {session : Session σ}
    (empty : session.stack = []) : session.drain clean = (.ok (), session) := by
  rcases session with ⟨_, stack, _, _⟩
  cases empty
  rfl

/-- Draining is popping for as long as that succeeds. -/
theorem Session.drain_cons {session : Session σ} {frame : Frame} {below : Stack}
    (top : session.stack = frame :: below) :
    session.drain runtime.clean =
      match session.pop runtime.clean with
      | (.ok (), after) => after.drain runtime.clean
      | (.error fault, after) => (.error fault, after) := by
  simp only [Session.drain, Session.pop, top, Stack.drain, Stack.pop]
  rcases Session.release runtime.clean frame (session.events, session.world) with
    ⟨fault | _, events, world⟩
  · rfl
  · rfl

theorem Session.pop_stack (runtime : Runtime σ) {session : Session σ} {frame : Frame}
    {below : Stack} (top : session.stack = frame :: below) : (session.pop runtime.clean).2.stack = below := by
  simp [Session.pop, Stack.pop, top]

/-- All that taking the top frame away can be. -/
inductive Session.Pops (clean : Cleanup → σ → Except (List String) Unit × σ) (session : Session σ) :
    Except Fault Unit → Session σ → Prop where
  | underflow (empty : session.stack = []) : Pops clean session (.error .stackUnderflow) session
  | free {frame : Frame} {below : Stack} (top : session.stack = frame :: below) :
    Pops clean session (.ok ())
      { session with stack := below, events := .popped frame :: session.events }
  | settled {frame : Frame} {below : Stack} (top : session.stack = frame :: below)
    (obligation : Cleanup) (world : σ) :
    Pops clean session (.ok ())
      { session with
        stack := below
        events := .cleaned obligation true :: .popped frame :: session.events
        world }
  | failed {frame : Frame} {below : Stack} (top : session.stack = frame :: below)
    (obligation : Cleanup) (causes : List String) (world : σ) :
    Pops clean session (.error (.cleanup obligation causes))
      { session with
        stack := below
        events := .cleaned obligation false :: .popped frame :: session.events
        world }

theorem Session.pops_of_pop {clean : Cleanup → σ → Except (List String) Unit × σ}
    {session after : Session σ} {outcome : Except Fault Unit}
    (popped : session.pop clean = (outcome, after)) : session.Pops clean outcome after := by
  rcases session with ⟨pending, stack, events, world⟩
  cases stack with
  | nil =>
    cases popped
    exact .underflow rfl
  | cons frame below =>
    rcases frame with ⟨value, _ | obligation, out, err⟩
    · cases popped
      exact .free rfl
    · simp only [Session.pop, Stack.pop, Session.release, Frame.release, Session.discharge] at popped
      rcases cleaned : clean obligation world with ⟨causes | _, after⟩
      · rw [cleaned] at popped
        cases popped
        exact .failed rfl obligation causes after
      · rw [cleaned] at popped
        cases popped
        exact .settled rfl obligation after

namespace Moment

/-- Execution of a step that agrees with the moves from its start to its end, whoever waits for
it. -/
def Traces (runtime : Runtime σ) (software : Software)
    (exec : Step → Session σ → Outcome σ Fault Unit) : Prop :=
  ∀ {step before outcome after} callers, exec step before = some (outcome, after) →
    Reaches runtime software ⟨.enter step, callers, before⟩ ⟨.leave outcome, callers, after⟩

theorem Reaches.next {first third : Moment σ} (second : Moment σ)
    (move : first.next? runtime software = some second)
    (rest : Reaches runtime software second third) : Reaches runtime software first third :=
  Relation.ReflTransGen.head move rest

theorem Reaches.refl {moment : Moment σ} : Reaches runtime software moment moment :=
  Relation.ReflTransGen.refl

theorem Reaches.trans {first second third : Moment σ}
    (before : Reaches runtime software first second)
    (after : Reaches runtime software second third) : Reaches runtime software first third :=
  Relation.ReflTransGen.trans before after

/-- Inserted steps run up to the first that fails, and then their handler goes on. -/
theorem reaches_runSteps (traces : Traces runtime software exec) {rest : List Step} {first : Step}
    {before after : Session σ} {outcome : Except Fault Unit}
    (run : Runtime.runSteps exec (first :: rest) before = some (outcome, after))
    (step : Step) (burdened : Bool) (resume : Except Fault Unit → Handling σ Frame)
    (callers : List (Caller σ)) :
    ∃ heavier, Reaches runtime software
      ⟨.enter first, ⟨step, burdened, rest, resume⟩ :: callers, before⟩
      ⟨.handle step heavier (resume outcome), callers, after⟩ := by
  induction rest generalizing first before with
  | nil =>
    simp only [Runtime.runSteps] at run
    split at run
    · cases run
    · rename_i fault middle stopped
      cases run
      exact ⟨true, (traces _ stopped).trans (.next _ rfl .refl)⟩
    · rename_i middle went
      cases run
      exact ⟨burdened, (traces _ went).trans (.next _ rfl .refl)⟩
  | cons second rest ih =>
    rw [Runtime.runSteps] at run
    split at run
    · cases run
    · rename_i fault middle stopped
      cases run
      exact ⟨true, (traces _ stopped).trans (.next _ rfl .refl)⟩
    · rename_i middle went
      obtain ⟨heavier, later⟩ := ih run
      exact ⟨heavier, (traces _ went).trans (.next _ rfl later)⟩

/-- Induction on the requests of a handler. -/
theorem reaches_runHandling (traces : Traces runtime software exec) {work : Handling σ Frame}
    {before after : Session σ} {answer : Except Failure Frame}
    (run : runtime.runHandling exec work before = some (answer, after))
    (step : Step) (burdened : Bool) (callers : List (Caller σ)) :
    ∃ heavier, Reaches runtime software ⟨.handle step burdened work, callers, before⟩
      ⟨.handle step heavier (.ofExcept answer), callers, after⟩ := by
  induction work generalizing before burdened with
  | done frame =>
    cases run
    exact ⟨burdened, .refl⟩
  | failed failure =>
    cases run
    exact ⟨burdened, .refl⟩
  | observe next ih =>
    obtain ⟨heavier, later⟩ := ih _ run burdened
    exact ⟨heavier, .next _ rfl later⟩
  | update world next ih =>
    obtain ⟨heavier, later⟩ := ih run burdened
    exact ⟨heavier, .next _ rfl later⟩
  | look next ih =>
    obtain ⟨heavier, later⟩ := ih _ run burdened
    exact ⟨heavier, .next _ rfl later⟩
  | children next ih =>
    obtain ⟨heavier, later⟩ := ih _ run burdened
    exact ⟨heavier, .next _ rfl later⟩
  | report other frame next ih =>
    obtain ⟨heavier, later⟩ := ih run burdened
    exact ⟨heavier, .next _ rfl later⟩
  | insert steps next ih =>
    simp only [Runtime.runHandling] at run
    split at run
    · cases run
    · rename_i outcome middle inserted
      cases steps with
      | nil =>
        cases inserted
        obtain ⟨heavier, later⟩ := ih _ run burdened
        exact ⟨heavier, .next _ rfl later⟩
      | cons first rest =>
        obtain ⟨heavy, ran⟩ := reaches_runSteps traces inserted step burdened next callers
        obtain ⟨heavier, later⟩ := ih _ run heavy
        exact ⟨heavier, .next _ rfl (ran.trans later)⟩

/-- Induction on the nesting of insertions. -/
theorem traces_perform (nesting : Nat) :
    Traces runtime software (runtime.perform software nesting) := by
  induction nesting with
  | zero =>
    intro step before outcome after callers run
    cases run
  | succ nesting ih =>
    intro step before outcome after callers run
    rcases Runtime.perform_cases run with ⟨pops, popped⟩ | ⟨plain, missing, rfl, rfl⟩ |
      ⟨plain, handler, found, ⟨fault, unresolved, rfl, rfl⟩ |
        ⟨parameter, resolved, answer, middle, handled, left⟩⟩
    · refine .next ⟨.leave outcome, callers, after⟩ ?_ .refl
      simp [next?, enter, pops, ← popped]
    · refine .next ⟨.leave (.error (.noHandler step.operation)), callers, after⟩ ?_ .refl
      simp [next?, enter, plain, missing]
    · refine .next ⟨.leave (.error fault), callers, after⟩ ?_ .refl
      simp [next?, enter, plain, found, unresolved]
    · obtain ⟨heavier, ran⟩ := reaches_runHandling ih handled step false callers
      refine .next ⟨.handle step false
        (handler ⟨parameter, software, runtime.facts, runtime.constants⟩), callers, before⟩ ?_
        (ran.trans ?_)
      · simp [next?, enter, plain, found, resolved]
      · cases answer with
        | error failure =>
          obtain ⟨rfl, rfl⟩ := left
          exact .next _ rfl .refl
        | ok frame =>
          obtain ⟨rfl, rfl⟩ := left
          exact .next _ rfl .refl

/-- Where the main loop is after an outcome. -/
def looped (outcome : Except Fault Unit) (session : Session σ) : Moment σ :=
  match outcome with
  | .ok () => ⟨.drain, [], session⟩
  | .error fault => ⟨.ended (.error fault), [], session⟩

theorem reaches_runPending (traces : Traces runtime software exec)
    (consumes : Runtime.Consumes exec) {turns : Nat} {before after : Session σ}
    {outcome : Except Fault Unit} (enough : before.pending.length ≤ turns)
    (run : Runtime.runPending exec turns before = some (outcome, after)) :
    Reaches runtime software (begin before) (looped outcome after) := by
  induction turns generalizing before with
  | zero =>
    have empty : before.pending = [] := List.length_eq_zero_iff.mp (by omega)
    cases run
    refine .next ⟨.drain, [], _⟩ ?_ .refl
    simp [begin, next?, empty]
  | succ turns ih =>
    cases waiting : before.pending with
    | nil =>
      simp only [Runtime.runPending, waiting] at run
      cases run
      refine .next ⟨.drain, [], _⟩ ?_ .refl
      simp [begin, next?, waiting]
    | cons step rest =>
      simp only [Runtime.runPending, waiting] at run
      refine .next ⟨.enter step, [], { before with pending := rest }⟩ ?_ ?_
      · simp [begin, next?, waiting]
      · split at run
        · cases run
        · rename_i fault middle stopped
          cases run
          exact (traces _ stopped).trans (.next _ rfl .refl)
        · rename_i middle went
          have fewer : middle.pending.length ≤ turns := by
            have shorter := (consumes _ _ _ _ went).length_le
            simp only [waiting, List.length_cons] at enough
            simp only at shorter
            omega
          exact (traces _ went).trans (.next _ rfl (ih fewer run))

/-- Induction on the frames that are left. -/
theorem reaches_drain (runtime : Runtime σ) (software : Software) (session : Session σ) :
    Reaches runtime software ⟨.drain, [], session⟩
      ⟨.ended (session.drain runtime.clean).1, [], (session.drain runtime.clean).2⟩ := by
  induction frames : session.stack generalizing session with
  | nil =>
    rw [Session.drain_nil frames]
    refine .next _ ?_ .refl
    simp [next?, frames]
  | cons frame below ih =>
    rw [Session.drain_cons frames]
    have left := Session.pop_stack runtime frames
    rcases popped : session.pop runtime.clean with ⟨fault | _, after⟩
    · refine .next ⟨.ended (.error fault), [], after⟩ ?_ .refl
      simp [next?, frames, popped]
    · rw [popped] at left
      refine .next ⟨.drain, [], after⟩ ?_ (ih after left)
      simp [next?, frames, popped]

/-- The moves of a run end in what executing the recipe comes to. -/
theorem reaches_execute {before after : Session σ} {outcome : Except Fault Unit}
    (run : runtime.execute software before = some (outcome, after)) :
    Reaches runtime software (begin before) ⟨.ended outcome, [], after⟩ := by
  unfold Runtime.execute at run
  have traces : Traces runtime software (runtime.executeStep software) :=
    traces_perform Runtime.nestingLimit
  have consumes : Runtime.Consumes (runtime.executeStep software) :=
    Runtime.consumes_perform runtime software Runtime.nestingLimit
  rcases looping : Runtime.runPending (runtime.executeStep software) before.pending.length before
    with _ | ⟨fault | _, middle⟩
  · rw [looping] at run
    cases run
  · rw [looping] at run
    cases run
    exact reaches_runPending traces consumes le_rfl looping
  · rw [looping] at run
    have drained : middle.drain runtime.clean = (outcome, after) := Option.some.inj run
    have ends := reaches_drain runtime software middle
    rw [drained] at ends
    exact (reaches_runPending traces consumes le_rfl looping).trans ends

end Moment

end Provision
