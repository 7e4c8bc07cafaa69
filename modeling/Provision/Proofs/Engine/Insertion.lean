import Provision.Proofs.Engine.Scoping

/-! Steps that a handler inserts. The engine carries them out like any others, on the session as the
handler finds it: what the handler wrote into their parameters is resolved there. -/

namespace Provision

variable {σ α : Type}

/-- Go on from a success. Nothing comes after a failure or after a run without an outcome. -/
def Outcome.andThen (outcome : Outcome σ Fault Unit) (next : Session σ → Outcome σ Fault Unit) :
    Outcome σ Fault Unit :=
  match outcome with
  | some (.ok (), session) => next session
  | other => other

theorem Outcome.andThen_assoc (outcome : Outcome σ Fault Unit)
    (first second : Session σ → Outcome σ Fault Unit) :
    (outcome.andThen first).andThen second =
      outcome.andThen fun session => (first session).andThen second := by
  rcases outcome with _ | ⟨_ | _, session⟩ <;> rfl

/-- Only what follows a success counts. -/
theorem Outcome.andThen_congr {outcome : Outcome σ Fault Unit}
    {first second : Session σ → Outcome σ Fault Unit}
    (same : ∀ session, outcome = some (.ok (), session) → first session = second session) :
    outcome.andThen first = outcome.andThen second := by
  rcases outcome with _ | ⟨_ | _, session⟩
  · rfl
  · rfl
  · exact same session rfl

/-- The level reached by the steps, unless a POP goes below the level on which they start. -/
def Step.levelFrom : (level : Nat) → List Step → Option Nat
  | level, [] => some level
  | level, step :: rest =>
    if step.isPop then
      match level with
      | 0 => none
      | level + 1 => levelFrom level rest
    else levelFrom (level + 1) rest

theorem Step.levelFrom_open {step : Step} (opens : step.isPop = false) (level : Nat)
    (rest : List Step) : levelFrom level (step :: rest) = levelFrom (level + 1) rest := by
  rw [levelFrom.eq_def]
  simp [opens]

theorem Step.levelFrom_close {step : Step} (closes : step.isPop = true) (level : Nat)
    (rest : List Step) : levelFrom (level + 1) (step :: rest) = levelFrom level rest := by
  rw [levelFrom.eq_def]
  simp [closes]

theorem Step.levelFrom_below {step : Step} (closes : step.isPop = true) (rest : List Step) :
    levelFrom 0 (step :: rest) = none := by
  rw [levelFrom.eq_def]
  simp [closes]

/-- Unless a POP goes below the level on which the steps start, the level is a matter of counts. -/
theorem Step.levelFrom_of_fed {steps : List Step} {level : Nat}
    (fed : ∀ before, before <+: steps → (before.filter isPop).length ≤ level + (openers before).length) :
    ∃ reached, levelFrom level steps = some reached ∧
      reached + (steps.filter isPop).length = level + (openers steps).length := by
  induction steps generalizing level with
  | nil => exact ⟨level, rfl, rfl⟩
  | cons step rest ih =>
    cases pops : step.isPop with
    | false =>
      have inside : ∀ before, before <+: rest →
          (before.filter isPop).length ≤ level + 1 + (openers before).length := by
        intro before front
        have counts := fed (step :: before) (List.prefix_cons_inj step |>.mpr front)
        simp only [openers_open pops, List.length_cons, List.filter_cons, pops, Bool.false_eq_true,
          if_false] at counts
        omega
      obtain ⟨reached, read, counts⟩ := ih inside
      refine ⟨reached, by rw [levelFrom_open pops, read], ?_⟩
      simp only [openers_open pops, List.length_cons, List.filter_cons, pops, Bool.false_eq_true,
        if_false]
      omega
    | true =>
      have closed := fed [step] ⟨rest, rfl⟩
      simp only [openers_close pops, List.filter_cons, pops] at closed
      cases level with
      | zero => simp [openers] at closed
      | succ level =>
        have inside : ∀ before, before <+: rest →
            (before.filter isPop).length ≤ level + (openers before).length := by
          intro before front
          have counts := fed (step :: before) (List.prefix_cons_inj step |>.mpr front)
          simp only [openers_close pops, List.filter_cons, pops, if_true, List.length_cons] at counts
          omega
        obtain ⟨reached, read, counts⟩ := ih inside
        refine ⟨reached, by rw [levelFrom_close pops, read], ?_⟩
        simp only [openers_close pops, List.filter_cons, pops, if_true, List.length_cons]
        omega

namespace Handling

theorem Aloof.bind {β : Type} {work : Handling σ α} {next : α → Handling σ β} (aloof : work.Aloof)
    (then_ : ∀ value, (next value).Aloof) : (work.bind next).Aloof := by
  induction work with
  | done value => exact then_ value
  | failed failure => trivial
  | observe rest ih => exact fun world => ih world (aloof world)
  | update world rest ih => exact ih aloof
  | look rest ih => exact fun scene => ih scene (aloof scene)
  | children rest ih => exact aloof.elim
  | insert steps rest ih => exact ⟨aloof.1, ih _ aloof.2⟩
  | report step frame rest ih => exact ih aloof

theorem aloof_act (action : σ → Except Failure α × σ) : (act action).Aloof := by
  intro world
  change (ofExcept (action world).1).Aloof
  cases (action world).1 <;> trivial

theorem aloof_topValue : (topValue : Handling σ String).Aloof := by
  intro scene
  dsimp only
  split <;> trivial

end Handling

/-- The handlers of these steps leave the stack and the pending program alone. -/
def Runtime.AloofOn (runtime : Runtime σ) (steps : List Step) : Prop :=
  ∀ step ∈ steps, ∀ handler, runtime.handlers step.operation = some handler →
    ∀ task, (handler task).Aloof

namespace Runtime

variable {runtime : Runtime σ} {software : Software} {nesting : Nat} {step : Step}
  {exec : Step → Session σ → Outcome σ Fault Unit} {session after : Session σ}

theorem runSteps_cons (exec : Step → Session σ → Outcome σ Fault Unit) (step : Step)
    (rest : List Step) (session : Session σ) :
    runSteps exec (step :: rest) session = (exec step session).andThen (runSteps exec rest) := by
  rw [runSteps]
  rcases exec step session with _ | ⟨_ | _, after⟩ <;> rfl

theorem runSteps_append (exec : Step → Session σ → Outcome σ Fault Unit) (first second : List Step)
    (session : Session σ) :
    runSteps exec (first ++ second) session =
      (runSteps exec first session).andThen (runSteps exec second) := by
  induction first generalizing session with
  | nil => rfl
  | cons step first ih =>
    rw [List.cons_append, runSteps_cons, runSteps_cons, Outcome.andThen_assoc]
    exact Outcome.andThen_congr fun after _ => ih after

theorem runSteps_singleton (exec : Step → Session σ → Outcome σ Fault Unit) (step : Step)
    (session : Session σ) : runSteps exec [step] session = exec step session := by
  rw [runSteps_cons]
  rcases exec step session with _ | ⟨_ | _, after⟩ <;> rfl

/-- Leave the frame of a step behind. -/
def conclude (runtime : Runtime σ) (step : Step) (frame : Frame) (session : Session σ) :
    Outcome σ Fault Unit :=
  some (.ok (), (runtime.report step frame session).push (some step) frame)

/-- Have the handler of a step work on what the step's parameter came to. -/
def carryOut (runtime : Runtime σ) (software : Software) (nesting : Nat) (step : Step)
    (resolved : Except Fault String) (session : Session σ) : Outcome σ Fault Unit :=
  match runtime.handlers step.operation with
  | none => some (.error (.noHandler step.operation), session)
  | some handler =>
    match resolved with
    | .error fault => some (.error fault, session)
    | .ok parameter =>
      match runHandling runtime (perform runtime software nesting)
          (handler ⟨parameter, software, runtime.facts, runtime.constants⟩) session with
      | none => none
      | some (.error failure, session) => some (.error (failure.toFault step.operation), session)
      | some (.ok frame, session) => runtime.conclude step frame session

theorem perform_eq_carryOut (opens : step.isPop = false) (session : Session σ) :
    perform runtime software (nesting + 1) step session =
      carryOut runtime software nesting step
        (Placeholder.resolve runtime.constants session.stack step.parameter) session := by
  rw [perform, if_neg (opens ▸ Bool.false_ne_true)]
  rfl

/-- A handler that inserts steps and leaves a frame behind. Faults of the steps are its own. -/
theorem carryOut_inserting {handler : Handler σ} {parameter : String} {steps : List Step}
    {frame : Frame} (found : runtime.handlers step.operation = some handler)
    (inserts : handler ⟨parameter, software, runtime.facts, runtime.constants⟩ =
      (Handling.insertAll steps).bind fun _ => .done frame) (session : Session σ) :
    carryOut runtime software nesting step (.ok parameter) session =
      (runSteps (perform runtime software nesting) steps session).andThen
        (runtime.conclude step frame) := by
  simp only [carryOut, found, inserts, Handling.insertAll, Handling.bind, runHandling]
  rcases runSteps (perform runtime software nesting) steps session with _ | ⟨_ | _, after⟩ <;> rfl

/-- By induction on the requests of the handler. -/
theorem runHandling_stack {work : Handling σ α} {outcome : Except Failure α} (aloof : work.Aloof)
    (run : runHandling runtime exec work session = some (outcome, after)) :
    after.stack = session.stack := by
  induction work generalizing session with
  | done value => cases run; rfl
  | failed failure => cases run; rfl
  | observe next ih => exact ih _ (aloof _) run
  | update world next ih =>
    have rest : runHandling runtime exec next { session with world } = some (outcome, after) := run
    have kept := ih aloof rest
    exact kept
  | look next ih => exact ih _ (aloof _) run
  | children next ih => exact aloof.elim
  | insert steps next ih =>
    obtain ⟨rfl, calm⟩ := aloof
    exact ih _ calm run
  | report step frame next ih =>
    have rest : runHandling runtime exec next (runtime.report step frame session) =
        some (outcome, after) := run
    have kept := ih aloof rest
    exact kept

theorem perform_stack (opens : step.isPop = false) (aloof : runtime.AloofOn [step])
    (run : perform runtime software nesting step session = some (.ok (), after)) :
    ∃ frame, after.stack = frame :: session.stack := by
  cases nesting with
  | zero => cases run
  | succ nesting =>
    rcases perform_cases run with ⟨closes, _⟩ | ⟨_, _, failed, _⟩ |
      ⟨_, handler, found, ⟨_, _, failed, _⟩ | ⟨_, _, answer, middle, handled, left⟩⟩
    · rw [closes] at opens
      cases opens
    · cases failed
    · cases failed
    · rcases answer with failure | frame
      · cases left.1
      · have same := runHandling_stack (aloof step List.mem_cons_self handler found _) handled
        exact ⟨frame, by rw [left.2, ← same]; rfl⟩

theorem perform_pop_stack (closes : step.isPop = true) {frame : Frame} {below : Stack}
    (top : session.stack = frame :: below) {outcome : Except Fault Unit}
    (run : perform runtime software nesting step session = some (outcome, after)) :
    after.stack = below := by
  cases nesting with
  | zero => cases run
  | succ nesting =>
    rw [perform, if_pos closes] at run
    have popped := Option.some.inj run
    exact congrArg (·.2.stack) popped ▸ Session.pop_stack runtime top

/-- Each of the steps that is no POP leaves one frame on the stack, on top of what was there. -/
def PushesOn (exec : Step → Session σ → Outcome σ Fault Unit) (steps : List Step) : Prop :=
  ∀ step ∈ steps, step.isPop = false → ∀ session after, exec step session = some (.ok (), after) →
    ∃ frame, after.stack = frame :: session.stack

theorem pushesOn_of_aloof {steps : List Step} (aloof : runtime.AloofOn steps) :
    PushesOn (perform runtime software nesting) steps := by
  intro step member opens session after run
  have first : runtime.AloofOn [step] := fun other same =>
    aloof other (List.mem_singleton.mp same ▸ member)
  exact perform_stack opens first run

/-- Inserted steps take away only frames that they have put there. -/
theorem runSteps_stack {steps : List Step} {frames below : Stack} {level : Nat}
    (pushes : PushesOn (perform runtime software nesting) steps)
    (reached : Step.levelFrom frames.length steps = some level)
    (stack : session.stack = frames ++ below)
    (run : runSteps (perform runtime software nesting) steps session = some (.ok (), after)) :
    ∃ left : Stack, left.length = level ∧ after.stack = left ++ below := by
  induction steps generalizing session frames with
  | nil =>
    cases run
    exact ⟨frames, Option.some.inj reached, stack⟩
  | cons step rest ih =>
    rw [runSteps_cons] at run
    have inside : PushesOn (perform runtime software nesting) rest := fun other member =>
      pushes other (List.mem_cons_of_mem step member)
    rcases went : perform runtime software nesting step session with _ | ⟨_ | _, middle⟩
    · rw [went] at run
      cases run
    · rw [went] at run
      cases run
    · rw [went] at run
      cases pops : step.isPop with
      | false =>
        obtain ⟨frame, top⟩ := pushes step List.mem_cons_self pops session middle went
        rw [stack] at top
        rw [Step.levelFrom_open pops] at reached
        have deeper : Step.levelFrom (frame :: frames).length rest = some level := reached
        exact ih inside deeper top run
      | true =>
        cases frames with
        | nil =>
          rw [List.length_nil, Step.levelFrom_below pops] at reached
          cases reached
        | cons frame frames =>
          rw [List.length_cons, Step.levelFrom_close pops] at reached
          exact ih inside reached (perform_pop_stack pops stack went) run

/-- Balanced steps leave the stack as they found it. -/
theorem runSteps_balanced {steps : List Step}
    (pushes : PushesOn (perform runtime software nesting) steps)
    (balanced : Step.levelFrom 0 steps = some 0)
    (run : runSteps (perform runtime software nesting) steps session = some (.ok (), after)) :
    after.stack = session.stack := by
  have outermost : Step.levelFrom ([] : Stack).length steps = some 0 := balanced
  obtain ⟨left, none, stack⟩ := runSteps_stack pushes outermost rfl run
  rw [stack, List.eq_nil_of_length_eq_zero none]
  rfl

end Runtime

end Provision
