import Mathlib
import Provision.Proofs.Engine.Insertion

/-! What is pending makes no difference to a step whose handler neither looks at it nor takes from it.
So steps that are inserted do what the main loop would do with them, on the stack, in the reports and
the cleanups, and up to the first that fails; only what is pending stays as it was. -/

namespace Provision

variable {σ α : Type}

/-- A handler that neither looks at the pending program nor takes from it. It may look at the stack and
insert steps. -/
inductive Handling.Heedless : Handling σ α → Prop where
  | done (value : α) : Heedless (.done value)
  | failed (failure : Failure) : Heedless (.failed failure)
  | observe (rest : ∀ world, (next world).Heedless) : Heedless (.observe next)
  | update (world : σ) (rest : next.Heedless) : Heedless (.update world next)
  | look (same : ∀ stack first second, next ⟨stack, first⟩ = next ⟨stack, second⟩)
      (rest : ∀ scene, (next scene).Heedless) : Heedless (.look next)
  | insert (steps : List Step) (rest : ∀ outcome, (next outcome).Heedless) :
    Heedless (.insert steps next)
  | report (step : Step) (frame : Frame) (rest : next.Heedless) : Heedless (.report step frame next)

def Runtime.Heedless (runtime : Runtime σ) : Prop :=
  ∀ operation handler, runtime.handlers operation = some handler → ∀ task, (handler task).Heedless

/-- A handler that does not take from the pending program, but may look at it. -/
inductive Handling.Childless : Handling σ α → Prop where
  | done (value : α) : Childless (.done value)
  | failed (failure : Failure) : Childless (.failed failure)
  | observe (rest : ∀ world, (next world).Childless) : Childless (.observe next)
  | update (world : σ) (rest : next.Childless) : Childless (.update world next)
  | look (rest : ∀ scene, (next scene).Childless) : Childless (.look next)
  | insert (steps : List Step) (rest : ∀ outcome, (next outcome).Childless) :
    Childless (.insert steps next)
  | report (step : Step) (frame : Frame) (rest : next.Childless) :
    Childless (.report step frame next)

def Runtime.Childless (runtime : Runtime σ) : Prop :=
  ∀ operation handler, runtime.handlers operation = some handler → ∀ task, (handler task).Childless

/-- The session with something else pending. -/
def Session.await (session : Session σ) (pending : Program) : Session σ := { session with pending }

/-- The outcome with something else pending. -/
def Outcome.await {ε : Type} (outcome : Outcome σ ε α) (pending : Program) : Outcome σ ε α :=
  outcome.map fun run => (run.1, run.2.await pending)

namespace Runtime

variable {runtime : Runtime σ} {software : Software}
  {exec : Step → Session σ → Outcome σ Fault Unit} {session after : Session σ} {steps : List Step}

/-- Every handler that returns a frame leaves the stack as it found it, whatever it has inserted. -/
def Restores (runtime : Runtime σ) (software : Software) : Prop :=
  ∀ operation handler, runtime.handlers operation = some handler →
    ∀ parameter nesting session frame after,
      runHandling runtime (perform runtime software nesting)
          (handler ⟨parameter, software, runtime.facts, runtime.constants⟩) session =
        some (.ok frame, after) → after.stack = session.stack

/-- Execution that does the same whatever is pending, and leaves that alone. -/
def Indifferent (exec : Step → Session σ → Outcome σ Fault Unit) : Prop :=
  ∀ step session pending, exec step (session.await pending) = (exec step session).await pending

theorem Indifferent.pending (indifferent : Indifferent exec) {step : Step}
    {outcome : Except Fault Unit} (run : exec step session = some (outcome, after)) :
    after.pending = session.pending := by
  have same := indifferent step session session.pending
  have itself : session.await session.pending = session := rfl
  rw [itself, run] at same
  have kept := congrArg (fun run => run.2.pending) (Option.some.inj same)
  exact kept

/-- Execution that leaves what is pending alone. -/
def Spares (exec : Step → Session σ → Outcome σ Fault Unit) : Prop :=
  ∀ step before outcome after, exec step before = some (outcome, after) →
    after.pending = before.pending

theorem Spares.runSteps (spares : Spares exec) {outcome : Except Fault Unit}
    (run : runSteps exec steps session = some (outcome, after)) :
    after.pending = session.pending := by
  induction steps generalizing session with
  | nil =>
    cases run
    rfl
  | cons step rest ih =>
    rw [runSteps_cons] at run
    rcases ran : exec step session with _ | ⟨fault | _, middle⟩
    · rw [ran] at run
      cases run
    · rw [ran] at run
      cases run
      exact spares _ _ _ _ ran
    · rw [ran] at run
      exact (ih run).trans (spares _ _ _ _ ran)

/-- Induction on the requests of the handler. -/
theorem Spares.runHandling (spares : Spares exec) {work : Handling σ α} (childless : work.Childless)
    {outcome : Except Failure α}
    (run : runHandling runtime exec work session = some (outcome, after)) :
    after.pending = session.pending := by
  induction childless generalizing session with
  | done value =>
    cases run
    rfl
  | failed failure =>
    cases run
    rfl
  | observe rest ih => exact ih session.world run
  | @update next world rest ih =>
    have later : Runtime.runHandling runtime exec next { session with world } = some (outcome, after) :=
      run
    have kept := ih later
    exact kept
  | look rest ih => exact ih ⟨session.stack, session.pending⟩ run
  | @insert next steps rest ih =>
    simp only [Runtime.runHandling] at run
    split at run
    · cases run
    · rename_i inserted middle ran
      exact (ih inserted run).trans (spares.runSteps ran)
  | @report next step frame rest ih =>
    have later : Runtime.runHandling runtime exec next (runtime.report step frame session) =
        some (outcome, after) := run
    have kept := ih later
    exact kept

/-- Induction on the nesting of insertions. -/
theorem spares_perform (childless : runtime.Childless) (software : Software) (nesting : Nat) :
    Spares (perform runtime software nesting) := by
  induction nesting with
  | zero =>
    intro step before outcome after run
    cases run
  | succ nesting ih =>
    intro step before outcome after run
    rcases perform_cases run with ⟨_, popped⟩ | ⟨_, _, _, same⟩ |
      ⟨_, handler, found, ⟨fault, _, _, same⟩ | ⟨parameter, _, answer, middle, handled, left⟩⟩
    · exact congrArg (·.2.pending) popped
    · exact congrArg Session.pending same
    · exact congrArg Session.pending same
    · have inside := ih.runHandling (childless step.operation handler found _) handled
      cases answer with
      | error failure => exact left.2 ▸ inside
      | ok frame => exact left.2 ▸ inside

theorem runSteps_await (indifferent : Indifferent exec) (steps : List Step) (session : Session σ)
    (pending : Program) :
    runSteps exec steps (session.await pending) = (runSteps exec steps session).await pending := by
  induction steps generalizing session with
  | nil => rfl
  | cons step rest ih =>
    rw [runSteps_cons, runSteps_cons, indifferent]
    rcases exec step session with _ | ⟨fault | _, middle⟩
    · rfl
    · rfl
    · exact ih middle

/-- Induction on the requests of the handler. -/
theorem runHandling_await (indifferent : Indifferent exec) {work : Handling σ α}
    (heedless : work.Heedless) (session : Session σ) (pending : Program) :
    runHandling runtime exec work (session.await pending) =
      (runHandling runtime exec work session).await pending := by
  induction heedless generalizing session with
  | done value => rfl
  | failed failure => rfl
  | observe rest ih => exact ih session.world session
  | update world rest ih => exact ih { session with world }
  | @look next same rest ih =>
    have told : next ⟨session.stack, pending⟩ = next ⟨session.stack, session.pending⟩ := same _ _ _
    have later := ih ⟨session.stack, session.pending⟩ session
    rw [← told] at later
    simp only [runHandling]
    rw [← told]
    exact later
  | @insert next steps rest ih =>
    simp only [runHandling, runSteps_await indifferent]
    rcases runSteps exec steps session with _ | ⟨outcome, middle⟩
    · rfl
    · exact ih outcome middle
  | report step frame rest ih => exact ih (runtime.report step frame session)

/-- Induction on the nesting of insertions. -/
theorem indifferent_perform (heedless : runtime.Heedless) (software : Software) (nesting : Nat) :
    Indifferent (perform runtime software nesting) := by
  induction nesting with
  | zero => exact fun _ _ _ => rfl
  | succ nesting ih =>
    intro step session pending
    cases pops : step.isPop with
    | true =>
      rw [perform, perform, if_pos pops, if_pos pops]
      rfl
    | false =>
      rw [perform_eq_carryOut pops, perform_eq_carryOut pops]
      have stack : (session.await pending).stack = session.stack := rfl
      simp only [carryOut, stack]
      cases found : runtime.handlers step.operation with
      | none => rfl
      | some handler =>
        cases Placeholder.resolve runtime.constants session.stack step.parameter with
        | error fault => rfl
        | ok parameter =>
          have handled (task : Task) : runHandling runtime (perform runtime software nesting)
              (handler task) (session.await pending) =
                (runHandling runtime (perform runtime software nesting) (handler task) session).await
                  pending :=
            runHandling_await ih (heedless step.operation handler found task) session pending
          simp only [handled]
          rcases runHandling runtime (perform runtime software nesting)
            (handler ⟨parameter, software, runtime.facts, runtime.constants⟩) session with
            _ | ⟨failure | frame, middle⟩
          · rfl
          · rfl
          · rfl

/-- The main loop takes the step in front and goes on with the steps that are left. -/
theorem mainLoop_await_cons (consumes : Consumes exec) (indifferent : Indifferent exec) (step : Step)
    (rest : List Step) (session : Session σ) :
    mainLoop exec (session.await (step :: rest)) =
      ((exec step session).await rest).andThen (mainLoop exec) := by
  have taken := mainLoop_cons consumes (session.await (step :: rest)) rfl
  have entered : ({ session.await (step :: rest) with pending := rest } : Session σ) =
      session.await rest := rfl
  rw [taken, entered, indifferent]
  rcases exec step session with _ | ⟨fault | _, middle⟩ <;> rfl

/-- Steps that succeed are behind the main loop when it comes to what stands after them. -/
theorem mainLoop_await_append (consumes : Consumes exec) (indifferent : Indifferent exec)
    {before : List Step} (went : runSteps exec before session = some (.ok (), after))
    (rest : List Step) :
    mainLoop exec (session.await (before ++ rest)) = mainLoop exec (after.await rest) := by
  induction before generalizing session with
  | nil =>
    cases went
    rfl
  | cons step before ih =>
    rw [runSteps_cons] at went
    rw [List.cons_append, mainLoop_await_cons consumes indifferent]
    rcases ran : exec step session with _ | ⟨fault | _, middle⟩
    · rw [ran] at went
      cases went
    · rw [ran] at went
      cases went
    · rw [ran] at went
      exact ih went

/-- Steps that are carried out at once fail at the first of them that fails. -/
theorem runSteps_error {fault : Fault} (failed : runSteps exec steps session = some (.error fault, after)) :
    ∃ before step rest middle, steps = before ++ step :: rest ∧
      runSteps exec before session = some (.ok (), middle) ∧
      exec step middle = some (.error fault, after) := by
  induction steps generalizing session with
  | nil => cases failed
  | cons step rest ih =>
    rw [runSteps_cons] at failed
    rcases ran : exec step session with _ | ⟨other | _, middle⟩
    · rw [ran] at failed
      cases failed
    · rw [ran] at failed
      cases failed
      exact ⟨[], step, rest, session, rfl, rfl, ran⟩
    · rw [ran] at failed
      obtain ⟨before, culprit, left, reached, place, went, stopped⟩ := ih failed
      refine ⟨step :: before, culprit, left, reached, by rw [place]; rfl, ?_, stopped⟩
      rw [runSteps_cons, ran]
      exact went

/-- Steps that are carried out at once are carried out as the main loop does it. Induction on the
steps: what is pending in the main loop are those that are left. -/
theorem runSteps_eq_mainLoop (consumes : Consumes exec) (indifferent : Indifferent exec)
    (steps : List Step) (session : Session σ) :
    runSteps exec steps session =
      (mainLoop exec (session.await steps)).await session.pending := by
  induction steps generalizing session with
  | nil => rfl
  | cons step rest ih =>
    rw [runSteps_cons, mainLoop_await_cons consumes indifferent]
    rcases ran : exec step session with _ | ⟨fault | _, middle⟩
    · rfl
    · rw [← indifferent.pending ran]
      rfl
    · rw [← indifferent.pending ran]
      exact ih middle

theorem pushesOn_of_restores (restores : runtime.Restores software) (nesting : Nat)
    (steps : List Step) : PushesOn (perform runtime software nesting) steps := by
  intro step _ opens before after run
  cases nesting with
  | zero => cases run
  | succ nesting =>
    rcases perform_cases run with ⟨closes, _⟩ | ⟨_, _, failed, _⟩ |
      ⟨_, handler, found, ⟨_, _, failed, _⟩ | ⟨parameter, _, answer, middle, handled, left⟩⟩
    · rw [closes] at opens
      cases opens
    · cases failed
    · cases failed
    · rcases answer with failure | frame
      · cases left.1
      · have same := restores step.operation handler found parameter nesting before frame middle handled
        exact ⟨frame, by rw [left.2, ← same]; rfl⟩

end Runtime

/-- Balanced steps end on the level on which they start. -/
theorem Step.levelFrom_balanced {steps : List Step} (balanced : balance steps = 0)
    (fed : Fed steps) : levelFrom 0 steps = some 0 := by
  have counted : ∀ steps : List Step,
      balance steps + ((steps.filter isPop).length : Int) = ((openers steps).length : Int) := by
    intro steps
    induction steps with
    | nil => rfl
    | cons step rest ih =>
      cases pops : step.isPop with
      | false =>
        simp only [balance, List.foldr_cons, openers, List.filter_cons, pops] at ih ⊢
        simp at ih ⊢
        omega
      | true =>
        simp only [balance, List.foldr_cons, openers, List.filter_cons, pops] at ih ⊢
        simp at ih ⊢
        omega
  have outside : ∀ before, before <+: steps →
      (before.filter isPop).length ≤ 0 + (openers before).length := fun before front => by
    rw [Nat.zero_add]
    exact fed before front
  obtain ⟨reached, read, counts⟩ := levelFrom_of_fed outside
  have same := counted steps
  have outermost : reached = 0 := by omega
  rw [read, outermost]

namespace Runtime

variable {runtime : Runtime σ}

/-- Inserting steps stops at the first that fails and leaves what is pending alone, and where handlers
leave the stack as they found it, so do balanced steps. If no handler looks at what is pending, it comes
to the same as having the steps pending in the main loop: on the stack, in what is reported and cleaned
up, in the world and in how it ends. -/
theorem insertSteps_eq_mainLoop (childless : runtime.Childless) (software : Software)
    (steps : List Step) (session : Session σ) :
    (runtime.Heedless → runtime.insertSteps software steps session =
      (mainLoop (runtime.executeStep software) (session.await steps)).await session.pending) ∧
    (∀ outcome after, runtime.insertSteps software steps session = some (outcome, after) →
      after.pending = session.pending) ∧
    (∀ fault after, runtime.insertSteps software steps session = some (.error fault, after) →
      ∃ before step rest middle, steps = before ++ step :: rest ∧
        runtime.insertSteps software before session = some (.ok (), middle) ∧
        runtime.executeStep software step middle = some (.error fault, after) ∧
        (runtime.Heedless → mainLoop (runtime.executeStep software) (session.await steps) =
          some (.error fault, after.await rest))) ∧
    (runtime.Restores software → Step.balance steps = 0 → Step.Fed steps →
      ∀ after, runtime.insertSteps software steps session = some (.ok (), after) →
        after.stack = session.stack) := by
  have consumes : Consumes (runtime.executeStep software) :=
    consumes_perform runtime software nestingLimit
  have indifferent (heedless : runtime.Heedless) : Indifferent (runtime.executeStep software) :=
    indifferent_perform heedless software nestingLimit
  refine ⟨fun heedless => runSteps_eq_mainLoop consumes (indifferent heedless) steps session,
    fun outcome after => (spares_perform childless software nestingLimit).runSteps, ?_, ?_⟩
  · intro fault after failed
    obtain ⟨before, step, rest, middle, place, went, stopped⟩ := runSteps_error failed
    refine ⟨before, step, rest, middle, place, went, stopped, fun heedless => ?_⟩
    rw [place, mainLoop_await_append consumes (indifferent heedless) went,
      mainLoop_await_cons consumes (indifferent heedless), stopped]
    rfl
  · intro restores balanced fed after run
    exact runSteps_balanced (pushesOn_of_restores restores nestingLimit steps)
      (Step.levelFrom_balanced balanced fed) run

/-- One handler hands its parameter on, one leaves a file, and one puts a file in front of itself and
takes it away again. -/
def composing : Runtime Unit where
  handlers
    | .set => some fun task => .done (.ofValue task.parameter)
    | .toFile => some fun task =>
      .done ((Frame.ofValue task.parameter).withCleanup ⟨.delete, task.parameter⟩)
    | .async => some fun task =>
      (Handling.insertAll [⟨.toFile, task.parameter⟩, .pop]).bind fun _ => .done (.ofValue "done")
    | _ => none
  constants := ⟨[], fun _ => .error (.invalidRecipe "no constants")⟩
  facts := { family := .ubuntu, arch := .x86_64, id := ⟨0⟩ }
  clean _ world := (.ok (), world)
  announce _ _ world := world

theorem heedless_composing : composing.Heedless := by
  intro operation handler found task
  cases operation <;> cases found
  case set => exact .done _
  case toFile => exact .done _
  case async =>
    refine .insert _ fun outcome => ?_
    cases outcome with
    | error fault => exact .failed _
    | ok _ => exact .done _

theorem childless_composing : composing.Childless := by
  intro operation handler found task
  cases operation <;> cases found
  case set => exact .done _
  case toFile => exact .done _
  case async =>
    refine .insert _ fun outcome => ?_
    cases outcome with
    | error fault => exact .failed _
    | ok _ => exact .done _

theorem restores_composing (software : Software) : composing.Restores software := by
  intro operation handler found parameter nesting session frame after handled
  have aloof : composing.AloofOn [⟨.toFile, parameter⟩, .pop] := by
    intro step member handler found task
    simp only [List.mem_cons, List.not_mem_nil, or_false] at member
    rcases member with rfl | rfl <;> cases found
    trivial
  cases operation <;> cases found
  case set =>
    cases handled
    rfl
  case toFile =>
    cases handled
    rfl
  case async =>
    simp only [Handling.insertAll, Handling.bind, runHandling] at handled
    rcases ran : runSteps (perform composing software nesting) [⟨.toFile, parameter⟩, .pop] session
      with _ | ⟨fault | _, middle⟩
    · rw [ran] at handled
      cases handled
    · rw [ran] at handled
      cases handled
    · rw [ran] at handled
      cases handled
      exact runSteps_balanced (pushesOn_of_aloof aloof) rfl ran

/-- A session with one step still pending. -/
def outer : Session Unit := ⟨[⟨.set, "later"⟩], [.ofValue "seed"], [], ()⟩

def balanced : List Step := [⟨.async, "a"⟩, ⟨.set, "\x7b\x7b0\x7d\x7d"⟩, .pop, .pop]

/-- What one of the steps inserts in its turn is cleaned up inside it. -/
theorem insertSteps_eq_mainLoop_composing :
    composing.Childless ∧ composing.Heedless ∧ composing.Restores {} ∧ Step.balance balanced = 0 ∧
      Step.Fed balanced ∧ ∃ after, composing.insertSteps {} balanced outer = some (.ok (), after) ∧
        after.attempted = [⟨.delete, "a"⟩] ∧ after.stack = outer.stack ∧
        after.pending = outer.pending ∧
        (mainLoop (composing.executeStep {}) (outer.await balanced)).await outer.pending =
          some (.ok (), after) := by
  have even : Step.balance balanced = 0 := by decide
  have fed : Step.Fed balanced := by
    have fronts : ∀ before ∈ balanced.inits, (before.filter Step.isPop).length ≤
        (before.filter fun step => !step.isPop).length := by decide
    exact fun before front => fronts before ((List.mem_inits _ _).mpr front)
  have cleaned : (composing.insertSteps {} balanced outer).map
      (fun run => (run.1.isOk, run.2.attempted)) = some (true, [⟨.delete, "a"⟩]) := by cbv
  obtain ⟨equal, untouched, -, restored⟩ :=
    insertSteps_eq_mainLoop childless_composing {} balanced outer
  rcases run : composing.insertSteps {} balanced outer with _ | ⟨fault | _, after⟩
  · rw [run] at cleaned
    cases cleaned
  · rw [run] at cleaned
    cases cleaned
  · rw [run] at cleaned
    have attempted : after.attempted = [⟨.delete, "a"⟩] := (Prod.mk.inj (Option.some.inj cleaned)).2
    exact ⟨childless_composing, heedless_composing, restores_composing {}, even, fed, after, rfl,
      attempted, restored (restores_composing {}) even fed after run, untouched _ _ run,
      (equal heedless_composing).symm.trans run⟩

/-- The handler tells how many steps are pending. -/
def counting : Runtime Unit :=
  { composing with
    handlers := fun
      | .set => some fun _ => .look fun scene => .done (.ofValue (toString scene.pending.length))
      | _ => none }

def counted : List Step := [⟨.set, "a"⟩, ⟨.set, "b"⟩, ⟨.set, "c"⟩]

/-- A handler that looks at what is pending sees the steps after its own in the main loop, and what
stands after the inserting step when it is inserted. -/
theorem counting_tells_insertion :
    counting.Childless ∧
      (counting.insertSteps {} counted outer).map (fun run => run.2.stack.map Frame.value) =
        some ["1", "1", "1", "seed"] ∧
      (mainLoop (counting.executeStep {}) (outer.await counted)).map
        (fun run => run.2.stack.map Frame.value) = some ["0", "1", "2", "seed"] ∧
      (counting.insertSteps {} counted outer).map (fun run => run.2.stack) ≠
        (mainLoop (counting.executeStep {}) (outer.await counted)).map fun run => run.2.stack := by
  have childless : counting.Childless := by
    intro operation handler found task
    cases operation <;> cases found
    exact .look fun _ => .done _
  have inserted : (counting.insertSteps {} counted outer).map
      (fun run => run.2.stack.map Frame.value) = some ["1", "1", "1", "seed"] := by cbv
  have pending : (mainLoop (counting.executeStep {}) (outer.await counted)).map
      (fun run => run.2.stack.map Frame.value) = some ["0", "1", "2", "seed"] := by cbv
  refine ⟨childless, inserted, pending, fun same => ?_⟩
  have values := congrArg (Option.map (List.map Frame.value)) same
  rw [Option.map_map, Option.map_map] at values
  have equal := inserted.symm.trans (values.trans pending)
  simp at equal

end Runtime

end Provision
