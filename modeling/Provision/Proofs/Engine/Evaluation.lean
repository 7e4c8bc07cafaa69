import Provision.Forest
import Provision.Proofs.Engine.Acts

/-! The main loop without its count of turns: handlers only take from the pending program, so the
turns never run out, and the loop is the one that goes on until nothing is pending. -/

namespace Provision.Runtime

variable {σ : Type} {runtime : Runtime σ} {software : Software}
  {exec : Step → Session σ → Outcome σ Fault Unit}

/-- What is pending after an act is an end of what was pending before it. -/
theorem respects_pending (runtime : Runtime σ) :
    runtime.Respects fun before after => after.pending <:+ before.pending where
  refl _ := List.suffix_rfl
  trans first second := second.trans first
  world _ _ := List.suffix_rfl
  take _ _ ends := ends
  report _ _ _ := List.suffix_rfl
  push _ _ _ := List.suffix_rfl
  pop _ := List.suffix_rfl

theorem perform_pending {nesting : Nat} {step : Step} {before after : Session σ}
    {outcome : Except Fault Unit}
    (run : perform runtime software nesting step before = some (outcome, after)) :
    after.pending <:+ before.pending :=
  (respects_pending runtime).perform run

/-- Execution that takes from the pending program and never adds to it. -/
def Consumes (exec : Step → Session σ → Outcome σ Fault Unit) : Prop :=
  ∀ step before outcome after, exec step before = some (outcome, after) →
    after.pending <:+ before.pending

theorem consumes_perform (runtime : Runtime σ) (software : Software) (nesting : Nat) :
    Consumes (perform runtime software nesting) :=
  fun _ _ _ _ run => perform_pending run

theorem runPending_enough (consumes : Consumes exec) {turns : Nat} {session : Session σ}
    (enough : session.pending.length ≤ turns) :
    runPending exec turns session = runPending exec session.pending.length session := by
  induction turns using Nat.strong_induction_on generalizing session with
  | _ turns ih =>
    cases waiting : session.pending with
    | nil => cases turns <;> simp [runPending, waiting]
    | cons step rest =>
      cases turns with
      | zero => simp [waiting] at enough
      | succ turns =>
        have fits : rest.length ≤ turns := by simpa [waiting] using enough
        simp only [List.length_cons, runPending, waiting]
        split
        · rfl
        · rfl
        · rename_i after went
          have fewer : after.pending.length ≤ rest.length := (consumes _ _ _ _ went).length_le
          rw [ih turns (by omega) (by omega), ← ih rest.length (by omega) fewer]

/-- Take the pending steps one by one until none is left or one fails. -/
def mainLoop (exec : Step → Session σ → Outcome σ Fault Unit) (session : Session σ) :
    Outcome σ Fault Unit :=
  runPending exec session.pending.length session

theorem mainLoop_nil {session : Session σ} (empty : session.pending = []) :
    mainLoop exec session = some (.ok (), session) := by
  simp [mainLoop, empty, runPending]

theorem mainLoop_cons (consumes : Consumes exec) (session : Session σ) {step : Step}
    {rest : List Step} (waiting : session.pending = step :: rest) :
    mainLoop exec session =
      match exec step { session with pending := rest } with
      | none => none
      | some (.error fault, after) => some (.error fault, after)
      | some (.ok (), after) => mainLoop exec after := by
  simp only [mainLoop, waiting, List.length_cons, runPending]
  rcases went : exec step { session with pending := rest } with _ | ⟨fault | _, after⟩
  · rfl
  · rfl
  · exact runPending_enough consumes (consumes _ _ _ _ went).length_le

theorem execute_eq_mainLoop (session : Session σ) :
    execute runtime software session =
      match mainLoop (runtime.executeStep software) session with
      | some (.ok (), after) => some (after.drain runtime.clean)
      | other => other := rfl

end Provision.Runtime

/-! Evaluation of a recipe along its tree. A node's frame is in scope for the steps nested under
it and for nothing else; its cleanup is the last thing that happens at the node. There is no
program to be consumed: handlers are told what stands behind their step, and those that take the
nested steps are handed them. -/

namespace Provision

variable {σ α β : Type}

/-- A handler that puts no step on the stack, whatever it is told. Inserting an empty list is no
harm. -/
def Handling.Inert : Handling σ α → Prop
  | done _ | failed _ => True
  | observe next => ∀ world, (next world).Inert
  | update _ next => next.Inert
  | look next => ∀ scene, (next scene).Inert
  | children next => ∀ steps, (next steps).Inert
  | insert steps next => steps = [] ∧ (next (.ok ())).Inert
  | report _ _ next => next.Inert

/-- A forest none of whose steps is a POP. -/
def Forest.Proper : Forest → Prop
  | nil => True
  | cons step children siblings => step.isPop = false ∧ children.Proper ∧ siblings.Proper

/-- How a part of a recipe went, and the session it left. -/
abbrev Verdict (σ α : Type) := Except Fault α × Session σ

/-- Go on from a success; a failure stays. -/
def Verdict.andThen (verdict : Verdict σ α) (next : α → Session σ → Verdict σ β) : Verdict σ β :=
  match verdict with
  | (.error fault, session) => (.error fault, session)
  | (.ok value, session) => next value session

namespace Runtime

/-- Run an inert handler. `nested` holds the steps nested under its step until they are taken,
and `after` is what stands behind them. Its insertions are empty and succeed at once. -/
def visit (runtime : Runtime σ) (after : List Step) :
    Handling σ α → (nested : Option (List Step)) → Session σ →
      Except Failure α × Option (List Step) × Session σ
  | .done value, nested, session => (.ok value, nested, session)
  | .failed failure, nested, session => (.error failure, nested, session)
  | .observe next, nested, session => visit runtime after (next session.world) nested session
  | .update world next, nested, session => visit runtime after next nested { session with world }
  | .look next, nested, session =>
    visit runtime after (next ⟨session.stack, nested.getD [] ++ after⟩) nested session
  | .children next, nested, session => visit runtime after (next (nested.getD [])) none session
  | .insert _ next, nested, session => visit runtime after (next (.ok ())) nested session
  | .report step frame next, nested, session =>
    visit runtime after next nested (runtime.report step frame session)

/-- Look the handler up, resolve the parameter, run the handler, report and push its frame. The
answer is that frame and what is left of the nested steps, if the handler did not take them. -/
def openNode (runtime : Runtime σ) (software : Software) (step : Step) (nested after : List Step)
    (session : Session σ) : Verdict σ (Frame × Option (List Step)) :=
  match runtime.handlers step.operation with
  | none => (.error (.noHandler step.operation), session)
  | some handler =>
    match Placeholder.resolve runtime.constants session.stack step.parameter with
    | .error fault => (.error fault, session)
    | .ok parameter =>
      let task := { parameter, software, facts := runtime.facts, constants := runtime.constants }
      match visit runtime after (handler task) (some nested) session with
      | (.error failure, _, session) => (.error (failure.toFault step.operation), session)
      | (.ok frame, left, session) =>
        (.ok (frame, left), (runtime.report step frame session).push step frame)

/-- Leave the scope of a frame and discharge its obligation. -/
def closeNode (runtime : Runtime σ) (frame : Frame) (below : Stack) (session : Session σ) :
    Verdict σ Unit :=
  let (outcome, events, world) :=
    Session.release runtime.clean frame (session.events, session.world)
  (outcome, { session with stack := below, events, world })

end Runtime

/-- Evaluate the nodes of a forest one after the other, up to the first failure. `after` stands
behind the forest, for handlers to look at. -/
def Forest.evaluate (runtime : Runtime σ) (software : Software) :
    Forest → (after : List Step) → Session σ → Verdict σ Unit
  | nil, _, session => (.ok (), session)
  | cons step children siblings, after, session =>
    let behind := Step.pop :: (siblings.flatten ++ after)
    (runtime.openNode software step children.flatten behind session).andThen
      fun (frame, left) inside =>
        Verdict.andThen
          (if left.isSome then children.evaluate runtime software behind inside
            else (.ok (), inside))
          fun _ inside =>
            (runtime.closeNode frame session.stack inside).andThen
              fun _ outside => siblings.evaluate runtime software after outside

end Provision
