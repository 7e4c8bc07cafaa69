import Mathlib
import Provision.Proofs.Engine.Evaluation

/-! The main loop on a flattened forest does what evaluation along the forest does, whatever stands
behind the flattened steps, whichever handlers take the steps nested under theirs, and wherever a
failure strikes. -/

namespace Provision

variable {σ α : Type}

/-- Steps of a forest open and close their own levels, so that reading on from any level passes
over them. -/
theorem Program.splitLevel_flatten {forest : Forest} (proper : forest.Proper) (level : Nat)
    (rest : List Step) :
    splitLevel level (forest.flatten ++ rest) =
      (forest.flatten ++ (splitLevel level rest).1, (splitLevel level rest).2) := by
  induction forest generalizing level rest with
  | nil => rfl
  | cons step children siblings insideIH laterIH =>
    obtain ⟨opens, inside, later⟩ := proper
    simp only [Forest.flatten, List.cons_append, List.append_assoc]
    rw [splitLevel_open opens, insideIH inside, splitLevel_close Step.isPop_pop, laterIH later]

theorem Program.splitChildren_flatten {forest : Forest} (proper : forest.Proper)
    (rest : List Step) :
    splitChildren (forest.flatten ++ Step.pop :: rest) = (forest.flatten, Step.pop :: rest) := by
  simp [splitChildren, splitLevel_flatten proper, splitLevel_stop Step.isPop_pop]

namespace Runtime

variable {runtime : Runtime σ} {software : Software}
  {exec : Step → Session σ → Outcome σ Fault Unit}

theorem visit_stack (runtime : Runtime σ) (after : List Step) (work : Handling σ α)
    (nested : Option (List Step)) (session : Session σ) :
    (visit runtime after work nested session).2.2.stack = session.stack := by
  induction work generalizing nested session with
  | done value => rfl
  | failed failure => rfl
  | observe next ih => exact ih _ _ _
  | update world next ih => exact ih _ _
  | look next ih => exact ih _ _ _
  | children next ih => exact ih _ _ _
  | insert steps next ih => exact ih _ _ _
  | report step frame next ih => exact ih _ _

/-- Nested steps are taken as a whole or left as they are. -/
theorem visit_nested (runtime : Runtime σ) (after : List Step) (work : Handling σ α)
    (nested : Option (List Step)) (session : Session σ) :
    (visit runtime after work nested session).2.1 = nested ∨
      (visit runtime after work nested session).2.1 = none := by
  induction work generalizing nested session with
  | done value => exact .inl rfl
  | failed failure => exact .inl rfl
  | observe next ih => exact ih _ _ _
  | update world next ih => exact ih _ _
  | look next ih => exact ih _ _ _
  | children next ih =>
    rcases ih _ none session with same | taken
    · exact .inr same
    · exact .inr taken
  | insert steps next ih => exact ih _ _ _
  | report step frame next ih => exact ih _ _

/-- A handler of the flat program is told and handed what it is told and handed at its node. -/
theorem runHandling_visit (runtime : Runtime σ) (exec : Step → Session σ → Outcome σ Fault Unit)
    {work : Handling σ α} (inert : work.Inert) {after : List Step}
    (closed : Program.splitChildren after = ([], after)) {nested : Option (List Step)}
    (whole : ∀ steps ∈ nested, Program.splitChildren (steps ++ after) = (steps, after))
    (session : Session σ) :
    runHandling runtime exec work { session with pending := nested.getD [] ++ after } =
      some ((visit runtime after work nested session).1,
        { (visit runtime after work nested session).2.2 with
          pending := (visit runtime after work nested session).2.1.getD [] ++ after }) := by
  induction work generalizing nested session with
  | done value => rfl
  | failed failure => rfl
  | observe next ih => exact ih _ (inert _) whole session
  | update world next ih => exact ih inert whole { session with world }
  | look next ih => exact ih _ (inert _) whole session
  | children next ih =>
    have cut : Program.splitChildren (nested.getD [] ++ after) = (nested.getD [], after) := by
      cases nested with
      | none => exact closed
      | some steps => exact whole steps rfl
    have none_left : ∀ steps ∈ (none : Option (List Step)),
        Program.splitChildren (steps ++ after) = (steps, after) := by simp
    simp only [runHandling, Session.takeChildren, cut]
    exact ih _ (inert _) none_left session
  | insert steps next ih =>
    obtain ⟨rfl, calm⟩ := inert
    exact ih _ calm whole session
  | report step frame next ih => exact ih inert whole (runtime.report step frame session)

/-- A node is opened by a handler that was found, on a parameter that was resolved. -/
theorem openNode_ok {step : Step} {nested after : List Step} {session inside : Session σ}
    {frame : Frame} {left : Option (List Step)}
    (opened : runtime.openNode software step nested after session = (.ok (frame, left), inside)) :
    ∃ (work : Handling σ Frame) (final : Session σ),
      visit runtime after work (some nested) session = (.ok frame, left, final) ∧
        inside = (runtime.report step frame final).push step frame := by
  unfold openNode at opened
  split at opened
  · cases opened
  · rename_i handler _
    split at opened
    · cases opened
    · rename_i parameter _
      dsimp only at opened
      split at opened
      · cases opened
      · rename_i frame left final visited
        cases opened
        exact ⟨_, final, visited, rfl⟩

theorem openNode_stack {step : Step} {nested after : List Step} {session inside : Session σ}
    {frame : Frame} {left : Option (List Step)}
    (opened : runtime.openNode software step nested after session = (.ok (frame, left), inside)) :
    inside.stack = frame :: session.stack := by
  obtain ⟨work, final, visited, rfl⟩ := openNode_ok opened
  have kept := visit_stack runtime after work (some nested) session
  rw [visited] at kept
  exact congrArg (frame :: ·) kept

theorem openNode_left {step : Step} {nested after : List Step} {session inside : Session σ}
    {frame : Frame} {left : Option (List Step)}
    (opened : runtime.openNode software step nested after session = (.ok (frame, left), inside)) :
    left = some nested ∨ left = none := by
  obtain ⟨work, final, visited, -⟩ := openNode_ok opened
  have whole := visit_nested runtime after work (some nested) session
  rwa [visited] at whole

theorem pop_eq_closeNode {frame : Frame} {below : Stack} {session : Session σ}
    (top : session.stack = frame :: below) :
    session.pop runtime.clean = runtime.closeNode frame below session := by
  simp only [Session.pop, Stack.pop, top, closeNode]

end Runtime

theorem Verdict.andThen_ok {verdict : Verdict σ α} {next : α → Session σ → Verdict σ β} {value : β}
    {final : Session σ} (went : verdict.andThen next = (.ok value, final)) :
    ∃ first middle, verdict = (.ok first, middle) ∧ next first middle = (.ok value, final) := by
  rcases verdict with ⟨fault | first, middle⟩
  · cases went
  · exact ⟨first, middle, rfl, went⟩

/-- After a forest without a failure the stack is what it was before. -/
theorem Forest.evaluate_stack {runtime : Runtime σ} {software : Software} {forest : Forest}
    {after : List Step} {session final : Session σ}
    (evaluated : forest.evaluate runtime software after session = (.ok (), final)) :
    final.stack = session.stack := by
  induction forest generalizing after session final with
  | nil =>
    cases evaluated
    rfl
  | cons step children siblings insideIH laterIH =>
    obtain ⟨_, _, _, opened⟩ := Verdict.andThen_ok evaluated
    obtain ⟨_, _, _, nested⟩ := Verdict.andThen_ok opened
    obtain ⟨_, outside, closed, rest⟩ := Verdict.andThen_ok nested
    exact (laterIH rest).trans (congrArg (·.2.stack) closed).symm

namespace Runtime

variable {runtime : Runtime σ} {software : Software}
  {exec : Step → Session σ → Outcome σ Fault Unit}

/-- The main loop from `start` on does what a part of the recipe came to: it fails in the same way,
or goes on with the steps in `after`. -/
def Continues (exec : Step → Session σ → Outcome σ Fault Unit) (start : Session σ)
    (after : α → List Step) : Verdict σ α → Prop
  | (.error fault, final) =>
    ∃ pending, mainLoop exec start = some (.error fault, { final with pending })
  | (.ok value, final) => mainLoop exec start = mainLoop exec { final with pending := after value }

theorem Continues.andThen {start : Session σ} {between : α → List Step} {after : β → List Step}
    {verdict : Verdict σ α} {next : α → Session σ → Verdict σ β}
    (first : Continues exec start between verdict)
    (second : ∀ value middle, verdict = (.ok value, middle) →
      Continues exec { middle with pending := between value } after (next value middle)) :
    Continues exec start after (verdict.andThen next) := by
  rcases verdict with ⟨fault | value, middle⟩
  · exact first
  · have rest := second value middle rfl
    simp only [Verdict.andThen]
    rcases went : next value middle with ⟨fault | _, final⟩
    · rw [went] at rest
      obtain ⟨pending, stopped⟩ := rest
      exact ⟨pending, Eq.trans first stopped⟩
    · rw [went] at rest
      exact Eq.trans first rest

/-- No registered handler inserts a step. -/
def Inert (runtime : Runtime σ) : Prop :=
  ∀ operation handler, runtime.handlers operation = some handler → ∀ task, (handler task).Inert

/-- Executing a step opens its node, and leaves pending what its handler did not take. -/
theorem continues_openNode (inert : runtime.Inert) {step : Step} (opens : step.isPop = false)
    {children : Forest} (proper : children.Proper) (nesting : Nat) (after : List Step)
    (session : Session σ) :
    Continues (perform runtime software (nesting + 1))
      { session with pending := step :: (children.flatten ++ Step.pop :: after) }
      (fun opened => opened.2.getD [] ++ Step.pop :: after)
      (runtime.openNode software step children.flatten (Step.pop :: after) session) := by
  have taken := mainLoop_cons (consumes_perform runtime software (nesting + 1))
    { session with pending := step :: (children.flatten ++ Step.pop :: after) } rfl
  simp only [perform, opens, Bool.false_eq_true, if_false] at taken
  unfold openNode
  cases found : runtime.handlers step.operation with
  | none =>
    simp only [found] at taken
    exact ⟨_, taken⟩
  | some handler =>
    simp only [found] at taken
    cases resolved : Placeholder.resolve runtime.constants session.stack step.parameter with
    | error fault =>
      simp only [resolved] at taken
      exact ⟨_, taken⟩
    | ok parameter =>
      have closed : Program.splitChildren (Step.pop :: after) = ([], Step.pop :: after) :=
        Program.splitLevel_stop Step.isPop_pop after
      have whole : ∀ steps ∈ some children.flatten,
          Program.splitChildren (steps ++ Step.pop :: after) = (steps, Step.pop :: after) := by
        intro steps same
        cases same
        exact Program.splitChildren_flatten proper after
      have handled := runHandling_visit runtime (perform runtime software nesting)
        (inert step.operation handler found
          ⟨parameter, software, runtime.facts, runtime.constants⟩) closed whole session
      simp only [Option.getD_some] at handled
      simp only [resolved, handled] at taken
      dsimp only
      rcases visited : visit runtime (Step.pop :: after)
        (handler ⟨parameter, software, runtime.facts, runtime.constants⟩)
        (some children.flatten) session with ⟨failure | frame, left, final⟩
      · rw [visited] at taken
        exact ⟨_, taken⟩
      · rw [visited] at taken
        exact taken

/-- The POP behind the nested steps closes the node. -/
theorem continues_closeNode {frame : Frame} {below : Stack} {session : Session σ}
    (top : session.stack = frame :: below) (nesting : Nat) (after : List Step) :
    Continues (perform runtime software (nesting + 1))
      { session with pending := Step.pop :: after } (fun _ => after)
      (runtime.closeNode frame below session) := by
  have taken := mainLoop_cons (consumes_perform runtime software (nesting + 1))
    { session with pending := Step.pop :: after } rfl
  have popped : ({ session with pending := after } : Session σ).pop runtime.clean =
      ((runtime.closeNode frame below session).1,
        { (runtime.closeNode frame below session).2 with pending := after }) :=
    pop_eq_closeNode top
  simp only [perform, Step.isPop_pop, if_true, popped] at taken
  rcases closed : runtime.closeNode frame below session with ⟨fault | _, final⟩
  · rw [closed] at taken
    exact ⟨_, taken⟩
  · rw [closed] at taken
    exact taken

/-- Induction on the forest, over everything that may stand behind it: the pending program is always
the flattened rest of the forest followed by that. -/
theorem mainLoop_flatten (software : Software) (inert : runtime.Inert) (nesting : Nat)
    {forest : Forest} (proper : forest.Proper) (after : List Step) (session : Session σ) :
    Continues (perform runtime software (nesting + 1))
      { session with pending := forest.flatten ++ after } (fun _ => after)
      (forest.evaluate runtime software after session) := by
  induction forest generalizing after session with
  | nil => rfl
  | cons step children siblings insideIH laterIH =>
    obtain ⟨opens, inside, later⟩ := proper
    have flat : (Forest.cons step children siblings).flatten ++ after =
        step :: (children.flatten ++ Step.pop :: (siblings.flatten ++ after)) := by
      simp [Forest.flatten]
    rw [flat]
    refine (continues_openNode inert opens inside nesting _ session).andThen ?_
    intro ⟨frame, left⟩ entered opened
    have body : Continues (perform runtime software (nesting + 1))
        { entered with pending := left.getD [] ++ Step.pop :: (siblings.flatten ++ after) }
        (fun _ => Step.pop :: (siblings.flatten ++ after))
        (if left.isSome then
          children.evaluate runtime software (Step.pop :: (siblings.flatten ++ after)) entered
        else (.ok (), entered)) := by
      rcases openNode_left opened with same | taken
      · simpa [same] using insideIH inside (Step.pop :: (siblings.flatten ++ after)) entered
      · simp [taken, Continues]
    refine body.andThen ?_
    intro _ closing evaluated
    -- the frame on top is the node's own, with the stack from before the node below it
    have top : closing.stack = frame :: session.stack := by
      rw [← openNode_stack opened]
      split at evaluated
      · exact Forest.evaluate_stack evaluated
      · cases evaluated
        rfl
    refine (continues_closeNode top nesting _).andThen ?_
    intro _ outside _
    exact laterIH later after outside

/-- The main loop on a flattened forest reports, cleans up, fails and leaves the stack as evaluation
along the forest does; and wherever in a program a forest stands, if nothing in it fails, the loop
comes out behind it with the stack that it found in front. -/
theorem mainLoop_flatten_eq_evaluate (software : Software) (inert : runtime.Inert)
    {forest : Forest} (proper : forest.Proper) (session : Session σ) :
    (∃ pending,
      runPending (runtime.executeStep software) forest.flatten.length
          { session with pending := forest.flatten } =
        some ((forest.evaluate runtime software [] session).1,
          { (forest.evaluate runtime software [] session).2 with pending }) ∧
      ((forest.evaluate runtime software [] session).1 = .ok () → pending = [])) ∧
    ∀ after final, forest.evaluate runtime software after session = (.ok (), final) →
      final.stack = session.stack ∧
      mainLoop (runtime.executeStep software)
          { session with pending := forest.flatten ++ after } =
        mainLoop (runtime.executeStep software) { final with pending := after } := by
  constructor
  · have whole := mainLoop_flatten software inert (nestingLimit - 1) proper [] session
    rw [List.append_nil] at whole
    rcases evaluated : forest.evaluate runtime software [] session with ⟨fault | _, final⟩
    · rw [evaluated] at whole
      obtain ⟨pending, stopped⟩ := whole
      exact ⟨pending, stopped, nofun⟩
    · rw [evaluated] at whole
      exact ⟨[], Eq.trans whole (mainLoop_nil rfl), fun _ => rfl⟩
  · intro after final evaluated
    have whole := mainLoop_flatten software inert (nestingLimit - 1) proper after session
    rw [evaluated] at whole
    exact ⟨Forest.evaluate_stack evaluated, whole⟩

/-- Three handlers: one hands its parameter on, one takes what is nested under its step, and one
leaves a file whose removal fails. -/
def taking : Runtime Unit where
  handlers
    | .set => some fun task => .done (.ofValue task.parameter)
    | .unzip => some fun _ => .children fun steps => .done (.ofValue (toString steps.length))
    | .toFile => some fun _ => .done ((Frame.ofValue "file").withCleanup ⟨.delete, "file"⟩)
    | _ => none
  constants := ⟨[], fun _ => .error (.invalidRecipe "no constants")⟩
  facts := { family := .ubuntu, arch := .x86_64, id := ⟨0⟩ }
  clean _ world := (.error ["still in use"], world)
  announce _ _ world := world

def takingForest : Forest :=
  .cons ⟨.toFile, ""⟩ (.cons ⟨.unzip, "{{0}}"⟩ (.cons ⟨.set, "x"⟩ .nil .nil) .nil) .nil

def seeded : Session Unit := ⟨[], [.ofValue "seed"], [], ()⟩

/-- The step under the one that takes it is never run, and the failing removal ends the run with
the seed still on the stack. -/
theorem mainLoop_flatten_eq_evaluate_taking :
    taking.Inert ∧ takingForest.Proper ∧
      ∃ final : Session Unit,
        runPending (taking.executeStep {}) takingForest.flatten.length
            { seeded with pending := takingForest.flatten } =
          some (.error (.cleanup ⟨.delete, "file"⟩ ["still in use"]), final) ∧
        final.stack = [.ofValue "seed"] ∧
        final.reports.map (fun report => (report.1.operation, report.2.value)) =
          [(.toFile, "file"), (.unzip, "2")] := by
  have inert : taking.Inert := by
    intro operation handler found task
    cases operation <;> cases found <;> simp [Handling.Inert]
  have proper : takingForest.Proper := ⟨rfl, ⟨rfl, ⟨rfl, trivial, trivial⟩, trivial⟩, trivial⟩
  have fails : (takingForest.evaluate taking {} [] seeded).1 =
      .error (.cleanup ⟨.delete, "file"⟩ ["still in use"]) := by cbv
  have stack : (takingForest.evaluate taking {} [] seeded).2.stack = [.ofValue "seed"] := by cbv
  have reports : (takingForest.evaluate taking {} [] seeded).2.reports.map
      (fun report => (report.1.operation, report.2.value)) =
        [(.toFile, "file"), (.unzip, "2")] := by cbv
  obtain ⟨pending, ran, -⟩ :=
    (mainLoop_flatten_eq_evaluate {} inert proper seeded).1
  rw [fails] at ran
  exact ⟨inert, proper, _, ran, stack, reports⟩

end Runtime

end Provision
