import Provision.Proofs.Engine.Insertion

/-! Steps are not checked before they are run. One POP more than there are other steps takes away the
seed, and steps after it start from an empty stack; the first POP that has no frame left ends the
run. -/

namespace Provision

variable {σ α : Type}

/-- More POPs than frames for them: one for each other step, and the seed. -/
def Step.Overdrawn (steps : List Step) : Prop :=
  (openers steps).length + 1 < (steps.filter isPop).length

theorem Step.counts_open {step : Step} (opens : step.isPop = false) (before : List Step) :
    (openers (before ++ [step])).length = (openers before).length + 1 ∧
      ((before ++ [step]).filter isPop).length = (before.filter isPop).length := by
  simp [openers, opens]

theorem Step.counts_close {step : Step} (closes : step.isPop = true) (before : List Step) :
    (openers (before ++ [step])).length = (openers before).length ∧
      ((before ++ [step]).filter isPop).length = (before.filter isPop).length + 1 := by
  simp [openers, closes]

/-- A handler that always returns a value, and leaves the stack and the pending program alone. -/
inductive Handling.Answers : Handling σ α → Prop where
  | done (value : α) : Answers (.done value)
  | observe (rest : ∀ world, (next world).Answers) : Answers (.observe next)
  | update (world : σ) (rest : next.Answers) : Answers (.update world next)
  | look (rest : ∀ scene, (next scene).Answers) : Answers (.look next)
  | insert (rest : (next (.ok ())).Answers) : Answers (.insert [] next)
  | report (step : Step) (frame : Frame) (rest : next.Answers) : Answers (.report step frame next)

/-- The handler can end in the value and make these reports of its own on the way. -/
inductive Handling.Ends : Handling σ α → List (Step × Frame) → α → Prop where
  | done (value : α) : Ends (.done value) [] value
  | observe (world : σ) (rest : (next world).Ends own value) : Ends (.observe next) own value
  | update (world : σ) (rest : next.Ends own value) : Ends (.update world next) own value
  | look (scene : Scene) (rest : (next scene).Ends own value) : Ends (.look next) own value
  | insert (rest : (next (.ok ())).Ends own value) : Ends (.insert [] next) own value
  | report (step : Step) (frame : Frame) (rest : next.Ends own value) :
    Ends (.report step frame next) ((step, frame) :: own) value

namespace Runtime

/-- Every step that is no POP has a handler, which always returns a frame and leaves the stack and the
pending program alone. -/
def Serves (runtime : Runtime σ) (steps : List Step) : Prop :=
  ∀ step ∈ steps, step.isPop = false →
    ∃ handler, runtime.handlers step.operation = some handler ∧ ∀ task, (handler task).Answers

/-- No placeholder stands in the parameter of a step that is no POP. -/
def Literal (runtime : Runtime σ) (steps : List Step) : Prop :=
  ∀ step ∈ steps, step.isPop = false → ∀ occurrence,
    ¬ Placeholder.Occurs runtime.constants.supported step.parameter.toList occurrence

/-- No handler reports anything itself. -/
def Reticent (runtime : Runtime σ) : Prop :=
  ∀ operation handler, runtime.handlers operation = some handler →
    ∀ task own frame, (handler task).Ends own frame → own = []

/-- What is reported when each of the steps is carried out once, in order: for each that is no POP,
what its handler reports itself, and then the step with the frame that the handler returned. -/
inductive Chronicle (runtime : Runtime σ) (software : Software) :
    List Step → List (Step × Frame) → Prop where
  | start : Chronicle runtime software [] []
  | close {before : List Step} {reports : List (Step × Frame)} {step : Step}
    (earlier : Chronicle runtime software before reports) (closes : step.isPop = true) :
    Chronicle runtime software (before ++ [step]) reports
  | carry {before : List Step} {reports own : List (Step × Frame)} {step : Step} {frame : Frame}
    {handler : Handler σ} (earlier : Chronicle runtime software before reports)
    (opens : step.isPop = false) (found : runtime.handlers step.operation = some handler)
    (ends : (handler ⟨step.parameter, software, runtime.facts, runtime.constants⟩).Ends own frame) :
    Chronicle runtime software (before ++ [step]) (reports ++ own ++ [(step, frame)])

variable {runtime : Runtime σ} {software : Software} {before steps : List Step}
  {reports : List (Step × Frame)}

/-- One report for each step that is no POP. -/
theorem Chronicle.map_fst (chronicle : Chronicle runtime software before reports)
    (reticent : runtime.Reticent) : reports.map Prod.fst = Step.openers before := by
  induction chronicle with
  | start => rfl
  | close earlier closes ih =>
    rw [Step.openers_append, Step.openers_close closes, ih]
    simp [Step.openers]
  | carry earlier opens found ends ih =>
    rw [reticent _ _ found _ _ _ ends, Step.openers_append, Step.openers_open opens, List.append_nil,
      List.map_append, ih]
    rfl

end Runtime

/-- What the steps in front leave behind: as many frames as they leave, no POP too many, and what was
reported for them. -/
structure Tallied (runtime : Runtime σ) (software : Software) (before : List Step)
    (reports : List (Step × Frame)) (stack : Stack) : Prop where
  level : stack.length + (before.filter Step.isPop).length = (Step.openers before).length + 1
  covered : ∀ front, front <+: before → ¬ Step.Overdrawn front
  chronicle : runtime.Chronicle software before reports

variable {runtime : Runtime σ} {software : Software} {before : List Step}
  {reports own : List (Step × Frame)} {stack : Stack} {step : Step} {frame : Frame}

namespace Tallied

theorem start (seed : Frame) : Tallied runtime software [] [] [seed] where
  level := rfl
  covered front prefixed := by
    rw [List.prefix_nil.mp prefixed]
    simp [Step.Overdrawn, Step.openers]
  chronicle := .start

theorem push {handler : Handler σ} (tallied : Tallied runtime software before reports stack)
    (opens : step.isPop = false) (found : runtime.handlers step.operation = some handler)
    (ends : (handler ⟨step.parameter, software, runtime.facts, runtime.constants⟩).Ends own frame) :
    Tallied runtime software (before ++ [step]) (reports ++ own ++ [(step, frame)])
      (frame :: stack) where
  level := by
    obtain ⟨opened, closed⟩ := Step.counts_open opens before
    have level := tallied.level
    rw [opened, closed, List.length_cons]
    omega
  covered front prefixed := by
    rcases List.prefix_concat_iff.mp prefixed with rfl | earlier
    · obtain ⟨opened, closed⟩ := Step.counts_open opens before
      have level := tallied.level
      rw [Step.Overdrawn, opened, closed]
      omega
    · exact tallied.covered front earlier
  chronicle := tallied.chronicle.carry opens found ends

theorem pop (tallied : Tallied runtime software before reports (frame :: stack))
    (closes : step.isPop = true) : Tallied runtime software (before ++ [step]) reports stack where
  level := by
    obtain ⟨opened, closed⟩ := Step.counts_close closes before
    have level := tallied.level
    rw [List.length_cons] at level
    rw [opened, closed]
    omega
  covered front prefixed := by
    rcases List.prefix_concat_iff.mp prefixed with rfl | earlier
    · obtain ⟨opened, closed⟩ := Step.counts_close closes before
      have level := tallied.level
      rw [List.length_cons] at level
      rw [Step.Overdrawn, opened, closed]
      omega
    · exact tallied.covered front earlier
  chronicle := tallied.chronicle.close closes

/-- A POP that finds no frame is one too many. -/
theorem overdrawn (tallied : Tallied runtime software before reports [])
    (closes : step.isPop = true) : Step.Overdrawn (before ++ [step]) := by
  obtain ⟨opened, closed⟩ := Step.counts_close closes before
  have level := tallied.level
  rw [List.length_nil] at level
  rw [Step.Overdrawn, opened, closed]
  omega

end Tallied

namespace Session

theorem reports_push (session : Session σ) (step : Option Step) (frame : Frame) :
    (session.push step frame).reports = session.reports := by
  simp [reports, history, push]

theorem reports_report (runtime : Runtime σ) (session : Session σ) (step : Step) (frame : Frame) :
    (runtime.report step frame session).reports = session.reports ++ [(step, frame)] := by
  simp [reports, history, Runtime.report]

theorem Pops.reports_eq {clean : Cleanup → σ → Except (List String) Unit × σ} {session after : Session σ}
    {outcome : Except Fault Unit} (pops : session.Pops clean outcome after) :
    after.reports = session.reports := by
  cases pops <;> simp [Session.reports, history]

end Session

/-- A run that was stopped by the first POP too many: it has executed what stands in front of that
POP, and what stands behind it is still pending. -/
structure Overran (runtime : Runtime σ) (software : Software) (before : List Step) (step : Step)
    (final : Session σ) : Prop where
  place : software.steps = before ++ step :: final.pending
  closes : step.isPop = true
  overdrawn : Step.Overdrawn (before ++ [step])
  first : ∀ front, front <+: before → ¬ Step.Overdrawn front
  chronicle : runtime.Chronicle software before final.reports
  stack : final.stack = []

/-- A run that has executed all of its steps. -/
structure Completed (runtime : Runtime σ) (software : Software) (final : Session σ) : Prop where
  covered : ∀ front, front <+: software.steps → ¬ Step.Overdrawn front
  chronicle : runtime.Chronicle software software.steps final.reports
  pending : final.pending = []

/-- Why a run can stop early. -/
def Halted (runtime : Runtime σ) (software : Software) (fault : Fault) (final : Session σ) : Prop :=
  (fault = .stackUnderflow ∧ ∃ before step, Overran runtime software before step final) ∨
    ∃ obligation, .cleaned obligation false ∈ final.events

namespace Moment

variable {session : Session σ} {callers : List (Caller σ)}

/-- At any moment no handler waits, and the stack has the frames that the steps so far leave. -/
def Balanced (runtime : Runtime σ) (software : Software) : Moment σ → Prop
  | ⟨.turn, callers, session⟩ | ⟨.leave (.ok ()), callers, session⟩ =>
    callers = [] ∧ ∃ before, software.steps = before ++ session.pending ∧
      Tallied runtime software before session.reports session.stack
  | ⟨.enter step, callers, session⟩ =>
    callers = [] ∧ ∃ before, software.steps = before ++ step :: session.pending ∧
      Tallied runtime software before session.reports session.stack
  | ⟨.handle step _ work, callers, session⟩ =>
    callers = [] ∧ step.isPop = false ∧ work.Answers ∧ ∃ before reports own handler,
      software.steps = before ++ step :: session.pending ∧
      Tallied runtime software before reports session.stack ∧
      session.reports = reports ++ own ∧ runtime.handlers step.operation = some handler ∧
      ∀ more frame, work.Ends more frame →
        (handler ⟨step.parameter, software, runtime.facts, runtime.constants⟩).Ends (own ++ more) frame
  | ⟨.leave (.error fault), callers, session⟩ => callers = [] ∧ Halted runtime software fault session
  | ⟨.drain, _, session⟩ => Completed runtime software session
  | ⟨.ended (.ok ()), _, session⟩ => Completed runtime software session ∧ session.stack = []
  | ⟨.ended (.error fault), _, session⟩ => Halted runtime software fault session

theorem Balanced.enter (serves : runtime.Serves software.steps)
    (literal : runtime.Literal software.steps)
    (balanced : Balanced runtime software ⟨.enter step, callers, session⟩) :
    Balanced runtime software (enter runtime software step callers session) := by
  obtain ⟨alone, before, place, tallied⟩ := balanced
  unfold Moment.enter
  cases pops : step.isPop with
  | true =>
    rw [if_pos rfl]
    rcases popped : session.pop runtime.clean with ⟨outcome, after⟩
    have reports := (Session.pops_of_pop popped).reports_eq
    cases Session.pops_of_pop popped with
    | underflow empty =>
      rw [empty] at tallied
      exact ⟨alone, .inl ⟨rfl, before, step, place, pops, tallied.overdrawn pops, tallied.covered,
        tallied.chronicle, empty⟩⟩
    | free top =>
      rw [top] at tallied
      exact ⟨alone, before ++ [step], by simpa using place, reports ▸ tallied.pop pops⟩
    | settled top obligation world =>
      rw [top] at tallied
      exact ⟨alone, before ++ [step], by simpa using place, reports ▸ tallied.pop pops⟩
    | failed top obligation causes world =>
      exact ⟨alone, .inr ⟨obligation, List.mem_cons_self⟩⟩
  | false =>
    have member : step ∈ software.steps := by simp [place]
    obtain ⟨handler, found, answers⟩ := serves step member pops
    have resolved : Placeholder.resolve runtime.constants session.stack step.parameter =
        .ok step.parameter := Placeholder.resolve_of_no_occurrence (literal step member pops)
    rw [if_neg Bool.false_ne_true]
    simp only [found, resolved]
    exact ⟨alone, pops, answers _, before, session.reports, [], handler, place, tallied,
      (List.append_nil _).symm, found, fun more frame ends => ends⟩

theorem Balanced.handle {burdened : Bool} {work : Handling σ Frame}
    (balanced : Balanced runtime software ⟨.handle step burdened work, callers, session⟩) :
    Balanced runtime software (handle runtime step burdened callers session work) := by
  obtain ⟨alone, opens, answers, before, reports, own, handler, place, tallied, told, found, ends⟩ :=
    balanced
  cases answers with
  | done frame =>
    have done := tallied.push opens found (ends [] frame (.done frame))
    rw [List.append_nil] at done
    refine ⟨alone, before ++ [step], ?_, ?_⟩
    · simpa [Session.push, Runtime.report] using place
    · rw [Session.reports_push, Session.reports_report, told]
      exact done
  | observe rest =>
    exact ⟨alone, opens, rest _, before, reports, own, handler, place, tallied, told, found,
      fun more frame later => ends more frame (.observe _ later)⟩
  | update world rest =>
    exact ⟨alone, opens, rest, before, reports, own, handler, place, tallied, told, found,
      fun more frame later => ends more frame (.update world later)⟩
  | look rest =>
    exact ⟨alone, opens, rest _, before, reports, own, handler, place, tallied, told, found,
      fun more frame later => ends more frame (.look _ later)⟩
  | insert rest =>
    exact ⟨alone, opens, rest, before, reports, own, handler, place, tallied, told, found,
      fun more frame later => ends more frame (.insert later)⟩
  | report other frame rest =>
    refine ⟨alone, opens, rest, before, reports, own ++ [(other, frame)], handler, place, tallied,
      ?_, found, ?_⟩
    · rw [Session.reports_report, told, List.append_assoc]
    · intro more answer later
      rw [List.append_assoc]
      exact ends _ answer (.report other frame later)

theorem Balanced.next? {first second : Moment σ} (serves : runtime.Serves software.steps)
    (literal : runtime.Literal software.steps) (balanced : Balanced runtime software first)
    (move : first.next? runtime software = some second) : Balanced runtime software second := by
  cases moves_of_next? move with
  | finish nothing =>
    obtain ⟨alone, before, place, tallied⟩ := balanced
    rw [nothing, List.append_nil] at place
    exact ⟨place ▸ tallied.covered, place ▸ tallied.chronicle, nothing⟩
  | take waiting =>
    obtain ⟨alone, before, place, tallied⟩ := balanced
    exact ⟨alone, before, waiting ▸ place, tallied⟩
  | enter step callers session => exact balanced.enter serves literal
  | handle step burdened callers session work => exact balanced.handle
  | leave outcome session callers =>
    cases outcome with
    | error fault =>
      obtain ⟨rfl, halted⟩ := balanced
      exact halted
    | ok _ =>
      obtain ⟨rfl, during⟩ := balanced
      exact ⟨rfl, during⟩
  | drained empty => exact ⟨balanced, empty⟩
  | popped went =>
    have reports := (Session.pops_of_pop went).reports_eq
    obtain ⟨covered, chronicle, nothing⟩ := balanced
    refine ⟨covered, reports ▸ chronicle, ?_⟩
    cases Session.pops_of_pop went <;> exact nothing
  | stopped failed =>
    cases Session.pops_of_pop failed with
    | underflow empty => simp [Moment.next?, empty] at move
    | failed top obligation causes world => exact .inr ⟨obligation, List.mem_cons_self⟩

theorem Balanced.reaches {first last : Moment σ} (serves : runtime.Serves software.steps)
    (literal : runtime.Literal software.steps) (balanced : Balanced runtime software first)
    (reaches : first.Reaches runtime software last) : Balanced runtime software last := by
  induction reaches with
  | refl => exact balanced
  | tail _ move ih => exact ih.next? serves literal move

end Moment

namespace Runtime

variable {exec : Step → Session σ → Outcome σ Fault Unit} {session : Session σ}

theorem runHandling_of_answers {work : Handling σ α} (answers : work.Answers) (session : Session σ) :
    ∃ value after, runHandling runtime exec work session = some (.ok value, after) := by
  induction answers generalizing session with
  | done value => exact ⟨value, session, rfl⟩
  | observe rest ih => exact ih session.world session
  | update world rest ih => exact ih { session with world }
  | look rest ih => exact ih ⟨session.stack, session.pending⟩ session
  | insert rest ih => exact ih session
  | report step frame rest ih => exact ih (runtime.report step frame session)

theorem perform_of_serves {nesting : Nat} (serves : runtime.Serves steps) {step : Step}
    (member : step ∈ steps) (session : Session σ) :
    ∃ run, perform runtime software (nesting + 1) step session = some run := by
  cases pops : step.isPop with
  | true => exact ⟨_, by rw [perform, if_pos pops]⟩
  | false =>
    obtain ⟨handler, found, answers⟩ := serves step member pops
    simp only [perform_eq_carryOut pops, carryOut, found]
    cases Placeholder.resolve runtime.constants session.stack step.parameter with
    | error fault => exact ⟨_, rfl⟩
    | ok parameter =>
      obtain ⟨frame, after, ran⟩ : ∃ frame after,
          runHandling runtime (perform runtime software nesting)
            (handler ⟨parameter, software, runtime.facts, runtime.constants⟩) session =
              some (.ok frame, after) := runHandling_of_answers (answers _) session
      exact ⟨_, by simp only [ran]; rfl⟩

theorem runPending_of_each (consumes : Consumes exec) {turns : Nat}
    (each : ∀ step ∈ session.pending, ∀ current, ∃ run, exec step current = some run) :
    ∃ run, runPending exec turns session = some run := by
  induction turns generalizing session with
  | zero => exact ⟨_, rfl⟩
  | succ turns ih =>
    cases waiting : session.pending with
    | nil => exact ⟨(.ok (), session), by simp only [runPending, waiting]⟩
    | cons step rest =>
      rw [waiting] at each
      obtain ⟨⟨outcome, after⟩, ran⟩ := each step List.mem_cons_self { session with pending := rest }
      simp only [runPending, waiting, ran]
      cases outcome with
      | error fault => exact ⟨_, rfl⟩
      | ok _ =>
        have fewer := consumes _ _ _ _ ran
        exact ih fun later member => each later (List.mem_cons_of_mem step (fewer.subset member))

theorem execute_of_serves (software : Software) (session : Session σ)
    (serves : runtime.Serves session.pending) :
    ∃ outcome final, runtime.execute software session = some (outcome, final) := by
  have each : ∀ step ∈ session.pending, ∀ current, ∃ run,
      runtime.executeStep software step current = some run := fun _ member current =>
    perform_of_serves serves member current
  obtain ⟨⟨outcome, after⟩, looped⟩ : ∃ run,
      mainLoop (runtime.executeStep software) session = some run :=
    runPending_of_each (consumes_perform runtime software nestingLimit) each
  rw [execute_eq_mainLoop, looped]
  cases outcome with
  | error fault => exact ⟨.error fault, after, rfl⟩
  | ok _ => exact ⟨_, _, rfl⟩

/-- The handlers play no part in what a handler requests. -/
theorem runHandling_handlers (runtime : Runtime σ) (handlers : Operation → Option (Handler σ))
    (work : Handling σ α) (session : Session σ) :
    runHandling { runtime with handlers } exec work session = runHandling runtime exec work session := by
  induction work generalizing session with
  | done value => rfl
  | failed failure => rfl
  | observe next ih => exact ih session.world session
  | update world next ih => exact ih { session with world }
  | look next ih => exact ih ⟨session.stack, session.pending⟩ session
  | children next ih => exact ih _ _
  | insert steps next ih =>
    simp only [runHandling]
    rcases runSteps exec steps session with _ | ⟨outcome, middle⟩
    · rfl
    · exact ih outcome middle
  | report step frame next ih => exact ih (runtime.report step frame session)

/-- Induction on the nesting of insertions. -/
theorem perform_handlers {handlers : Operation → Option (Handler σ)}
    (same : ∀ operation, operation.isPop = false → handlers operation = runtime.handlers operation)
    (nesting : Nat) :
    perform { runtime with handlers } software nesting = perform runtime software nesting := by
  induction nesting with
  | zero => rfl
  | succ nesting ih =>
    funext step session
    cases pops : step.isPop with
    | true =>
      rw [perform, perform, if_pos pops, if_pos pops]
    | false =>
      rw [perform_eq_carryOut pops, perform_eq_carryOut pops]
      simp only [carryOut, same step.operation pops, ih, runHandling_handlers]
      rfl

/-- Outcomes of a recipe whose steps are all served, unless a cleanup fails: it stops at the first POP
too many if there is one, and else it completes. -/
structure Balances (runtime : Runtime σ) (software : Software) (outcome : Except Fault Unit)
    (final : Session σ) : Prop where
  underflows : outcome = .error .stackUnderflow ↔
    ∃ front, front <+: software.steps ∧ Step.Overdrawn front
  overran : outcome = .error .stackUnderflow → ∃ before step,
    Overran runtime software before step final ∧
      (runtime.Reticent → final.reports.map Prod.fst = Step.openers before)
  completed : outcome ≠ .error .stackUnderflow → outcome = .ok () ∧
    Completed runtime software final ∧ final.stack = [] ∧
      (runtime.Reticent → final.reports.map Prod.fst = Step.openers software.steps)

open Moment in
theorem balances_of_reaches {outcome : Except Fault Unit} {final : Session σ}
    (balanced : Balanced runtime software ⟨.ended outcome, [], final⟩)
    (cleaned : ∀ obligation, .cleaned obligation false ∉ final.history) :
    Balances runtime software outcome final := by
  cases outcome with
  | ok _ =>
    obtain ⟨completed, empty⟩ := balanced
    have stays : ¬ ∃ front, front <+: software.steps ∧ Step.Overdrawn front := by
      rintro ⟨front, prefixed, overdrawn⟩
      exact completed.covered front prefixed overdrawn
    refine ⟨⟨fun fails => ?_, fun overdrawn => absurd overdrawn stays⟩, fun fails => ?_,
      fun _ => ⟨rfl, completed, empty, completed.chronicle.map_fst⟩⟩
    · cases fails
    · cases fails
  | error fault =>
    rcases balanced with ⟨rfl, before, step, overran⟩ | ⟨obligation, failed⟩
    · have prefixed : before ++ [step] <+: software.steps :=
        ⟨final.pending, by rw [overran.place, List.append_assoc]; rfl⟩
      exact ⟨⟨fun _ => ⟨_, prefixed, overran.overdrawn⟩, fun _ => rfl⟩,
        fun _ => ⟨before, step, overran, overran.chronicle.map_fst⟩, fun other => absurd rfl other⟩
    · exact absurd (List.mem_reverse.mpr failed) (cleaned obligation)

open Moment in
/-- Before every step there is one frame for each step that was no POP, and the seed, less one for
each POP. The run comes to an end: it underflows exactly if some front of the recipe has more POPs than
that, at the first such POP, and has then executed what stands in front of it; or else it executes
everything. A handler for POP makes no difference. -/
theorem execute_balances (serves : runtime.Serves software.steps)
    (literal : runtime.Literal software.steps) {world : σ}
    (started : runtime.start software world = .ok session) :
    (∀ step callers current,
      (begin session).Reaches runtime software ⟨.enter step, callers, current⟩ →
      ∃ before, software.steps = before ++ step :: current.pending ∧
        current.stack.length + (before.filter Step.isPop).length = (Step.openers before).length + 1) ∧
    (∀ step burdened work callers current,
      (begin session).Reaches runtime software ⟨.handle step burdened work, callers, current⟩ →
      step.isPop = false) ∧
    (∀ handlers : Operation → Option (Handler σ),
      (∀ operation, operation.isPop = false → handlers operation = runtime.handlers operation) →
      execute { runtime with handlers } software session = execute runtime software session) ∧
    ∃ outcome final, execute runtime software session = some (outcome, final) ∧
      (begin session).Reaches runtime software ⟨.ended outcome, [], final⟩ ∧
      ((∀ obligation, .cleaned obligation false ∉ final.history) →
        Balances runtime software outcome final) := by
  obtain ⟨text, resolved, rfl⟩ := start_ok started
  have first : Balanced runtime software
      (begin (Session.push ⟨software.steps, [], [], world⟩ none (.ofValue text))) :=
    ⟨rfl, [], rfl, .start _⟩
  refine ⟨?_, ?_, ?_, ?_⟩
  · intro step callers current reaches
    obtain ⟨-, before, place, tallied⟩ := first.reaches serves literal reaches
    exact ⟨before, place, tallied.level⟩
  · intro step burdened work callers current reaches
    exact (first.reaches serves literal reaches).2.1
  · intro handlers same
    have executes : executeStep { runtime with handlers } software = executeStep runtime software :=
      perform_handlers same nestingLimit
    rw [execute_eq_mainLoop, execute_eq_mainLoop, executes]
  · obtain ⟨outcome, final, run⟩ := execute_of_serves software
      (Session.push ⟨software.steps, [], [], world⟩ none (.ofValue text)) serves
    have reaches := reaches_execute run
    exact ⟨outcome, final, run, reaches,
      balances_of_reaches (first.reaches serves literal reaches)⟩

/-- The second POP takes the seed away, and the fourth finds nothing. -/
def overdrawing : Software where
  parameter := "seed"
  steps := [⟨.set, "a"⟩, .pop, .pop, ⟨.command, "b"⟩, .pop, .pop, ⟨.set, "c"⟩]

/-- The step between them runs on the empty stack. -/
theorem execute_balances_overdrawing :
    printing.Serves overdrawing.steps ∧ printing.Literal overdrawing.steps ∧
      ∃ session final : Session Unit, printing.start overdrawing () = .ok session ∧
        execute printing overdrawing session = some (.error .stackUnderflow, final) ∧
        (∃ before step, Overran printing overdrawing before step final) ∧
        final.pending = [⟨.set, "c"⟩] ∧
        final.reports.map Prod.fst = [⟨.set, "a"⟩, ⟨.command, "b"⟩] := by
  have serves : printing.Serves overdrawing.steps := by
    intro step member opens
    simp only [overdrawing, List.mem_cons, List.not_mem_nil, or_false] at member
    rcases member with rfl | rfl | rfl | rfl | rfl | rfl | rfl
    · exact ⟨_, rfl, fun task => .done _⟩
    · cases opens
    · cases opens
    · exact ⟨_, rfl, fun task => .done _⟩
    · cases opens
    · cases opens
    · exact ⟨_, rfl, fun task => .done _⟩
  have plain : ∀ step ∈ overdrawing.steps, '\x7b' ∉ step.parameter.toList := by decide
  have literal : printing.Literal overdrawing.steps := fun step member _ _ occurs =>
    plain step member (List.mem_of_getElem? occurs.braces.1)
  let seed := Frame.ofValue "seed"
  let a := Frame.ofValue "a"
  let b := (Frame.ofValue "0").withOutput "b" ""
  let session : Session Unit := ⟨overdrawing.steps, [seed], [.pushed none seed], ()⟩
  let final : Session Unit := ⟨[⟨.set, "c"⟩], [],
    [.popped b, .pushed (some ⟨.command, "b"⟩) b, .reported ⟨.command, "b"⟩ b, .popped seed,
      .popped a, .pushed (some ⟨.set, "a"⟩) a, .reported ⟨.set, "a"⟩ a, .pushed none seed], ()⟩
  have started : printing.start overdrawing () = .ok session := by cbv
  have fails : execute printing overdrawing session = some (.error .stackUnderflow, final) := by cbv
  have uncleaned : ∀ obligation, .cleaned obligation false ∉ final.history := by
    simp [final, Session.history]
  obtain ⟨-, -, -, outcome, reached, run, -, balances⟩ := execute_balances serves literal started
  obtain ⟨rfl, rfl⟩ : outcome = .error .stackUnderflow ∧ reached = final := by
    have same := run.symm.trans fails
    simpa using same
  obtain ⟨before, step, overran, -⟩ := (balances uncleaned).overran rfl
  exact ⟨serves, literal, session, final, started, fails, ⟨before, step, overran⟩, rfl, rfl⟩

end Runtime

end Provision
