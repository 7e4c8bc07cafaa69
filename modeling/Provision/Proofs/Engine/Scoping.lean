import Provision.Proofs.Engine.Course
import Provision.Proofs.Forest.Levels
import Provision.Proofs.Placeholder.Replacement

/-! Placeholders are lexical. Where handlers leave the stack and the pending program alone, the frames
on the stack are the results of the steps that the next step is nested under, whatever was run and
finished before it. -/

namespace Provision

variable {σ α : Type}

/-- A handler that leaves the stack and the pending program alone. -/
def Handling.Aloof : Handling σ α → Prop
  | done _ | failed _ => True
  | observe next => ∀ world, (next world).Aloof
  | update _ next => next.Aloof
  | look next => ∀ scene, (next scene).Aloof
  | children _ => False
  | insert steps next => steps = [] ∧ (next (.ok ())).Aloof
  | report _ _ next => next.Aloof

def Runtime.Aloof (runtime : Runtime σ) : Prop :=
  ∀ operation handler, runtime.handlers operation = some handler → ∀ task, (handler task).Aloof

namespace Session

/-- Every frame that was pushed, in order, with the step that it is the result of. -/
def pushes (session : Session σ) : List (Option Step × Frame) :=
  session.history.filterMap fun
    | .pushed step frame => some (step, frame)
    | _ => none

theorem pushes_push (session : Session σ) (step : Option Step) (frame : Frame) :
    (session.push step frame).pushes = session.pushes ++ [(step, frame)] := by
  simp [pushes, history, push]

theorem pushes_report (runtime : Runtime σ) (session : Session σ) (step : Step) (frame : Frame) :
    (runtime.report step frame session).pushes = session.pushes := by
  simp [pushes, history, Runtime.report]

theorem pushes_pop (runtime : Runtime σ) (session : Session σ) :
    (session.pop runtime.clean).2.pushes = session.pushes := by
  rcases popped : session.pop runtime.clean with ⟨outcome, after⟩
  cases pops_of_pop popped <;> simp [pushes, history]

end Session

variable {runtime : Runtime σ} {software : Software} {seed : Frame} {before : List Step}
  {results : List Frame} {session : Session σ} {step : Step}

/-- The session once the steps have been executed. Each that opened a level has left one result, and
the results of the levels that are open stand on the seed. -/
structure Executed (seed : Frame) (before : List Step) (results : List Frame)
    (session : Session σ) : Prop where
  count : results.length = (Step.openers before).length
  pushes : session.pushes = (none, seed) :: ((Step.openers before).map some).zip results
  stack : session.stack.map some = (Step.scopes [] 0 before).map (results[·]?) ++ [some seed]

namespace Executed

/-- Nothing but the stack and the history counts. -/
theorem keep {other : Session σ} (executed : Executed seed before results session)
    (stack : other.stack = session.stack) (pushes : other.pushes = session.pushes) :
    Executed seed before results other :=
  ⟨executed.count, pushes.trans executed.pushes, stack ▸ executed.stack⟩

theorem start {world : σ} (started : runtime.start software world = .ok session) :
    session.pending = software.steps ∧
      ∃ text, Placeholder.resolve runtime.constants [] software.parameter = .ok text ∧
        Executed (.ofValue text) [] [] session := by
  obtain ⟨text, resolved, rfl⟩ := Runtime.start_ok started
  exact ⟨rfl, text, resolved, rfl, rfl, rfl⟩

/-- The result of a step is on top until its level is closed. -/
theorem push (executed : Executed seed before results session) (opens : step.isPop = false)
    (frame : Frame) :
    Executed seed (before ++ [step]) (results ++ [frame]) (session.push (some step) frame) where
  count := by
    rw [Step.openers_append, Step.openers_open opens, List.length_append, List.length_append,
      executed.count]
    rfl
  pushes := by
    have count : ((Step.openers before).map some).length = results.length := by
      rw [List.length_map, executed.count]
    rw [Session.pushes_push, executed.pushes, Step.openers_append, Step.openers_open opens,
      List.map_append, List.zip_append count]
    rfl
  stack := by
    have opened : Step.scopes [] 0 (before ++ [step]) =
        results.length :: Step.scopes [] 0 before := by
      rw [Step.scopes_append, Step.scopes_open opens, executed.count, Nat.zero_add]
      rfl
    have kept : (Step.scopes [] 0 before).map ((results ++ [frame])[·]?) =
        (Step.scopes [] 0 before).map (results[·]?) := by
      apply List.map_congr_left
      intro place member
      have earlier := Step.lt_of_mem_scopes (by simp) member
      rw [Nat.zero_add, ← executed.count] at earlier
      exact List.getElem?_append_left earlier
    rw [opened, List.map_cons, kept, List.getElem?_concat_length]
    exact congrArg (some frame :: ·) executed.stack

/-- A POP that has a level to close takes away the result of that level's opener. -/
theorem pop (executed : Executed seed before results session) (closes : step.isPop = true)
    (level : Step.scopes [] 0 before ≠ []) :
    Executed seed (before ++ [step]) results (session.pop runtime.clean).2 where
  count := by
    rw [Step.openers_append, Step.openers_close closes]
    simpa [Step.openers] using executed.count
  pushes := by
    rw [Session.pushes_pop, executed.pushes, Step.openers_append, Step.openers_close closes]
    simp [Step.openers]
  stack := by
    obtain ⟨innermost, outer, levels⟩ := List.exists_cons_of_ne_nil level
    have closed : Step.scopes [] 0 (before ++ [step]) = outer := by
      rw [Step.scopes_append, Step.scopes_close closes, levels]
      rfl
    have stack := executed.stack
    rw [levels] at stack
    cases frames : session.stack with
    | nil => simp [frames] at stack
    | cons frame below =>
      rw [frames, List.map_cons, List.map_cons, List.cons_append] at stack
      rw [Session.pop_stack runtime frames, closed]
      exact (List.cons.inj stack).2

end Executed

namespace Moment

/-- At any moment of such a run no handler waits, and the session is the one that the steps in front
of the next one leave. -/
def Lexical (steps : List Step) (seed : Frame) : Moment σ → Prop
  | ⟨.turn, callers, session⟩ | ⟨.leave (.ok ()), callers, session⟩ =>
    callers = [] ∧ ∃ before results,
      steps = before ++ session.pending ∧ Executed seed before results session
  | ⟨.enter step, callers, session⟩ =>
    callers = [] ∧ ∃ before results,
      steps = before ++ step :: session.pending ∧ Executed seed before results session
  | ⟨.handle step _ work, callers, session⟩ =>
    callers = [] ∧ step.isPop = false ∧ work.Aloof ∧ ∃ before results,
      steps = before ++ step :: session.pending ∧ Executed seed before results session
  | ⟨.leave (.error _), callers, _⟩ => callers = []
  | ⟨.drain, _, _⟩ | ⟨.ended _, _, _⟩ => True

variable {steps : List Step} {callers : List (Caller σ)}

theorem Lexical.enter (aloof : runtime.Aloof) (fed : Step.Fed steps)
    (lexical : Lexical steps seed ⟨.enter step, callers, session⟩) :
    Lexical steps seed (enter runtime software step callers session) := by
  obtain ⟨alone, before, results, place, executed⟩ := lexical
  unfold Moment.enter
  cases pops : step.isPop with
  | true =>
    rw [place] at fed
    have popped : Executed seed (before ++ [step]) results (session.pop runtime.clean).2 :=
      executed.pop pops (fed.scopes_ne_nil pops)
    rw [if_pos rfl]
    rcases (session.pop runtime.clean).1 with fault | _
    · exact alone
    · exact ⟨alone, before ++ [step], results, by simpa [Session.pop] using place, popped⟩
  | false =>
    rw [if_neg Bool.false_ne_true]
    split
    · exact alone
    · rename_i handler found
      split
      · exact alone
      · exact ⟨alone, pops, aloof _ _ found _, before, results, place, executed⟩

/-- Induction is not needed: a handler makes one request at a time. -/
theorem Lexical.handle {burdened : Bool} {work : Handling σ Frame}
    (lexical : Lexical steps seed ⟨.handle step burdened work, callers, session⟩) :
    Lexical steps seed (handle runtime step burdened callers session work) := by
  obtain ⟨alone, opens, aloof, before, results, place, executed⟩ := lexical
  cases work with
  | done frame =>
    have reported : Executed seed before results (runtime.report step frame session) :=
      executed.keep rfl (Session.pushes_report runtime session step frame)
    refine ⟨alone, before ++ [step], results ++ [frame], ?_, reported.push opens frame⟩
    simpa [Session.push, Runtime.report] using place
  | failed failure => exact alone
  | observe next => exact ⟨alone, opens, aloof _, before, results, place, executed⟩
  | update world next => exact ⟨alone, opens, aloof, before, results, place, executed.keep rfl rfl⟩
  | look next => exact ⟨alone, opens, aloof _, before, results, place, executed⟩
  | children next => exact aloof.elim
  | insert inserted next =>
    obtain ⟨rfl, calm⟩ := aloof
    exact ⟨alone, opens, calm, before, results, place, executed⟩
  | report other frame next =>
    exact ⟨alone, opens, aloof, before, results, place,
      executed.keep rfl (Session.pushes_report runtime session other frame)⟩

theorem Lexical.next? {first second : Moment σ} (aloof : runtime.Aloof) (fed : Step.Fed steps)
    (lexical : Lexical steps seed first) (move : first.next? runtime software = some second) :
    Lexical steps seed second := by
  cases moves_of_next? move with
  | finish nothing => trivial
  | take waiting =>
    obtain ⟨alone, before, results, place, executed⟩ := lexical
    exact ⟨alone, before, results, waiting ▸ place, executed.keep rfl rfl⟩
  | enter step callers session => exact lexical.enter aloof fed
  | handle step burdened callers session work => exact lexical.handle
  | leave outcome session callers =>
    cases outcome with
    | error fault =>
      cases lexical
      trivial
    | ok _ =>
      obtain ⟨rfl, during⟩ := lexical
      exact ⟨rfl, during⟩
  | drained empty => trivial
  | popped went => trivial
  | stopped failed => trivial

theorem Lexical.reaches {first last : Moment σ} (aloof : runtime.Aloof) (fed : Step.Fed steps)
    (lexical : Lexical steps seed first) (reaches : first.Reaches runtime software last) :
    Lexical steps seed last := by
  induction reaches with
  | refl => exact lexical
  | tail _ move ih => exact ih.next? aloof fed move

end Moment

/-- How a step stands when the run reaches it: where it is in the recipe, which results there are by
then, the places of the steps it is nested under, nearest first, and what its placeholders stand
for. -/
structure Situated (runtime : Runtime σ) (software : Software) (seed : String) (step : Step)
    (session : Session σ) (results : List Frame) (ancestors : List Nat) : Prop where
  reached : ∃ before, software.steps = before ++ step :: session.pending ∧
    results.length = (Step.openers before).length ∧
    session.pushes = (none, .ofValue seed) :: ((Step.openers before).map some).zip results
  lineage : ((Forest.ofSteps software.steps).lineages [] 0)[results.length]? = some (ancestors, step)
  depth : ((Forest.ofSteps software.steps).preorder 0)[results.length]? =
    some (ancestors.length, step)
  stack : session.stack.map some = ancestors.map (results[·]?) ++ [some (.ofValue seed)]
  ancestor : ∀ word, word ≠ [] → (∀ c ∈ word, c.isDigit) → ∀ place frame,
    ancestors[Placeholder.numeral word]? = some place → results[place]? = some frame →
    Placeholder.Yields runtime.constants session.stack word (.ok frame.value)
  seeded : ∀ word, word ≠ [] → (∀ c ∈ word, c.isDigit) →
    Placeholder.numeral word = ancestors.length →
    Placeholder.Yields runtime.constants session.stack word (.ok seed)
  beyond : ∀ word, word ≠ [] → (∀ c ∈ word, c.isDigit) →
    ancestors.length < Placeholder.numeral word →
    ∃ fault, fault.kind = .invalidRecipe ∧
      Placeholder.Yields runtime.constants session.stack word (.error fault)
  captured : ∀ parent outer frame, ancestors = parent :: outer → results[parent]? = some frame →
    Placeholder.Yields runtime.constants session.stack "STD_OUT".toList (.ok (frame.out.getD ""))
  outermost : ancestors = [] →
    Placeholder.Yields runtime.constants session.stack "STD_OUT".toList (.ok "")

namespace Executed

variable {seed : String}

theorem length_stack (executed : Executed (.ofValue seed) before results session) :
    session.stack.length = (Step.scopes [] 0 before).length + 1 := by
  have same := congrArg List.length executed.stack
  simpa using same

theorem found (executed : Executed (.ofValue seed) before results session) {index place : Nat}
    {frame : Frame} (nested : (Step.scopes [] 0 before)[index]? = some place)
    (result : results[place]? = some frame) : session.stack[index]? = some frame := by
  obtain ⟨inside, -⟩ := List.getElem?_eq_some_iff.mp nested
  have same := congrArg (·[index]?) executed.stack
  rw [List.getElem?_map, List.getElem?_append_left (by simpa using inside), List.getElem?_map,
    nested, Option.map_some, result] at same
  simpa using same

theorem found_seed (executed : Executed (.ofValue seed) before results session) :
    session.stack[(Step.scopes [] 0 before).length]? = some (.ofValue seed) := by
  have same := congrArg (·[(Step.scopes [] 0 before).length]?) executed.stack
  rw [List.getElem?_map, List.getElem?_append_right (by simp)] at same
  simpa using same

/-- The steps in front of a step decide how it stands. -/
theorem situated (executed : Executed (.ofValue seed) before results session)
    (opens : step.isPop = false) (place : software.steps = before ++ step :: session.pending) :
    Situated runtime software seed step session results (Step.scopes [] 0 before) where
  reached := ⟨before, place, executed.count, executed.pushes⟩
  lineage := by
    rw [Forest.lineages_ofSteps, executed.count, place, Step.getElem?_lineages opens,
      List.append_nil]
  depth := by
    rw [Forest.preorder_ofSteps, List.getElem?_map, executed.count, place,
      Step.getElem?_lineages opens, List.append_nil]
    rfl
  stack := executed.stack
  ancestor := by
    intro word full digits ancestor frame nested result
    have value := Placeholder.lookup_at runtime.constants digits (executed.found nested result)
    exact value ▸ Placeholder.yields_lookup (.inl ⟨full, digits⟩)
  seeded := by
    intro word full digits last
    have value := Placeholder.lookup_at runtime.constants digits (last ▸ executed.found_seed)
    exact value ▸ Placeholder.yields_lookup (.inl ⟨full, digits⟩)
  beyond := by
    intro word full digits deep
    have outside : ¬ Placeholder.numeral word < session.stack.length := by
      rw [executed.length_stack]
      omega
    have refused : Placeholder.lookup runtime.constants session.stack word = _ :=
      Placeholder.lookup_digits digits
    rw [dif_neg outside] at refused
    exact ⟨_, rfl, refused ▸ Placeholder.yields_lookup (.inl ⟨full, digits⟩)⟩
  captured := by
    intro parent outer frame nearest result
    have innermost : (Step.scopes [] 0 before)[0]? = some parent := by rw [nearest]; rfl
    have top := executed.found innermost result
    have value := Placeholder.lookup_out_at runtime.constants top
    exact value ▸ Placeholder.yields_lookup (.inr (.inl rfl))
  outermost := by
    intro none
    have top := executed.found_seed
    rw [none] at top
    have value := Placeholder.lookup_out_at runtime.constants top
    exact value ▸ Placeholder.yields_lookup (.inr (.inl rfl))

end Executed

open Moment in
/-- Whenever the run reaches a step, the stack holds the results of the steps that it is nested under
in the forest of the recipe, nearest first, and below them the seed; its placeholders stand for these
alone. Every outcome of the bounded engine is that of such a run. -/
theorem Runtime.stack_eq_ancestors (aloof : runtime.Aloof) (fed : Step.Fed software.steps)
    {world : σ} (started : runtime.start software world = .ok session) :
    (∀ outcome final, runtime.execute software session = some (outcome, final) →
      (begin session).Reaches runtime software ⟨.ended outcome, [], final⟩) ∧
    ∃ seed, Placeholder.resolve runtime.constants [] software.parameter = .ok seed ∧
      ∀ step callers current,
        (begin session).Reaches runtime software ⟨.enter step, callers, current⟩ →
        step.isPop = false →
        ∃ results ancestors, Situated runtime software seed step current results ancestors := by
  obtain ⟨pending, seed, resolved, initial⟩ := Executed.start started
  refine ⟨fun outcome final => reaches_execute, seed, resolved, ?_⟩
  intro step callers current reaches opens
  have first : Lexical software.steps (.ofValue seed) (begin session) :=
    ⟨rfl, [], [], pending.symm, initial⟩
  obtain ⟨-, before, results, place, executed⟩ := first.reaches aloof fed reaches
  exact ⟨results, _, executed.situated opens place⟩

namespace Runtime

/-- One handler hands its parameter on, and one prints it. -/
def printing : Runtime Unit where
  handlers
    | .set => some fun task => .done (.ofValue task.parameter)
    | .command => some fun task => .done ((Frame.ofValue "0").withOutput task.parameter "")
    | _ => none
  constants := ⟨[], fun _ => .error (.invalidRecipe "no constants")⟩
  facts := { family := .ubuntu, arch := .x86_64, id := ⟨0⟩ }
  clean _ world := (.ok (), world)
  announce _ _ world := world

/-- The second step is finished when the last one is reached; two levels stay open. -/
def unfinished : Software where
  parameter := "seed"
  steps := [⟨.set, "a"⟩, ⟨.command, "b"⟩, .pop, ⟨.command, "c"⟩, ⟨.set, "\x7b\x7b1\x7d\x7d"⟩]

open Moment in
/-- The last step is nested under the third and the first, and sees nothing of the second. -/
theorem stack_eq_ancestors_unfinished :
    printing.Aloof ∧ Step.Fed unfinished.steps ∧
      ∃ session current : Session Unit, printing.start unfinished () = .ok session ∧
        (begin session).Reaches printing unfinished
          ⟨.enter ⟨.set, "\x7b\x7b1\x7d\x7d"⟩, [], current⟩ ∧
        current.stack = [(Frame.ofValue "0").withOutput "c" "", .ofValue "a", .ofValue "seed"] ∧
        ∃ results ancestors, Situated printing unfinished "seed" ⟨.set, "\x7b\x7b1\x7d\x7d"⟩
          current results ancestors := by
  have aloof : printing.Aloof := by
    intro operation handler found task
    cases operation <;> cases found <;> trivial
  have fed : Step.Fed unfinished.steps := by
    have fronts : ∀ before ∈ unfinished.steps.inits, (before.filter Step.isPop).length ≤
        (before.filter fun step => !step.isPop).length := by decide
    exact fun before front => fronts before ((List.mem_inits _ _).mpr front)
  let seed := Frame.ofValue "seed"
  let a := Frame.ofValue "a"
  let b := (Frame.ofValue "0").withOutput "b" ""
  let c := (Frame.ofValue "0").withOutput "c" ""
  let session : Session Unit := ⟨unfinished.steps, [seed], [.pushed none seed], ()⟩
  let current : Session Unit := ⟨[], [c, a, seed],
    [.pushed (some ⟨.command, "c"⟩) c, .reported ⟨.command, "c"⟩ c, .popped b,
      .pushed (some ⟨.command, "b"⟩) b, .reported ⟨.command, "b"⟩ b,
      .pushed (some ⟨.set, "a"⟩) a, .reported ⟨.set, "a"⟩ a, .pushed none seed], ()⟩
  have started : printing.start unfinished () = .ok session := by cbv
  have later : later? printing unfinished 16 (begin session) =
      some ⟨.enter ⟨.set, "\x7b\x7b1\x7d\x7d"⟩, [], current⟩ := by cbv
  obtain ⟨-, text, resolved, sees⟩ := stack_eq_ancestors aloof fed started
  have same : text = "seed" := by
    have read : Placeholder.resolve printing.constants [] unfinished.parameter = .ok "seed" := by cbv
    exact Except.ok.inj (resolved.symm.trans read)
  have reaches := reaches_of_later later
  exact ⟨aloof, fed, session, current, started, reaches, rfl, same ▸ sees _ _ _ reaches rfl⟩

end Runtime

end Provision
