import Mathlib.Data.List.Basic
import Provision.Proofs.Engine.Flattening

/-! The forest of a list of steps, balanced or not, is the nesting that one finds by reading the
list from left to right: a step that is no POP opens a level, and a POP closes the innermost open
one, if there is one. -/

namespace Provision

/-- The steps that open a level. -/
def Step.openers (steps : List Step) : List Step := steps.filter fun step => !step.isPop

/-- The level reached by reading the steps. POPs do not go below the outermost level. -/
def Step.level (steps : List Step) : Nat :=
  steps.foldl (fun level step => if step.isPop then level - 1 else level + 1) 0

theorem Step.openers_open {step : Step} (opens : step.isPop = false) (rest : List Step) :
    openers (step :: rest) = step :: openers rest := by
  simp [openers, opens]

theorem Step.openers_close {step : Step} (closes : step.isPop = true) (rest : List Step) :
    openers (step :: rest) = openers rest := by
  simp [openers, closes]

theorem Step.openers_append (first second : List Step) :
    openers (first ++ second) = openers first ++ openers second := List.filter_append ..

/-- Levels that are open after the steps, innermost first, each as the place of the step that opened
it. Places count the steps that open a level. -/
def Step.scopes (levels : List Nat) (place : Nat) : List Step → List Nat
  | [] => levels
  | step :: rest =>
    if step.isPop then scopes levels.tail place rest else scopes (place :: levels) (place + 1) rest

/-- The steps that open a level, each with the levels that were open before it. `above` holds levels
that nothing in the list closes. -/
def Step.lineages (above levels : List Nat) (place : Nat) : List Step → List (List Nat × Step)
  | [] => []
  | step :: rest =>
    if step.isPop then lineages above levels.tail place rest
    else (levels ++ above, step) :: lineages above (place :: levels) (place + 1) rest

namespace Step

variable {step : Step} {above levels : List Nat} {place : Nat} {rest : List Step}

theorem scopes_open (opens : step.isPop = false) :
    scopes levels place (step :: rest) = scopes (place :: levels) (place + 1) rest := by
  rw [scopes, opens]
  rfl

theorem scopes_close (closes : step.isPop = true) :
    scopes levels place (step :: rest) = scopes levels.tail place rest := by
  rw [scopes, if_pos closes]

theorem lineages_open (opens : step.isPop = false) :
    lineages above levels place (step :: rest) =
      (levels ++ above, step) :: lineages above (place :: levels) (place + 1) rest := by
  rw [lineages, opens]
  rfl

theorem lineages_close (closes : step.isPop = true) :
    lineages above levels place (step :: rest) = lineages above levels.tail place rest := by
  rw [lineages, if_pos closes]

theorem map_lineages (above levels : List Nat) (place : Nat) (steps : List Step) :
    (lineages above levels place steps).map Prod.snd = openers steps := by
  induction steps generalizing levels place with
  | nil => rfl
  | cons step rest ih =>
    cases pops : step.isPop with
    | false => rw [lineages_open pops, openers_open pops, List.map_cons, ih]
    | true => rw [lineages_close pops, openers_close pops, ih]

theorem length_lineages (above levels : List Nat) (place : Nat) (steps : List Step) :
    (lineages above levels place steps).length = (openers steps).length := by
  rw [← map_lineages above levels place steps, List.length_map]

/-- A step's entry comes after those of the openers in front of it. -/
theorem getElem?_lineages (opens : step.isPop = false) (above levels : List Nat) (place : Nat)
    (before after : List Step) :
    (lineages above levels place (before ++ step :: after))[(openers before).length]? =
      some (scopes levels place before ++ above, step) := by
  induction before generalizing levels place with
  | nil => simp [lineages_open opens, openers, scopes]
  | cons first before ih =>
    rw [List.cons_append]
    cases pops : first.isPop with
    | false =>
      rw [lineages_open pops, openers_open pops, scopes_open pops, List.length_cons,
        List.getElem?_cons_succ, ih]
    | true => rw [lineages_close pops, openers_close pops, scopes_close pops, ih]

theorem length_scopes (levels : List Nat) (place : Nat) (steps : List Step) :
    (scopes levels place steps).length =
      steps.foldl (fun level step => if step.isPop then level - 1 else level + 1) levels.length := by
  induction steps generalizing levels place with
  | nil => rfl
  | cons step rest ih =>
    cases pops : step.isPop with
    | false => simp [scopes_open pops, ih, pops]
    | true => simp [scopes_close pops, ih, pops]

theorem length_scopes_eq_level (place : Nat) (steps : List Step) :
    (scopes [] place steps).length = level steps := length_scopes [] place steps

theorem scopes_append (levels : List Nat) (place : Nat) (first second : List Step) :
    scopes levels place (first ++ second) =
      scopes (scopes levels place first) (place + (openers first).length) second := by
  induction first generalizing levels place with
  | nil => rfl
  | cons step first ih =>
    rw [List.cons_append]
    cases pops : step.isPop with
    | false =>
      rw [scopes_open pops, scopes_open pops, openers_open pops, ih, List.length_cons,
        Nat.add_right_comm, Nat.add_assoc place]
    | true => rw [scopes_close pops, scopes_close pops, openers_close pops, ih]

/-- A level that is open was opened by a step of the list. -/
theorem lt_of_mem_scopes {steps : List Step} {levels : List Nat} {place opener : Nat}
    (earlier : ∀ level ∈ levels, level < place) (member : opener ∈ scopes levels place steps) :
    opener < place + (openers steps).length := by
  induction steps generalizing levels place with
  | nil => exact earlier opener member
  | cons step rest ih =>
    cases pops : step.isPop with
    | false =>
      rw [scopes_open pops] at member
      have inside : ∀ level ∈ place :: levels, level < place + 1 := by
        intro level open_
        rcases List.mem_cons.mp open_ with rfl | older
        · omega
        · have lower := earlier level older
          omega
      have bound := ih inside member
      rw [openers_open pops, List.length_cons]
      omega
    | true =>
      rw [scopes_close pops] at member
      rw [openers_close pops]
      exact ih (fun level inside => earlier level (List.mem_of_mem_tail inside)) member

/-- Every POP of the list has a level to close. -/
def Fed (steps : List Step) : Prop :=
  ∀ before, before <+: steps →
    (before.filter Step.isPop).length ≤ (before.filter fun step => !step.isPop).length

theorem Fed.of_prefix {before steps : List Step} (fed : Fed steps) (front : before <+: steps) :
    Fed before := fun earlier start => fed earlier (start.trans front)

/-- Where no POP goes below the outermost level, the level is a difference of counts. -/
theorem Fed.level_add {steps : List Step} (fed : Fed steps) :
    level steps + (steps.filter Step.isPop).length = (openers steps).length := by
  induction steps using List.reverseRecOn with
  | nil => rfl
  | append_singleton steps step ih =>
    have whole := fed _ List.prefix_rfl
    have before := ih (fed.of_prefix (List.prefix_append steps [step]))
    simp only [level, List.foldl_append, List.foldl_cons, List.foldl_nil, openers,
      List.filter_append, List.length_append] at before whole ⊢
    cases pops : step.isPop with
    | false =>
      simp [pops] at whole ⊢
      omega
    | true =>
      simp [pops] at whole ⊢
      omega

/-- In front of such a POP a level is open. -/
theorem Fed.scopes_ne_nil {before after : List Step} (fed : Fed (before ++ step :: after))
    (closes : step.isPop = true) : scopes [] 0 before ≠ [] := by
  have front : before ++ [step] <+: before ++ step :: after := ⟨after, by simp⟩
  have counts := fed _ front
  have reached := (fed.of_prefix (List.prefix_append before _)).level_add
  intro none
  have outermost : level before = 0 := by rw [← length_scopes_eq_level 0, none]; rfl
  simp only [List.filter_append, List.length_append] at counts
  simp [closes] at counts
  simp only [openers] at reached
  omega

/-- Where a level is read up to its end, what was inside it has the level's opener above it, and what
comes after it has not. -/
theorem lineages_splitLevel (above levels : List Nat) (opener place : Nat) (steps : List Step) :
    lineages above (levels ++ [opener]) place steps =
      lineages (opener :: above) levels place (Program.splitLevel levels.length steps).1 ++
        lineages above [] (place + (openers (Program.splitLevel levels.length steps).1).length)
          (Program.dropPop (Program.splitLevel levels.length steps).2) := by
  induction steps generalizing levels place with
  | nil => rfl
  | cons step rest ih =>
    cases pops : step.isPop with
    | false =>
      have inner := ih (place :: levels) (place + 1)
      rw [List.length_cons, List.cons_append] at inner
      simp only [Program.splitLevel_open pops]
      rw [lineages_open pops, lineages_open pops, openers_open pops, inner]
      simp only [List.cons_append, List.append_assoc, List.nil_append, List.length_cons,
        Nat.add_assoc, Nat.add_comm 1]
    | true =>
      rw [lineages_close pops]
      cases levels with
      | nil =>
        simp only [List.length_nil, Program.splitLevel_stop pops]
        simp [lineages, openers, Program.dropPop, pops]
      | cons innermost levels =>
        simp only [List.length_cons, Program.splitLevel_close pops]
        rw [lineages_close pops, openers_close pops]
        exact ih levels place

end Step

namespace Forest

/-- How many steps there are. -/
def size : Forest → Nat
  | nil => 0
  | cons _ children siblings => 1 + children.size + siblings.size

/-- The steps in program order, each with the places of the steps it is nested under, nearest first.
`place` is that of the first step. -/
def lineages (above : List Nat) (place : Nat) : Forest → List (List Nat × Step)
  | nil => []
  | cons step children siblings =>
    (above, step) :: (children.lineages (place :: above) (place + 1) ++
      siblings.lineages above (place + 1 + children.size))

theorem length_lineages (above : List Nat) (place : Nat) (forest : Forest) :
    (forest.lineages above place).length = forest.size := by
  induction forest generalizing above place with
  | nil => rfl
  | cons step children siblings insideIH laterIH =>
    simp only [lineages, size, List.length_cons, List.length_append, insideIH, laterIH]
    omega

/-- The depth of a step is how many steps it is nested under. -/
theorem preorder_eq_lineages (above : List Nat) (place : Nat) (forest : Forest) :
    forest.preorder above.length =
      (forest.lineages above place).map fun entry => (entry.1.length, entry.2) := by
  induction forest generalizing above place with
  | nil => rfl
  | cons step children siblings insideIH laterIH =>
    simp only [preorder, lineages, List.map_cons, List.map_append]
    rw [← insideIH, ← laterIH]
    rfl

theorem ofSteps_nil : ofSteps [] = nil := by
  rw [ofSteps]

theorem ofSteps_close {step : Step} (closes : step.isPop = true) (rest : List Step) :
    ofSteps (step :: rest) = ofSteps rest := by
  rw [ofSteps, if_pos closes]

theorem ofSteps_open {step : Step} (opens : step.isPop = false) (rest : List Step) :
    ofSteps (step :: rest) =
      cons step (ofSteps (Program.splitChildren rest).1)
        (ofSteps (Program.dropPop (Program.splitChildren rest).2)) := by
  rw [ofSteps, opens]
  rfl

/-- Induction on the length of the list. Inside a level, and behind it, the list is shorter. -/
theorem lineages_ofSteps (above : List Nat) (place : Nat) (steps : List Step) :
    (ofSteps steps).lineages above place = Step.lineages above [] place steps := by
  induction length : steps.length using Nat.strong_induction_on generalizing above place steps with
  | _ length ih =>
    cases steps with
    | nil => rw [ofSteps_nil]; rfl
    | cons step rest =>
      rw [List.length_cons] at length
      cases pops : step.isPop with
      | true =>
        rw [ofSteps_close pops, Step.lineages_close pops]
        exact ih rest.length (by omega) above place rest rfl
      | false =>
        have shorter := Program.length_children_le rest
        have later := Program.length_siblings_le rest
        have inside (above : List Nat) (place : Nat) :=
          ih _ (by omega) above place (Program.splitChildren rest).1 rfl
        have behind (place : Nat) :=
          ih _ (by omega) above place (Program.dropPop (Program.splitChildren rest).2) rfl
        have size : (ofSteps (Program.splitChildren rest).1).size =
            (Step.openers (Program.splitChildren rest).1).length := by
          rw [← length_lineages above place, inside, Step.length_lineages]
        rw [ofSteps_open pops, Step.lineages_open pops, lineages, inside, behind, size]
        exact congrArg _ (Step.lineages_splitLevel above [] place (place + 1) rest).symm

/-- Reading a written forest gives the forest back. -/
theorem ofSteps_flatten {forest : Forest} (proper : forest.Proper) :
    ofSteps forest.flatten = forest := by
  induction forest with
  | nil => exact ofSteps_nil
  | cons step children siblings insideIH laterIH =>
    obtain ⟨opens, inside, later⟩ := proper
    have cut := Program.splitChildren_flatten inside siblings.flatten
    have rest : Program.dropPop (Step.pop :: siblings.flatten) = siblings.flatten := by
      simp [Program.dropPop, Step.isPop_pop]
    rw [flatten, ofSteps_open opens, cut, rest, insideIH inside, laterIH later]

/-- What is listed of a forest that was read from a list. -/
theorem preorder_ofSteps (steps : List Step) :
    (ofSteps steps).preorder 0 =
      (Step.lineages [] [] 0 steps).map fun entry => (entry.1.length, entry.2) := by
  rw [← lineages_ofSteps]
  exact preorder_eq_lineages [] 0 _

/-- A written forest is read back as it was. Of any list at all, balanced or not, the forest has each
step that is no POP, once and in the order of the list, at the depth that reading the list up to the
step reaches. -/
theorem ofSteps_inverts_flatten :
    (∀ forest : Forest, forest.Proper → ofSteps forest.flatten = forest) ∧
    ∀ steps : List Step,
      ((ofSteps steps).preorder 0).map Prod.snd = steps.filter (fun step => !step.isPop) ∧
      ∀ before step after, steps = before ++ step :: after → step.isPop = false →
        ((ofSteps steps).preorder 0)[(before.filter fun step => !step.isPop).length]? =
          some (Step.level before, step) := by
  refine ⟨fun forest => ofSteps_flatten, fun steps => ⟨?_, ?_⟩⟩
  · rw [preorder_ofSteps, List.map_map]
    exact Step.map_lineages [] [] 0 steps
  · rintro before step after rfl opens
    have entry := Step.getElem?_lineages opens [] [] 0 before after
    rw [preorder_ofSteps, List.getElem?_map]
    change Option.map _ (Step.lineages [] [] 0 _)[(Step.openers before).length]? = _
    rw [entry, Option.map_some, List.append_nil, Step.length_scopes_eq_level]

/-- A POP with nothing to close, a POP with a parameter, and a level that is left open. -/
theorem ofSteps_inverts_flatten_unbalanced :
    let steps : List Step :=
      [.pop, ⟨.set, "a"⟩, ⟨.set, "b"⟩, ⟨.pop, "unread"⟩, ⟨.wait, ""⟩, ⟨.set, "c"⟩]
    let forest : Forest := .cons ⟨.set, "a"⟩
      (.cons ⟨.set, "b"⟩ .nil (.cons ⟨.wait, ""⟩ (.cons ⟨.set, "c"⟩ .nil .nil) .nil)) .nil
    ofSteps forest.flatten = forest ∧
      ((ofSteps steps).preorder 0)[3]? = some (2, ⟨.set, "c"⟩) := by
  intro steps forest
  have proper : forest.Proper := by simp [forest, Proper, Step.isPop, Operation.isPop]
  obtain ⟨-, depths⟩ := ofSteps_inverts_flatten.2 steps
  exact ⟨ofSteps_inverts_flatten.1 forest proper,
    depths [.pop, ⟨.set, "a"⟩, ⟨.set, "b"⟩, ⟨.pop, "unread"⟩, ⟨.wait, ""⟩] ⟨.set, "c"⟩ [] rfl rfl⟩

end Forest

end Provision
