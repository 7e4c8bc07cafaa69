import Provision.Proofs.Engine.Extraction
import Provision.Proofs.Forest.Levels

/-! Closing the levels that a list of steps leaves open. How many POPs are appended is a difference of
counts, which takes a POP that closes nothing for one that closes a level: for each of them a level is
left open, unless fewer are open. -/

namespace Provision

namespace Step

/-- POPs that find no level open, where so many are open at the start. -/
def strays : (level : Nat) → List Step → Nat
  | _, [] => 0
  | level, step :: rest =>
    if step.isPop then
      match level with
      | 0 => strays 0 rest + 1
      | level + 1 => strays level rest
    else strays (level + 1) rest

variable {step : Step} {rest steps : List Step} {level : Nat}

theorem strays_open (opens : step.isPop = false) :
    strays level (step :: rest) = strays (level + 1) rest := by
  rw [strays.eq_def]
  simp [opens]

theorem strays_close (closes : step.isPop = true) :
    strays (level + 1) (step :: rest) = strays level rest := by
  rw [strays.eq_def]
  simp [closes]

theorem strays_below (closes : step.isPop = true) :
    strays 0 (step :: rest) = strays 0 rest + 1 := by
  rw [strays.eq_def]
  simp [closes]

/-- The level reached from an open one. -/
def levelOver (level : Nat) (steps : List Step) : Nat :=
  steps.foldl (fun level step => if step.isPop then level - 1 else level + 1) level

theorem levelOver_open (opens : step.isPop = false) :
    levelOver level (step :: rest) = levelOver (level + 1) rest := by
  simp [levelOver, opens]

theorem levelOver_close (closes : step.isPop = true) :
    levelOver level (step :: rest) = levelOver (level - 1) rest := by
  simp [levelOver, closes]

theorem levelOver_append (level : Nat) (first second : List Step) :
    levelOver level (first ++ second) = levelOver (levelOver level first) second :=
  List.foldl_append

/-- A POP lowers the balance whether or not it closes a level. Induction on the steps, from any level. -/
theorem levelOver_eq (level : Nat) (steps : List Step) :
    (levelOver level steps : Int) = level + balance steps + strays level steps := by
  induction steps generalizing level with
  | nil => simp [levelOver, balance, strays]
  | cons step rest ih =>
    cases pops : step.isPop with
    | false =>
      have inside := ih (level + 1)
      rw [levelOver_open pops, balance_open pops, strays_open pops]
      omega
    | true =>
      rw [levelOver_close pops, balance_close pops]
      cases level with
      | zero =>
        have inside := ih 0
        rw [strays_below pops]
        simp only [Nat.zero_sub]
        omega
      | succ level =>
        have inside := ih level
        rw [strays_close pops, Nat.add_sub_cancel]
        omega

theorem levelOver_pops (level count : Nat) :
    levelOver level (List.replicate count pop) = level - count := by
  induction count generalizing level with
  | zero => rfl
  | succ count ih =>
    rw [List.replicate_succ, levelOver_close isPop_pop, ih]
    omega

theorem balance_pops (count : Nat) : balance (List.replicate count pop) = -(count : Int) := by
  induction count with
  | zero => rfl
  | succ count ih =>
    rw [List.replicate_succ, balance_close isPop_pop, ih]
    omega

/-- No POP is stray if and only if none goes below the level at the start. -/
theorem strays_eq_zero_iff : strays level steps = 0 ↔ (levelFrom level steps).isSome := by
  induction steps generalizing level with
  | nil => simp [strays, levelFrom]
  | cons step rest ih =>
    cases pops : step.isPop with
    | false => rw [strays_open pops, levelFrom_open pops, ih]
    | true =>
      cases level with
      | zero => simp [strays_below pops, levelFrom_below pops]
      | succ level => rw [strays_close pops, levelFrom_close pops, ih]

end Step

namespace Builder

open Step

variable (calls : List Call)

/-- How many POPs a builder appends. -/
def closers : Nat := (balance (steps calls)).toNat

theorem build_eq : build calls = steps calls ++ List.replicate (closers calls) .pop := rfl

/-- As many levels stay open as there are stray POPs, or all of them if those are fewer. -/
theorem level_build : level (build calls) = min (level (steps calls)) (strays 0 (steps calls)) := by
  have reached : (level (steps calls) : Int) = _ := levelOver_eq 0 (steps calls)
  have closed : level (build calls) = level (steps calls) - closers calls := by
    rw [build_eq]
    exact (levelOver_append 0 _ _).trans (levelOver_pops _ _)
  rw [closed, closers]
  omega

/-- Nothing is appended to what was built. -/
theorem build_resume : build (resume (build calls)) = build calls := by
  have settled : (balance (build calls)).toNat = 0 := by
    rw [build_eq, balance_append, balance_pops, closers]
    omega
  rw [build, steps_resume, close, settled, List.replicate_zero, List.append_nil]

/-- A further step would stand at the level that is open. -/
theorem depth_behind (steps : List Step) {step : Step} (opens : step.isPop = false) :
    ((Forest.ofSteps (steps ++ [step])).preorder 0).getLast? = some (level steps, step) := by
  have entry := getElem?_lineages opens [] [] 0 steps []
  have last : (lineages [] [] 0 (steps ++ [step])).length = (openers steps).length + 1 := by
    rw [length_lineages, openers_append, openers_open opens, List.length_append]
    rfl
  rw [Forest.preorder_ofSteps, List.getLast?_map, List.getLast?_eq_getElem?, last,
    Nat.add_sub_cancel, entry, Option.map_some, List.append_nil, length_scopes_eq_level]

/-- Building keeps the steps that were added and appends POPs. It closes every level if no POP among
them is without a level to close, or if they leave no level open, and only then: otherwise as many
levels stay open as there are such POPs, or all that were open if those are fewer. No POP is appended
too many, and none the second time. What is open is what a further step would be nested under. -/
theorem build_closes :
    (∃ count, build calls = steps calls ++ List.replicate count .pop ∧
      ∀ fewer < count, level (steps calls ++ List.replicate fewer .pop) ≠ 0) ∧
    level (build calls) = min (level (steps calls)) (strays 0 (steps calls)) ∧
    (level (build calls) = 0 ↔ Fed (steps calls) ∨ level (steps calls) = 0) ∧
    build (resume (build calls)) = build calls ∧
    ∀ step : Step, step.isPop = false →
      ((Forest.ofSteps (build calls ++ [step])).preorder 0).getLast? =
        some (level (build calls), step) := by
  have reached : (level (steps calls) : Int) = _ := levelOver_eq 0 (steps calls)
  refine ⟨⟨closers calls, build_eq calls, ?_⟩, level_build calls, ?_, build_resume calls,
    fun step opens => depth_behind (build calls) opens⟩
  · intro fewer less
    have open_ : level (steps calls ++ List.replicate fewer .pop) = level (steps calls) - fewer :=
      (levelOver_append 0 _ _).trans (levelOver_pops _ _)
    rw [closers] at less
    omega
  · rw [level_build, fed_iff_levelFrom, ← strays_eq_zero_iff]
    omega

/-- The last command stands inside the download, and what is added behind both does not. -/
theorem build_closes_nested :
    let calls : List Call := [.add .download "u", .moveTo "/tmp/x", .pop, .command "/tmp/x"]
    let later : Step := ⟨.wait, ""⟩
    Fed (steps calls) ∧ level (build calls) = 0 ∧ later.isPop = false ∧
      ((Forest.ofSteps (build calls ++ [later])).preorder 0).getLast? = some (0, later) := by
  intro calls later
  obtain ⟨-, -, closed, -, behind⟩ := build_closes calls
  have fed : Fed (steps calls) := fed_iff_levelFrom.mpr rfl
  have nothing : level (build calls) = 0 := closed.mpr (.inl fed)
  exact ⟨fed, nothing, rfl, nothing ▸ behind later rfl⟩

/-- The POP in front closes nothing, but is counted against the step behind it, whose level stays
open. -/
theorem surplus_pop_leaves_open :
    let calls : List Call := [.pop, .add .set "x"]
    build calls = [.pop, ⟨.set, "x"⟩] ∧ level (build calls) = 1 ∧
      level (build calls ++ [.pop]) = 0 := by
  decide

end Builder

end Provision
