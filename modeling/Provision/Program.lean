import Provision.Step

/-! The pending steps of a run, and the part of them that is nested under the
step in front. -/

namespace Provision

/-- Steps not yet executed, next one first. -/
abbrev Program := List Step

namespace Program

/-- Read on from `level` open levels and cut before the POP that would close one
level too many. -/
def splitLevel : (level : Nat) → List Step → List Step × List Step
  | _, [] => ([], [])
  | level, step :: rest =>
    if step.isPop then
      match level with
      | 0 => ([], step :: rest)
      | level + 1 =>
        let (inside, outside) := splitLevel level rest
        (step :: inside, outside)
    else
      let (inside, outside) := splitLevel (level + 1) rest
      (step :: inside, outside)

theorem splitLevel_open {step : Step} (opens : step.isPop = false) (level : Nat)
    (rest : List Step) :
    splitLevel level (step :: rest) =
      (step :: (splitLevel (level + 1) rest).1, (splitLevel (level + 1) rest).2) := by
  rw [splitLevel.eq_def]
  simp [opens]

theorem splitLevel_close {step : Step} (closes : step.isPop = true) (level : Nat)
    (rest : List Step) :
    splitLevel (level + 1) (step :: rest) =
      (step :: (splitLevel level rest).1, (splitLevel level rest).2) := by
  rw [splitLevel.eq_def]
  simp [closes]

theorem splitLevel_stop {step : Step} (closes : step.isPop = true) (rest : List Step) :
    splitLevel 0 (step :: rest) = ([], step :: rest) := by
  rw [splitLevel.eq_def]
  simp [closes]

/-- The steps nested under the step that was just taken, and the rest, which
still begins with the POP of that step if there is one. -/
def splitChildren (program : Program) : List Step × Program := splitLevel 0 program

/-- Nothing is lost and nothing reordered by the cut. -/
theorem splitLevel_append (level : Nat) (steps : List Step) :
    (splitLevel level steps).1 ++ (splitLevel level steps).2 = steps := by
  induction steps generalizing level with
  | nil => rfl
  | cons step rest ih =>
    cases pops : step.isPop with
    | false => simpa [splitLevel_open pops] using ih (level + 1)
    | true =>
      cases level with
      | zero => simp [splitLevel_stop pops]
      | succ level => simpa [splitLevel_close pops] using ih level

theorem splitChildren_append (program : Program) :
    program.splitChildren.1 ++ program.splitChildren.2 = program :=
  splitLevel_append 0 program

theorem length_children_le (program : Program) :
    program.splitChildren.1.length ≤ program.length := by
  have parts := congrArg List.length program.splitChildren_append
  simp only [List.length_append] at parts
  omega

/-- Drop the POP of a finished level. -/
def dropPop : List Step → List Step
  | [] => []
  | step :: rest => if step.isPop then rest else step :: rest

theorem length_dropPop_le (steps : List Step) : (dropPop steps).length ≤ steps.length := by
  cases steps with
  | nil => simp [dropPop]
  | cons step rest => by_cases pops : step.isPop <;> simp [dropPop, pops]

theorem length_siblings_le (program : Program) :
    (dropPop program.splitChildren.2).length ≤ program.length := by
  have parts := congrArg List.length program.splitChildren_append
  have fewer := length_dropPop_le program.splitChildren.2
  simp only [List.length_append] at parts
  omega

end Program

end Provision
