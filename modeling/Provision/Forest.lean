import Provision.Program

/-! Recipes as trees: a step, the steps nested under it, and its later siblings.
A flat list of steps is the written form of such a forest. -/

namespace Provision

inductive Forest where
  | nil
  | cons (step : Step) (children siblings : Forest)
  deriving DecidableEq, Repr

namespace Forest

/-- Each step, the flattened steps nested under it, and the POP that closes it. -/
def flatten : Forest → List Step
  | nil => []
  | cons step children siblings =>
    step :: (children.flatten ++ Step.pop :: siblings.flatten)

/-- Steps in program order, each with the number of steps it is nested under. -/
def preorder (depth : Nat) : Forest → List (Nat × Step)
  | nil => []
  | cons step children siblings =>
    (depth, step) :: (children.preorder (depth + 1) ++ siblings.preorder depth)

/-- Read a list of steps as a forest. POPs with nothing to close are skipped, and
levels left open end with the list. -/
def ofSteps (steps : List Step) : Forest :=
  match steps with
  | [] => nil
  | step :: rest =>
    if step.isPop then ofSteps rest
    else
      cons step (ofSteps (Program.splitChildren rest).1)
        (ofSteps (Program.dropPop (Program.splitChildren rest).2))
termination_by steps.length
decreasing_by
  · simp
  · exact Nat.lt_succ_of_le (Program.length_children_le rest)
  · exact Nat.lt_succ_of_le (Program.length_siblings_le rest)

end Forest

end Provision
