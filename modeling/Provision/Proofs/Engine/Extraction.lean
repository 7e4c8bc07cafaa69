import Provision.Proofs.Engine.Nesting

/-! Taking the steps nested under a step out of the pending ones. What is taken is the longest front in
which no POP is without a step to close; behind it stands the POP of the level itself, or nothing. The
loop that does this counts open levels, and never counts below zero. -/

namespace Provision

namespace Step

theorem balance_open {step : Step} (opens : step.isPop = false) (rest : List Step) :
    balance (step :: rest) = 1 + balance rest := by
  simp [balance, opens]

theorem balance_close {step : Step} (closes : step.isPop = true) (rest : List Step) :
    balance (step :: rest) = -1 + balance rest := by
  simp [balance, closes]

/-- The level that is reached is the one at the start and the balance. -/
theorem balance_of_levelFrom {steps : List Step} {level reached : Nat}
    (read : levelFrom level steps = some reached) : level + balance steps = reached := by
  induction steps generalizing level with
  | nil =>
    cases read
    exact Int.add_zero _
  | cons step rest ih =>
    cases pops : step.isPop with
    | false =>
      rw [levelFrom_open pops] at read
      have later := ih read
      rw [balance_open pops]
      omega
    | true =>
      cases level with
      | zero =>
        rw [levelFrom_below pops] at read
        cases read
      | succ level =>
        rw [levelFrom_close pops] at read
        have later := ih read
        rw [balance_close pops]
        omega

/-- Where a level is reached, no front has more POPs than levels to close. -/
theorem counts_of_levelFrom {steps before : List Step} {level : Nat}
    (stays : (levelFrom level steps).isSome) (front : before <+: steps) :
    (before.filter isPop).length ≤ level + (openers before).length := by
  induction steps generalizing level before with
  | nil =>
    rw [List.prefix_nil.mp front]
    exact Nat.zero_le _
  | cons step rest ih =>
    rcases List.prefix_cons_iff.mp front with rfl | ⟨later, rfl, begins⟩
    · exact Nat.zero_le _
    · cases pops : step.isPop with
      | false =>
        rw [levelFrom_open pops] at stays
        have inside := ih stays begins
        rw [openers_open pops, List.filter_cons_of_neg (by simp [pops]), List.length_cons]
        omega
      | true =>
        cases level with
        | zero =>
          rw [levelFrom_below pops] at stays
          cases stays
        | succ level =>
          rw [levelFrom_close pops] at stays
          have inside := ih stays begins
          rw [openers_close pops, List.filter_cons_of_pos pops, List.length_cons]
          omega

theorem fed_iff_levelFrom {steps : List Step} : Fed steps ↔ (levelFrom 0 steps).isSome := by
  constructor
  · intro fed
    have counts : ∀ before, before <+: steps →
        (before.filter isPop).length ≤ 0 + (openers before).length := fun before front => by
      rw [Nat.zero_add]
      exact fed before front
    obtain ⟨reached, read, -⟩ := levelFrom_of_fed counts
    rw [read]
    rfl
  · intro stays before front
    have counts := counts_of_levelFrom stays front
    rwa [Nat.zero_add] at counts

end Step

namespace Program

open Step

/-- Reading stops in front of a POP only when every level that was open, and every one opened since, is
closed. -/
theorem levelFrom_of_rest {level : Nat} {steps rest : List Step} {closing : Step}
    (stops : (splitLevel level steps).2 = closing :: rest) :
    closing.isPop = true ∧ levelFrom level (splitLevel level steps).1 = some 0 := by
  induction steps generalizing level with
  | nil => cases stops
  | cons step later ih =>
    cases pops : step.isPop with
    | false =>
      rw [splitLevel_open pops] at stops ⊢
      rw [levelFrom_open pops]
      exact ih stops
    | true =>
      cases level with
      | zero =>
        rw [splitLevel_stop pops] at stops ⊢
        cases stops
        exact ⟨pops, rfl⟩
      | succ level =>
        rw [splitLevel_close pops] at stops ⊢
        rw [levelFrom_close pops]
        exact ih stops

/-- The loop between two rounds: the levels it counts, as a number that could go below zero, the steps
it has taken, in their order, and those that are left. -/
structure Cutting where
  level : Int
  taken : List Step
  left : List Step

namespace Cutting

/-- A round takes the step in front, unless that is a POP on level zero. -/
def next? : Cutting → Option Cutting
  | ⟨_, _, []⟩ => none
  | ⟨level, taken, step :: left⟩ =>
    if step.isPop then
      if level = 0 then none else some ⟨level - 1, taken ++ [step], left⟩
    else some ⟨level + 1, taken ++ [step], left⟩

/-- The loop comes from one round to a later one. -/
def Reaches : Cutting → Cutting → Prop :=
  Relation.ReflTransGen fun first second => first.next? = some second

variable {first second cutting : Cutting}

/-- The counter is the balance of the steps that were taken, and none of them is a POP without a level
to close. -/
structure Counted (cutting : Cutting) : Prop where
  level : cutting.level = balance cutting.taken
  nonneg : 0 ≤ cutting.level

theorem Counted.next? (counted : first.Counted) (round : first.next? = some second) :
    second.Counted := by
  obtain ⟨level, taken, left⟩ := first
  obtain ⟨same, nonneg⟩ := counted
  dsimp only at same nonneg
  cases left with
  | nil => cases round
  | cons step left =>
    rw [Cutting.next?] at round
    split at round
    · rename_i pops
      split at round
      · cases round
      · rename_i open_
        cases round
        refine ⟨?_, by dsimp only; omega⟩
        rw [balance_append, balance_close pops, ← same]
        rfl
    · rename_i pops
      cases round
      refine ⟨?_, by dsimp only; omega⟩
      rw [balance_append, balance_open (by simpa using pops), ← same]
      rfl

theorem Counted.reaches (counted : first.Counted) (reaches : first.Reaches second) :
    second.Counted := by
  induction reaches with
  | refl => exact counted
  | tail _ round ih => exact ih.next? round

/-- The rounds take the steps that are read from the same level, and then there is no further round.
Induction on the steps that are left. -/
theorem reaches_splitLevel (level : Nat) (taken left : List Step) :
    ∃ last, Reaches ⟨level, taken, left⟩ last ∧ last.next? = none ∧
      last.taken = taken ++ (splitLevel level left).1 ∧ last.left = (splitLevel level left).2 := by
  induction left generalizing level taken with
  | nil => exact ⟨_, .refl, rfl, (List.append_nil taken).symm, rfl⟩
  | cons step left ih =>
    cases pops : step.isPop with
    | false =>
      obtain ⟨last, reaches, stops, took, rest⟩ := ih (level + 1) (taken ++ [step])
      have round : next? ⟨level, taken, step :: left⟩ = some ⟨(level + 1 : Nat), taken ++ [step], left⟩ := by
        rw [Cutting.next?, pops]
        rfl
      rw [splitLevel_open pops]
      exact ⟨last, .head round reaches, stops, by rw [took]; simp, rest⟩
    | true =>
      cases level with
      | zero =>
        have stops : next? ⟨(0 : Nat), taken, step :: left⟩ = none := by
          rw [Cutting.next?, if_pos pops]
          rfl
        rw [splitLevel_stop pops]
        exact ⟨_, .refl, stops, (List.append_nil taken).symm, rfl⟩
      | succ level =>
        obtain ⟨last, reaches, stops, took, rest⟩ := ih level (taken ++ [step])
        have round : next? ⟨(level + 1 : Nat), taken, step :: left⟩ = some ⟨level, taken ++ [step], left⟩ := by
          rw [Cutting.next?, if_pos pops, if_neg (by omega), Nat.cast_succ, Int.add_sub_cancel]
        rw [splitLevel_close pops]
        exact ⟨last, .head round reaches, stops, by rw [took]; simp, rest⟩

end Cutting

/-- The steps nested under a step are the longest front of the pending ones in which no front has more
POPs than other steps. The rest is what is left of the pending steps: nothing, or what begins with the
POP that closes the step, and then the nested steps are balanced. The loop that takes them one by one
never counts below zero, and there is nothing more to take from the rest. -/
theorem splitChildren_longest (program : Program) :
    let inside := program.splitChildren.1
    let outside := program.splitChildren.2
    inside ++ outside = program ∧
    Fed inside ∧ (∀ other, other <+: program → Fed other → other <+: inside) ∧
    (outside = [] ∨
      ∃ closing rest, outside = closing :: rest ∧ closing.isPop = true ∧ balance inside = 0) ∧
    (∀ cutting, Cutting.Reaches ⟨0, [], program⟩ cutting →
      cutting.level = balance cutting.taken ∧ 0 ≤ cutting.level) ∧
    (∃ last, Cutting.Reaches ⟨0, [], program⟩ last ∧ last.next? = none ∧
      last.taken = inside ∧ last.left = outside) ∧
    splitChildren outside = ([], outside) := by
  intro inside outside
  have nested : Nested program inside := nested_splitChildren program
  refine ⟨splitChildren_append program, fed_iff_levelFrom.mpr nested.stays, ?_, ?_, ?_, ?_, ?_⟩
  · intro other front fed
    exact nested.longest other front (fed_iff_levelFrom.mp fed)
  · rcases rest : outside with _ | ⟨closing, rest⟩
    · exact .inl rfl
    · obtain ⟨pops, read⟩ := @levelFrom_of_rest 0 program _ _ rest
      have closed : ((0 : Nat) : Int) + balance inside = (0 : Nat) := balance_of_levelFrom read
      rw [Nat.cast_zero, Int.zero_add] at closed
      exact .inr ⟨closing, _, rfl, pops, closed⟩
  · intro cutting reaches
    have start : Cutting.Counted ⟨0, [], program⟩ := ⟨rfl, Int.le_refl 0⟩
    obtain ⟨level, nonneg⟩ := start.reaches reaches
    exact ⟨level, nonneg⟩
  · exact Cutting.reaches_splitLevel 0 [] program
  · exact splitLevel_rest 0 program

/-- The level of the step is closed by a POP that has a parameter, and so is one of those inside it. -/
theorem splitChildren_longest_closed :
    let inside : List Step := [⟨.set, "a"⟩, ⟨.set, "b"⟩, .pop, ⟨.pop, "x"⟩]
    let program := inside ++ [⟨.pop, "y"⟩, ⟨.set, "c"⟩]
    inside <+: program ∧ Fed inside ∧ inside <+: (splitChildren program).1 ∧
      Cutting.Reaches ⟨0, [], program⟩ ⟨0, inside, [⟨.pop, "y"⟩, ⟨.set, "c"⟩]⟩ ∧ balance inside = 0 := by
  intro inside program
  obtain ⟨-, -, longest, -, counted, ⟨last, reaches, -, took, rest⟩, -⟩ := splitChildren_longest program
  have front : inside <+: program := List.prefix_append _ _
  have fed : Fed inside := fed_iff_levelFrom.mpr rfl
  have same : last = ⟨0, inside, [⟨.pop, "y"⟩, ⟨.set, "c"⟩]⟩ := by
    obtain ⟨level, taken, left⟩ := last
    obtain ⟨balanced, -⟩ := counted _ reaches
    dsimp only at took rest balanced
    rw [balanced, took, rest]
    rfl
  exact ⟨front, fed, longest inside front fed, same ▸ reaches, rfl⟩

end Program

end Provision
