import Provision.Proofs.Engine.Course

/-! Only nesting is bounded. A run that comes to an end has its outcome, unless it ever has as many
handlers waiting for one another as the bound allows. -/

namespace Provision

variable {σ : Type} {runtime : Runtime σ} {software : Software}
  {exec : Step → Session σ → Outcome σ Fault Unit}

namespace Moment

/-- There is only one way on. -/
theorem Reaches.total {first second third : Moment σ} (one : first.Reaches runtime software second)
    (other : first.Reaches runtime software third) :
    second.Reaches runtime software third ∨ third.Reaches runtime software second :=
  Relation.ReflTransGen.total_of_right_unique
    (fun _ _ _ left right => Option.some.inj (left.symm.trans right)) one other

theorem Reaches.of_ended {outcome : Except Fault Unit} {callers : List (Caller σ)}
    {session : Session σ} {last : Moment σ}
    (reaches : Reaches runtime software ⟨.ended outcome, callers, session⟩ last) :
    last = ⟨.ended outcome, callers, session⟩ := by
  rcases Relation.ReflTransGen.cases_head reaches with same | ⟨second, move, -⟩
  · exact same.symm
  · cases move

/-- Whatever a run passes lies before its end. -/
theorem Reaches.before_ended {first middle : Moment σ} {outcome : Except Fault Unit}
    {callers : List (Caller σ)} {session : Session σ}
    (ends : first.Reaches runtime software ⟨.ended outcome, callers, session⟩)
    (passes : first.Reaches runtime software middle) :
    middle.Reaches runtime software ⟨.ended outcome, callers, session⟩ := by
  rcases passes.total ends with later | earlier
  · exact later
  · exact earlier.of_ended ▸ .refl

/-- A step is entered for which so many handlers wait. -/
def Deep (runtime : Runtime σ) (software : Software) (depth : Nat) (first : Moment σ) : Prop :=
  ∃ step callers session, first.Reaches runtime software ⟨.enter step, callers, session⟩ ∧
    callers.length = depth

theorem Deep.after {first second : Moment σ} {depth : Nat}
    (reaches : first.Reaches runtime software second) (deep : second.Deep runtime software depth) :
    first.Deep runtime software depth := by
  obtain ⟨step, callers, session, later, count⟩ := deep
  exact ⟨step, callers, session, reaches.trans later, count⟩

/-- Execution of a step that has an outcome unless insertions nest so deeply under it. -/
def Bounded (runtime : Runtime σ) (software : Software) (nesting : Nat)
    (exec : Step → Session σ → Outcome σ Fault Unit) : Prop :=
  ∀ {step session} callers, exec step session = none →
    Deep runtime software (callers.length + nesting) ⟨.enter step, callers, session⟩

variable {nesting : Nat} {session : Session σ}

theorem deep_of_runSteps (traces : Traces runtime software exec)
    (bounded : Bounded runtime software nesting exec) {rest : List Step} {first : Step}
    (run : Runtime.runSteps exec (first :: rest) session = none)
    (step : Step) (burdened : Bool) (resume : Except Fault Unit → Handling σ Frame)
    (callers : List (Caller σ)) :
    Deep runtime software (callers.length + 1 + nesting)
      ⟨.enter first, ⟨step, burdened, rest, resume⟩ :: callers, session⟩ := by
  induction rest generalizing first session with
  | nil =>
    simp only [Runtime.runSteps] at run
    split at run
    · rename_i stuck
      exact bounded _ stuck
    · cases run
    · cases run
  | cons second rest ih =>
    rw [Runtime.runSteps] at run
    split at run
    · rename_i stuck
      exact bounded (⟨step, burdened, second :: rest, resume⟩ :: callers) stuck
    · cases run
    · rename_i middle went
      exact (ih run).after ((traces _ went).trans (.next _ rfl .refl))

/-- Induction on the requests of a handler. -/
theorem deep_of_runHandling (traces : Traces runtime software exec)
    (bounded : Bounded runtime software nesting exec) {work : Handling σ Frame}
    (run : runtime.runHandling exec work session = none)
    (step : Step) (burdened : Bool) (callers : List (Caller σ)) :
    Deep runtime software (callers.length + 1 + nesting)
      ⟨.handle step burdened work, callers, session⟩ := by
  induction work generalizing session burdened with
  | done frame => cases run
  | failed failure => cases run
  | observe next ih => exact (ih _ run burdened).after (.next _ rfl .refl)
  | update world next ih => exact (ih run burdened).after (.next _ rfl .refl)
  | look next ih => exact (ih _ run burdened).after (.next _ rfl .refl)
  | children next ih => exact (ih _ run burdened).after (.next _ rfl .refl)
  | report other frame next ih => exact (ih run burdened).after (.next _ rfl .refl)
  | insert steps next ih =>
    simp only [Runtime.runHandling] at run
    cases steps with
    | nil => exact (ih _ run burdened).after (.next _ rfl .refl)
    | cons first rest =>
      split at run
      · rename_i stuck
        exact (deep_of_runSteps traces bounded stuck step burdened next callers).after
          (.next _ rfl .refl)
      · rename_i outcome middle inserted
        obtain ⟨heavy, ran⟩ := reaches_runSteps traces inserted step burdened next callers
        exact (ih _ run heavy).after (.next _ rfl ran)

/-- Induction on the nesting of insertions. -/
theorem bounded_perform (nesting : Nat) :
    Bounded runtime software nesting (runtime.perform software nesting) := by
  induction nesting with
  | zero => exact fun callers _ => ⟨_, callers, _, .refl, rfl⟩
  | succ nesting ih =>
    intro step session callers run
    simp only [Runtime.perform] at run
    split at run
    · cases run
    · rename_i plain
      split at run
      · cases run
      · rename_i handler found
        split at run
        · cases run
        · rename_i parameter resolved
          split at run
          · rename_i stuck
            have deep := deep_of_runHandling (traces_perform nesting) ih stuck step false callers
            rw [Nat.add_assoc, Nat.add_comm 1] at deep
            refine deep.after (.next _ ?_ .refl)
            simp [next?, enter, plain, found, resolved]
          · cases run
          · cases run

theorem deep_of_runPending (traces : Traces runtime software exec)
    (bounded : Bounded runtime software nesting exec) {turns : Nat}
    (run : Runtime.runPending exec turns session = none) :
    Deep runtime software nesting (begin session) := by
  induction turns generalizing session with
  | zero => cases run
  | succ turns ih =>
    simp only [Runtime.runPending] at run
    split at run
    · cases run
    · rename_i step rest waiting
      have taken : (begin session).Reaches runtime software
          ⟨.enter step, [], { session with pending := rest }⟩ :=
        .next _ (by simp [begin, next?, waiting]) .refl
      split at run
      · rename_i stuck
        have deep := bounded [] stuck
        rw [List.length_nil, Nat.zero_add] at deep
        exact deep.after taken
      · cases run
      · rename_i middle went
        exact (ih run).after (taken.trans ((traces _ went).trans (.next _ rfl .refl)))

/-- A recipe whose execution has no outcome nests insertions up to the bound. -/
theorem deep_of_execute (run : runtime.execute software session = none) :
    Deep runtime software Runtime.nestingLimit (begin session) := by
  have traces : Traces runtime software (runtime.executeStep software) :=
    traces_perform Runtime.nestingLimit
  have bounded : Bounded runtime software Runtime.nestingLimit (runtime.executeStep software) :=
    bounded_perform Runtime.nestingLimit
  unfold Runtime.execute at run
  split at run
  · cases run
  · exact deep_of_runPending traces bounded run

/-- Executing a recipe comes to what its run comes to. -/
theorem execute_of_ended {outcome : Except Fault Unit} {final : Session σ}
    (ends : (begin session).Reaches runtime software ⟨.ended outcome, [], final⟩)
    (shallow : ¬ (begin session).Deep runtime software Runtime.nestingLimit) :
    runtime.execute software session = some (outcome, final) := by
  rcases run : runtime.execute software session with _ | ⟨other, last⟩
  · exact absurd (deep_of_execute run) shallow
  · have same := (ends.before_ended (reaches_execute run)).of_ended
    cases same
    rfl

end Moment

end Provision
