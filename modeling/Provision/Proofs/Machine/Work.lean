import Mathlib.Order.Defs.Unbundled
import Provision.Handlers.Transfers

/-! Work that can fail and keeps what it has done. What one step of such work does to the state around
it, the whole does, if that is a matter of a preorder. -/

namespace Provision

/-- Work on a state, as disks and machines have it. -/
abbrev Working (τ α : Type) := ExceptT (List String) (StateM τ) α

namespace Working

variable {τ α β : Type} {related : τ → τ → Prop} {work : Working τ α} {before after : τ}

theorem bind_ok {value : α} (next : α → Working τ β) (went : work before = (.ok value, after)) :
    (work >>= next) before = next value after := by
  simp only [bind, ExceptT.bind, ExceptT.mk, StateT.bind, went]
  rfl

theorem bind_error {causes : List String} (next : α → Working τ β)
    (failed : work before = (.error causes, after)) :
    (work >>= next) before = (.error causes, after) := by
  simp only [bind, ExceptT.bind, ExceptT.mk, StateT.bind, failed]
  rfl

/-- A look at the state. -/
theorem get_bind (next : τ → Working τ α) (state : τ) : (get >>= next) state = next state state := rfl

theorem tryCatch_ok {value : α} (rescue : List String → Working τ α)
    (went : work before = (.ok value, after)) :
    (tryCatch work rescue) before = (.ok value, after) := by
  simp only [tryCatch, tryCatchThe, MonadExceptOf.tryCatch, ExceptT.tryCatch, ExceptT.mk, bind,
    StateT.bind, went]
  rfl

theorem tryCatch_error {causes : List String} (rescue : List String → Working τ α)
    (failed : work before = (.error causes, after)) :
    (tryCatch work rescue) before = rescue causes after := by
  simp only [tryCatch, tryCatchThe, MonadExceptOf.tryCatch, ExceptT.tryCatch, ExceptT.mk, bind,
    StateT.bind, failed]

/-- A success of two pieces of work is one of each. -/
theorem of_bind_ok {next : α → Working τ β} {value : β}
    (went : (work >>= next) before = (.ok value, after)) :
    ∃ first middle, work before = (.ok first, middle) ∧ next first middle = (.ok value, after) := by
  rcases first : work before with ⟨causes | result, middle⟩
  · rw [bind_error next first] at went
    cases went
  · rw [bind_ok next first] at went
    exact ⟨result, middle, rfl, went⟩

/-- A failure of two pieces of work is one of the first, or else of the second. -/
theorem of_bind_error {next : α → Working τ β} {causes : List String}
    (failed : (work >>= next) before = (.error causes, after)) :
    work before = (.error causes, after) ∨
      ∃ first middle, work before = (.ok first, middle) ∧
        next first middle = (.error causes, after) := by
  rcases first : work before with ⟨others | result, middle⟩
  · rw [bind_error next first] at failed
    cases failed
    exact .inl rfl
  · rw [bind_ok next first] at failed
    exact .inr ⟨result, middle, rfl, failed⟩

/-- What comes out of an attempt came from the work, unless it failed. -/
theorem of_tryCatch_ok {rescue : List String → Working τ α} {value : α}
    (went : (tryCatch work rescue) before = (.ok value, after)) :
    work before = (.ok value, after) ∨
      ∃ causes middle, work before = (.error causes, middle) ∧
        rescue causes middle = (.ok value, after) := by
  rcases first : work before with ⟨causes | result, middle⟩
  · rw [tryCatch_error rescue first] at went
    exact .inr ⟨causes, middle, rfl, went⟩
  · rw [tryCatch_ok rescue first] at went
    exact .inl went

/-- What fails in spite of an attempt fails after the work has failed. -/
theorem of_tryCatch_error {rescue : List String → Working τ α} {causes : List String}
    (failed : (tryCatch work rescue) before = (.error causes, after)) :
    ∃ others middle, work before = (.error others, middle) ∧
      rescue others middle = (.error causes, after) := by
  rcases first : work before with ⟨others | result, middle⟩
  · rw [tryCatch_error rescue first] at failed
    exact ⟨others, middle, rfl, failed⟩
  · rw [tryCatch_ok rescue first] at failed
    cases failed

/-- However the work ends, the states before and after it are related. -/
def Keeps (related : τ → τ → Prop) (work : Working τ α) : Prop :=
  ∀ before, related before (work before).2

theorem Keeps.after_eq (keeps : Keeps related work) {outcome : Except (List String) α}
    (ran : work before = (outcome, after)) : related before after := by
  have whole := keeps before
  rwa [ran] at whole

theorem keeps_pure [Std.Refl related] (value : α) : Keeps related (pure value : Working τ α) :=
  fun before => refl before

theorem keeps_throw [Std.Refl related] (causes : List String) :
    Keeps related (throw causes : Working τ α) := fun before => refl before

/-- Work that begins with a look at the state. -/
theorem keeps_get {next : τ → Working τ α} (rest : ∀ state, related state (next state state).2) :
    Keeps related (get >>= next) := rest

theorem keeps_modify {change : τ → τ} (changes : ∀ state, related state (change state)) :
    Keeps related (modify change : Working τ Unit) := changes

theorem Keeps.bind [IsTrans τ related] {next : α → Working τ β} (first : Keeps related work)
    (rest : ∀ value, Keeps related (next value)) : Keeps related (work >>= next) := by
  intro before
  rcases ran : work before with ⟨causes | value, middle⟩
  · rw [bind_error next ran]
    exact first.after_eq ran
  · rw [bind_ok next ran]
    exact Trans.trans (first.after_eq ran) (rest value middle)

theorem Keeps.tryCatch [IsTrans τ related] {rescue : List String → Working τ α}
    (first : Keeps related work) (rest : ∀ causes, Keeps related (rescue causes)) :
    Keeps related (tryCatch work rescue) := by
  intro before
  rcases ran : work before with ⟨causes | value, middle⟩
  · rw [tryCatch_error rescue ran]
    exact Trans.trans (first.after_eq ran) (rest causes middle)
  · rw [tryCatch_ok rescue ran]
    exact first.after_eq ran

/-- Work that is done only under some condition, in front of other work. -/
theorem Keeps.when [Std.Refl related] [IsTrans τ related] {first : Working τ PUnit}
    {next : PUnit → Working τ α} (keeps : Keeps related first) (condition : Prop)
    [Decidable condition] (rest : ∀ value, Keeps related (next value)) :
    Keeps related (if condition then first >>= next else next ⟨⟩) := by
  split
  · exact keeps.bind rest
  · exact rest _

/-- Such work is found done or not done, and then the other work succeeds. -/
theorem Keeps.of_when_ok [Std.Refl related] {first : Working τ PUnit} {next : PUnit → Working τ α}
    {condition : Prop} [Decidable condition] {value : α} (keeps : Keeps related first)
    (went : (if condition then first >>= next else next ⟨⟩) before = (.ok value, after)) :
    ∃ middle, related before middle ∧ next ⟨⟩ middle = (.ok value, after) := by
  split at went
  · obtain ⟨_, middle, ran, rest⟩ := of_bind_ok went
    exact ⟨middle, keeps.after_eq ran, rest⟩
  · exact ⟨before, refl before, went⟩

theorem keeps_forIn [Std.Refl related] [IsTrans τ related] {body : β → α → Working τ (ForInStep α)}
    (each : ∀ item value, Keeps related (body item value)) (items : List β) (value : α) :
    Keeps related (forIn items value body) := by
  induction items generalizing value with
  | nil => exact keeps_pure value
  | cons item items ih =>
    rw [List.forIn_cons]
    refine (each item value).bind fun step => ?_
    cases step with
    | done value => exact keeps_pure value
    | yield value => exact ih value

/-- What is true of the first state is true of the second. -/
def Preserving (holds : τ → Prop) (before after : τ) : Prop := holds before → holds after

instance {holds : τ → Prop} : IsPreorder τ (Preserving holds) where
  refl _ := id
  trans _ _ _ first second := second ∘ first

end Working

end Provision
