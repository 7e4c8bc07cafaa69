import Mathlib.Data.List.Infix
import Provision.Engine.Run

/-! What a step can do to a session comes down to a handful of acts. A relation that respects each
of them relates the session before any step to the session after it, however deeply the handlers
insert. -/

namespace Provision.Runtime

variable {σ : Type}

/-- A preorder on sessions that no single act of the engine leaves. -/
structure Respects (runtime : Runtime σ) (related : Session σ → Session σ → Prop) : Prop where
  refl : ∀ session, related session session
  trans : ∀ {first second third}, related first second → related second third →
    related first third
  world : ∀ session world, related session { session with world }
  take : ∀ session pending, pending <:+ session.pending → related session { session with pending }
  report : ∀ session step frame, related session (runtime.report step frame session)
  push : ∀ session step frame, related session (session.push (some step) frame)
  pop : ∀ session, related session (session.pop runtime.clean).2

variable {runtime : Runtime σ} {software : Software}
  {related : Session σ → Session σ → Prop} {exec : Step → Session σ → Outcome σ Fault Unit}

theorem Respects.runSteps (respects : runtime.Respects related)
    (inner : ∀ {step before outcome after}, exec step before = some (outcome, after) →
      related before after)
    {steps : List Step} {before after : Session σ} {outcome : Except Fault Unit}
    (run : runSteps exec steps before = some (outcome, after)) : related before after := by
  induction steps generalizing before with
  | nil =>
    simp only [Runtime.runSteps, Option.some.injEq, Prod.mk.injEq] at run
    exact run.2 ▸ respects.refl before
  | cons step rest ih =>
    simp only [Runtime.runSteps] at run
    split at run
    · cases run
    · rename_i fault middle stopped
      cases run
      exact inner stopped
    · rename_i middle went
      exact respects.trans (inner went) (ih run)

/-- Induction on the requests of a handler; `inner` is what holds of the steps it inserts. -/
theorem Respects.runHandling {α : Type} (respects : runtime.Respects related)
    (inner : ∀ {step before outcome after}, exec step before = some (outcome, after) →
      related before after)
    {work : Handling σ α} {before after : Session σ} {outcome : Except Failure α}
    (run : runHandling runtime exec work before = some (outcome, after)) :
    related before after := by
  induction work generalizing before with
  | done value => cases run; exact respects.refl _
  | failed failure => cases run; exact respects.refl _
  | observe next ih => exact ih _ run
  | update world next ih => exact respects.trans (respects.world before world) (ih run)
  | look next ih => exact ih _ run
  | children next ih =>
    have ends : before.pending.splitChildren.2 <:+ before.pending :=
      ⟨_, before.pending.splitChildren_append⟩
    exact respects.trans (respects.take before _ ends) (ih _ run)
  | insert steps next ih =>
    simp only [Runtime.runHandling] at run
    split at run
    · cases run
    · rename_i inserted middle ran
      exact respects.trans (respects.runSteps inner ran) (ih _ run)
  | report step frame next ih => exact respects.trans (respects.report before step frame) (ih run)

/-- What a step can be seen to do: a POP, one of the two refusals before the handler runs, or the
handler's run with what it left behind. -/
theorem perform_cases {nesting : Nat} {step : Step} {before after : Session σ}
    {outcome : Except Fault Unit}
    (run : perform runtime software (nesting + 1) step before = some (outcome, after)) :
    (step.isPop = true ∧ (outcome, after) = before.pop runtime.clean) ∨
    (step.isPop = false ∧ runtime.handlers step.operation = none ∧
      outcome = .error (.noHandler step.operation) ∧ after = before) ∨
    (step.isPop = false ∧ ∃ handler, runtime.handlers step.operation = some handler ∧
      ((∃ fault, Placeholder.resolve runtime.constants before.stack step.parameter = .error fault ∧
          outcome = .error fault ∧ after = before) ∨
        ∃ parameter,
          Placeholder.resolve runtime.constants before.stack step.parameter = .ok parameter ∧
          ∃ answer middle,
            runHandling runtime (perform runtime software nesting)
              (handler ⟨parameter, software, runtime.facts, runtime.constants⟩) before =
                some (answer, middle) ∧
            match answer with
            | .error failure =>
              outcome = .error (failure.toFault step.operation) ∧ after = middle
            | .ok frame =>
              outcome = .ok () ∧ after = (runtime.report step frame middle).push step frame)) := by
  cases pops : step.isPop with
  | true =>
    left
    simp only [perform, pops, if_true, Option.some.injEq] at run
    exact ⟨rfl, run.symm⟩
  | false =>
    right
    simp only [perform, pops, Bool.false_eq_true, if_false] at run
    split at run
    · rename_i missing
      cases run
      exact .inl ⟨rfl, missing, rfl, rfl⟩
    · rename_i handler found
      refine .inr ⟨rfl, handler, found, ?_⟩
      split at run
      · rename_i fault unresolved
        cases run
        exact .inl ⟨fault, unresolved, rfl, rfl⟩
      · rename_i parameter resolved
        refine .inr ⟨parameter, resolved, ?_⟩
        split at run
        · cases run
        · rename_i failure middle failed
          cases run
          exact ⟨_, _, failed, rfl, rfl⟩
        · rename_i frame middle done
          cases run
          exact ⟨_, _, done, rfl, rfl⟩

theorem Respects.perform (respects : runtime.Respects related) {nesting : Nat} {step : Step}
    {before after : Session σ} {outcome : Except Fault Unit}
    (run : perform runtime software nesting step before = some (outcome, after)) :
    related before after := by
  induction nesting generalizing step before outcome after with
  | zero => cases run
  | succ nesting ih =>
    rcases perform_cases run with ⟨_, popped⟩ | ⟨_, _, _, same⟩ |
      ⟨_, handler, _, ⟨fault, _, _, same⟩ | ⟨parameter, _, answer, middle, handled, left⟩⟩
    · have moved := respects.pop before
      rwa [← popped] at moved
    · exact same ▸ respects.refl before
    · exact same ▸ respects.refl before
    · have inside := respects.runHandling (fun ran => ih ran) handled
      cases answer with
      | error failure => exact left.2 ▸ inside
      | ok frame =>
        rw [left.2]
        exact respects.trans inside
          (respects.trans (respects.report middle step frame) (respects.push _ step frame))

end Provision.Runtime
