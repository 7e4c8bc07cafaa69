import Provision.Proofs.Engine.Reporting

/-! Operations in layers. Handlers that insert steps of lower layers only cannot nest without end, so
that with fewer layers than the engine bears every run comes to an outcome. -/

namespace Provision

variable {σ α β : Type}

/-- A handler that inserts such steps only, and leaves reporting to the engine. -/
inductive Handling.Inserts (allowed : Step → Prop) : Handling σ α → Prop where
  | done (value : α) : Inserts allowed (.done value)
  | failed (failure : Failure) : Inserts allowed (.failed failure)
  | observe (rest : ∀ world, (next world).Inserts allowed) : Inserts allowed (.observe next)
  | update (world : σ) (rest : next.Inserts allowed) : Inserts allowed (.update world next)
  | look (rest : ∀ scene, (next scene).Inserts allowed) : Inserts allowed (.look next)
  | children (rest : ∀ steps, (next steps).Inserts allowed) : Inserts allowed (.children next)
  | insert {steps : List Step} (each : ∀ step ∈ steps, allowed step)
    (rest : ∀ outcome, (next outcome).Inserts allowed) : Inserts allowed (.insert steps next)

/-- Every handler inserts steps of lower layers only. -/
def Runtime.Layered (layer : Operation → Nat) (runtime : Runtime σ) : Prop :=
  ∀ operation handler, runtime.handlers operation = some handler →
    ∀ task, (handler task).Inserts fun step => layer step.operation < layer operation

namespace Handling

variable {allowed : Step → Prop}

theorem Inserts.bind {work : Handling σ α} {next : α → Handling σ β} (inserts : work.Inserts allowed)
    (rest : ∀ value, (next value).Inserts allowed) : (work.bind next).Inserts allowed := by
  induction inserts with
  | done value => exact rest value
  | failed failure => exact .failed failure
  | observe _ ih => exact .observe ih
  | update world _ ih => exact .update world ih
  | look _ ih => exact .look ih
  | children _ ih => exact .children ih
  | insert each _ ih => exact .insert each ih

theorem inserts_act (action : σ → Except Failure α × σ) : (act action).Inserts allowed := by
  refine .observe fun world => ?_
  dsimp only
  refine .update _ ?_
  cases (action world).1 with
  | error failure => exact .failed failure
  | ok value => exact .done value

theorem inserts_topValue : (topValue : Handling σ String).Inserts allowed := by
  refine .look fun scene => ?_
  cases scene.stack.peek 0 with
  | error fault => exact .failed _
  | ok frame => exact .done _

theorem inserts_insertAll {steps : List Step} (each : ∀ step ∈ steps, allowed step) :
    (insertAll steps : Handling σ Unit).Inserts allowed := by
  refine .insert each fun outcome => ?_
  cases outcome with
  | error fault => exact .failed _
  | ok _ => exact .done ()

theorem Inserts.tacit {work : Handling σ α} (inserts : work.Inserts allowed) : work.Tacit := by
  induction inserts with
  | done value => exact .done value
  | failed failure => exact .failed failure
  | observe _ ih => exact .observe ih
  | update world _ ih => exact .update world ih
  | look _ ih => exact .look ih
  | children _ ih => exact .children ih
  | insert _ _ ih => exact .insert _ ih

end Handling

namespace Runtime

variable {runtime : Runtime σ} {software : Software} {layer : Operation → Nat} {allowed : Step → Prop}
  {exec : Step → Session σ → Outcome σ Fault Unit}

theorem Layered.tacit (layered : runtime.Layered layer) : runtime.Tacit :=
  fun operation handler found task => (layered operation handler found task).tacit

theorem exists_runSteps (inner : ∀ step, allowed step → ∀ session, ∃ result, exec step session = some result)
    {steps : List Step} (each : ∀ step ∈ steps, allowed step) (session : Session σ) :
    ∃ result, runSteps exec steps session = some result := by
  induction steps generalizing session with
  | nil => exact ⟨_, rfl⟩
  | cons step rest ih =>
    obtain ⟨first, later⟩ := List.forall_mem_cons.mp each
    obtain ⟨⟨outcome, after⟩, ran⟩ := inner step first session
    simp only [runSteps, ran]
    cases outcome with
    | error fault => exact ⟨_, rfl⟩
    | ok _ => exact ih later after

theorem exists_runHandling (runtime : Runtime σ)
    (inner : ∀ step, allowed step → ∀ session, ∃ result, exec step session = some result)
    {work : Handling σ α} (inserts : work.Inserts allowed) (session : Session σ) :
    ∃ result, runtime.runHandling exec work session = some result := by
  induction inserts generalizing session with
  | done | failed => exact ⟨_, rfl⟩
  | observe _ ih | look _ ih | children _ ih => exact ih _ _
  | update _ _ ih => exact ih _
  | insert each _ ih =>
    obtain ⟨⟨outcome, after⟩, ran⟩ := exists_runSteps inner each session
    simp only [runHandling, ran]
    exact ih outcome after

/-- Each level of nesting is in a lower layer than the one around it. -/
theorem exists_perform (layered : runtime.Layered layer) (nesting : Nat) (step : Step)
    (low : layer step.operation < nesting) (session : Session σ) :
    ∃ result, runtime.perform software nesting step session = some result := by
  induction nesting generalizing step session with
  | zero => exact absurd low (Nat.not_lt_zero _)
  | succ nesting ih =>
    simp only [perform]
    split
    · exact ⟨_, rfl⟩
    · split
      · exact ⟨_, rfl⟩
      · rename_i handler found
        split
        · exact ⟨_, rfl⟩
        · rename_i parameter _
          have inner : ∀ other, layer other.operation < layer step.operation → ∀ session,
              ∃ result, runtime.perform software nesting other session = some result :=
            fun other lower => ih other (by omega)
          obtain ⟨⟨outcome, after⟩, ran⟩ := exists_runHandling runtime inner
            (layered _ _ found ⟨parameter, software, runtime.facts, runtime.constants⟩) session
          rw [ran]
          cases outcome with
          | error failure => exact ⟨_, rfl⟩
          | ok frame => exact ⟨_, rfl⟩

theorem exists_runPending (inner : ∀ step session, ∃ result, exec step session = some result) (turns : Nat)
    (session : Session σ) : ∃ result, runPending exec turns session = some result := by
  induction turns generalizing session with
  | zero => exact ⟨_, rfl⟩
  | succ turns ih =>
    simp only [runPending]
    split
    · exact ⟨_, rfl⟩
    · rename_i step rest _
      obtain ⟨⟨outcome, after⟩, ran⟩ := inner step { session with pending := rest }
      rw [ran]
      cases outcome with
      | error fault => exact ⟨_, rfl⟩
      | ok _ => exact ih after

/-- With few enough layers every recipe comes to an outcome. -/
theorem exists_execute (layered : runtime.Layered layer)
    (few : ∀ operation, layer operation < nestingLimit) (session : Session σ) :
    ∃ outcome final, runtime.execute software session = some (outcome, final) := by
  have each : ∀ step session, ∃ result, runtime.executeStep software step session = some result :=
    fun step => exists_perform layered nestingLimit step (few step.operation)
  obtain ⟨⟨outcome, after⟩, ran⟩ := exists_runPending each session.pending.length session
  simp only [execute, ran]
  cases outcome with
  | error fault => exact ⟨_, _, rfl⟩
  | ok _ => exact ⟨_, _, rfl⟩

open Moment in
/-- What has been pushed at the end of a run is the seed, and then the frame of every step that has been
reported. -/
theorem pushes_of_execute (tacit : runtime.Tacit) {world : σ} {session final : Session σ}
    {outcome : Except Fault Unit} (started : runtime.start software world = .ok session)
    (ran : runtime.execute software session = some (outcome, final)) :
    ∃ seed, final.pushes = (none, .ofValue seed) :: final.reports.map fun pair => (some pair.1, pair.2) := by
  obtain ⟨seed, resolved, rfl⟩ := start_ok started
  obtain ⟨levels, recorded⟩ := recorded_of_reaches (reaches_execute ran)
  have recounted : Recounted (.ofValue seed) _ levels := recorded.recounted (Recounted.start _ rfl rfl)
  have quiet := (recorded.tacit tacit fun caller member => by cases member).2
  exact ⟨seed, by rw [recounted.pushes, recounted.reports, Record.listed_congr quiet]⟩

end Runtime

end Provision
