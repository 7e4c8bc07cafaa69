import Provision.Engine.Run

/-! Two runs side by side. Runtimes whose handlers ask for the same, on worlds that stay related, execute
the same steps with the same frames and come to the same end, on whatever related worlds they begin. -/

namespace Provision

variable {σ α ε : Type} {related : σ → σ → Prop}

/-- Two handlers that make the same requests for as long as they are given the same answers and related
worlds. -/
inductive Handling.Parallel (related : σ → σ → Prop) : Handling σ α → Handling σ α → Prop where
  | done (value : α) : Parallel related (.done value) (.done value)
  | failed (failure : Failure) : Parallel related (.failed failure) (.failed failure)
  | observe (rest : ∀ world world', related world world' → Parallel related (next world) (next' world')) :
    Parallel related (.observe next) (.observe next')
  | update (both : related world world') (rest : Parallel related next next') :
    Parallel related (.update world next) (.update world' next')
  | look (rest : ∀ scene, Parallel related (next scene) (next' scene)) :
    Parallel related (.look next) (.look next')
  | children (rest : ∀ steps, Parallel related (next steps) (next' steps)) :
    Parallel related (.children next) (.children next')
  | insert (steps : List Step) (rest : ∀ outcome, Parallel related (next outcome) (next' outcome)) :
    Parallel related (.insert steps next) (.insert steps next')
  | report (step : Step) (frame : Frame) (rest : Parallel related next next') :
    Parallel related (.report step frame next) (.report step frame next')

/-- Sessions that differ in their worlds alone, and there no further than the relation allows. -/
structure Session.Parallel (related : σ → σ → Prop) (session session' : Session σ) : Prop where
  pending : session'.pending = session.pending
  stack : session'.stack = session.stack
  events : session'.events = session.events
  world : related session.world session'.world

/-- The same outcome, with sessions that are parallel still. -/
inductive Together (related : σ → σ → Prop) : Outcome σ ε α → Outcome σ ε α → Prop where
  | none : Together related none none
  | some {session session' : Session σ} (outcome : Except ε α)
    (both : session.Parallel related session') :
    Together related (some (outcome, session)) (some (outcome, session'))

/-- Executions of a step that take parallel sessions to the same outcome. -/
def Concurs (related : σ → σ → Prop) (exec exec' : Step → Session σ → Outcome σ Fault Unit) : Prop :=
  ∀ step session session', Session.Parallel related session session' →
    Together related (exec step session) (exec' step session')

structure Runtime.Parallel (related : σ → σ → Prop) (runtime runtime' : Runtime σ) : Prop where
  handlers : ∀ operation, (runtime.handlers operation = none ∧ runtime'.handlers operation = none) ∨
    ∃ handler handler', runtime.handlers operation = some handler ∧
      runtime'.handlers operation = some handler' ∧
      ∀ task, (handler task).Parallel related (handler' task)
  constants : runtime'.constants = runtime.constants
  facts : runtime'.facts = runtime.facts
  clean : ∀ obligation world world', related world world' →
    (runtime.clean obligation world).1 = (runtime'.clean obligation world').1 ∧
      related (runtime.clean obligation world).2 (runtime'.clean obligation world').2
  announce : ∀ step frame world world', related world world' →
    related (runtime.announce step frame world) (runtime'.announce step frame world')

namespace Session.Parallel

variable {session session' : Session σ} {runtime runtime' : Runtime σ}

/-- Parallel sessions have all but the world in common. -/
theorem eq (parallel : session.Parallel related session') :
    ∃ world, session' = { session with world } ∧ related session.world world := by
  obtain ⟨pending, stack, events, world⟩ := parallel
  refine ⟨session'.world, ?_, world⟩
  rw [← pending, ← stack, ← events]

theorem report (parallel : session.Parallel related session') (runtimes : runtime.Parallel related runtime')
    (step : Step) (frame : Frame) :
    (runtime.report step frame session).Parallel related (runtime'.report step frame session') := by
  obtain ⟨world, rfl, both⟩ := parallel.eq
  exact ⟨rfl, rfl, rfl, runtimes.announce step frame _ _ both⟩

theorem push (parallel : session.Parallel related session') (step : Option Step) (frame : Frame) :
    (session.push step frame).Parallel related (session'.push step frame) := by
  obtain ⟨world, rfl, both⟩ := parallel.eq
  exact ⟨rfl, rfl, rfl, both⟩

theorem release (runtimes : runtime.Parallel related runtime') (frame : Frame) (events : List Event)
    {world world' : σ} (both : related world world') :
    ∃ outcome events' after after', Session.release runtime.clean frame (events, world) =
        (outcome, events', after) ∧
      Session.release runtime'.clean frame (events, world') = (outcome, events', after') ∧
      related after after' := by
  rcases frame with ⟨value, _ | obligation, out, err⟩
  · exact ⟨_, _, world, world', rfl, rfl, both⟩
  · obtain ⟨same, still⟩ := runtimes.clean obligation world world' both
    simp only [Session.release, Frame.release, Session.discharge]
    rcases cleaned : runtime.clean obligation world with ⟨causes | _, after⟩
    all_goals
      rcases cleaned' : runtime'.clean obligation world' with ⟨outcome, after'⟩
      rw [cleaned, cleaned'] at same still
      cases same
      exact ⟨_, _, after, after', rfl, rfl, still⟩

theorem pop (parallel : session.Parallel related session') (runtimes : runtime.Parallel related runtime') :
    (session.pop runtime.clean).1 = (session'.pop runtime'.clean).1 ∧
      (session.pop runtime.clean).2.Parallel related (session'.pop runtime'.clean).2 := by
  obtain ⟨world, rfl, both⟩ := parallel.eq
  rcases session with ⟨pending, stack, events, before⟩
  cases stack with
  | nil => exact ⟨rfl, rfl, rfl, rfl, both⟩
  | cons frame below =>
    obtain ⟨outcome, events', after, after', ran, ran', still⟩ := release runtimes frame events both
    simp only [Session.pop, Stack.pop, ran, ran']
    exact ⟨trivial, rfl, rfl, rfl, still⟩

theorem drain (parallel : session.Parallel related session') (runtimes : runtime.Parallel related runtime') :
    (session.drain runtime.clean).1 = (session'.drain runtime'.clean).1 ∧
      (session.drain runtime.clean).2.Parallel related (session'.drain runtime'.clean).2 := by
  obtain ⟨world, rfl, both⟩ := parallel.eq
  rcases session with ⟨pending, stack, events, before⟩
  induction stack generalizing events before world with
  | nil => exact ⟨rfl, rfl, rfl, rfl, both⟩
  | cons frame below ih =>
    obtain ⟨outcome, events', after, after', ran, ran', still⟩ := release runtimes frame events both
    cases outcome with
    | error fault =>
      simp only [Session.drain, Stack.drain, ran, ran']
      exact ⟨trivial, rfl, rfl, rfl, still⟩
    | ok _ =>
      simp only [Session.drain, Stack.drain, ran, ran']
      exact ih after' events' after still ⟨rfl, rfl, rfl, still⟩

end Session.Parallel

namespace Runtime.Parallel

variable {runtime runtime' : Runtime σ} {software : Software} {session session' : Session σ}
  {exec exec' : Step → Session σ → Outcome σ Fault Unit}

theorem runSteps (inner : Concurs related exec exec')
    (parallel : session.Parallel related session') (steps : List Step) :
    Together related (Runtime.runSteps exec steps session) (Runtime.runSteps exec' steps session') := by
  induction steps generalizing session session' with
  | nil => exact .some _ parallel
  | cons step rest ih =>
    have first := inner step _ _ parallel
    simp only [Runtime.runSteps]
    generalize exec step session = ran at first
    generalize exec' step session' = ran' at first
    cases first with
    | none => exact .none
    | some outcome both =>
      cases outcome with
      | error fault => exact .some _ both
      | ok _ => exact ih both

/-- Induction on the requests that both handlers make. -/
theorem runHandling (runtimes : runtime.Parallel related runtime')
    (inner : Concurs related exec exec')
    {work work' : Handling σ α} (works : work.Parallel related work')
    (parallel : session.Parallel related session') :
    Together related (runtime.runHandling exec work session) (runtime'.runHandling exec' work' session') := by
  induction works generalizing session session' with
  | done value => exact .some _ parallel
  | failed failure => exact .some _ parallel
  | observe rest ih => exact ih _ _ parallel.world parallel
  | update both rest ih =>
    obtain ⟨world, rfl, -⟩ := parallel.eq
    exact ih ⟨rfl, rfl, rfl, both⟩
  | look rest ih =>
    simp only [Runtime.runHandling, parallel.stack, parallel.pending]
    exact ih _ parallel
  | children rest ih =>
    obtain ⟨world, rfl, both⟩ := parallel.eq
    exact ih _ ⟨rfl, rfl, rfl, both⟩
  | insert steps rest ih =>
    have inserted := runSteps inner parallel steps
    simp only [Runtime.runHandling]
    generalize Runtime.runSteps exec steps session = ran at inserted
    generalize Runtime.runSteps exec' steps session' = ran' at inserted
    cases inserted with
    | none => exact .none
    | some outcome both => exact ih outcome both
  | report step frame rest ih => exact ih (parallel.report runtimes step frame)

/-- Induction on the nesting of insertions. -/
theorem perform (runtimes : runtime.Parallel related runtime') (nesting : Nat) :
    Concurs related (runtime.perform software nesting) (runtime'.perform software nesting) := by
  induction nesting with
  | zero => exact fun _ _ _ _ => .none
  | succ nesting ih =>
    intro step session session' parallel
    simp only [Runtime.perform, runtimes.constants, runtimes.facts, parallel.stack]
    split
    · obtain ⟨same, still⟩ := parallel.pop runtimes
      rcases popped : session.pop runtime.clean with ⟨outcome, after⟩
      rcases popped' : session'.pop runtime'.clean with ⟨outcome', after'⟩
      rw [popped, popped'] at same still
      cases same
      exact .some _ still
    · rcases runtimes.handlers step.operation with ⟨lacks, lacks'⟩ | ⟨handler, handler', found, found', works⟩
      · rw [lacks, lacks']
        exact .some _ parallel
      · rw [found, found']
        dsimp only
        split
        · exact .some _ parallel
        · rename_i parameter resolved
          have ran := runHandling runtimes ih (works ⟨parameter, software, runtime.facts, runtime.constants⟩)
            parallel
          revert ran
          generalize Runtime.runHandling runtime _ _ session = one
          generalize Runtime.runHandling runtime' _ _ session' = two
          intro ran
          cases ran with
          | none => exact .none
          | some outcome both =>
            cases outcome with
            | error failure => exact .some _ both
            | ok frame => exact .some _ ((both.report runtimes step frame).push _ _)

theorem runPending (inner : Concurs related exec exec')
    (turns : Nat) (parallel : session.Parallel related session') :
    Together related (Runtime.runPending exec turns session) (Runtime.runPending exec' turns session') := by
  induction turns generalizing session session' with
  | zero => exact .some _ parallel
  | succ turns ih =>
    obtain ⟨world, rfl, both⟩ := parallel.eq
    rcases session with ⟨pending, stack, events, before⟩
    cases pending with
    | nil => exact .some _ parallel
    | cons step rest =>
      have first := inner step ⟨rest, stack, events, before⟩ ⟨rest, stack, events, world⟩
        ⟨rfl, rfl, rfl, both⟩
      simp only [Runtime.runPending]
      revert first
      generalize exec step _ = ran
      generalize exec' step _ = ran'
      intro first
      cases first with
      | none => exact .none
      | some outcome both =>
        cases outcome with
        | error fault => exact .some _ both
        | ok _ => exact ih both

/-- Parallel runtimes take a recipe to the same end. -/
theorem execute (runtimes : runtime.Parallel related runtime')
    (parallel : session.Parallel related session') :
    Together related (runtime.execute software session) (runtime'.execute software session') := by
  have steps : Concurs related (runtime.executeStep software) (runtime'.executeStep software) :=
    runtimes.perform nestingLimit
  have ran := runPending steps session.pending.length parallel
  simp only [Runtime.execute, parallel.pending]
  revert ran
  generalize Runtime.runPending _ _ session = one
  generalize Runtime.runPending _ _ session' = two
  intro ran
  cases ran with
  | none => exact .none
  | @some middle middle' outcome both =>
    cases outcome with
    | error fault => exact .some _ both
    | ok _ =>
      obtain ⟨same, still⟩ := both.drain runtimes
      dsimp only
      rcases drained : middle.drain runtime.clean with ⟨outcome, after⟩
      rcases drained' : middle'.drain runtime'.clean with ⟨outcome', after'⟩
      rw [drained, drained'] at same still
      cases same
      exact .some _ still

end Runtime.Parallel

end Provision
