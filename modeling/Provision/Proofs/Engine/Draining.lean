import Mathlib
import Provision.Proofs.Engine.Course

/-! Draining a stack. One drain attempts the obligations from the top down and stops at the first that
fails, which is gone with its frame; the frames below are left for the next drain. Drains that are
repeated come to the end of the stack, one failure after the other, and attempt each obligation once. -/

namespace Provision

variable {σ : Type} {clean : Cleanup → σ → Except (List String) Unit × σ} {session : Session σ}
  {frame : Frame} {below : Stack} {obligation : Cleanup} {causes : List String} {world : σ}

/-- What becomes of the obligations of a stack when each is attempted once, from the top down, whatever
became of those above it. -/
def Stack.verdicts (clean : Cleanup → σ → Except (List String) Unit × σ) :
    Stack → σ → List (Cleanup × Except (List String) Unit)
  | [], _ => []
  | frame :: below, world =>
    match frame.cleanup with
    | none => verdicts clean below world
    | some obligation =>
      (obligation, (clean obligation world).1) :: verdicts clean below (clean obligation world).2

namespace Stack

theorem verdicts_free (free : frame.cleanup = none) :
    verdicts clean (frame :: below) world = verdicts clean below world := by
  rw [verdicts, free]

theorem verdicts_owed (owed : frame.cleanup = some obligation) :
    verdicts clean (frame :: below) world =
      (obligation, (clean obligation world).1) ::
        verdicts clean below (clean obligation world).2 := by
  rw [verdicts, owed]

/-- They are about the obligations of the stack, top first. -/
theorem map_verdicts (clean : Cleanup → σ → Except (List String) Unit × σ) (stack : Stack) (world : σ) :
    (verdicts clean stack world).map Prod.fst = stack.filterMap Frame.cleanup := by
  induction stack generalizing world with
  | nil => rfl
  | cons frame below ih =>
    cases owed : frame.cleanup with
    | none => rw [verdicts_free owed, List.filterMap_cons_none owed, ih]
    | some obligation => rw [verdicts_owed owed, List.filterMap_cons_some owed, List.map_cons, ih]

/-- The attempt that a verdict is about: the obligation, and whether it could be discharged. -/
def attempt (verdict : Cleanup × Except (List String) Unit) : Cleanup × Bool :=
  (verdict.1, verdict.2.isOk)

end Stack

namespace Session

open Stack (attempt)

/-- The obligations that were attempted, in order, each with whether that succeeded. -/
def attempts (session : Session σ) : List (Cleanup × Bool) :=
  session.history.filterMap fun
    | .cleaned obligation succeeded => some (obligation, succeeded)
    | _ => none

/-- What will become of the obligations on the stack. -/
def verdicts (clean : Cleanup → σ → Except (List String) Unit × σ) (session : Session σ) :
    List (Cleanup × Except (List String) Unit) :=
  session.stack.verdicts clean session.world

/-- How many of them will fail. -/
def failures (clean : Cleanup → σ → Except (List String) Unit × σ) (session : Session σ) : Nat :=
  (session.verdicts clean).countP fun verdict => !verdict.2.isOk

/-- The session after so many drains. -/
def drained (clean : Cleanup → σ → Except (List String) Unit × σ) : Nat → Session σ → Session σ
  | 0, session => session
  | calls + 1, session => drained clean calls (session.drain clean).2

/-- The session without its top frame, once that has been released. -/
def released (session : Session σ) (frame : Frame) (below : Stack) : Session σ :=
  { session with stack := below, events := .popped frame :: session.events }

/-- The session without its top frame, whose obligation was attempted. -/
def discharged (session : Session σ) (frame : Frame) (below : Stack) (obligation : Cleanup)
    (succeeded : Bool) (world : σ) : Session σ :=
  { session with
    stack := below
    events := .cleaned obligation succeeded :: .popped frame :: session.events
    world }

@[simp]
theorem attempts_released : (session.released frame below).attempts = session.attempts := by
  simp [attempts, released, history]

@[simp]
theorem attempts_discharged {succeeded : Bool} :
    (session.discharged frame below obligation succeeded world).attempts =
      session.attempts ++ [(obligation, succeeded)] := by
  simp [attempts, discharged, history]

theorem drain_released (top : session.stack = frame :: below) (free : frame.cleanup = none) :
    session.drain clean = (session.released frame below).drain clean := by
  simp only [drain, top, Stack.drain, release, Frame.release, free, released]

theorem drain_discharged (top : session.stack = frame :: below) (owed : frame.cleanup = some obligation)
    (went : clean obligation session.world = (.ok (), world)) :
    session.drain clean = (session.discharged frame below obligation true world).drain clean := by
  simp only [drain, top, Stack.drain, release, Frame.release, owed, discharge, went, discharged]

theorem drain_stopped (top : session.stack = frame :: below) (owed : frame.cleanup = some obligation)
    (failed : clean obligation session.world = (.error causes, world)) :
    session.drain clean =
      (.error (.cleanup obligation causes),
        session.discharged frame below obligation false world) := by
  simp only [drain, top, Stack.drain, release, Frame.release, owed, discharge, failed, discharged]

/-- All that one drain can come to. -/
inductive Drains (clean : Cleanup → σ → Except (List String) Unit × σ) (before : Session σ) :
    Except Fault Unit → Session σ → Prop where
  | emptied {after : Session σ} (empty : after.stack = [])
    (succeed : ∀ verdict ∈ before.verdicts clean, verdict.2 = .ok ())
    (attempted : after.attempts = before.attempts ++ (before.verdicts clean).map attempt) :
    Drains clean before (.ok ()) after
  | stopped {after : Session σ} (above : Stack) {frame : Frame} {obligation : Cleanup}
    {causes : List String} (parts : before.stack = above ++ frame :: after.stack)
    (owed : frame.cleanup = some obligation)
    (succeed : ∀ verdict ∈ above.verdicts clean before.world, verdict.2 = .ok ())
    (verdicts : before.verdicts clean =
      above.verdicts clean before.world ++ (obligation, .error causes) :: after.verdicts clean)
    (attempted : after.attempts =
      before.attempts ++ ((above.verdicts clean before.world).map attempt ++ [(obligation, false)])) :
    Drains clean before (.error (.cleanup obligation causes)) after

variable {outcome : Except Fault Unit} {after : Session σ}

theorem Drains.of_released (top : session.stack = frame :: below) (free : frame.cleanup = none)
    (drains : (session.released frame below).Drains clean outcome after) :
    session.Drains clean outcome after := by
  have same : session.verdicts clean = (session.released frame below).verdicts clean := by
    rw [verdicts, top, Stack.verdicts_free free]
    rfl
  cases drains with
  | emptied empty succeed attempted =>
    refine .emptied empty (same ▸ succeed) ?_
    rw [attempted, attempts_released, same]
  | stopped above parts owed succeed verdicts attempted =>
    have along : Stack.verdicts clean (frame :: above) session.world =
        above.verdicts clean session.world := Stack.verdicts_free free
    refine .stopped (frame :: above) ?_ owed (along ▸ succeed) ?_ ?_
    · rw [top, List.cons_append]
      exact congrArg _ parts
    · rw [same, along]
      exact verdicts
    · rw [attempted, attempts_released, along]
      rfl

theorem Drains.of_discharged (top : session.stack = frame :: below)
    (owed : frame.cleanup = some obligation)
    (went : clean obligation session.world = (.ok (), world))
    (drains : (session.discharged frame below obligation true world).Drains clean outcome after) :
    session.Drains clean outcome after := by
  have first : ∀ above : Stack, Stack.verdicts clean (frame :: above) session.world =
      (obligation, .ok ()) :: above.verdicts clean world := by
    intro above
    rw [Stack.verdicts_owed owed, went]
  have same : session.verdicts clean =
      (obligation, .ok ()) :: (session.discharged frame below obligation true world).verdicts clean := by
    rw [verdicts, top, first]
    rfl
  cases drains with
  | emptied empty succeed attempted =>
    refine .emptied empty ?_ ?_
    · rw [same]
      exact List.forall_mem_cons.mpr ⟨rfl, succeed⟩
    · rw [attempted, attempts_discharged, same, List.append_assoc]
      rfl
  | stopped above parts owes succeed verdicts attempted =>
    refine .stopped (frame :: above) ?_ owes ?_ ?_ ?_
    · rw [top, List.cons_append]
      exact congrArg _ parts
    · rw [first]
      exact List.forall_mem_cons.mpr ⟨rfl, succeed⟩
    · rw [same, first, verdicts]
      rfl
    · rw [attempted, attempts_discharged, first, List.append_assoc]
      rfl

/-- Induction on the stack. -/
theorem drains_drain (clean : Cleanup → σ → Except (List String) Unit × σ) (session : Session σ) :
    session.Drains clean (session.drain clean).1 (session.drain clean).2 := by
  generalize stack : session.stack = frames
  induction frames generalizing session with
  | nil =>
    have none : session.verdicts clean = [] := by rw [verdicts, stack, Stack.verdicts]
    rw [drain_nil stack]
    exact .emptied stack (by simp [none]) (by simp [none])
  | cons frame below ih =>
    cases owed : frame.cleanup with
    | none =>
      rw [drain_released stack owed]
      exact .of_released stack owed (ih _ rfl)
    | some obligation =>
      rcases tried : clean obligation session.world with ⟨causes | _, world⟩
      · rw [drain_stopped stack owed tried]
        refine .stopped [] stack owed (by simp [Stack.verdicts]) ?_ ?_
        · rw [verdicts, stack, Stack.verdicts_owed owed, tried]
          rfl
        · exact attempts_discharged
      · rw [drain_discharged stack owed tried]
        exact .of_discharged stack owed tried (ih _ rfl)

theorem Drains.suffix (drains : session.Drains clean outcome after) : after.stack <:+ session.stack := by
  cases drains with
  | emptied empty => rw [empty]; exact List.nil_suffix
  | @stopped _ above frame _ _ parts =>
    rw [parts]
    exact (List.suffix_cons frame after.stack).trans (List.suffix_append above _)

/-- What was attempted, and what will become of the rest, is what was to become of all. -/
theorem Drains.attempts_append (drains : session.Drains clean outcome after) :
    after.attempts ++ (after.verdicts clean).map attempt =
      session.attempts ++ (session.verdicts clean).map attempt := by
  cases drains with
  | emptied empty succeed attempted =>
    have none : after.verdicts clean = [] := by rw [verdicts, empty, Stack.verdicts]
    rw [attempted, none, List.map_nil, List.append_nil]
  | stopped above parts owed succeed verdicts attempted =>
    rw [attempted, verdicts, List.map_append, List.map_cons, List.append_assoc, List.append_assoc]
    rfl

/-- A drain succeeds if all obligations can be discharged, and else leaves one failure less. -/
theorem Drains.cases_failures (drains : session.Drains clean outcome after) :
    (outcome = .ok () ∧ after.stack = [] ∧ session.failures clean = 0) ∨
      session.failures clean = after.failures clean + 1 := by
  have none : ∀ list : List (Cleanup × Except (List String) Unit), (∀ verdict ∈ list, verdict.2 = .ok ()) →
      (list.countP fun verdict => !verdict.2.isOk) = 0 := by
    intro list succeed
    refine List.countP_eq_zero.mpr fun verdict member => ?_
    rw [succeed verdict member]
    simp [Except.isOk, Except.toBool]
  cases drains with
  | emptied empty succeed attempted => exact .inl ⟨rfl, empty, none _ succeed⟩
  | stopped above parts owed succeed verdicts attempted =>
    right
    rw [failures, verdicts, List.countP_append, none _ succeed, List.countP_cons_of_pos rfl, Nat.zero_add]
    rfl

/-- Induction on the drains. -/
theorem drained_attempts (calls : Nat) (session : Session σ) :
    (session.drained clean calls).stack <:+ session.stack ∧
      (session.drained clean calls).attempts ++
          ((session.drained clean calls).verdicts clean).map attempt =
        session.attempts ++ (session.verdicts clean).map attempt := by
  induction calls generalizing session with
  | zero => exact ⟨List.suffix_rfl, rfl⟩
  | succ calls ih =>
    have once := drains_drain clean session
    obtain ⟨suffix, attempted⟩ := ih (session.drain clean).2
    exact ⟨suffix.trans once.suffix, attempted.trans once.attempts_append⟩

/-- Each drain but the last ends at a failure. Induction on the drains. -/
theorem drained_stack {calls : Nat} (enough : session.failures clean < calls) :
    (session.drained clean calls).stack = [] := by
  induction calls generalizing session with
  | zero => cases enough
  | succ calls ih =>
    rcases (drains_drain clean session).cases_failures with ⟨-, empty, -⟩ | fewer
    · obtain ⟨suffix, -⟩ := @drained_attempts _ clean calls (session.drain clean).2
      rw [empty] at suffix
      exact List.suffix_nil.mp suffix
    · exact ih (by omega)

/-- One drain attempts obligations from the top down and stops behind the first that fails, which it
reports, or else at the end of the stack. It succeeds if and only if no obligation fails. However often
it is repeated, what has been attempted and what the stack still holds are the obligations that there
were, once each and in order, and with more drains than failures nothing is left. -/
theorem drain_fails_fast (clean : Cleanup → σ → Except (List String) Unit × σ) (session : Session σ) :
    session.Drains clean (session.drain clean).1 (session.drain clean).2 ∧
    ((session.drain clean).1 = .ok () ↔ ∀ verdict ∈ session.verdicts clean, verdict.2 = .ok ()) ∧
    (session.verdicts clean).map Prod.fst = session.stack.filterMap Frame.cleanup ∧
    (∀ calls, (session.drained clean calls).stack <:+ session.stack ∧
      (session.drained clean calls).attempts ++
          ((session.drained clean calls).verdicts clean).map attempt =
        session.attempts ++ (session.verdicts clean).map attempt) ∧
    ∀ calls, session.failures clean < calls →
      (session.drained clean calls).stack = [] ∧
      (session.drained clean calls).attempts =
        session.attempts ++ (session.verdicts clean).map attempt := by
  have once := drains_drain clean session
  refine ⟨once, ?_, Stack.map_verdicts clean _ _, fun calls => drained_attempts calls session, ?_⟩
  · constructor
    · intro went
      rw [went] at once
      cases once with
      | emptied empty succeed attempted => exact succeed
    · intro succeed
      generalize outcome : (session.drain clean).1 = result at once
      cases once with
      | emptied => rfl
      | @stopped _ _ _ obligation causes _ _ _ verdicts _ =>
        have fails : (obligation, .error causes) ∈ session.verdicts clean := by
          rw [verdicts]
          exact List.mem_append_right _ List.mem_cons_self
        cases succeed _ fails
  · intro calls enough
    have empty := drained_stack enough
    obtain ⟨-, attempted⟩ := @drained_attempts _ clean calls session
    have none : (session.drained clean calls).verdicts clean = [] := by
      rw [verdicts, empty, Stack.verdicts]
    rw [none, List.map_nil, List.append_nil] at attempted
    exact ⟨empty, attempted⟩

/-- Images stay mounted, and files can be deleted. -/
def busy (obligation : Cleanup) (world : Unit) : Except (List String) Unit × Unit :=
  match obligation.kind with
  | .delete => (.ok (), world)
  | .unmount => (.error ["resource busy"], world)

/-- Two images were mounted, one of them from a file that was downloaded before. -/
def mounted : Session Unit where
  pending := []
  stack :=
    [.ofValue "0", (Frame.ofValue "/Volumes/b").withCleanup ⟨.unmount, "/Volumes/b"⟩,
      (Frame.ofValue "b.dmg").withCleanup ⟨.delete, "b.dmg"⟩,
      (Frame.ofValue "/Volumes/a").withCleanup ⟨.unmount, "/Volumes/a"⟩, .ofValue "seed"]
  events := []
  world := ()

theorem drain_fails_fast_mounted :
    (mounted.drain busy).1 = .error (.cleanup ⟨.unmount, "/Volumes/b"⟩ ["resource busy"]) ∧
    mounted.failures busy < 3 ∧ (mounted.drained busy 3).stack = [] ∧
    (mounted.drained busy 3).attempts =
      [(⟨.unmount, "/Volumes/b"⟩, false), (⟨.delete, "b.dmg"⟩, true), (⟨.unmount, "/Volumes/a"⟩, false)] := by
  have few : mounted.failures busy < 3 := by decide
  obtain ⟨-, -, -, -, whole⟩ := drain_fails_fast busy mounted
  obtain ⟨empty, attempted⟩ := whole 3 few
  exact ⟨rfl, few, empty, attempted⟩

end Session

end Provision
