import Mathlib
import Provision.Proofs.Engine.Accounting

/-! A failed cleanup is on its way out of the run, or under a handler that has met it, until some
handler returns a frame all the same. So a run in which no handler does that succeeds only if every
cleanup does. -/

namespace Provision

variable {σ : Type} {runtime : Runtime σ} {software : Software}

namespace Moment

/-- A handler under which an insertion failed ends with a frame. -/
def Swallows (moment : Moment σ) : Prop :=
  ∃ step frame, moment.activity = .handle step true (.done frame)

/-- An error is on its way to whoever inserted the step, or some handler has met one. -/
def Troubled (moment : Moment σ) : Prop :=
  (∃ fault, moment.activity = .leave (.error fault)) ∨
    (∃ fault, moment.activity = .ended (.error fault)) ∨
    (∃ step work, moment.activity = .handle step true work) ∨
    ∃ caller ∈ moment.callers, caller.burdened = true

/-- Some cleanup was attempted and failed. -/
def Marred (moment : Moment σ) : Prop :=
  ∃ obligation, .cleaned obligation false ∈ moment.session.events

theorem troubled_caller {caller : Caller σ} {callers : List (Caller σ)} (member : caller ∈ callers)
    (burdened : caller.burdened = true) (activity : Activity σ) (session : Session σ) :
    Troubled ⟨activity, callers, session⟩ :=
  .inr (.inr (.inr ⟨caller, member, burdened⟩))

theorem troubled_handle (step : Step) (work : Handling σ Frame) (callers : List (Caller σ))
    (session : Session σ) : Troubled ⟨.handle step true work, callers, session⟩ :=
  .inr (.inr (.inl ⟨step, work, rfl⟩))

/-- Trouble that is nowhere else is with a handler that waits. -/
theorem Troubled.caller {activity : Activity σ} {callers : List (Caller σ)} {session : Session σ}
    (troubled : Troubled ⟨activity, callers, session⟩)
    (leaves : ∀ fault, activity ≠ .leave (.error fault))
    (ends : ∀ fault, activity ≠ .ended (.error fault))
    (handles : ∀ step work, activity ≠ .handle step true work) :
    ∃ caller ∈ callers, caller.burdened = true := by
  rcases troubled with ⟨fault, same⟩ | ⟨fault, same⟩ | ⟨step, work, same⟩ | waits
  · exact absurd same (leaves fault)
  · exact absurd same (ends fault)
  · exact absurd same (handles step work)
  · exact waits

/-- The handler that has met an error may go on, insert other steps and fail, but not return. -/
theorem Troubled.handle {step : Step} {burdened : Bool} {work : Handling σ Frame}
    {callers : List (Caller σ)} {session : Session σ}
    (troubled : Troubled ⟨.handle step burdened work, callers, session⟩)
    (passed : ¬ Swallows ⟨.handle step burdened work, callers, session⟩) :
    (handle runtime step burdened callers session work).Troubled := by
  rcases troubled with ⟨fault, leaves⟩ | ⟨fault, ended⟩ | ⟨same, other, handles⟩ |
    ⟨caller, member, heavy⟩
  · cases leaves
  · cases ended
  · cases handles
    cases work with
    | done frame => exact absurd ⟨step, frame, rfl⟩ passed
    | failed failure => exact .inl ⟨_, rfl⟩
    | insert steps next =>
      cases steps with
      | nil => exact troubled_handle ..
      | cons first rest => exact troubled_caller List.mem_cons_self rfl _ _
    | observe | update | look | children | report => exact troubled_handle ..
  · cases work with
    | insert steps next =>
      cases steps with
      | nil => exact troubled_caller member heavy _ _
      | cons first rest => exact troubled_caller (List.mem_cons_of_mem _ member) heavy _ _
    | done | failed | observe | update | look | children | report =>
      exact troubled_caller member heavy _ _

theorem Troubled.enter {step : Step} {callers : List (Caller σ)} {session : Session σ}
    (troubled : Troubled ⟨.enter step, callers, session⟩) :
    (enter runtime software step callers session).Troubled := by
  obtain ⟨caller, member, heavy⟩ := troubled.caller (by simp) (by simp) (by simp)
  unfold Moment.enter
  split
  · exact troubled_caller member heavy _ _
  · split
    · exact troubled_caller member heavy _ _
    · split
      · exact troubled_caller member heavy _ _
      · exact troubled_caller member heavy _ _

theorem Troubled.leave {outcome : Except Fault Unit} {callers : List (Caller σ)}
    {session : Session σ} (troubled : Troubled ⟨.leave outcome, callers, session⟩) :
    (leave outcome session callers).Troubled := by
  cases outcome with
  | error fault =>
    cases callers with
    | nil => exact .inr (.inl ⟨fault, rfl⟩)
    | cons caller callers => exact troubled_handle ..
  | ok _ =>
    obtain ⟨caller, member, heavy⟩ := troubled.caller (by simp) (by simp) (by simp)
    cases callers with
    | nil => cases member
    | cons first callers =>
      rcases List.mem_cons.mp member with rfl | deeper
      · cases rest : caller.rest with
        | nil => simp [Moment.leave, rest, heavy, Troubled]
        | cons next rest => simp [Moment.leave, rest, heavy, Troubled]
      · cases rest : first.rest with
        | nil =>
          simp only [Moment.leave, rest]
          exact troubled_caller deeper heavy _ _
        | cons next rest =>
          simp only [Moment.leave, rest]
          exact troubled_caller (List.mem_cons_of_mem _ deeper) heavy _ _

theorem Troubled.next? {first second : Moment σ} (troubled : first.Troubled)
    (passed : ¬ first.Swallows) (move : first.next? runtime software = some second) :
    second.Troubled := by
  rcases first with ⟨activity, callers, session⟩
  cases activity with
  | enter step => exact Option.some.inj move ▸ troubled.enter
  | handle step burdened work => exact Option.some.inj move ▸ troubled.handle passed
  | leave outcome => exact Option.some.inj move ▸ troubled.leave
  | ended outcome => cases move
  | turn =>
    obtain ⟨caller, member, heavy⟩ := troubled.caller (by simp) (by simp) (by simp)
    simp only [Moment.next?] at move
    split at move
    · cases move
      exact troubled_caller member heavy _ _
    · cases move
      exact troubled_caller member heavy _ _
  | drain =>
    obtain ⟨caller, member, heavy⟩ := troubled.caller (by simp) (by simp) (by simp)
    simp only [Moment.next?] at move
    split at move
    · cases move
      exact troubled_caller member heavy _ _
    · split at move
      · cases move
        exact troubled_caller member heavy _ _
      · cases move
        exact troubled_caller member heavy _ _

/-- A pop that adds a failed cleanup to the history fails. -/
theorem pop_failed {session : Session σ} {obligation : Cleanup}
    (failed : .cleaned obligation false ∈ (session.pop runtime.clean).2.events) :
    .cleaned obligation false ∈ session.events ∨
      ∃ fault, (session.pop runtime.clean).1 = .error fault := by
  rcases popped : session.pop runtime.clean with ⟨outcome, after⟩
  rw [popped] at failed
  cases Session.pops_of_pop popped with
  | underflow _ => exact .inl failed
  | free _ => exact .inl (by simpa using failed)
  | settled _ _ _ => exact .inl (by simpa using failed)
  | failed _ _ _ _ => exact .inr ⟨_, rfl⟩

/-- A cleanup that fails in a move is an error that leaves a step or ends the run. -/
theorem Marred.next? {first second : Moment σ} (marred : second.Marred)
    (move : first.next? runtime software = some second) : first.Marred ∨ second.Troubled := by
  obtain ⟨obligation, failed⟩ := marred
  rcases first with ⟨activity, callers, session⟩
  cases activity with
  | turn =>
    simp only [Moment.next?] at move
    split at move <;> cases move <;> exact .inl ⟨obligation, failed⟩
  | enter step =>
    cases move
    cases pops : step.isPop with
    | true =>
      simp only [Moment.enter, pops, if_true] at failed ⊢
      rcases pop_failed failed with before | ⟨fault, stopped⟩
      · exact .inl ⟨obligation, before⟩
      · exact .inr (.inl ⟨fault, by rw [stopped]⟩)
    | false =>
      simp only [Moment.enter, pops, Bool.false_eq_true, if_false] at failed
      left
      split at failed
      · exact ⟨obligation, failed⟩
      · split at failed <;> exact ⟨obligation, failed⟩
  | handle step burdened work =>
    cases move
    left
    cases work with
    | done frame =>
      refine ⟨obligation, ?_⟩
      simpa [Moment.handle, Session.push, Runtime.report] using failed
    | report other frame next =>
      refine ⟨obligation, ?_⟩
      simpa [Moment.handle, Runtime.report] using failed
    | insert steps next => cases steps <;> exact ⟨obligation, failed⟩
    | failed | observe | update | look | children => exact ⟨obligation, failed⟩
  | leave outcome =>
    cases move
    rw [leave_session] at failed
    exact .inl ⟨obligation, failed⟩
  | drain =>
    simp only [Moment.next?] at move
    split at move
    · cases move
      exact .inl ⟨obligation, failed⟩
    · split at move
      · rename_i after went
        cases move
        have popped : .cleaned obligation false ∈ (session.pop runtime.clean).2.events := by
          rwa [went]
        rcases pop_failed popped with before | ⟨fault, stopped⟩
        · exact .inl ⟨obligation, before⟩
        · rw [went] at stopped
          cases stopped
      · cases move
        exact .inr (.inr (.inl ⟨_, rfl⟩))
  | ended outcome => cases move

/-- Induction on the moves: as long as no handler swallows an error, a failed cleanup means
trouble. -/
theorem troubled_of_marred {first last : Moment σ} (reaches : first.Reaches runtime software last)
    (clean : ¬ first.Marred)
    (passed : ∀ moment, first.Reaches runtime software moment →
      moment.Reaches runtime software last → ¬ moment.Swallows)
    (marred : last.Marred) : last.Troubled := by
  induction reaches with
  | refl => exact absurd marred clean
  | tail before move ih =>
    rcases marred.next? move with already | troubled
    · refine (ih ?_ already).next? (passed _ before (.single move)) move
      intro moment reached later
      exact passed moment reached (later.tail move)
    · exact troubled

/-- A run is over without an error only when nothing is left to drain. -/
theorem stack_of_ended {session final : Session σ}
    (reaches : (begin session).Reaches runtime software ⟨.ended (.ok ()), [], final⟩) :
    final.stack = [] := by
  rcases Relation.ReflTransGen.cases_tail reaches with same | ⟨⟨activity, callers, before⟩, -, move⟩
  · cases same
  · cases activity with
    | turn =>
      simp only [Moment.next?] at move
      split at move <;> cases move
    | enter step =>
      simp only [Moment.next?, Moment.enter, Option.some.injEq] at move
      split at move
      · cases move
      · split at move
        · cases move
        · split at move <;> cases move
    | handle step burdened work =>
      cases work with
      | insert steps next => cases steps <;> cases move
      | done | failed | observe | update | look | children | report => cases move
    | leave outcome =>
      cases callers with
      | nil => cases outcome <;> cases move
      | cons caller callers =>
        cases outcome with
        | error fault => cases move
        | ok _ =>
          simp only [Moment.next?, Moment.leave, Option.some.injEq] at move
          split at move <;> cases move
    | drain =>
      simp only [Moment.next?] at move
      split at move
      · rename_i empty
        cases move
        exact empty
      · split at move <;> cases move
    | ended outcome => cases move

end Moment

namespace Runtime

open Moment

/-- The seed has no cleanup to fail. -/
theorem start_events {world : σ} {session : Session σ}
    (started : runtime.start software world = .ok session) :
    ∃ frame, session.events = [.pushed none frame] := by
  obtain ⟨seed, -, rfl⟩ := Runtime.start_ok started
  exact ⟨_, rfl⟩

/-- Cleanups over whole runs. At every moment of a run the accounts are in order, and a run that
ends well has released every frame, attempted each cleanup once and, unless a handler returned a
frame over an error it was given, failed at none of them. The bounded engine is such a run. -/
theorem execution_accounts {world : σ} {session : Session σ}
    (started : runtime.start software world = .ok session) :
    (∀ moment, (begin session).Reaches runtime software moment → Accounts moment.session) ∧
    (∀ outcome final, runtime.execute software session = some (outcome, final) →
      (begin session).Reaches runtime software ⟨.ended outcome, [], final⟩) ∧
    ∀ final, (begin session).Reaches runtime software ⟨.ended (.ok ()), [], final⟩ →
      final.stack = [] ∧
      (Ledger.of final.history).released.Perm
        (List.range (Ledger.of final.history).frames.length) ∧
      final.attempted.Perm ((Ledger.of final.history).frames.filterMap Frame.cleanup) ∧
      ((∃ moment, (begin session).Reaches runtime software moment ∧
          moment.Reaches runtime software ⟨.ended (.ok ()), [], final⟩ ∧ moment.Swallows) ∨
        ∀ obligation, .cleaned obligation false ∉ final.history) := by
  have accounts : ∀ moment, (begin session).Reaches runtime software moment →
      Accounts moment.session := by
    intro moment reaches
    have orderly := (respects_orderly runtime).reaches reaches (orderly_start started)
    exact orderly.accounts
  refine ⟨accounts, fun outcome final => reaches_execute, ?_⟩
  intro final reaches
  have empty : final.stack = [] := stack_of_ended reaches
  have account := accounts _ reaches
  have nothing : (Ledger.of final.history).standing = [] := by
    simpa [empty] using account.onStack
  have all : (Ledger.of final.history).released.Perm
      (List.range (Ledger.of final.history).frames.length) := by
    simpa [nothing] using account.placed
  refine ⟨empty, all, ?_, ?_⟩
  · rw [account.attempted]
    exact Ledger.settled_perm all
  · by_cases swallows : ∃ moment, (begin session).Reaches runtime software moment ∧
        moment.Reaches runtime software ⟨.ended (.ok ()), [], final⟩ ∧ moment.Swallows
    · exact .inl swallows
    · right
      intro obligation failed
      have clean : ¬ (begin session).Marred := by
        rintro ⟨other, early⟩
        obtain ⟨frame, events⟩ := start_events started
        simp [begin, events] at early
      have troubled := troubled_of_marred reaches clean
        (fun moment reached later passes => swallows ⟨moment, reached, later, passes⟩)
        ⟨obligation, List.mem_reverse.mp failed⟩
      obtain ⟨caller, member, heavy⟩ := troubled.caller (by simp) (by simp) (by simp)
      cases member

/-- A handler opens two files in one scope and closes the second. -/
def nesting : Runtime Unit where
  handlers
    | .toFile => some fun task =>
      .done ((Frame.ofValue task.parameter).withCleanup ⟨.delete, task.parameter⟩)
    | .async => some fun task =>
      .insert [⟨.toFile, task.parameter ++ "1"⟩, ⟨.toFile, task.parameter ++ "2"⟩, .pop] fun
        | .ok () => .done (.ofValue "opened")
        | .error fault => .failed (.ofFault fault)
    | _ => none
  constants := ⟨[], fun _ => .error (.invalidRecipe "no constants")⟩
  facts := { family := .ubuntu, arch := .x86_64, id := ⟨0⟩ }
  clean _ world := (.ok (), world)
  announce _ _ world := world

/-- The scopes of the first two steps are never closed. -/
def unclosed : Software :=
  { parameter := "seed", steps := [⟨.toFile, "a"⟩, ⟨.async, "{{0}}"⟩, .pop] }

theorem execution_accounts_nesting :
    ∃ session final : Session Unit, nesting.start unclosed () = .ok session ∧
      nesting.execute unclosed session = some (.ok (), final) ∧ final.stack = [] ∧
      final.attempted = [⟨.delete, "a2"⟩, ⟨.delete, "a1"⟩, ⟨.delete, "a"⟩] := by
  let session : Session Unit :=
    ⟨unclosed.steps, [.ofValue "seed"], [.pushed none (.ofValue "seed")], ()⟩
  have started : nesting.start unclosed () = .ok session := by cbv
  have attempted : (nesting.execute unclosed session).map (fun run => (run.1, run.2.attempted)) =
      some (.ok (), [⟨.delete, "a2"⟩, ⟨.delete, "a1"⟩, ⟨.delete, "a"⟩]) := by cbv
  obtain ⟨⟨outcome, final⟩, ran, told⟩ := Option.map_eq_some_iff.mp attempted
  obtain ⟨rfl, told⟩ := Prod.mk.inj told
  obtain ⟨-, reaches, ended⟩ := execution_accounts started
  exact ⟨session, final, started, ran, (ended final (reaches _ final ran)).1, told⟩

end Runtime

end Provision
