import Provision.Proofs.Engine.Course
import Provision.Proofs.Engine.Ledger

/-! Frames and cleanups over whole runs. At every moment of every run, aborted or not, the history
accounts for each frame ever pushed: it is on the stack, or it was popped, and then its cleanup was
attempted there and then. Frames are popped in the reverse order of their pushes. -/

namespace Provision

variable {σ : Type} {runtime : Runtime σ} {software : Software}

/-- Histories, latest event first, that pushes and pops can have left together with a stack. The
attempt at a cleanup follows the pop of its frame at once. -/
inductive Orderly : List Event → Stack → Prop where
  | start : Orderly [] []
  | reported (before : Orderly events stack) (step : Step) (frame : Frame) :
    Orderly (.reported step frame :: events) stack
  | pushed (before : Orderly events stack) (step : Option Step) (frame : Frame) :
    Orderly (.pushed step frame :: events) (frame :: stack)
  | popped (before : Orderly events (frame :: stack)) (free : frame.cleanup = none) :
    Orderly (.popped frame :: events) stack
  | cleaned (before : Orderly events (frame :: stack)) (owed : frame.cleanup = some obligation)
    (succeeded : Bool) : Orderly (.cleaned obligation succeeded :: .popped frame :: events) stack

/-- A pop leaves an orderly session orderly, whatever comes of the cleanup. -/
theorem Orderly.pop {session : Session σ} (orderly : Orderly session.events session.stack) :
    Orderly (session.pop runtime.clean).2.events (session.pop runtime.clean).2.stack := by
  cases frames : session.stack with
  | nil =>
    rw [frames] at orderly
    simpa [Session.pop, Stack.pop, frames] using orderly
  | cons frame below =>
    rw [frames] at orderly
    simp only [Session.pop, Stack.pop, frames, Session.release, Frame.release]
    cases owed : frame.cleanup with
    | none => exact orderly.popped owed
    | some obligation =>
      simp only [Session.discharge]
      rcases runtime.clean obligation session.world with ⟨causes | _, world⟩
      · exact orderly.cleaned owed false
      · exact orderly.cleaned owed true

theorem respects_orderly (runtime : Runtime σ) :
    runtime.Respects fun before after =>
      Orderly before.events before.stack → Orderly after.events after.stack where
  refl _ orderly := orderly
  trans first second orderly := second (first orderly)
  world _ _ orderly := orderly
  take _ _ _ orderly := orderly
  report _ step frame orderly := orderly.reported step frame
  push _ step frame orderly := orderly.pushed (some step) frame
  pop _ orderly := orderly.pop

/-- The seed is the first frame that is pushed. -/
theorem orderly_start {world : σ} {session : Session σ}
    (started : runtime.start software world = .ok session) :
    Orderly session.events session.stack := by
  obtain ⟨seed, -, rfl⟩ := Runtime.start_ok started
  exact Orderly.start.pushed none _

/-- The obligations that were attended to, in order. -/
def attempts (history : List Event) : List Cleanup :=
  history.filterMap fun
    | .cleaned obligation _ => some obligation
    | _ => none

theorem attempts_append (first second : List Event) :
    attempts (first ++ second) = attempts first ++ attempts second :=
  List.filterMap_append ..

/-- The ledger of an orderly history agrees with the stack, and every released frame's obligation,
if it had one, was attempted once, in the order of pops. -/
theorem Orderly.ledger {events : List Event} {stack : Stack} (orderly : Orderly events stack) :
    (Ledger.of events.reverse).Agrees stack ∧
      attempts events.reverse = (Ledger.of events.reverse).settled := by
  induction orderly with
  | start => exact ⟨Ledger.agrees_empty, rfl⟩
  | reported before step frame ih =>
    rw [List.reverse_cons, Ledger.of_append_singleton, attempts_append]
    simpa [attempts, Ledger.enter] using ih
  | pushed before step frame ih =>
    obtain ⟨agrees, attempted⟩ := ih
    rw [List.reverse_cons, Ledger.of_append_singleton, attempts_append, attempted]
    exact ⟨agrees.push step frame, by simp [attempts, agrees.settled_push]⟩
  | popped before free ih =>
    obtain ⟨agrees, attempted⟩ := ih
    rw [List.reverse_cons, Ledger.of_append_singleton, attempts_append, attempted]
    exact ⟨agrees.pop, by simp [attempts, agrees.settled_pop, free]⟩
  | @cleaned events frame stack obligation before owed succeeded ih =>
    obtain ⟨agrees, attempted⟩ := ih
    have settled := agrees.settled_pop
    rw [owed, Option.toList_some] at settled
    rw [List.reverse_cons, List.reverse_cons, Ledger.of_append_singleton,
      Ledger.of_append_singleton, attempts_append, attempts_append, attempted]
    exact ⟨agrees.pop, by simpa [attempts, Ledger.enter] using settled.symm⟩

/-- What came after the pop of a frame, latest event first, began with the attempt at its cleanup,
if it has one. -/
def Attended (frame : Frame) (later : List Event) : Prop :=
  ∀ obligation, frame.cleanup = some obligation →
    ∃ rest succeeded, later = rest ++ [.cleaned obligation succeeded]

theorem Attended.cons {frame : Frame} {later : List Event} (attended : Attended frame later)
    (event : Event) : Attended frame (event :: later) := by
  intro obligation owed
  obtain ⟨rest, succeeded, rfl⟩ := attended obligation owed
  exact ⟨event :: rest, succeeded, rfl⟩

/-- Up to just before any of its pops an orderly history is orderly, with the popped frame on
top. -/
theorem Orderly.at_pop {later earlier events : List Event} {stack : Stack} {frame : Frame}
    (orderly : Orderly events stack) (same : later ++ .popped frame :: earlier = events) :
    (∃ below, Orderly earlier (frame :: below)) ∧ Attended frame later := by
  induction orderly generalizing later with
  | start => simp at same
  | reported before step other ih =>
    cases later with
    | nil => cases same
    | cons event later =>
      obtain ⟨whole, attended⟩ := ih (List.cons.inj same).2
      exact ⟨whole, attended.cons event⟩
  | pushed before step other ih =>
    cases later with
    | nil => cases same
    | cons event later =>
      obtain ⟨whole, attended⟩ := ih (List.cons.inj same).2
      exact ⟨whole, attended.cons event⟩
  | popped before free ih =>
    cases later with
    | nil =>
      cases same
      exact ⟨⟨_, before⟩, fun obligation owed => by simp [free] at owed⟩
    | cons event later =>
      obtain ⟨whole, attended⟩ := ih (List.cons.inj same).2
      exact ⟨whole, attended.cons event⟩
  | cleaned before owed succeeded ih =>
    rcases later with _ | ⟨event, _ | ⟨second, later⟩⟩
    · cases same
    · cases same
      refine ⟨⟨_, before⟩, fun obligation owes => ?_⟩
      cases owed.symm.trans owes
      exact ⟨[], succeeded, rfl⟩
    · obtain ⟨whole, attended⟩ := ih (List.cons.inj (List.cons.inj same).2).2
      exact ⟨whole, (attended.cons second).cons event⟩

/-- No cleanup is attempted but right after the pop of the frame that has it. -/
theorem Orderly.at_cleanup {later earlier events : List Event} {stack : Stack}
    {obligation : Cleanup} {succeeded : Bool} (orderly : Orderly events stack)
    (same : later ++ .cleaned obligation succeeded :: earlier = events) :
    ∃ frame before, frame.cleanup = some obligation ∧ earlier = .popped frame :: before := by
  induction orderly generalizing later with
  | start => simp at same
  | reported before step other ih =>
    cases later with
    | nil => cases same
    | cons event later => exact ih (List.cons.inj same).2
  | pushed before step other ih =>
    cases later with
    | nil => cases same
    | cons event later => exact ih (List.cons.inj same).2
  | popped before free ih =>
    cases later with
    | nil => cases same
    | cons event later => exact ih (List.cons.inj same).2
  | cleaned before owed outcome ih =>
    rcases later with _ | ⟨event, _ | ⟨second, later⟩⟩
    · cases same
      exact ⟨_, _, owed, rfl⟩
    · cases same
    · exact ih (List.cons.inj (List.cons.inj same).2).2

/-- What the history of a session tells of its frames and their cleanups. -/
structure Accounts (session : Session σ) : Prop where
  /-- Each frame ever pushed is either on the stack or released, and only once. -/
  placed : ((Ledger.of session.history).released ++ (Ledger.of session.history).standing).Perm
    (List.range (Ledger.of session.history).frames.length)
  onStack : (Ledger.of session.history).standing.map (Ledger.of session.history).frame? =
    session.stack.map some
  /-- The attempted cleanups are those of the released frames, once each, in the order of pops. -/
  attempted : session.attempted = (Ledger.of session.history).settled
  /-- A cleanup is attempted as soon as its frame is popped. -/
  atOnce : ∀ before frame after obligation, session.history = before ++ .popped frame :: after →
    frame.cleanup = some obligation →
      ∃ succeeded rest, after = .cleaned obligation succeeded :: rest
  /-- It is attempted at no other time. -/
  onlyThen : ∀ before obligation succeeded after,
    session.history = before ++ .cleaned obligation succeeded :: after →
      ∃ earlier frame, before = earlier ++ [.popped frame] ∧ frame.cleanup = some obligation
  /-- A pop releases the frame on top, and whatever was pushed later has been released before. -/
  latestFirst : ∀ before frame after, session.history = before ++ .popped frame :: after →
    ∃ number below, (Ledger.of before).standing = number :: below ∧
      (Ledger.of before).frame? number = some frame ∧
      ∀ later, number < later → later < (Ledger.of before).frames.length →
        later ∈ (Ledger.of before).released

theorem reverse_eq_append_cons {events before after : List Event} {event : Event}
    (split : events.reverse = before ++ event :: after) :
    after.reverse ++ event :: before.reverse = events := by
  rw [← List.reverse_reverse events, split]
  simp

theorem Orderly.accounts {session : Session σ} (orderly : Orderly session.events session.stack) :
    Accounts session where
  placed := orderly.ledger.1.placed
  onStack := orderly.ledger.1.onStack
  attempted := orderly.ledger.2
  atOnce before frame after obligation split owed := by
    obtain ⟨rest, succeeded, follows⟩ :=
      (orderly.at_pop (reverse_eq_append_cons split)).2 obligation owed
    exact ⟨succeeded, rest.reverse, by rw [← List.reverse_reverse after, follows]; simp⟩
  onlyThen before obligation succeeded after split := by
    obtain ⟨frame, earlier, owed, precedes⟩ := orderly.at_cleanup (reverse_eq_append_cons split)
    exact ⟨earlier.reverse, frame, by rw [← List.reverse_reverse before, precedes]; simp, owed⟩
  latestFirst before frame after split := by
    obtain ⟨⟨below, whole⟩, -⟩ := orderly.at_pop (reverse_eq_append_cons split)
    have agrees := whole.ledger.1
    rw [List.reverse_reverse] at agrees
    obtain ⟨number, deeper, standing, found, -⟩ := agrees.top
    exact ⟨number, deeper, standing, found,
      fun later after pushed => agrees.later_released standing after pushed⟩

end Provision
