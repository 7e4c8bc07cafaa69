import Provision.Proofs.Machine.Scratch

/-! Scripts in batch files. Such a file stays for a program that was started without waiting for it, and
for one that was to be started so and could not be; any other is deleted. -/

namespace Provision.Machine

open Working Disk

variable {before after : Machine} {path name script : String} {parent : Location}
  {causes : List String}

/-- The batch file of a script can always be filled once it is there. -/
theorem writeBatch_of_created {fresh : Machine} (script : String)
    (created : temporaryFile "recipe-" ".bat" before = (.ok path, fresh)) :
    ∃ disk parent name, writeBatch script before = (.ok path, { fresh with disk }) ∧
      Temporary before { fresh with disk } path ∧ Draft before.disk path parent name disk := by
  have entered : Entered _ "recipe-" ".bat" before (.ok path, fresh) :=
    created ▸ entered_temporaryFile "recipe-" ".bat" before
  obtain ⟨parent, name, draft⟩ := entered.draft (by decide) (by decide)
  obtain ⟨later, wrote, still⟩ := draft.write (Text.encode script) false
  have temporary : Temporary before fresh path := entered.temporary (by decide) (by decide)
  refine ⟨later, parent, name, ?_, temporary, still.toDraft⟩
  rw [writeBatch, bind_ok _ (within_of_ok _ created),
    bind_ok _ (orElseUndo_of_ok _ (onDisk_attempt _ wrote))]
  rfl

theorem writeBatch_cases (script : String) (before : Machine) :
    (∃ causes after, writeBatch script before = (.error causes, after) ∧
        after.disk = before.disk) ∨
      ∃ path after parent name, writeBatch script before = (.ok path, after) ∧
        Temporary before after path ∧ after.launcher = before.launcher ∧
        Draft before.disk path parent name after.disk := by
  have entered := entered_temporaryFile "recipe-" ".bat" before
  rcases created : temporaryFile "recipe-" ".bat" before with ⟨causes | path, fresh⟩
  · rw [created] at entered
    exact .inl ⟨_, fresh, bind_error _ (within_of_error _ created), entered.disk_eq⟩
  · rw [created] at entered
    obtain ⟨disk, parent, name, wrote, temporary, draft⟩ := writeBatch_of_created script created
    exact .inr ⟨path, _, parent, name, wrote, temporary, entered.launcher_eq, draft⟩

theorem writeBatch_ok (wrote : writeBatch script before = (.ok path, after)) :
    Temporary before after path := by
  rcases writeBatch_cases script before with ⟨_, _, refused, -⟩ | ⟨_, _, _, _, same, temporary, -⟩
  · rw [wrote] at refused
    cases refused
  · rw [wrote] at same
    cases same
    exact temporary

/-- A program that does not start changes nothing. -/
def Inert (launcher : Launcher) : Prop :=
  ∀ launch disk error after, launcher launch disk = (.error error, after) → after = disk

theorem launch_error {program : String} {arguments : List String} {input : Bytes} {error : IoError}
    (inert : Inert before.launcher)
    (failed : launch program arguments input before = (.error error, after)) :
    after.disk = before.disk := by
  unfold launch at failed
  split at failed
  · cases failed
    rfl
  · rcases started : before.launcher ⟨program, arguments, input, before.environment⟩ before.disk with
      ⟨_ | _, disk⟩
    · have same := inert _ _ _ _ started
      simp only [started] at failed
      cases failed
      rw [same]
    · simp only [started] at failed
      cases failed

/-- What a program leaves unread is no failure of running it. -/
theorem concludeRun_written (program : String) (input : Bytes) (finished : Finished) :
    concludeRun program finished (written input finished) =
      .ok ⟨exitCode finished.status, Text.decodeLossy finished.out, Text.decodeLossy finished.err⟩ := by
  unfold written
  split <;> rfl

theorem runProcess_of_ok {program : String} {arguments : List String} {input : Option Bytes}
    {finished : Finished} (ran : launch program arguments (input.getD []) before = (.ok finished, after)) :
    runProcess (program :: arguments) input before =
      (.ok ⟨exitCode finished.status, Text.decodeLossy finished.out, Text.decodeLossy finished.err⟩,
        after) := by
  simp only [runProcess]
  rw [get_bind]
  simp only [ran, concludeRun_written]
  rfl

theorem runProcess_of_error {program : String} {arguments : List String} {input : Option Bytes}
    {error : IoError} (refused : launch program arguments (input.getD []) before = (.error error, after)) :
    runProcess (program :: arguments) input before =
      (.error ["command failed to start: " ++ program, error.message], after) := by
  simp only [runProcess]
  rw [get_bind]
  simp only [refused]
  rfl

theorem runProcess_error {command : List String} {input : Option Bytes} (inert : Inert before.launcher)
    (failed : runProcess command input before = (.error causes, after)) :
    after.disk = before.disk := by
  cases command with
  | nil =>
    cases failed
    rfl
  | cons program arguments =>
    rcases ran : launch program arguments (input.getD []) before with ⟨error | finished, later⟩
    · rw [runProcess_of_error ran] at failed
      cases failed
      exact launch_error inert ran
    · rw [runProcess_of_ok ran] at failed
      cases failed

/-- The batch file goes whether or not its program starts. -/
theorem runBatchScript_error {script : String} (inert : Inert before.launcher)
    (failed : runBatchScript script before = (.error causes, after)) :
    Restored before.disk after.disk := by
  rcases writeBatch_cases script before with ⟨others, later, refused, same⟩ |
    ⟨path, made, parent, name, wrote, -, launcher, draft⟩
  · rw [runBatchScript, bind_error _ refused] at failed
    cases failed
    exact restored_of_eq same
  · rw [runBatchScript, bind_ok _ wrote] at failed
    rcases of_bind_error failed with stopped | ⟨captured, later, _, rest⟩
    · obtain ⟨later, ran, rfl⟩ := orElseUndo_error stopped
      have same := runProcess_error (launcher ▸ inert) ran
      exact restored_discard (same ▸ draft.deleted)
    · rw [bind_ok _ (discard_eq path later)] at rest
      cases rest

theorem runBatchScript_ok {captured : Captured}
    (ran : runBatchScript script before = (.ok captured, after)) :
    ∃ path made ended, writeBatch script before = (.ok path, made) ∧
      runProcess ["cmd", "/C", path] none made = (.ok captured, ended) ∧
      after = (discard path ended).2 := by
  obtain ⟨path, made, wrote, rest⟩ := of_bind_ok ran
  obtain ⟨_, ended, finished, rest⟩ := of_bind_ok rest
  rw [bind_ok _ (discard_eq path ended)] at rest
  cases rest
  exact ⟨path, made, ended, wrote, orElseUndo_ok finished, by rw [discard_eq]⟩

theorem startBatch_of_error {error : IoError} {made : Machine}
    (wrote : writeBatch script before = (.ok path, made))
    (refused : launch "cmd" ["/C", "start", "/B", path] [] made = (.error error, after)) :
    startBatch script before = (.error ["command failed to start: cmd", error.message], after) := by
  rw [startBatch, bind_ok _ wrote, get_bind]
  simp only [refused]
  rfl

/-- Without the program that was to read it the batch file stays. -/
theorem startBatch_error {script : String} (inert : Inert before.launcher)
    (failed : startBatch script before = (.error causes, after)) :
    ((∃ causes refused, writeBatch script before = (.error causes, refused)) ∧
        Restored before.disk after.disk) ∨
      ∃ path made parent name error, writeBatch script before = (.ok path, made) ∧
        (launch "cmd" ["/C", "start", "/B", path] [] made).1 = .error error ∧
        Temporary before after path ∧ Draft before.disk path parent name after.disk := by
  rcases writeBatch_cases script before with ⟨others, later, refused, same⟩ |
    ⟨path, made, parent, name, wrote, temporary, launcher, draft⟩
  · rw [startBatch, bind_error _ refused] at failed
    cases failed
    exact .inl ⟨⟨_, _, refused⟩, restored_of_eq same⟩
  · have later := later_launch "cmd" ["/C", "start", "/B", path] [] made
    rcases ran : launch "cmd" ["/C", "start", "/B", path] [] made with ⟨error | finished, ended⟩
    · rw [startBatch_of_error wrote ran] at failed
      rw [ran] at later
      cases failed
      have same := launch_error (launcher ▸ inert) ran
      exact .inr ⟨path, made, parent, name, error, wrote, by rw [ran], temporary.later later,
        same ▸ draft⟩
    · rw [startBatch, bind_ok _ wrote, get_bind] at failed
      simp only [ran] at failed
      cases failed

theorem startBatch_ok {value : Unit} (ran : startBatch script before = (.ok value, after)) :
    ∃ path made finished, writeBatch script before = (.ok path, made) ∧
      (launch "cmd" ["/C", "start", "/B", path] [] made).1 = .ok finished := by
  obtain ⟨path, made, wrote, rest⟩ := of_bind_ok ran
  rw [get_bind] at rest
  rcases started : launch "cmd" ["/C", "start", "/B", path] [] made with ⟨error | finished, ended⟩
  · simp only [started] at rest
    cases rest
  · exact ⟨path, made, finished, wrote, by rw [started]⟩

theorem launch_names (program : String) (arguments : List String) (input : Bytes)
    (before : Machine) : (launch program arguments input before).2.names = before.names := by
  unfold launch
  split <;> rfl

theorem runProcess_names (command : List String) (input : Option Bytes) (before : Machine) :
    (runProcess command input before).2.names = before.names := by
  cases command with
  | nil => rfl
  | cons program arguments =>
    have counts := launch_names program arguments (input.getD []) before
    simp only [runProcess]
    rw [get_bind]
    rcases ran : launch program arguments (input.getD []) before with ⟨error | finished, later⟩
    · rw [ran] at counts
      exact counts
    · rw [ran] at counts
      exact counts

/-- A shell reads its script from a pipe. -/
theorem startBash_names (script : String) (before : Machine) :
    (startBash script before).2.names = before.names := by
  have counts := launch_names "bash" ["-s", "-e"] (Text.encode script) before
  unfold startBash
  rw [get_bind]
  rcases ran : launch "bash" ["-s", "-e"] (Text.encode script) before with ⟨error | finished, later⟩
  · rw [ran] at counts
    exact counts
  · rw [ran] at counts
    exact counts

end Provision.Machine
