import Provision.Lock
import Provision.Proofs.Disk.Shape

/-! Processes that contend for the lock of one recipe on one disk. A move is a single request to the
operating system by one process, so that a list of processes is an order of all their requests. A
process on its own takes and releases the lock as `RunLock.acquire` and `RunLock.release` do. -/

namespace Provision

/-- How far a process has come. -/
inductive Phase where
  | idle
  | opened (file : Nat)
  | locked (file : Nat)
  | emptied (file : Nat)
  /-- It has been told that the lock is its own. -/
  | holding (file : Nat)
  /-- It has begun to let go: the name is removed, the lock is not given back yet. -/
  | removed (file : Nat)
  deriving DecidableEq, Repr

/-- The file on which a process has the advisory lock. -/
def Phase.locks? : Phase → Option Nat
  | .locked file | .emptied file | .holding file | .removed file => some file
  | .idle | .opened _ => none

structure Contest where
  disk : Disk
  phase : Nat → Phase

/-- What taking the lock comes to, request by request. -/
theorem RunLock.acquire_eq (recipe : String) (machine : Machine) :
    RunLock.acquire recipe machine =
      match machine.disk.openOrCreate (RunLock.pathFor recipe) with
      | .error error =>
        (.error ["cannot open lock file " ++ RunLock.pathFor recipe, error.message], machine)
      | .ok (file, disk) =>
        match disk.tryLock file with
        | none =>
          (.error [RunLock.busy recipe (RunLock.pathFor recipe)
            ((disk.contents? file).bind RunLock.holder?)], { machine with disk })
        | some locked =>
          (.ok ⟨file, RunLock.pathFor recipe⟩,
            { machine with disk := locked.rewrite file (Text.encode (toString machine.pid)) }) := by
  unfold RunLock.acquire
  change (match machine.disk.openOrCreate (RunLock.pathFor recipe) with
    | .error error => throw ["cannot open lock file " ++ RunLock.pathFor recipe, error.message]
    | .ok (file, disk) => _ : Machine.Work RunLock) machine = _
  rcases machine.disk.openOrCreate (RunLock.pathFor recipe) with error | ⟨file, disk⟩
  · rfl
  · dsimp only
    cases disk.tryLock file <;> rfl

/-- The disk after an attempt to remove a name. -/
def Disk.unlinked (disk : Disk) (path : String) : Disk :=
  match disk.unlink path with
  | .ok after => after
  | .error _ => disk

/-- What giving the lock back comes to. -/
theorem RunLock.release_disk (lock : RunLock) (machine : Machine) :
    (lock.release machine).disk = (machine.disk.unlinked lock.path).unlock lock.file := rfl

namespace Contest

/-- Everyone is idle, and nobody has a lock. -/
def start (disk : Disk) : Contest := ⟨{ disk with locked := [] }, fun _ => .idle⟩

def enter (contest : Contest) (process : Nat) (phase : Phase) (disk : Disk) : Contest :=
  ⟨disk, fun other => if other = process then phase else contest.phase other⟩

/-- The next request of a process. -/
def move (recipe : String) (contest : Contest) (process : Nat) : Contest :=
  match contest.phase process with
  | .idle =>
    match contest.disk.openOrCreate (RunLock.pathFor recipe) with
    | .ok (file, disk) => contest.enter process (.opened file) disk
    | .error _ => contest
  | .opened file =>
    match contest.disk.tryLock file with
    | some disk => contest.enter process (.locked file) disk
    | none => contest.enter process .idle contest.disk
  | .locked file => contest.enter process (.emptied file) (contest.disk.rewrite file [])
  | .emptied file =>
    contest.enter process (.holding file)
      (contest.disk.rewrite file (Text.encode (toString process)))
  | .holding file =>
    contest.enter process (.removed file) (contest.disk.unlinked (RunLock.pathFor recipe))
  | .removed file => contest.enter process .idle (contest.disk.unlock file)

/-- The requests of the scheduled processes, one after the other. -/
def run (recipe : String) (contest : Contest) (schedule : List Nat) : Contest :=
  schedule.foldl (move recipe) contest

variable {recipe : String} {contest : Contest} {process : Nat}

theorem run_append (first second : List Nat) :
    contest.run recipe (first ++ second) = (contest.run recipe first).run recipe second :=
  List.foldl_append

@[simp]
theorem run_nil : contest.run recipe [] = contest := rfl

theorem run_cons (rest : List Nat) :
    contest.run recipe (process :: rest) = (contest.move recipe process).run recipe rest := rfl

@[simp]
theorem enter_self (phase : Phase) (disk : Disk) :
    (contest.enter process phase disk).phase process = phase := by
  simp [enter]

theorem enter_other {other : Nat} (different : other ≠ process) (phase : Phase) (disk : Disk) :
    (contest.enter process phase disk).phase other = contest.phase other := by
  simp [enter, different]

@[simp]
theorem enter_disk (phase : Phase) (disk : Disk) :
    (contest.enter process phase disk).disk = disk := rfl

theorem enter_unchanged (contest : Contest) (process : Nat) :
    contest.enter process (contest.phase process) contest.disk = contest := by
  unfold enter
  congr 1
  funext other
  by_cases same : other = process <;> simp [same]

section Moves

variable {file : Nat} {disk : Disk}

theorem move_idle (stands : contest.phase process = .idle)
    (opened : contest.disk.openOrCreate (RunLock.pathFor recipe) = .ok (file, disk)) :
    contest.move recipe process = contest.enter process (.opened file) disk := by
  simp only [move, stands, opened]

theorem move_opened (stands : contest.phase process = .opened file)
    (taken : contest.disk.tryLock file = some disk) :
    contest.move recipe process = contest.enter process (.locked file) disk := by
  simp only [move, stands, taken]

theorem move_refused (stands : contest.phase process = .opened file)
    (refused : contest.disk.tryLock file = none) :
    contest.move recipe process = contest.enter process .idle contest.disk := by
  simp only [move, stands, refused]

theorem move_locked (stands : contest.phase process = .locked file) :
    contest.move recipe process =
      contest.enter process (.emptied file) (contest.disk.rewrite file []) := by
  simp only [move, stands]

theorem move_emptied (stands : contest.phase process = .emptied file) :
    contest.move recipe process = contest.enter process (.holding file)
      (contest.disk.rewrite file (Text.encode (toString process))) := by
  simp only [move, stands]

theorem move_holding (stands : contest.phase process = .holding file) :
    contest.move recipe process = contest.enter process (.removed file)
      (contest.disk.unlinked (RunLock.pathFor recipe)) := by
  simp only [move, stands]

theorem move_removed (stands : contest.phase process = .removed file) :
    contest.move recipe process = contest.enter process .idle (contest.disk.unlock file) := by
  simp only [move, stands]

end Moves

theorem enter_enter (first second : Phase) (before after : Disk) :
    (contest.enter process first before).enter process second after =
      contest.enter process second after := by
  unfold enter
  congr 1
  funext other
  by_cases same : other = process <;> simp [same]

/-- Nobody is moved by anyone else. -/
theorem move_other {other : Nat} (different : other ≠ process) :
    (contest.move recipe process).phase other = contest.phase other := by
  unfold move
  split
  · split
    · exact enter_other different _ _
    · rfl
  · split <;> exact enter_other different _ _
  · exact enter_other different _ _
  · exact enter_other different _ _
  · exact enter_other different _ _
  · exact enter_other different _ _

theorem run_other {schedule : List Nat} (absent : process ∉ schedule) :
    (contest.run recipe schedule).phase process = contest.phase process := by
  induction schedule generalizing contest with
  | nil => rfl
  | cons first rest ih =>
    have later : process ∉ rest := List.not_mem_of_not_mem_cons absent
    rw [run_cons, ih later, move_other (List.ne_of_not_mem_cons absent)]

theorem rewritten_rewritten (node : Node) (file : Nat) (first second : Bytes) :
    (node.rewritten file first).rewritten file second = node.rewritten file second := by
  cases node with
  | file id bytes executable => by_cases same : id = file <;> simp [Node.rewritten, same]
  | dir => rfl
  | link target => rfl

theorem rewrite_rewrite (disk : Disk) (file : Nat) (first second : Bytes) :
    (disk.rewrite file first).rewrite file second = disk.rewrite file second := by
  simp [Disk.rewrite, rewritten_rewritten]

/-- Once the file is locked nothing stands in the way of holding it. -/
theorem run_locked {file : Nat} (stands : contest.phase process = .locked file) :
    contest.run recipe [process, process] = contest.enter process (.holding file)
      (contest.disk.rewrite file (Text.encode (toString process))) := by
  rw [run_cons, run_cons, move_locked stands, move_emptied (enter_self _ _), enter_enter,
    enter_disk, rewrite_rewrite, run_nil]

theorem run_taken {file : Nat} {disk : Disk} (stands : contest.phase process = .opened file)
    (taken : contest.disk.tryLock file = some disk) :
    contest.run recipe [process, process, process] = contest.enter process (.holding file)
      (disk.rewrite file (Text.encode (toString process))) := by
  rw [run_cons, move_opened stands taken, run_locked (enter_self _ _), enter_enter, enter_disk]

/-- The phase in which an attempt to take the lock leaves the process. -/
def outcome : Except (List String) RunLock → Phase
  | .ok lock => .holding lock.file
  | .error _ => .idle

/-- The requests of one process in a row take the lock as the program does. -/
theorem run_acquire (recipe : String) (machine : Machine)
    (idle : contest.phase machine.pid = .idle) (same : contest.disk = machine.disk) :
    ∃ turns, contest.run recipe (List.replicate turns machine.pid) =
      contest.enter machine.pid (outcome (RunLock.acquire recipe machine).1)
        (RunLock.acquire recipe machine).2.disk := by
  rw [RunLock.acquire_eq]
  rcases opened : machine.disk.openOrCreate (RunLock.pathFor recipe) with error | ⟨file, disk⟩
  · refine ⟨0, ?_⟩
    simp only [run, List.replicate_zero, List.foldl_nil, outcome]
    rw [← same, ← idle]
    exact (enter_unchanged contest machine.pid).symm
  · dsimp only
    rw [← same] at opened
    have first := move_idle idle opened
    cases taken : disk.tryLock file with
    | none =>
      refine ⟨2, ?_⟩
      change contest.run recipe [machine.pid, machine.pid] = _
      rw [run_cons, run_cons, first, move_refused (enter_self _ _) taken, enter_enter]
      rfl
    | some locked =>
      refine ⟨4, ?_⟩
      change contest.run recipe [machine.pid, machine.pid, machine.pid, machine.pid] = _
      rw [run_cons, first, run_taken (enter_self _ _) taken, enter_enter]
      rfl

/-- And two more give it back. -/
theorem run_release (machine : Machine) (lock : RunLock)
    (holds : contest.phase machine.pid = .holding lock.file)
    (path : lock.path = RunLock.pathFor recipe) (same : contest.disk = machine.disk) :
    contest.run recipe [machine.pid, machine.pid] =
      contest.enter machine.pid .idle (lock.release machine).disk := by
  rw [run_cons, run_cons, move_holding holds, move_removed (enter_self _ _), enter_enter, run_nil,
    enter_disk, RunLock.release_disk, path, same]

end Contest

end Provision
