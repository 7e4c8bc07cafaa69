import Mathlib.Data.Fintype.EquivFin
import Mathlib.Data.List.Nodup
import Provision.Proofs.Lock.Contest

/-! Who can hold the lock of a recipe at the same time. The lock is on the opened file and the name
is removed before it is given back, so a process that opened the file in time may lock it when its
name is gone, and then another process can make and lock a new file of that name. As long as no file
is locked after its name was removed, one process at most holds the lock; and whenever one is, two
processes can come to hold it. -/

namespace Provision.Contest

/-- The file that a process has locked, until it removes the name. -/
def claims? : Phase → Option Nat
  | .locked file | .emptied file | .holding file => some file
  | .idle | .opened _ | .removed _ => none

/-- One process at most has been told that the lock is its own and not yet begun to let go. -/
def Exclusive (contest : Contest) : Prop :=
  ∀ first second file other, contest.phase first = .holding file →
    contest.phase second = .holding other → first = second

/-- Whoever lets go of the lock next removes no lock file that another process holds. -/
def Spares (recipe : String) (contest : Contest) : Prop :=
  ∀ leaving holder own file, leaving ≠ holder → contest.phase leaving = .holding own →
    contest.phase holder = .holding file →
      contest.disk.leads (RunLock.pathFor recipe) ≠ some file

/-- If the process locks a file now, then it is the one of that name. -/
def OnTime (recipe : String) (contest : Contest) (process : Nat) : Prop :=
  ∀ file, contest.phase process = .opened file → file ∉ contest.disk.locked →
    contest.disk.leads (RunLock.pathFor recipe) = some file

/-- No file is locked that no longer has its name. -/
def Timely (recipe : String) : Contest → List Nat → Prop
  | _, [] => True
  | contest, process :: rest =>
    OnTime recipe contest process ∧ Timely recipe (contest.move recipe process) rest

/-- The locks on the disk are those of the processes, one each. -/
structure Sound (contest : Contest) : Prop where
  locked : ∀ process file, (contest.phase process).locks? = some file → file ∈ contest.disk.locked
  single : ∀ first second file, (contest.phase first).locks? = some file →
    (contest.phase second).locks? = some file → first = second
  owned : ∀ file ∈ contest.disk.locked, ∃ process, (contest.phase process).locks? = some file
  once : contest.disk.locked.Nodup

/-- Every claimed file has its name. -/
def Current (recipe : String) (contest : Contest) : Prop :=
  ∀ process file, claims? (contest.phase process) = some file →
    contest.disk.leads (RunLock.pathFor recipe) = some file

variable {recipe : String} {contest : Contest} {process file : Nat} {disk : Disk} {phase : Phase}

theorem locks?_of_claims? (claims : claims? phase = some file) : phase.locks? = some file := by
  cases phase <;> simp_all [claims?, Phase.locks?]

theorem tryLock_eq_some (taken : contest.disk.tryLock file = some disk) :
    file ∉ contest.disk.locked ∧ disk.locked = file :: contest.disk.locked := by
  unfold Disk.tryLock at taken
  split at taken
  · cases taken
  · rename_i free
    cases taken
    exact ⟨by simpa using free, rfl⟩

theorem tryLock_of_free (free : file ∉ contest.disk.locked) :
    contest.disk.tryLock file =
      some { contest.disk with locked := file :: contest.disk.locked } := by
  simp [Disk.tryLock, free]

theorem unlinked_locked (disk : Disk) (path : String) :
    (disk.unlinked path).locked = disk.locked := by
  unfold Disk.unlinked
  split
  · rename_i removed
    exact Disk.unlink_locked removed
  · rfl

theorem sound_start (disk : Disk) : Sound (start disk) where
  locked process file locks := by cases locks
  single first second file locks := by cases locks
  owned file member := by cases member
  once := .nil

/-- A move that takes and gives back no lock. -/
theorem Sound.keep (sound : Sound contest)
    (same : phase.locks? = (contest.phase process).locks?)
    (kept : disk.locked = contest.disk.locked) : Sound (contest.enter process phase disk) := by
  have locks (other : Nat) :
      ((contest.enter process phase disk).phase other).locks? = (contest.phase other).locks? := by
    by_cases moved : other = process
    · rw [moved, enter_self, same]
    · rw [enter_other moved]
  constructor
  · intro other file locked
    rw [enter_disk, kept]
    exact sound.locked other file (locks other ▸ locked)
  · intro first second file locked lockedToo
    exact sound.single first second file (locks first ▸ locked) (locks second ▸ lockedToo)
  · intro file member
    rw [enter_disk, kept] at member
    obtain ⟨other, locked⟩ := sound.owned file member
    exact ⟨other, (locks other).trans locked⟩
  · rw [enter_disk, kept]
    exact sound.once

theorem Sound.take (sound : Sound contest) (stands : contest.phase process = .opened file)
    (taken : contest.disk.tryLock file = some disk) :
    Sound (contest.enter process (.locked file) disk) := by
  obtain ⟨free, now⟩ := tryLock_eq_some taken
  have unlocked (other : Nat) : (contest.phase other).locks? ≠ some file :=
    fun locks => free (sound.locked other file locks)
  constructor
  · intro other held locks
    rw [enter_disk, now]
    by_cases moved : other = process
    · rw [moved, enter_self] at locks
      cases locks
      exact List.mem_cons_self
    · rw [enter_other moved] at locks
      exact List.mem_cons_of_mem _ (sound.locked other held locks)
  · intro first second held locks locksToo
    by_cases one : first = process
    · by_cases two : second = process
      · rw [one, two]
      · rw [one, enter_self] at locks
        cases locks
        rw [enter_other two] at locksToo
        exact absurd locksToo (unlocked second)
    · rw [enter_other one] at locks
      by_cases two : second = process
      · rw [two, enter_self] at locksToo
        cases locksToo
        exact absurd locks (unlocked first)
      · rw [enter_other two] at locksToo
        exact sound.single first second held locks locksToo
  · intro held member
    rw [enter_disk, now] at member
    rcases List.mem_cons.mp member with rfl | before
    · exact ⟨process, by rw [enter_self]; rfl⟩
    · obtain ⟨other, locks⟩ := sound.owned held before
      refine ⟨other, ?_⟩
      rw [enter_other]
      · exact locks
      · rintro rfl
        rw [stands] at locks
        cases locks
  · rw [enter_disk, now]
    exact List.nodup_cons.mpr ⟨free, sound.once⟩

theorem Sound.give (sound : Sound contest) (stands : contest.phase process = .removed file) :
    Sound (contest.enter process .idle (contest.disk.unlock file)) := by
  have locks : (contest.phase process).locks? = some file := by rw [stands]; rfl
  constructor
  · intro other held lockedBy
    by_cases moved : other = process
    · rw [moved, enter_self] at lockedBy
      cases lockedBy
    · rw [enter_other moved] at lockedBy
      have different : held ≠ file := by
        rintro rfl
        exact moved (sound.single other process held lockedBy locks)
      exact (List.mem_erase_of_ne different).mpr (sound.locked other held lockedBy)
  · intro first second held lockedBy lockedToo
    by_cases one : first = process
    · rw [one, enter_self] at lockedBy
      cases lockedBy
    · by_cases two : second = process
      · rw [two, enter_self] at lockedToo
        cases lockedToo
      · rw [enter_other one] at lockedBy
        rw [enter_other two] at lockedToo
        exact sound.single first second held lockedBy lockedToo
  · intro held member
    obtain ⟨different, before⟩ := (sound.once.mem_erase_iff).mp member
    obtain ⟨other, lockedBy⟩ := sound.owned held before
    refine ⟨other, ?_⟩
    rw [enter_other]
    · exact lockedBy
    · rintro rfl
      rw [stands] at lockedBy
      cases lockedBy
      exact different rfl
  · exact sound.once.erase file

/-- Whatever a process does next, the locks stay in order. -/
theorem Sound.move (sound : Sound contest) (recipe : String) (process : Nat) :
    Sound (contest.move recipe process) := by
  cases stands : contest.phase process with
  | idle =>
    cases opened : contest.disk.openOrCreate (RunLock.pathFor recipe) with
    | error error =>
      simpa only [Contest.move, stands, opened] using sound
    | ok found =>
      obtain ⟨file, disk⟩ := found
      rw [move_idle stands opened]
      exact sound.keep (by rw [stands]; rfl) (Disk.openOrCreate_locked opened)
  | opened file =>
    cases taken : contest.disk.tryLock file with
    | none =>
      rw [move_refused stands taken]
      exact sound.keep (by rw [stands]; rfl) rfl
    | some disk =>
      rw [move_opened stands taken]
      exact sound.take stands taken
  | locked file =>
    rw [move_locked stands]
    exact sound.keep (by rw [stands]; rfl) rfl
  | emptied file =>
    rw [move_emptied stands]
    exact sound.keep (by rw [stands]; rfl) rfl
  | holding file =>
    rw [move_holding stands]
    exact sound.keep (by rw [stands]; rfl) (unlinked_locked _ _)
  | removed file =>
    rw [move_removed stands]
    exact sound.give stands

theorem Sound.run (sound : Sound contest) (recipe : String) (schedule : List Nat) :
    Sound (contest.run recipe schedule) := by
  induction schedule generalizing contest with
  | nil => exact sound
  | cons process rest ih => exact ih (sound.move recipe process)

/-- A move by which the name keeps its file, and nobody claims another. -/
theorem Current.keep (current : Current recipe contest)
    (claims : ∀ file, claims? phase = some file →
      contest.disk.leads (RunLock.pathFor recipe) = some file)
    (same : disk.leads (RunLock.pathFor recipe) = contest.disk.leads (RunLock.pathFor recipe)) :
    Current recipe (contest.enter process phase disk) := by
  intro other file claimed
  rw [enter_disk, same]
  by_cases moved : other = process
  · rw [moved, enter_self] at claimed
    exact claims file claimed
  · rw [enter_other moved] at claimed
    exact current other file claimed

/-- When nobody else claims a file, the name may lead anywhere afterwards. -/
theorem Current.alone (unclaimed : claims? phase = none)
    (alone : ∀ other file, other ≠ process → claims? (contest.phase other) ≠ some file) :
    Current recipe (contest.enter process phase disk) := by
  intro other file claimed
  by_cases moved : other = process
  · rw [moved, enter_self, unclaimed] at claimed
    cases claimed
  · rw [enter_other moved] at claimed
    exact absurd claimed (alone other file moved)

theorem Current.move (current : Current recipe contest) (sound : Sound contest)
    (onTime : OnTime recipe contest process) : Current recipe (contest.move recipe process) := by
  cases stands : contest.phase process with
  | idle =>
    cases opened : contest.disk.openOrCreate (RunLock.pathFor recipe) with
    | error error =>
      simpa only [Contest.move, stands, opened] using current
    | ok found =>
      obtain ⟨file, disk⟩ := found
      rw [move_idle stands opened]
      rcases Disk.openOrCreate_cases opened with ⟨-, rfl⟩ | ⟨nameless, -⟩
      · exact current.keep (by simp [claims?]) rfl
      · refine Current.alone rfl ?_
        intro other claimed _ claims
        rw [current other claimed claims] at nameless
        cases nameless
  | opened file =>
    cases taken : contest.disk.tryLock file with
    | none =>
      rw [move_refused stands taken]
      exact current.keep (by simp [claims?]) rfl
    | some disk =>
      rw [move_opened stands taken]
      refine current.keep ?_ ((Disk.alike_tryLock taken).leads _)
      intro claimed claims
      cases claims
      exact onTime file stands (tryLock_eq_some taken).1
  | locked file =>
    have leads := current process file (by rw [stands]; rfl)
    rw [move_locked stands]
    refine current.keep ?_ ((Disk.alike_rewrite _ _ _).leads _)
    rintro claimed ⟨⟩
    exact leads
  | emptied file =>
    have leads := current process file (by rw [stands]; rfl)
    rw [move_emptied stands]
    refine current.keep ?_ ((Disk.alike_rewrite _ _ _).leads _)
    rintro claimed ⟨⟩
    exact leads
  | holding file =>
    have leads := current process file (by rw [stands]; rfl)
    rw [move_holding stands]
    refine Current.alone rfl ?_
    intro other claimed different claims
    have sameFile : some file = some claimed :=
      leads.symm.trans (current other claimed claims)
    cases sameFile
    exact different (sound.single other process file (locks?_of_claims? claims)
      (by rw [stands]; rfl))
  | removed file =>
    rw [move_removed stands]
    exact current.keep (by simp [claims?]) ((Disk.alike_locked _ _).leads _)

theorem Current.run {schedule : List Nat} (current : Current recipe contest)
    (sound : Sound contest) (timely : Timely recipe contest schedule) :
    Current recipe (contest.run recipe schedule) := by
  induction schedule generalizing contest with
  | nil => exact current
  | cons process rest ih =>
    obtain ⟨onTime, later⟩ := timely
    exact ih (current.move sound onTime) (sound.move recipe process) later

theorem Current.exclusive (current : Current recipe contest) (sound : Sound contest) :
    Exclusive contest := by
  intro first second file other holds holdsToo
  have leads := current first file (by rw [holds]; rfl)
  have leadsToo := current second other (by rw [holdsToo]; rfl)
  have same : some file = some other := leads.symm.trans leadsToo
  cases same
  exact sound.single first second file (by rw [holds]; rfl) (by rw [holdsToo]; rfl)

theorem Exclusive.spares (exclusive : Exclusive contest) : Spares recipe contest := by
  intro leaving holder own file different leaves holds
  exact absurd (exclusive leaving holder own file leaves holds) different

/-- Two processes can come to hold the lock. -/
def Fails (recipe : String) (contest : Contest) : Prop :=
  ∃ more, ¬ Exclusive (contest.run recipe more)

theorem Fails.after {schedule : List Nat} (fails : Fails recipe (contest.run recipe schedule)) :
    Fails recipe contest := by
  obtain ⟨more, broken⟩ := fails
  exact ⟨schedule ++ more, by rwa [run_append]⟩

theorem fails_of_two {first second own other : Nat} (different : first ≠ second)
    (holds : contest.phase first = .holding own)
    (holdsToo : contest.phase second = .holding other) :
    Fails recipe contest :=
  ⟨[], fun exclusive => different (exclusive first second own other holds holdsToo)⟩

/-- A holder is joined by whoever has opened a file that nobody has locked. -/
theorem fails_of_free {holder own : Nat} (different : holder ≠ process)
    (holds : contest.phase holder = .holding own) (stands : contest.phase process = .opened file)
    (free : file ∉ contest.disk.locked) : Fails recipe contest := by
  have joined : contest.run recipe [process, process, process] = _ :=
    run_taken stands (tryLock_of_free free)
  have fails : Fails recipe (contest.run recipe [process, process, process]) := by
    rw [joined]
    exact fails_of_two different ((enter_other different _ _).trans holds) (enter_self _ _)
  exact fails.after

/-- A holder is joined by whoever has locked another file, once that one has gone on. -/
theorem fails_of_locked {holder own other : Nat} (sound : Sound contest)
    (different : holder ≠ process) (holds : contest.phase holder = .holding own)
    (stands : contest.phase process = .opened file)
    (locks : (contest.phase other).locks? = some file) (apart : own ≠ file) :
    Fails recipe contest := by
  have notHolder : holder ≠ other := by
    rintro rfl
    rw [holds] at locks
    exact apart (Option.some.inj locks)
  cases goes : contest.phase other with
  | idle => simp [goes, Phase.locks?] at locks
  | opened _ => simp [goes, Phase.locks?] at locks
  | locked _ =>
    have fails : Fails recipe (contest.run recipe [other, other]) := by
      rw [run_locked goes]
      exact fails_of_two notHolder ((enter_other notHolder _ _).trans holds) (enter_self _ _)
    exact fails.after
  | emptied _ =>
    have fails : Fails recipe (contest.run recipe [other]) := by
      rw [run_cons, move_emptied goes]
      exact fails_of_two notHolder ((enter_other notHolder _ _).trans holds) (enter_self _ _)
    exact fails.after
  | holding _ => exact fails_of_two notHolder holds goes
  | removed held =>
    -- it has only to give back the lock, and then the file is free
    have same : held = file := by
      rw [goes] at locks
      exact Option.some.inj locks
    have waits : process ≠ other := by
      rintro rfl
      rw [goes] at stands
      cases stands
    have free : file ∉ (contest.disk.unlock held).locked := by
      rw [same]
      exact sound.once.not_mem_erase
    have fails : Fails recipe (contest.run recipe [other]) := by
      rw [run_cons, move_removed goes]
      exact fails_of_free different ((enter_other notHolder _ _).trans holds)
        ((enter_other waits _ _).trans stands) free
    exact fails.after

/-- The process that locks a file which is no longer the one of that name can be joined by one that
comes fresh. -/
theorem fails_of_stale {other idler : Nat} {after : Disk} (sound : Sound contest)
    (stands : contest.phase process = .opened file) (free : file ∉ contest.disk.locked)
    (opened : contest.disk.openOrCreate (RunLock.pathFor recipe) = .ok (other, after))
    (stale : other ≠ file) (idle : contest.phase idler = .idle) :
    Fails recipe contest := by
  have different : process ≠ idler := by
    rintro rfl
    rw [stands] at idle
    cases idle
  have taken : contest.run recipe [process, process, process] = _ :=
    run_taken stands (tryLock_of_free free)
  obtain ⟨later, openedToo⟩ := Disk.Alike.openOrCreate
    ((Disk.alike_rewrite _ file (Text.encode (toString process))).trans
      (Disk.alike_locked contest.disk (file :: contest.disk.locked))).symm opened
  have comes : contest.run recipe [process, process, process, idler] =
      (contest.run recipe [process, process, process]).enter idler (.opened other) later := by
    change (contest.run recipe [process, process, process]).move recipe idler = _
    rw [taken]
    exact move_idle ((enter_other different.symm _ _).trans idle) openedToo
  have holds : (contest.run recipe [process, process, process, idler]).phase process =
      .holding file := by
    rw [comes, enter_other different, taken, enter_self]
  have waits : (contest.run recipe [process, process, process, idler]).phase idler =
      .opened other := by
    rw [comes, enter_self]
  have soundToo : Sound (contest.run recipe [process, process, process, idler]) :=
    sound.run recipe _
  have fails : Fails recipe (contest.run recipe [process, process, process, idler]) := by
    by_cases locked : other ∈ (contest.run recipe [process, process, process, idler]).disk.locked
    · obtain ⟨owner, locks⟩ := soundToo.owned other locked
      exact fails_of_locked soundToo different holds waits locks stale.symm
    · exact fails_of_free different holds waits locked
  exact fails.after

theorem exists_idle (recipe : String) (disk : Disk) (schedule : List Nat) :
    ∃ idler, ((start disk).run recipe schedule).phase idler = .idle := by
  obtain ⟨idler, absent⟩ := Infinite.exists_notMem_finset schedule.toFinset
  refine ⟨idler, ?_⟩
  rw [run_other (by simpa using absent)]
  rfl

/-- Whatever the number of processes and the order of their requests: if no file is locked that has
lost its name, then one process at most holds the lock, and none removes the lock file of another.
And this is what it takes: when a process is about to lock a file while the name would be opened as
another one, two processes can come to hold the lock. -/
theorem exclusive_of_timely (recipe : String) (disk : Disk) (schedule : List Nat) :
    (Timely recipe (start disk) schedule →
      Exclusive ((start disk).run recipe schedule) ∧
        Spares recipe ((start disk).run recipe schedule)) ∧
    ∀ process file other after,
      ((start disk).run recipe schedule).phase process = .opened file →
      file ∉ ((start disk).run recipe schedule).disk.locked →
      ((start disk).run recipe schedule).disk.openOrCreate (RunLock.pathFor recipe) =
        .ok (other, after) →
      other ≠ file →
      ∃ more, ¬ Exclusive ((start disk).run recipe (schedule ++ more)) := by
  have sound : Sound ((start disk).run recipe schedule) := (sound_start disk).run recipe schedule
  constructor
  · intro timely
    have first : Current recipe (start disk) := by
      intro process file claimed
      cases claimed
    have exclusive := (first.run (sound_start disk) timely).exclusive sound
    exact ⟨exclusive, exclusive.spares⟩
  · intro process file other after stands free opened stale
    obtain ⟨idler, idle⟩ := exists_idle recipe disk schedule
    obtain ⟨more, broken⟩ := fails_of_stale sound stands free opened stale idle
    exact ⟨more, by rwa [run_append]⟩

section Crossing

theorem pathFor_r : RunLock.pathFor "r" = "r.lock" := rfl

theorem size_lock : "r.lock".utf8ByteSize = 6 := rfl

theorem pieces_lock : PathText.pieces "r.lock" = ["r.lock"] := by
  simp [PathText.pieces]
  decide

theorem checkPath_lock : Disk.checkPath "r.lock" = .ok () := by
  simp [Disk.checkPath, Disk.maxPath, size_lock]

theorem locateEntry_lock (root : disk.cwd = []) :
    disk.locateEntry "r.lock" = .ok ([], some "r.lock") := by
  simp [Disk.locateEntry, checkPath_lock, pieces_lock, Disk.startOf, PathText.isAbsolute, root,
    Disk.walk, Disk.maxName, size_lock, bind, Except.bind]

theorem locate_lock (root : disk.cwd = [])
    (plain : ∀ link, disk.get? ["r.lock"] ≠ some (.link link)) :
    disk.locate true "r.lock" = .ok ["r.lock"] := by
  have walks : disk.locate true "r.lock" = disk.walk true Disk.maxLinks [] ["r.lock"] := by
    simp [Disk.locate, Disk.traced, checkPath_lock, pieces_lock, Disk.startOf,
      PathText.isAbsolute, Disk.hasSlash, root, bind, Except.bind]
  rw [walks]
  rcases found : disk.get? ["r.lock"] with _ | ⟨id, bytes, executable⟩ | _ | link
  · simp [Disk.walk, Disk.maxName, size_lock, found]
  · simp [Disk.walk, Disk.maxName, size_lock, found]
  · simp [Disk.walk, Disk.maxName, size_lock, found]
  · exact absurd found (plain link)

/-- Two processes are enough. The first holds the lock when the second opens the file, and then
removes the name and gives the lock back; the second locks the file without a name, and the first
makes a new one. -/
def crossing : Contest := (start {}).run "r" [0, 0, 0, 0, 1, 0, 0, 1, 1, 1, 0, 0, 0, 0]

theorem crossing_state :
    crossing.phase 0 = .holding 1 ∧ crossing.phase 1 = .holding 0 ∧
      crossing.disk =
        ⟨[], [(["r.lock"], .file 1 (Text.encode (toString 0)) false)], 2, [1, 0]⟩ := by
  simp [crossing, run, start, move, enter, pathFor_r, Disk.openOrCreate, Disk.openForWriting,
    locateEntry_lock, locate_lock, Disk.hasSlash, bind, Except.bind, pure, Except.pure, Disk.get?,
    Disk.addFile, Disk.put, Disk.tryLock, Disk.rewrite, Node.rewritten, Disk.unlinked, Disk.unlink,
    Disk.erase, Disk.unlock]

/-- Both hold the lock, and when the second lets go it removes the lock file of the first. -/
theorem two_holders :
    crossing.phase 0 = .holding 1 ∧ crossing.phase 1 = .holding 0 ∧
      crossing.disk.leads (RunLock.pathFor "r") = some 1 ∧
      (crossing.move "r" 1).disk.leads (RunLock.pathFor "r") = none ∧
      ¬ Exclusive crossing ∧ ¬ Spares "r" crossing := by
  obtain ⟨first, second, disk⟩ := crossing_state
  have named : crossing.disk.leads (RunLock.pathFor "r") = some 1 := by
    rw [disk, pathFor_r]
    simp [Disk.leads, Disk.target_eq, locateEntry_lock, locate_lock, Disk.hasSlash, Disk.shapeAt,
      Disk.get?, Node.shape]
  have removed : (crossing.move "r" 1).disk.leads (RunLock.pathFor "r") = none := by
    rw [move_holding second, enter_disk, disk, pathFor_r]
    simp [Disk.unlinked, Disk.unlink, Disk.erase, Disk.leads, Disk.target_eq, locateEntry_lock,
      locate_lock, Disk.hasSlash, Disk.shapeAt, Disk.get?, bind, Except.bind, pure, Except.pure]
  refine ⟨first, second, named, removed, ?_, ?_⟩
  · intro exclusive
    have same := exclusive 0 1 1 0 first second
    cases same
  · intro spares
    exact spares 1 0 0 1 (by decide) second first named

end Crossing

end Provision.Contest
