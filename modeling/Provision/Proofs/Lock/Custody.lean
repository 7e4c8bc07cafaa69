import Mathlib.Data.List.InsertIdx
import Mathlib.Data.List.Nodup
import Provision.Proofs.Disk.Ending
import Provision.Proofs.Lock.Contest
import Provision.Proofs.Text.Decoding

/-! Locks that are taken and given back in any order, one request after the other, for any number of
recipes at once. Whether a file is locked, what it contains and whether it is there are three different
things; the invariant here holds them together. -/

namespace Provision

/-- What may happen to locks. -/
inductive Deed where
  | acquire (pid : Nat) (recipe : String)
  | drop (index : Nat)

/-- A machine with the locks that were taken on it and not given back, the last one first, each with the
process that took it. -/
structure Custody where
  machine : Machine
  live : List (Nat × RunLock) := []

namespace Custody

/-- The machine as a process has it. -/
def seenBy (custody : Custody) (pid : Nat) : Machine := { custody.machine with pid }

def act (custody : Custody) : Deed → Custody
  | .acquire pid recipe =>
    match RunLock.acquire recipe (custody.seenBy pid) with
    | (.ok lock, machine) => ⟨machine, (pid, lock) :: custody.live⟩
    | (.error _, machine) => ⟨machine, custody.live⟩
  | .drop index =>
    match custody.live[index]? with
    | some (_, lock) => ⟨lock.release custody.machine, custody.live.eraseIdx index⟩
    | none => custody

def run (custody : Custody) (deeds : List Deed) : Custody := deeds.foldl act custody

end Custody

/-- A lock file can be opened at the path. -/
def Disk.Openable (disk : Disk) (path : String) : Prop :=
  ∃ parent name there, disk.Aims path parent name there

/-- No file has an identity that is yet to be given. -/
def Disk.Young (disk : Disk) : Prop :=
  ∀ at_ id bytes executable, (at_, Node.file id bytes executable) ∈ disk.entries → id < disk.fresh

/-- What stands with a disk and the locks on it. -/
structure Disk.Kept (start disk : Disk) (live : List (Nat × RunLock)) : Prop where
  rooted : disk.Rooted
  young : disk.Young
  locked : disk.locked = live.map fun holder => holder.2.file
  once : disk.locked.Nodup
  /-- The path of a lock leads to the file that is locked. -/
  held : ∀ holder ∈ live, ∃ parent name there bytes executable,
    disk.Aims holder.2.path parent name there ∧
      disk.get? there = some (.file holder.2.file bytes executable)
  /-- In that file there is the identity of the process and nothing else. -/
  written : ∀ holder ∈ live, ∀ at_ bytes executable,
    (at_, Node.file holder.2.file bytes executable) ∈ disk.entries →
      bytes = Text.encode (toString holder.1)
  small : ∀ holder ∈ live, holder.1 < 0x100000000
  known : ∀ holder ∈ live, start.Openable holder.2.path
  openable : ∀ path, start.Openable path → disk.Openable path

namespace Disk

variable {start disk opened : Disk} {live : List (Nat × RunLock)} {path name : String}
  {parent there : Location} {file pid : Nat}

/-- Opening a lock file gives this file, and changes nothing but that the file may be a new one. -/
structure Opens (disk : Disk) (there : Location) (file : Nat) (opened : Disk) : Prop where
  fills : Fills disk opened
  stands : ∃ bytes executable, opened.get? there = some (.file file bytes executable)
  files : ∀ at_ id bytes executable, disk.get? at_ = some (.file id bytes executable) →
    opened.get? at_ = some (.file id bytes executable)
  entries : ∀ at_ id bytes executable, (at_, Node.file id bytes executable) ∈ opened.entries →
    (at_, Node.file id bytes executable) ∈ disk.entries ∨ id = disk.fresh
  rooted : opened.Rooted
  young : opened.Young
  locked : opened.locked = disk.locked

theorem opens_file (rooted : disk.Rooted) (young : disk.Young) {bytes : Bytes} {executable : Bool}
    (found : disk.get? there = some (.file file bytes executable)) : disk.Opens there file disk where
  fills := ⟨refl disk, fun _ filable => filable⟩
  stands := ⟨bytes, executable, found⟩
  files _ _ _ _ found := found
  entries _ _ _ _ member := .inl member
  rooted := rooted
  young := young
  locked := rfl

theorem opens_new {above : Location} {last : String} (rooted : disk.Rooted) (young : disk.Young)
    (free : disk.get? (above ++ [last]) = none) (within : disk.get? above = some .dir) :
    disk.Opens (above ++ [last]) disk.fresh (disk.addFile (above ++ [last]) [] false) where
  fills := fills_addFile free [] false
  stands := ⟨[], false, get?_put_self (by simp)⟩
  files at_ id bytes executable found := by
    have apart : at_ ≠ above ++ [last] := by
      rintro rfl
      rw [free] at found
      cases found
    exact (get?_put_other apart).trans found
  entries at_ id bytes executable member := by
    rcases mem_addFile free member with stood | new
    · exact .inl stood
    · cases new
      exact .inr rfl
  rooted := rooted.addFile free within [] false
  young at_ id bytes executable member := by
    rcases mem_addFile free member with stood | new
    · exact Nat.lt_succ_of_lt (young at_ id bytes executable stood)
    · cases new
      exact Nat.lt_succ_self disk.fresh
  locked := by
    unfold addFile put
    split <;> rfl

/-- The disk on which the lock was taken. -/
def claimed (opened : Disk) (file pid : Nat) : Disk :=
  { opened with locked := file :: opened.locked }.rewrite file (Text.encode (toString pid))

namespace Kept

section

variable (kept : start.Kept disk live)
include kept

theorem leads_eq {holder : Nat × RunLock} (within : holder ∈ live) :
    disk.leads holder.2.path = some holder.2.file := by
  obtain ⟨parent, name, there, bytes, executable, aims, found⟩ := kept.held holder within
  exact aims.leads_file found

theorem mem_locked {holder : Nat × RunLock} (within : holder ∈ live) :
    holder.2.file ∈ disk.locked := by
  rw [kept.locked]
  exact List.mem_map_of_mem within

theorem file_lt {holder : Nat × RunLock} (within : holder ∈ live) : holder.2.file < disk.fresh := by
  obtain ⟨parent, name, there, bytes, executable, -, found⟩ := kept.held holder within
  exact kept.young _ _ _ _ (mem_of_get? (ne_nil_of_file found) found)

theorem read_eq {holder : Nat × RunLock} (within : holder ∈ live) :
    disk.read holder.2.path = .ok (Text.encode (toString holder.1)) := by
  obtain ⟨parent, name, there, bytes, executable, aims, found⟩ := kept.held holder within
  have stood := mem_of_get? (ne_nil_of_file found) found
  rw [aims.read_eq found, kept.written holder within _ _ _ stood]

/-- The file says who holds the lock. -/
theorem holder_eq {holder : Nat × RunLock} (within : holder ∈ live) :
    (disk.contents? holder.2.file).bind RunLock.holder? = some holder.1 := by
  have contents : disk.contents? holder.2.file = some (Text.encode (toString holder.1)) := by
    obtain ⟨parent, name, there, bytes, executable, -, found⟩ := kept.held holder within
    have stood := mem_of_get? (ne_nil_of_file found) found
    cases said : disk.contents? holder.2.file with
    | none =>
      have missing := List.findSome?_eq_none_iff.mp said _ stood
      simp at missing
    | some content =>
      obtain ⟨⟨at_, node⟩, member, told⟩ := List.exists_of_findSome?_eq_some said
      cases node with
      | file id bytes executable =>
        dsimp only at told
        split at told
        · rename_i same
          cases told
          rw [eq_of_beq same] at member
          rw [kept.written holder within _ _ _ member]
        · cases told
      | dir => cases told
      | link target => cases told
  rw [contents, Option.bind_some, RunLock.holder?, Text.decode?_encode, Option.bind_some,
    Text.readNatBelow_toString (kept.small holder within)]
  rfl

end

/-- A lock that is taken on a file without one. -/
theorem claim (kept : start.Kept disk live) (aims : disk.Aims path parent name there)
    (opens : disk.Opens there file opened) (unlocked : file ∉ disk.locked)
    (small : pid < 0x100000000) (known : start.Openable path) :
    start.Kept (opened.claimed file pid) ((pid, ⟨file, path⟩) :: live) := by
  have alike : Alike opened (opened.claimed file pid) :=
    ((alike_rewrite _ _ _).trans (alike_locked opened _)).symm
  have fills : Fills disk (opened.claimed file pid) := opens.fills.trans alike.fills
  have found : ∀ {at_ id bytes executable}, opened.get? at_ = some (.file id bytes executable) →
      ∃ later, (opened.claimed file pid).get? at_ = some (.file id later executable) := by
    intro at_ id bytes executable stood
    exact alike.get?_file stood
  refine { rooted := alike.rooted opens.rooted, young := ?young, locked := ?locked, once := ?once,
           held := ?held, written := ?written, small := ?small, known := ?known, openable := ?openable }
  case young =>
    intro at_ id bytes executable member
    obtain ⟨earlier, stood, -⟩ := mem_rewrite member
    exact opens.young at_ id earlier executable stood
  case locked =>
    change file :: opened.locked = _
    rw [opens.locked, kept.locked]
    rfl
  case once =>
    change (file :: opened.locked).Nodup
    rw [opens.locked]
    exact List.nodup_cons.mpr ⟨unlocked, kept.once⟩
  case held =>
    intro holder within
    rcases List.mem_cons.mp within with rfl | within
    · obtain ⟨bytes, executable, stands⟩ := opens.stands
      obtain ⟨later, stands⟩ := found stands
      exact ⟨parent, name, there, later, executable, aims.fills fills, stands⟩
    · obtain ⟨above, last, place, bytes, executable, others, stood⟩ := kept.held holder within
      obtain ⟨later, stands⟩ := found (opens.files _ _ _ _ stood)
      exact ⟨above, last, place, later, executable, others.fills fills, stands⟩
  case written =>
    intro holder within at_ bytes executable member
    obtain ⟨earlier, stood, rfl⟩ := mem_rewrite member
    rcases List.mem_cons.mp within with rfl | within
    · exact if_pos (beq_self_eq_true file)
    · have apart : holder.2.file ≠ file := fun same => unlocked (same ▸ kept.mem_locked within)
      rw [if_neg (by simpa using apart)]
      rcases opens.entries _ _ _ _ stood with before | new
      · exact kept.written holder within _ _ _ before
      · exact absurd new (Nat.ne_of_lt (kept.file_lt within))
  case small => exact List.forall_mem_cons.mpr ⟨small, kept.small⟩
  case known => exact List.forall_mem_cons.mpr ⟨known, kept.known⟩
  case openable =>
    intro other openable
    obtain ⟨above, last, place, others⟩ := kept.openable other openable
    exact ⟨above, last, place, others.fills fills⟩

/-- Another path keeps its end when the entry of this one is removed, as long as they ended elsewhere. -/
theorem erase_held {second last : String} {directory reached : Location} {other : Nat}
    {bytes others : Bytes} {executable permission : Bool} (aims : disk.Aims path parent name there)
    (stands : disk.get? there = some (.file file bytes executable))
    (more : disk.Aims second directory last reached)
    (stood : disk.get? reached = some (.file other others permission)) (apart : other ≠ file) :
    (disk.erase (parent ++ [name])).Aims second directory last reached ∧
      (disk.erase (parent ++ [name])).get? reached = some (.file other others permission) := by
  rcases aims.erase more with ⟨kept, elsewhere⟩ | ⟨rfl, -⟩
  · exact ⟨kept, (get?_erase_other elsewhere disk).trans stood⟩
  · rw [stands] at stood
    cases stood
    exact absurd rfl apart

theorem unlinked_eq {bytes : Bytes} {executable : Bool} (aims : disk.Aims path parent name there)
    (stands : disk.get? there = some (.file file bytes executable)) :
    disk.unlinked path = disk.erase (parent ++ [name]) := by
  obtain ⟨node, entry⟩ := aims.exists_entry stands
  have single : node ≠ .dir := fun same => aims.entry (same ▸ entry)
  rw [unlinked, aims.entersAt.unlink_eq aims.bare entry single]

/-- A lock that is given back. -/
theorem drop (kept : start.Kept disk live) {index : Nat} {holder : Nat × RunLock}
    (chosen : live[index]? = some holder) :
    start.Kept ((disk.unlinked holder.2.path).unlock holder.2.file) (live.eraseIdx index) := by
  obtain ⟨inside, same⟩ := List.getElem?_eq_some_iff.mp chosen
  have within : holder ∈ live := List.mem_of_getElem? chosen
  obtain ⟨parent, name, there, bytes, executable, aims, stands⟩ := kept.held holder within
  rw [unlinked_eq aims stands]
  have fills : Fills (disk.erase (parent ++ [name]))
      ((disk.erase (parent ++ [name])).unlock holder.2.file) := (alike_locked _ _).symm.fills
  have subset : ∀ {entry}, entry ∈ (disk.erase (parent ++ [name])).entries → entry ∈ disk.entries :=
    fun member => (List.mem_filter.mp member).1
  have locked : disk.locked.erase holder.2.file =
      (live.eraseIdx index).map fun holder => holder.2.file := by
    have once := kept.once
    rw [kept.locked] at once ⊢
    have position := once.erase_getElem index (by simpa using inside)
    rw [List.getElem_map, same] at position
    rw [position, List.eraseIdx_map]
  have apart : ∀ other ∈ live.eraseIdx index, other.2.file ≠ holder.2.file := by
    intro other remains alone
    have listed : other.2.file ∈ disk.locked.erase holder.2.file := by
      rw [locked]
      exact List.mem_map_of_mem remains
    rw [alone] at listed
    exact kept.once.not_mem_erase listed
  refine { rooted := (alike_locked _ _).symm.rooted (kept.rooted.erase aims.entry), young := ?young,
           locked := locked, once := kept.once.erase _, held := ?held, written := ?written,
           small := ?small, known := ?known, openable := ?openable }
  case young =>
    intro at_ id bytes executable member
    exact kept.young at_ id bytes executable (subset member)
  case held =>
    intro other remains
    obtain ⟨above, last, place, others, permission, more, stood⟩ :=
      kept.held other (List.mem_of_mem_eraseIdx remains)
    obtain ⟨still, found⟩ := erase_held aims stands more stood (apart other remains)
    exact ⟨above, last, place, others, permission, still.fills fills, found⟩
  case written =>
    intro other remains at_ bytes executable member
    exact kept.written other (List.mem_of_mem_eraseIdx remains) at_ bytes executable (subset member)
  case small => exact fun other remains => kept.small other (List.mem_of_mem_eraseIdx remains)
  case known => exact fun other remains => kept.known other (List.mem_of_mem_eraseIdx remains)
  case openable =>
    intro other openable
    obtain ⟨above, last, place, more⟩ := kept.openable other openable
    rcases aims.erase more with ⟨still, -⟩ | ⟨-, moved⟩
    · exact ⟨above, last, place, still.fills fills⟩
    · exact ⟨above, last, parent ++ [name], moved.fills fills⟩

/-- The name of a lock that was given back is free. -/
theorem dropped (kept : start.Kept disk live) {holder : Nat × RunLock} (within : holder ∈ live) :
    ((disk.unlinked holder.2.path).unlock holder.2.file).leads holder.2.path = none ∧
      ∀ follow, ((disk.unlinked holder.2.path).unlock holder.2.file).lookup follow holder.2.path =
        .error .notFound := by
  obtain ⟨parent, name, there, bytes, executable, aims, stands⟩ := kept.held holder within
  rw [unlinked_eq aims stands]
  have fills : Fills (disk.erase (parent ++ [name]))
      ((disk.erase (parent ++ [name])).unlock holder.2.file) := (alike_locked _ _).symm.fills
  have free : ((disk.erase (parent ++ [name])).unlock holder.2.file).get? (parent ++ [name]) = none :=
    get?_erase_self (by simp) disk
  obtain ⟨reached, after⟩ : ∃ reached,
      ((disk.erase (parent ++ [name])).unlock holder.2.file).Aims holder.2.path parent name reached := by
    rcases aims.erase aims with ⟨still, -⟩ | ⟨-, moved⟩
    · exact ⟨there, still.fills fills⟩
    · exact ⟨parent ++ [name], moved.fills fills⟩
  refine ⟨?_, fun follow => after.entersAt.lookup_free aims.bare free⟩
  rw [after.eq_of_free free] at after
  exact after.leads_free free

end Kept

end Disk

namespace Custody

open Disk

variable {start : Disk} {custody : Custody} {recipe : String} {pid : Nat}

theorem acquire_of_opens {machine : Machine} {file : Nat} {opened : Disk}
    (opens : machine.disk.openOrCreate (RunLock.pathFor recipe) = .ok (file, opened))
    (unlocked : file ∉ opened.locked) :
    RunLock.acquire recipe machine =
      (.ok ⟨file, RunLock.pathFor recipe⟩, { machine with disk := opened.claimed file machine.pid }) := by
  have taken : opened.tryLock file = some { opened with locked := file :: opened.locked } := by
    simp [tryLock, unlocked]
  rw [RunLock.acquire_eq, opens]
  simp only [taken]
  rfl

theorem refused_of_opens {machine : Machine} {file : Nat} {opened : Disk}
    (opens : machine.disk.openOrCreate (RunLock.pathFor recipe) = .ok (file, opened))
    (locked : file ∈ opened.locked) :
    RunLock.acquire recipe machine =
      (.error [RunLock.busy recipe (RunLock.pathFor recipe)
        ((opened.contents? file).bind RunLock.holder?)], { machine with disk := opened }) := by
  have refused : opened.tryLock file = none := by simp [tryLock, locked]
  rw [RunLock.acquire_eq, opens]
  simp only [refused]

/-- A lock is taken, or the request is refused by a lock on the same file and nothing happens. -/
theorem acquire_cases (kept : start.Kept custody.machine.disk custody.live)
    (openable : start.Openable (RunLock.pathFor recipe)) (small : pid < 0x100000000) :
    (∃ file disk, RunLock.acquire recipe (custody.seenBy pid) =
        (.ok ⟨file, RunLock.pathFor recipe⟩, { custody.seenBy pid with disk }) ∧
      start.Kept disk ((pid, ⟨file, RunLock.pathFor recipe⟩) :: custody.live) ∧
      ∀ holder ∈ custody.live, custody.machine.disk.leads holder.2.path ≠
        custody.machine.disk.leads (RunLock.pathFor recipe)) ∨
    ∃ holder ∈ custody.live, custody.machine.disk.leads holder.2.path =
        custody.machine.disk.leads (RunLock.pathFor recipe) ∧
      RunLock.acquire recipe (custody.seenBy pid) =
        (.error [RunLock.busy recipe (RunLock.pathFor recipe) (some holder.1)], custody.seenBy pid) := by
  obtain ⟨parent, name, there, aims⟩ := kept.openable _ openable
  rcases aims.cases with free | ⟨id, bytes, executable, found⟩
  · -- nobody can have a lock on a file that is yet to be made
    have new : custody.machine.disk.fresh ∉ custody.machine.disk.locked := by
      rw [kept.locked]
      intro listed
      obtain ⟨holder, within, same⟩ := List.mem_map.mp listed
      exact Nat.ne_of_lt (kept.file_lt within) same
    obtain ⟨above, last, rfl, directory⟩ := aims.within kept.rooted
    have opens := opens_new kept.rooted kept.young free directory
    have opened : custody.machine.disk.openOrCreate (RunLock.pathFor recipe) =
        .ok (custody.machine.disk.fresh, custody.machine.disk.addFile (above ++ [last]) [] false) := by
      rw [openOrCreate_eq, aims.target_free free]
    refine .inl ⟨_, _, acquire_of_opens opened ?_, kept.claim aims opens new small openable, ?_⟩
    · rw [opens.locked]
      exact new
    · intro holder within
      rw [kept.leads_eq within, aims.leads_free free]
      exact Option.some_ne_none _
  · have opens := opens_file kept.rooted kept.young found
    have opened : custody.machine.disk.openOrCreate (RunLock.pathFor recipe) =
        .ok (id, custody.machine.disk) := by
      rw [openOrCreate_eq, aims.target_file found]
    by_cases listed : id ∈ custody.machine.disk.locked
    · have same := listed
      rw [kept.locked] at same
      obtain ⟨holder, within, rfl⟩ := List.mem_map.mp same
      refine .inr ⟨holder, within, ?_, ?_⟩
      · rw [kept.leads_eq within, aims.leads_file found]
      · have refused := @refused_of_opens recipe (custody.seenBy pid) holder.2.file custody.machine.disk
          opened listed
        rw [kept.holder_eq within] at refused
        exact refused
    · refine .inl ⟨_, _, acquire_of_opens opened listed, kept.claim aims opens listed small openable, ?_⟩
      intro holder within same
      rw [kept.leads_eq within, aims.leads_file found] at same
      exact listed (Option.some.inj same ▸ kept.mem_locked within)

/-- The lock file of the recipe can be opened, and the process has an identity of 32 bits. -/
def Admits (start : Disk) (pid : Nat) (recipe : String) : Prop :=
  pid < 0x100000000 ∧ ∃ opened, start.openOrCreate (RunLock.pathFor recipe) = .ok opened

def Fair (start : Disk) : Deed → Prop
  | .acquire pid recipe => Admits start pid recipe
  | .drop _ => True

theorem Admits.openable (rooted : start.Rooted) (admits : Admits start pid recipe) :
    start.Openable (RunLock.pathFor recipe) := by
  obtain ⟨-, opened, opens⟩ := admits
  unfold openOrCreate at opens
  rcases found : start.openForWriting (RunLock.pathFor recipe) with error | ⟨there, file⟩
  · rw [found] at opens
    cases opens
  · obtain ⟨parent, name, aims⟩ := aims_of_openForWriting rooted found
    exact ⟨parent, name, there, aims⟩

theorem kept_start (rooted : start.Rooted) (young : start.Young) (unlocked : start.locked = []) :
    start.Kept start [] where
  rooted := rooted
  young := young
  locked := unlocked
  once := by
    rw [unlocked]
    exact List.nodup_nil
  held _ within := absurd within List.not_mem_nil
  written _ within := absurd within List.not_mem_nil
  small _ within := absurd within List.not_mem_nil
  known _ within := absurd within List.not_mem_nil
  openable _ openable := openable

theorem kept_act {deed : Deed} (rooted : start.Rooted) (fair : Fair start deed)
    (kept : start.Kept custody.machine.disk custody.live) :
    start.Kept (custody.act deed).machine.disk (custody.act deed).live := by
  cases deed with
  | acquire pid recipe =>
    rcases acquire_cases kept (Admits.openable rooted fair) fair.1 with
      ⟨file, disk, taken, after, -⟩ | ⟨holder, -, -, refused⟩
    · simp only [act, taken]
      exact after
    · simp only [act, refused]
      exact kept
  | drop index =>
    cases chosen : custody.live[index]? with
    | none =>
      simp only [act, chosen]
      exact kept
    | some holder =>
      simp only [act, chosen]
      exact kept.drop chosen

theorem kept_run {deeds : List Deed} (rooted : start.Rooted) (fair : ∀ deed ∈ deeds, Fair start deed)
    (kept : start.Kept custody.machine.disk custody.live) :
    start.Kept (custody.run deeds).machine.disk (custody.run deeds).live := by
  induction deeds generalizing custody with
  | nil => exact kept
  | cons deed deeds ih =>
    exact ih (fun other within => fair other (List.mem_cons_of_mem deed within))
      (kept_act rooted (fair deed List.mem_cons_self) kept)

/-- What can be relied on between two requests. -/
structure Lawful (start : Disk) (custody : Custody) : Prop where
  /-- Who has a lock has it on the file to which its path leads, and can be read there. -/
  live : ∀ holder ∈ custody.live,
    custody.machine.disk.leads holder.2.path = some holder.2.file ∧
      holder.2.file ∈ custody.machine.disk.locked ∧
      custody.machine.disk.read holder.2.path = .ok (Text.encode (toString holder.1))
  /-- A lock is granted if and only if nobody has one on the same file. -/
  granted : ∀ pid recipe, Admits start pid recipe →
    ((∃ lock after, RunLock.acquire recipe (custody.seenBy pid) = (.ok lock, after)) ↔
      ∀ holder ∈ custody.live, custody.machine.disk.leads holder.2.path ≠
        custody.machine.disk.leads (RunLock.pathFor recipe))
  /-- Then the process can be read in the file, and nothing else. -/
  taken : ∀ pid recipe lock after, Admits start pid recipe →
    RunLock.acquire recipe (custody.seenBy pid) = (.ok lock, after) →
      lock.path = RunLock.pathFor recipe ∧ after.disk.leads lock.path = some lock.file ∧
        after.disk.read lock.path = .ok (Text.encode (toString pid))
  /-- Else nothing happens but that the process is told who has the lock, and that one still has it. -/
  refused : ∀ pid recipe causes after, Admits start pid recipe →
    RunLock.acquire recipe (custody.seenBy pid) = (.error causes, after) →
      after = custody.seenBy pid ∧ ∃ holder ∈ custody.live,
        custody.machine.disk.leads holder.2.path =
          custody.machine.disk.leads (RunLock.pathFor recipe) ∧
        causes = [RunLock.busy recipe (RunLock.pathFor recipe) (some holder.1)] ∧
        holder.2.file ∈ after.disk.locked
  /-- Once a lock is given back there is no lock file, and the next process gets the lock. -/
  dropped : ∀ (index : Nat) (holder : Nat × RunLock), custody.live[index]? = some holder →
    (∀ follow, (holder.2.release custody.machine).disk.lookup follow holder.2.path =
      .error .notFound) ∧
    ∀ pid recipe, pid < 0x100000000 → RunLock.pathFor recipe = holder.2.path →
      ∃ lock after, RunLock.acquire recipe { holder.2.release custody.machine with pid } =
        (.ok lock, after)

theorem lawful_of_kept (rooted : start.Rooted)
    (kept : start.Kept custody.machine.disk custody.live) : Lawful start custody where
  live holder within := ⟨kept.leads_eq within, kept.mem_locked within, kept.read_eq within⟩
  granted pid recipe admits := by
    rcases acquire_cases kept (admits.openable rooted) admits.1 with
      ⟨file, disk, taken, -, alone⟩ | ⟨holder, within, same, refused⟩
    · exact ⟨fun _ => alone, fun _ => ⟨_, _, taken⟩⟩
    · constructor
      · rintro ⟨lock, after, went⟩
        rw [refused] at went
        cases went
      · intro alone
        exact absurd same (alone holder within)
  taken pid recipe lock after admits went := by
    rcases acquire_cases kept (admits.openable rooted) admits.1 with
      ⟨file, disk, taken, kept, -⟩ | ⟨holder, -, -, refused⟩
    · rw [taken] at went
      cases went
      have within : (pid, (⟨file, RunLock.pathFor recipe⟩ : RunLock)) ∈
          (pid, ⟨file, RunLock.pathFor recipe⟩) :: custody.live := List.mem_cons_self
      have leads := kept.leads_eq within
      have read := kept.read_eq within
      dsimp only at leads read ⊢
      exact ⟨rfl, leads, read⟩
    · rw [refused] at went
      cases went
  refused pid recipe causes after admits went := by
    rcases acquire_cases kept (admits.openable rooted) admits.1 with
      ⟨file, disk, taken, -, -⟩ | ⟨holder, within, same, refused⟩
    · rw [taken] at went
      cases went
    · rw [refused] at went
      cases went
      exact ⟨rfl, holder, within, same, rfl, kept.mem_locked within⟩
  dropped index holder chosen := by
    have within := List.mem_of_getElem? chosen
    obtain ⟨nameless, absent⟩ := kept.dropped within
    refine ⟨absent, fun pid recipe small path => ?_⟩
    have known := kept.known holder within
    rw [← path] at known
    rcases @acquire_cases start ⟨holder.2.release custody.machine, custody.live.eraseIdx index⟩ recipe pid
      (kept.drop chosen) known small with ⟨file, disk, taken, -⟩ | ⟨other, remains, same, -⟩
    · exact ⟨_, _, taken⟩
    · have leads := (kept.drop chosen).leads_eq remains
      have free : ((custody.machine.disk.unlinked holder.2.path).unlock holder.2.file).leads
          (RunLock.pathFor recipe) = none := path ▸ nameless
      have both := leads.symm.trans (same.trans free)
      cases both

/-- Whatever locks are taken and given back, the laws hold after it. -/
theorem lawful_run {machine : Machine} {deeds : List Deed} (rooted : machine.disk.Rooted)
    (young : machine.disk.Young) (unlocked : machine.disk.locked = [])
    (fair : ∀ deed ∈ deeds, Fair machine.disk deed) :
    Lawful machine.disk (Custody.run ⟨machine, []⟩ deeds) :=
  lawful_of_kept rooted (kept_run rooted fair (kept_start rooted young unlocked))

end Custody

end Provision
