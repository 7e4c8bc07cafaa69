import Provision.Proofs.Cli.Documented
import Provision.Proofs.Lock.Custody
import Provision.Proofs.Lock.Exclusion

/-! The lock of a run from the command line. The run gives it back at every end, and then there is no
lock file. -/

namespace Provision

namespace Disk

variable {disk after : Disk} {path name : String} {parent : Location}

/-- A name that is not entered as a directory is none. -/
theorem EntersAt.lookup_single (enters : disk.EntersAt path parent name)
    (bare : hasSlash path = false) (single : disk.get? (parent ++ [name]) ≠ some .dir) (at_ : Location) :
    disk.lookup false path ≠ .ok (at_, .dir) := by
  intro found
  cases stands : disk.get? (parent ++ [name]) with
  | none =>
    rw [enters.lookup_free bare stands] at found
    cases found
  | some node =>
    rw [enters.lookup bare stands fun follows => by cases follows] at found
    cases found
    exact single stands

/-- Whatever has become of a file, after an attempt to remove its name nothing goes by it, unless it is
the name of a directory. -/
theorem lookup_unlinked (proper : Proper name) (valid : checkPath path = .ok ())
    (bare : hasSlash path = false) {front : List String} (pieces : PathText.pieces path = front ++ [name])
    (single : ∀ at_, disk.lookup false path ≠ .ok (at_, .dir)) (follow : Bool) (found : Location × Node) :
    (disk.unlinked path).lookup follow path ≠ .ok found := by
  intro leads
  -- a path that finds something enters the name somewhere
  have entered : ∀ other : Disk, other.lookup follow path = .ok found →
      ∃ between, other.EntersAt path between name := by
    intro other leads
    obtain ⟨there, node⟩ := found
    have located := locate_of_lookup leads
    simp only [locate, traced, valid, bare, bind, Except.bind, pieces, Bool.false_eq_true, if_false,
      List.append_nil] at located
    obtain ⟨left, between, through, -⟩ := through_of_walk (List.cons_ne_nil _ _) located
    exact ⟨between, valid, proper, front, left, pieces, through⟩
  unfold unlinked at leads
  cases removed : disk.unlink path with
  | error error =>
    simp only [removed] at leads
    obtain ⟨between, enters⟩ := entered disk leads
    cases stands : disk.get? (between ++ [name]) with
    | none =>
      rw [enters.lookup_free bare stands] at leads
      cases leads
    | some node =>
      have other : node ≠ .dir := by
        rintro rfl
        exact single _ (enters.lookup bare stands fun follows => by cases follows)
      rw [enters.unlink_eq bare stands other] at removed
      cases removed
  | ok gone =>
    simp only [removed] at leads
    obtain ⟨parent, last, _, enters, -, rfl⟩ := unlink_ok removed
    obtain ⟨between, still⟩ := entered _ leads
    have before := (grows_erased disk (parent ++ [last])).entersAt still
    have same := (locateEntry_eq_ok_iff.mpr enters).symm.trans (locateEntry_eq_ok_iff.mpr before)
    cases same
    rw [still.lookup_free bare (get?_erase_self (by simp) disk)] at leads
    cases leads

theorem get?_dir_of_addFile {at_ place : Location} {bytes : Bytes} {executable : Bool}
    (directory : (disk.addFile at_ bytes executable).get? place = some .dir) (free : disk.get? at_ = none) :
    disk.get? place = some .dir := by
  by_cases same : place = at_
  · have stands : (disk.addFile at_ bytes executable).get? at_ = _ := get?_put_self (ne_nil_of_free free)
    rw [same, stands] at directory
    cases directory
  · have stands : (disk.addFile at_ bytes executable).get? place = disk.get? place := get?_put_other same
    rwa [stands] at directory

/-- What is opened for writing does not go by the name of a directory. -/
theorem entry_of_openForWriting {there : Location} {file : Option (Nat × Bytes × Bool)}
    (opened : disk.openForWriting path = .ok (there, file)) (enters : disk.EntersAt path parent name) :
    disk.get? (parent ++ [name]) ≠ some .dir := by
  intro directory
  obtain ⟨bare, -⟩ := entersAt_of_openForWriting opened
  have found : disk.lookup true path = .ok (parent ++ [name], .dir) :=
    enters.lookup bare directory fun _ target => by simp
  have same := (openForWriting_locate opened).symm.trans (locate_of_lookup found)
  cases same
  rw [openForWriting_cases opened] at directory
  cases file <;> cases directory

end Disk

namespace RunLock

open Disk

variable {recipe : String} {machine held : Machine} {lock : RunLock}

/-- The lock file does not go by the name of a directory. -/
theorem acquire_entry (locked : acquire recipe machine = (.ok lock, held)) :
    lock.path = pathFor recipe ∧ hasSlash (pathFor recipe) = false ∧
      ∃ parent name, held.disk.EntersAt (pathFor recipe) parent name ∧
        held.disk.get? (parent ++ [name]) ≠ some .dir := by
  rw [acquire_eq] at locked
  cases opens : machine.disk.openOrCreate (pathFor recipe) with
  | error error =>
    rw [opens] at locked
    cases locked
  | ok found =>
    obtain ⟨file, opened⟩ := found
    rw [opens] at locked
    dsimp only at locked
    cases taken : opened.tryLock file with
    | none =>
      rw [taken] at locked
      cases locked
    | some claimed =>
      rw [taken] at locked
      cases locked
      have alike : Alike opened (claimed.rewrite file (Text.encode (toString machine.pid))) :=
        ((alike_rewrite _ _ _).trans (alike_tryLock taken)).symm
      refine ⟨rfl, ?_⟩
      unfold openOrCreate at opens
      rcases written : machine.disk.openForWriting (pathFor recipe) with error | ⟨there, existing⟩
      · rw [written] at opens
        cases opens
      obtain ⟨bare, parent, name, enters⟩ := entersAt_of_openForWriting written
      have single := entry_of_openForWriting written enters
      have grown : Grows machine.disk opened ∧ opened.get? (parent ++ [name]) ≠ some .dir := by
        rw [written] at opens
        cases existing with
        | some kept =>
          cases opens
          exact ⟨refl _, single⟩
        | none =>
          cases opens
          have free := openForWriting_cases written
          exact ⟨grows_addFile free [] false,
            fun directory => single (get?_dir_of_addFile directory free)⟩
      refine ⟨bare, parent, name, ?_, fun directory => grown.2 (alike.symm.get?_dir directory)⟩
      exact alike.fills.entersAt (grown.1.entersAt enters)

end RunLock

namespace Cli

open Disk Working

variable {given : Override} {file : String} {parameter tag : Option String} {json : Bool}
  {machine ready held after : Machine} {config : Config} {lock : RunLock} {ended : Except Trouble Unit}

theorem load_after (path : String) (machine : Machine) : (Recipe.load path machine).2 = machine := by
  have asked := Machine.onDisk_eq
    (Disk.inquire ("Failed to read " ++ path) fun disk => disk.readText path) machine
  rw [Disk.inquire_eq] at asked
  have spelled : (ExceptT.mk (pure (Recipe.Format.ofPath path)) : Machine.Work Recipe.Format) machine =
      (Recipe.Format.ofPath path, machine) := rfl
  unfold Recipe.load
  cases told : Recipe.Format.ofPath path with
  | error causes =>
    rw [told] at spelled
    rw [Working.bind_error _ spelled]
  | ok format =>
    rw [told] at spelled
    rw [Working.bind_ok _ spelled]
    cases read : machine.disk.readText path with
    | error error =>
      rw [read] at asked
      rw [Working.bind_error _ asked]
    | ok text =>
      rw [read] at asked
      rw [Working.bind_ok _ asked]
      cases Recipe.parse format text <;> rfl

/-- When a run has had the lock there is no lock file at its end, whatever that end is, unless the recipe
has put a directory in its place. -/
theorem released (settled : settings given machine = (.ok config, ready))
    (locked : RunLock.acquire file ready = (.ok lock, held))
    (ran : loadAndRun config file parameter tag json held = (ended, after))
    (single : (∃ causes loaded, Recipe.load file held = (.error causes, loaded)) ∨
      ∀ at_, after.disk.lookup false lock.path ≠ .ok (at_, .dir)) :
    ∃ final, perform given (.run file parameter tag json) machine = (ended, final) ∧
      ∀ follow found, final.disk.lookup follow (RunLock.pathFor file) ≠ .ok found := by
  obtain rfl := settings_machine settled
  obtain ⟨path, bare, parent, name, enters, entry⟩ := RunLock.acquire_entry locked
  refine ⟨_, perform_locked settled locked ran, fun follow found => ?_⟩
  have kept : ∀ at_, after.disk.lookup false (RunLock.pathFor file) ≠ .ok (at_, .dir) := by
    rcases single with ⟨causes, loaded, failed⟩ | single
    · have unloaded : loaded = held := by
        have same := load_after file held
        rwa [failed] at same
      rw [unloaded] at failed
      rw [loadAndRun, Cli.bind_error _ (ofMachine_error failed)] at ran
      cases ran
      exact enters.lookup_single bare entry
    · rwa [path] at single
  obtain ⟨front, pieces⟩ := enters.pieces_eq
  rw [RunLock.release_disk, path, unlock, lookup_locked]
  exact lookup_unlinked enters.proper enters.valid bare pieces kept follow found

/-- Locks may be taken and given back in any order, whatever the lock files held before: who has one and
what the file says agree at any time, a lock is refused just when somebody has one on the same file, and
a lock that is given back leaves no file behind. So it is with every run from the command line. -/
theorem locks_kept :
    (∀ (machine : Machine) (deeds : List Deed), machine.disk.Rooted → machine.disk.Young →
      machine.disk.locked = [] → (∀ deed ∈ deeds, Custody.Fair machine.disk deed) →
        Custody.Lawful machine.disk (Custody.run ⟨machine, []⟩ deeds)) ∧
    ∀ given file parameter tag json machine ready held after config lock ended,
      settings given machine = (.ok config, ready) → RunLock.acquire file ready = (.ok lock, held) →
      loadAndRun config file parameter tag json held = (ended, after) →
      ((∃ causes loaded, Recipe.load file held = (.error causes, loaded)) ∨
        ∀ at_, after.disk.lookup false lock.path ≠ .ok (at_, .dir)) →
      ∃ final, perform given (.run file parameter tag json) machine = (ended, final) ∧
        ∀ follow found, final.disk.lookup follow (RunLock.pathFor file) ≠ .ok found := by
  constructor
  · intro machine deeds rooted young unlocked fair
    exact Custody.lawful_run rooted young unlocked fair
  · intro given file parameter tag json machine ready held after config lock ended settled locked ran
    exact released settled locked ran

section Leftover

/-- A lock file was left behind that says more than a process has to say. -/
def leftover : Machine where
  disk := ⟨[], [(["r.lock"], .file 0 (Text.encode "40000 or so\n") false)], 1, []⟩
  launcher := fun _ disk => (.ok ⟨.code 0, [], [], 0⟩, disk)

theorem opened_leftover :
    leftover.disk.openOrCreate (RunLock.pathFor "r") = .ok (0, leftover.disk) := by
  simp [openOrCreate, openForWriting, Contest.pathFor_r, Contest.locateEntry_lock, Contest.locate_lock,
    leftover, hasSlash, bind, Except.bind, pure, Except.pure, Disk.get?]

theorem rooted_leftover : leftover.disk.Rooted where
  tree := tree_of_flat (by simp [leftover])
  cwd := rfl

theorem young_leftover : leftover.disk.Young := by
  intro at_ id bytes executable member
  simp only [leftover, List.mem_singleton] at member
  cases member
  decide

theorem admits_leftover {pid : Nat} (small : pid < 0x100000000) :
    Custody.Admits leftover.disk pid "r" := ⟨small, _, opened_leftover⟩

/-- A process has taken the file over. -/
def takenOver : Custody := Custody.run ⟨leftover, []⟩ [.acquire 7 "r"]

theorem live_takenOver : takenOver.live = [(7, ⟨0, "r.lock"⟩)] := by
  have taken := @Custody.acquire_of_opens "r" (Custody.seenBy ⟨leftover, []⟩ 7) 0 leftover.disk
    opened_leftover List.not_mem_nil
  simp only [takenOver, Custody.run, List.foldl_cons, List.foldl_nil, Custody.act, taken]
  rfl

/-- The file says who has the lock, and so does the refusal of another process. A recipe of no known
format leaves no lock file. -/
theorem locks_kept_leftover :
    leftover.disk.Rooted ∧ leftover.disk.Young ∧ leftover.disk.locked = [] ∧
      (∀ deed ∈ [Deed.acquire 7 "r"], Custody.Fair leftover.disk deed) ∧
      takenOver.machine.disk.read "r.lock" = .ok (Text.encode "7") ∧
      (∃ after, RunLock.acquire "r" (takenOver.seenBy 8) =
        (.error ["r is already being executed (process 7); remove r.lock if no run is active"], after)) ∧
      ∃ ended final, perform {} (.run "r" none none false) leftover = (ended, final) ∧
        ∀ follow found, final.disk.lookup follow "r.lock" ≠ .ok found := by
  have fair : ∀ deed ∈ [Deed.acquire 7 "r"], Custody.Fair leftover.disk deed := by
    intro deed within
    rw [List.mem_singleton.mp within]
    exact admits_leftover (by decide)
  have lawful := locks_kept.1 leftover [.acquire 7 "r"] rooted_leftover young_leftover rfl fair
  have within : (7, (⟨0, "r.lock"⟩ : RunLock)) ∈ takenOver.live := by
    rw [live_takenOver]
    exact List.mem_cons_self
  refine ⟨rooted_leftover, young_leftover, rfl, fair, (lawful.live _ within).2.2, ?_, ?_⟩
  · rcases went : RunLock.acquire "r" (takenOver.seenBy 8) with ⟨causes | lock, after⟩
    · obtain ⟨-, holder, among, -, told, -⟩ :=
        lawful.refused 8 "r" causes after (admits_leftover (by decide)) went
      rw [show (Custody.run ⟨leftover, []⟩ [.acquire 7 "r"]).live = _ from live_takenOver] at among
      cases List.mem_singleton.mp among
      rw [told]
      exact ⟨after, rfl⟩
    · have alone := (lawful.granted 8 "r" (admits_leftover (by decide))).mp ⟨lock, after, went⟩
      have apart := alone _ within
      rw [Contest.pathFor_r] at apart
      dsimp only at apart
      exact absurd rfl apart
  · have locked := @Custody.acquire_of_opens "r" leftover 0 leftover.disk opened_leftover List.not_mem_nil
    obtain ⟨final, ran, gone⟩ := locks_kept.2 {} "r" none none false leftover leftover _ _ {} _ _
      (settings_of_free rfl rfl) locked rfl (.inl ⟨_, _, rfl⟩)
    rw [Contest.pathFor_r] at gone
    exact ⟨_, final, ran, gone⟩

end Leftover

end Cli

end Provision
