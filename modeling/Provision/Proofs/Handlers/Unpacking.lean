import Provision.Proofs.Archive.Confinement
import Provision.Proofs.Handlers.Standard
import Provision.Proofs.Machine.Scratch

/-! UNZIP unpacks into a directory of its own and leaves nothing of it behind when that fails. -/

namespace Provision

open Machine Working Disk

namespace Runtime

variable {runtime : Runtime Machine} {exec : Step → Session Machine → Outcome Machine Fault Unit}
  {session after : Session Machine} {α : Type} {work : Machine.Work α} {frame : α → Frame}

/-- A handler that only works on the machine fails as its work fails. -/
theorem onMachine_of_error {causes : List String} {later : Machine}
    (failed : work session.world = (.error causes, later)) :
    runHandling runtime exec ((Handlers.onMachine work).bind fun value => .done (frame value))
      session = some (.error (.plain causes), { session with world := later }) := by
  simp only [Handlers.onMachine, Handling.act, Handling.bind, runHandling, handling, failed]
  rfl

theorem onMachine_of_ok {value : α} {later : Machine} (went : work session.world = (.ok value, later)) :
    runHandling runtime exec ((Handlers.onMachine work).bind fun value => .done (frame value))
      session = some (.ok (frame value), { session with world := later }) := by
  simp only [Handlers.onMachine, Handling.act, Handling.bind, runHandling, handling, went]
  rfl

end Runtime

namespace Handlers

variable {before after made : Machine} {parameter dir : String} {causes : List String}

/-- The work of UNZIP. -/
def unpackFresh (parameter : String) : Machine.Work String := do
  let dir ← Machine.persistentDir "recipe-zip"
  let _ ← Machine.orElseUndo
    (Machine.within "exception while unzipping" (Machine.onDisk (Archive.extract parameter dir)))
    (Machine.discard dir)
  settle dir

theorem unzip_eq (task : Task) :
    unzip task = (onMachine (unpackFresh task.parameter)).bind fun path => .done (ownedPath path) := rfl

/-- Whatever was unpacked lies in the directory. -/
theorem added_extract {path name : String} {parent : Location} {disk fresh : Disk}
    (nest : Nest disk path parent name fresh) (archive : String) :
    Added (parent ++ [name] <+: ·) disk path parent name (Archive.extract archive path fresh).2 ∧
      (Archive.extract archive path fresh).2.get? (parent ++ [name]) = some .dir := by
  have found : fresh.lookup true path = .ok (parent ++ [name], .dir) :=
    nest.lookup nest.directory (by simp)
  have confined := Archive.confined_extract found nest.unlinked archive
  exact ⟨nest.further confined.below,
    (Archive.grows_extract archive path fresh).get?_dir nest.directory⟩

/-- However UNZIP fails, its directory is gone. -/
theorem tidy_unpackFresh (tree : before.disk.Tree) (parameter : String) :
    Tidy (unpackFresh parameter) before := by
  have entered := entered_temporaryDir "recipe-zip" before
  rcases created : temporaryDir "recipe-zip" before with ⟨causes | dir, fresh⟩
  · rw [created] at entered
    exact tidy_of_refused (bind_error _ (within_of_error _ created)) entered.disk_eq
  · rw [created] at entered
    obtain ⟨parent, name, nest⟩ := entered.nest tree (by decide) (by decide)
    obtain ⟨added, directory⟩ := added_extract nest parameter
    have unpacks := onDisk_eq (Archive.extract parameter dir) fresh
    rw [unpackFresh, Tidy, persistentDir, bind_ok _ (within_of_ok _ created)]
    rcases outcome : (Archive.extract parameter dir fresh.disk).1 with causes | count
    · rw [outcome] at unpacks
      have stops := orElseUndo_of_error (discard dir)
        (within_of_error "exception while unzipping" unpacks)
      exact .inl ⟨_, _, bind_error _ stops, restored_discard (added.delete_dir directory)⟩
    · rw [outcome] at unpacks
      have went := orElseUndo_of_ok (discard dir)
        (within_of_ok "exception while unzipping" unpacks)
      have settles : settle dir { fresh with disk := (Archive.extract parameter dir fresh.disk).2 } =
          (.ok _, _) := settle_eq (added.canonical directory (by simp))
      have temporary : Temporary before fresh dir := entered.temporary (by decide) (by decide)
      refine .inr ⟨_, _, (bind_ok _ went).trans settles,
        .made temporary added (fun other below => ?_) directory (by simp)⟩
      have same := (List.prefix_append_right_inj parent).mp below
      exact (List.singleton_inj.mp (same.eq_of_length rfl)).symm

theorem unpackFresh_of_failed {spoiled : Disk}
    (created : persistentDir "recipe-zip" before = (.ok dir, made))
    (failed : Archive.extract parameter dir made.disk = (.error causes, spoiled)) :
    ∃ after, unpackFresh parameter before =
      (.error ("exception while unzipping" :: causes), after) := by
  have spoils : onDisk (Archive.extract parameter dir) made =
      (.error causes, { made with disk := spoiled }) := by
    rw [onDisk_eq, failed]
  have stops := orElseUndo_of_error (discard dir) (within_of_error "exception while unzipping" spoils)
  refine ⟨(discard dir { made with disk := spoiled }).2, ?_⟩
  rw [unpackFresh, bind_ok _ created, bind_error _ stops]

/-- Unpacking keeps to its directory, and UNZIP takes it back when it fails. -/
theorem confined_and_undone :
    (∀ target place (disk : Disk), disk.lookup true target = .ok (place, .dir) →
      (∀ at_, place <+: at_ → ∀ link, disk.get? at_ ≠ some (.link link)) →
        (∀ archive, Archive.Confined archive target place disk) ∧
        ∀ data entries, ChangedWithin (Archive.Unpacked entries place) disk
          (Archive.extractAll data target entries disk).2) ∧
    ∀ (runtime : Runtime Machine) exec task session, session.world.disk.Tree →
      (∀ dir made causes spoiled, persistentDir "recipe-zip" session.world = (.ok dir, made) →
        Archive.extract task.parameter dir made.disk = (.error causes, spoiled) →
          ∃ after, runtime.runHandling exec (unzip task) session =
              some (.error (.plain ("exception while unzipping" :: causes)), after) ∧
            session.world.disk.Restored after.world.disk) := by
  refine ⟨fun target place disk found unlinked => ⟨fun archive => ?_, fun data entries => ?_⟩, ?_⟩
  · exact Archive.confined_extract found unlinked archive
  · exact Archive.changedWithin_extractAll found unlinked data entries
  · intro runtime exec task session tree dir made causes spoiled created failed
    obtain ⟨after, fails⟩ := unpackFresh_of_failed created failed
    rw [unzip_eq]
    exact ⟨{ session with world := after }, Runtime.onMachine_of_error fails,
      (tidy_unpackFresh tree task.parameter).restored fails⟩

/-- What stands in an archive in front of the contents of an empty file. -/
def localRecord (name : String) : Bytes :=
  [80, 75, 3, 4, 10] ++ List.replicate 21 0 ++ [name.length.toUInt8, 0, 0, 0] ++ Text.encode name

/-- What stands in the directory of an archive for such a file. -/
def directoryRecord (name : String) (start : UInt8) : Bytes :=
  [80, 75, 1, 2, 10, 0, 10] ++ List.replicate 21 0 ++ [name.length.toUInt8] ++
    List.replicate 13 0 ++ [start, 0, 0, 0] ++ Text.encode name

/-- An archive of two empty files, the second of which would lie outside. -/
def escaping : Bytes :=
  localRecord "a/../b" ++ localRecord "../c" ++ directoryRecord "a/../b" 0 ++
    directoryRecord "../c" 36 ++
    [80, 75, 5, 6, 0, 0, 0, 0, 2, 0, 2, 0, 102, 0, 0, 0, 70, 0, 0, 0, 0, 0]

/-- A machine with that archive, a directory to unpack it into and one for temporary files. -/
def besieged : Machine where
  disk :=
    { entries := [(["tmp"], .dir), (["out"], .dir), (["a.zip"], .file 0 escaping false)], fresh := 1 }
  launcher _ disk := (.error .notFound, disk)

theorem entries_escaping : Archive.Zip.entries? ⟨escaping.toArray⟩ =
    some [⟨"a/../b", none, false, 0, 0, 0, 0⟩, ⟨"../c", none, false, 0, 0, 36, 0⟩] := by
  decide +kernel

theorem listed_escaping {path : String} {disk : Disk} {at_ : Location} {id : Nat}
    {executable : Bool} (found : disk.lookup true path = .ok (at_, .file id escaping executable)) :
    Archive.listed path disk =
      [⟨"a/../b", none, false, 0, 0, 0, 0⟩, ⟨"../c", none, false, 0, 0, 36, 0⟩] := by
  have plain : disk.isDir path = false := by rw [Disk.isDir, found]
  have reads : disk.read path = .ok escaping := by rw [Disk.read, found]
  have archive : Archive.readArchive path disk = .ok ⟨escaping.toArray⟩ := by
    rw [Archive.readArchive, plain, reads]
    rfl
  rw [Archive.listed, archive]
  dsimp only
  rw [entries_escaping, Option.getD_some]

/-- The first name only seems to lead out; at the second one the work ends. -/
theorem extract_escaping {target : String} {place at_ : Location} {disk : Disk} {id : Nat}
    {executable : Bool} (confined : Archive.Confined "a.zip" target place disk)
    (found : disk.lookup true "a.zip" = .ok (at_, .file id escaping executable)) :
    ∃ causes after, Archive.extract "a.zip" target disk = (.error causes, after) ∧
      ChangedWithin (Archive.Unpacked [⟨"a/../b", none, false, 0, 0, 0, 0⟩] place) disk after := by
  have refused : ¬ Archive.Enclosed "../c" := by
    rw [← Archive.isEnclosed_iff]
    decide +kernel
  obtain ⟨data, causes, -, stopped, within, -⟩ :=
    confined.refused [_] _ [] (listed_escaping found) refused
  exact ⟨causes, _, stopped, within⟩

theorem tree_besieged : besieged.disk.Tree :=
  tree_of_flat (by simp [besieged])

theorem unlinked_besieged {at_ : Location} (inside : at_ ≠ []) (link : String) :
    besieged.disk.get? at_ ≠ some (.link link) := by
  intro linked
  have listed := mem_of_get? inside linked
  simp [besieged] at listed

theorem confined_and_undone_escaping :
    besieged.disk.lookup true "out" = .ok (["out"], .dir) ∧ besieged.disk.Tree ∧
      (∃ causes after, Archive.extract "a.zip" "out" besieged.disk = (.error causes, after) ∧
        ChangedWithin (Archive.Unpacked [⟨"a/../b", none, false, 0, 0, 0, 0⟩] ["out"]) besieged.disk
          after) ∧
      ∃ causes after,
        Runtime.onMac.runHandling (fun _ _ => none)
          (unzip ⟨"a.zip", {}, Runtime.onMac.facts, Runtime.onMac.constants⟩) ⟨[], [], [], besieged⟩ =
            some (.error (.plain ("exception while unzipping" :: causes)), after) ∧
        besieged.disk.Restored after.world.disk := by
  obtain ⟨confines, undoes⟩ := confined_and_undone
  have archive : besieged.disk.EntersAt "a.zip" [] "a.zip" :=
    ⟨by decide +kernel, ⟨by decide, by decide, by decide⟩, [], maxLinks, by decide +kernel, .stop⟩
  have bare : hasSlash "a.zip" = false := by decide +kernel
  have out : besieged.disk.EntersAt "out" [] "out" :=
    ⟨by decide +kernel, ⟨by decide, by decide, by decide⟩, [], maxLinks, by decide +kernel, .stop⟩
  have found : besieged.disk.lookup true "out" = .ok (["out"], .dir) :=
    out.lookup (by decide +kernel) (by decide +kernel) (by simp)
  have unlinked : ∀ at_, ["out"] <+: at_ → ∀ link, besieged.disk.get? at_ ≠ some (.link link) := by
    intro at_ below link
    refine unlinked_besieged ?_ link
    rintro rfl
    simp at below
  refine ⟨found, tree_besieged, ?_, ?_⟩
  · exact extract_escaping ((confines _ _ _ found unlinked).1 _) (archive.lookup bare rfl (by simp))
  -- The directory that UNZIP makes for itself.
  let dir := "/tmp/recipe-zipAAAAAA"
  let fresh := besieged.disk.put ["tmp", "recipe-zipAAAAAA"] .dir
  have enters : besieged.disk.EntersAt dir ["tmp"] "recipe-zipAAAAAA" :=
    entersAt_absolute (by decide +kernel) (by decide +kernel) (by decide +kernel)
      ⟨by decide, by decide, by decide⟩ ⟨by decide, by decide, by decide⟩ (by decide +kernel)
  have made : besieged.disk.mkdir dir = .ok fresh := enters.mkdir (by decide +kernel)
  have spelled : besieged.temporaryPath ("recipe-zip" ++ randomPart besieged.names ++ "") = dir := by
    decide +kernel
  have created : persistentDir "recipe-zip" besieged =
      (.ok dir, { besieged with names := 1, disk := fresh }) :=
    within_of_ok _ (spelled ▸ enter_of_ok (spelled.symm ▸ made))
  obtain ⟨parent, name, nest⟩ := nest_mkdir tree_besieged (by decide +kernel) made
  have inside : fresh.lookup true dir = .ok (parent ++ [name], .dir) :=
    nest.lookup nest.directory (by simp)
  have still : fresh.get? ["a.zip"] = some (.file 0 escaping false) :=
    (get?_put_other (by decide)).trans rfl
  obtain ⟨causes, spoiled, failed, -⟩ := extract_escaping ((confines _ _ _ inside nest.unlinked).1 _)
    (((grows_mkdir made).entersAt archive).lookup bare still (by simp))
  obtain ⟨after, fails, restored⟩ := undoes Runtime.onMac (fun _ _ => none)
    ⟨"a.zip", {}, Runtime.onMac.facts, Runtime.onMac.constants⟩ ⟨[], [], [], besieged⟩ tree_besieged
    dir _ causes spoiled created failed
  exact ⟨causes, after, fails, restored⟩

end Handlers

end Provision
