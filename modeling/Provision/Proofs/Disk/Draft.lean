import Provision.Proofs.Disk.Region

/-! What has just been made under a path. A file can be written and added to, made executable, found and
deleted, and none of that fails while the file is all that was added to the disk; a directory can be
found and deleted with all that was put into it. -/

namespace Provision.Disk

variable {before after : Disk} {path name : String} {parent : Location}

/-- A file under the path is all that was added since. -/
structure Draft (before : Disk) (path : String) (parent : Location) (name : String)
    (after : Disk) : Prop extends Added (· = parent ++ [name]) before path parent name after where
  file : ∃ id bytes executable, after.get? (parent ++ [name]) = some (.file id bytes executable)

/-- These bytes are in it. -/
structure Filled (before : Disk) (path : String) (parent : Location) (name : String) (bytes : Bytes)
    (after : Disk) : Prop extends Draft before path parent name after where
  content : ∃ id executable, after.get? (parent ++ [name]) = some (.file id bytes executable)

theorem EntersAt.createNew (enters : before.EntersAt path parent name) (bare : hasSlash path = false)
    (free : before.get? (parent ++ [name]) = none) :
    before.createNew path = .ok (before.addFile (parent ++ [name]) [] false) := by
  simp only [Disk.createNew, locateEntry_eq_ok_iff.mpr enters, bind, Except.bind, bare, free,
    Bool.false_eq_true, if_false]
  rfl

theorem EntersAt.mkdir (enters : before.EntersAt path parent name)
    (free : before.get? (parent ++ [name]) = none) :
    before.mkdir path = .ok (before.put (parent ++ [name]) .dir) := by
  simp only [Disk.mkdir, locateEntry_eq_ok_iff.mpr enters, bind, Except.bind, free]
  rfl

/-- Anything but a directory is gone once it is deleted. -/
theorem EntersAt.deleted (enters : before.EntersAt path parent name) (bare : hasSlash path = false)
    (single : before.get? (parent ++ [name]) ≠ some .dir) :
    (delete path before).2.get? (parent ++ [name]) = none := by
  have erases : ∀ node, before.get? (parent ++ [name]) = some node → node ≠ .dir →
      delete path before = (.ok (), before.erase (parent ++ [name])) := by
    intro node stands other
    have unlinked : before.unlink path = .ok (before.erase (parent ++ [name])) := by
      simp only [unlink, locateEntry_eq_ok_iff.mpr enters, bind, Except.bind, stands, bare,
        Bool.false_eq_true, if_false]
      cases node with
      | dir => exact absurd rfl other
      | file id bytes executable => rfl
      | link target => rfl
    rw [delete, Working.get_bind, enters.lookup bare stands fun follows => by cases follows]
    cases node with
    | dir => exact absurd rfl other
    | file id bytes executable => exact attempt_ok _ unlinked
    | link target => exact attempt_ok _ unlinked
  cases stands : before.get? (parent ++ [name]) with
  | none =>
    rw [delete, Working.get_bind, enters.lookup_free bare stands]
    exact stands
  | some node =>
    rw [erases node stands fun same => single (same ▸ stands)]
    exact get?_filter_none (· != parent ++ [name]) (by simp) (by simp) before

theorem draft_createNew (bare : hasSlash path = false) (made : before.createNew path = .ok after) :
    ∃ parent name, Draft before path parent name after := by
  obtain ⟨parent, name, located, free, rfl⟩ := createNew_ok made
  refine ⟨parent, name, ⟨locateEntry_eq_ok_iff.mp located, bare, rfl, ?_, ?_⟩, ?_⟩
  · rintro at_ rfl
    exact free
  · exact changedWithin_addFile (by rfl) [] false
  · exact ⟨before.fresh, [], false, get?_put_self (ne_nil_of_free free)⟩

namespace Draft

variable (draft : Draft before path parent name after)
include draft

theorem put (id : Nat) (bytes : Bytes) (executable : Bool) :
    Filled before path parent name bytes
      (after.put (parent ++ [name]) (.file id bytes executable)) := by
  have stands : (after.put (parent ++ [name]) (.file id bytes executable)).get? (parent ++ [name]) =
      some (.file id bytes executable) := get?_put_self (by simp)
  exact ⟨⟨draft.further (changedWithin_put (by rfl) _), id, bytes, executable, stands⟩,
    id, executable, stands⟩

theorem filled : ∃ bytes, Filled before path parent name bytes after := by
  obtain ⟨id, bytes, executable, file⟩ := draft.file
  exact ⟨bytes, draft, id, executable, file⟩

end Draft

namespace Filled

variable {bytes : Bytes} (filled : Filled before path parent name bytes after)
include filled

theorem opened : ∃ id executable,
    after.openForWriting path = .ok (parent ++ [name], some (id, bytes, executable)) := by
  obtain ⟨id, executable, file⟩ := filled.content
  have found : after.lookup true path = .ok (parent ++ [name], .file id bytes executable) :=
    filled.lookup file (by simp)
  exact ⟨id, executable, filled.entersAt.openForWriting filled.bare (locate_of_lookup found) file⟩

theorem append (content : Bytes) :
    ∃ later, after.append path content = .ok later ∧
      Filled before path parent name (bytes ++ content) later := by
  obtain ⟨id, executable, opened⟩ := filled.opened
  refine ⟨_, ?_, filled.put id (bytes ++ content) executable⟩
  rw [Disk.append, opened]
  rfl

theorem setExecutable (executable : Bool) :
    ∃ later, after.setExecutable path executable = .ok later ∧
      Filled before path parent name bytes later := by
  obtain ⟨id, old, file⟩ := filled.content
  refine ⟨_, ?_, filled.put id bytes executable⟩
  rw [Disk.setExecutable, filled.lookup file (by simp)]
  rfl

end Filled

namespace Draft

variable (draft : Draft before path parent name after)
include draft

theorem write (content : Bytes) (allowed : Bool) :
    ∃ later, after.write path content allowed = .ok later ∧
      Filled before path parent name content later := by
  obtain ⟨bytes, filled⟩ := draft.filled
  obtain ⟨id, executable, opened⟩ := filled.opened
  refine ⟨_, ?_, draft.put id content executable⟩
  rw [Disk.write, opened]
  rfl

theorem canonical_eq : after.canonical path = .ok (pathOf (parent ++ [name])) := by
  obtain ⟨id, bytes, executable, file⟩ := draft.file
  exact draft.canonical file (by simp)

theorem deleted : ∃ gone, delete path after = (.ok (), gone) ∧ Restored before gone := by
  obtain ⟨id, bytes, executable, file⟩ := draft.file
  exact draft.delete_file (fun _ same => same) file

end Draft

/-- A directory under the path was added, and there are no links in it. -/
structure Nest (before : Disk) (path : String) (parent : Location) (name : String)
    (after : Disk) : Prop extends Added (parent ++ [name] <+: ·) before path parent name after where
  directory : after.get? (parent ++ [name]) = some .dir
  unlinked : ∀ at_, parent ++ [name] <+: at_ → ∀ target, after.get? at_ ≠ some (.link target)

/-- A directory that is made in a tree is empty. -/
theorem nest_mkdir (tree : Tree before) (bare : hasSlash path = false)
    (made : before.mkdir path = .ok after) : ∃ parent name, Nest before path parent name after := by
  obtain ⟨parent, name, located, free, rfl⟩ := mkdir_ok made
  have empty : ∀ at_, parent ++ [name] <+: at_ → before.get? at_ = none :=
    fun at_ below => tree.none_below free below
  have stands : (before.put (parent ++ [name]) .dir).get? (parent ++ [name]) = some .dir :=
    get?_put_self (ne_nil_of_free free)
  refine ⟨parent, name, ⟨locateEntry_eq_ok_iff.mp located, bare, List.prefix_rfl, empty, ?_⟩, stands,
    ?_⟩
  · exact changedWithin_put List.prefix_rfl .dir
  · intro at_ below target linked
    by_cases same : at_ = parent ++ [name]
    · rw [same, stands] at linked
      cases linked
    · rw [get?_put_other same, empty at_ below] at linked
      cases linked

end Provision.Disk
