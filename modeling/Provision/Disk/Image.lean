import Provision.Disk.Transfer

/-! Filling a disk, and telling how one disk differs from another. -/

namespace Provision.Disk

/-- Make a directory with those above it, unless something is in the way. -/
def withDirectory (disk : Disk) (path : String) : Disk := (disk.mkdirs path).2

/-- Put a file in place with the directories above it, unless something is in the way. -/
def withFile (disk : Disk) (path : String) (bytes : Bytes) (executable : Bool) : Disk :=
  let above := ((PathText.parent? path).map disk.withDirectory).getD disk
  (above.write path bytes executable).toOption.getD disk

/-- Put a symbolic link in place with the directories above it. -/
def withLink (disk : Disk) (path target : String) : Disk :=
  let above := ((PathText.parent? path).map disk.withDirectory).getD disk
  (above.symlink target path).toOption.getD disk

inductive Change where
  | removed
  | directory
  | file (bytes : Bytes) (executable : Bool)
  deriving DecidableEq, Repr

private def changeAt? (before : Disk) (entry : Location × Node) : Option (Location × Change) :=
  if before.get? entry.1 == some entry.2 then none
  else
    match entry.2 with
    | .file _ bytes executable => some (entry.1, .file bytes executable)
    | .dir => some (entry.1, .directory)
    | .link _ => none

/-- What is to be done to the first disk to get the files of the second: first what goes,
innermost entries first, then what comes, outermost entries first. -/
def changes (before after : Disk) : List (Location × Change) :=
  let gone := before.entries.filter fun entry => (after.get? entry.1).isNone
  let outermost (a b : Location × Change) : Bool := a.1.length ≤ b.1.length
  (gone.map fun entry => (entry.1, Change.removed)).mergeSort (fun a b => outermost b a) ++
    (after.entries.filterMap (changeAt? before)).mergeSort outermost

end Provision.Disk
