import Provision.Disk.Walk

/-! Single requests to the operating system. Each succeeds as a whole or changes
nothing. -/

namespace Provision.Disk

def read (disk : Disk) (path : String) : Except IoError Bytes :=
  match disk.lookup true path with
  | .ok (_, .file _ bytes _) => .ok bytes
  | .ok _ => .error .isDirectory
  | .error error => .error error

/-- Read a file that holds text. -/
def readText (disk : Disk) (path : String) : Except IoError String := do
  match Text.decode? (← disk.read path) with
  | some text => return text
  | none => throw .notUtf8

/-- Where a file would be opened for writing, and the file that is there now. -/
def openForWriting (disk : Disk) (path : String) :
    Except IoError (Location × Option (Nat × Bytes × Bool)) := do
  let (_, name) ← disk.locateEntry path
  if name.isNone || hasSlash path then throw .isDirectory
  let at_ ← disk.locate true path
  match disk.get? at_ with
  | none => return (at_, none)
  | some (.file id bytes executable) => return (at_, some (id, bytes, executable))
  | some _ => throw .isDirectory

/-- Open a file for reading and writing, making an empty one if there is none. What is
in it stays. -/
def openOrCreate (disk : Disk) (path : String) : Except IoError (Nat × Disk) := do
  match ← disk.openForWriting path with
  | (_, some (id, _)) => return (id, disk)
  | (at_, none) => return (disk.fresh, disk.addFile at_ [] false)

/-- Replace the contents of a file, making it if there is none. -/
def write (disk : Disk) (path : String) (bytes : Bytes) (executable : Bool := false) :
    Except IoError Disk := do
  match ← disk.openForWriting path with
  | (at_, some (id, _, kept)) => return disk.put at_ (.file id bytes kept)
  | (at_, none) => return disk.addFile at_ bytes executable

/-- Add to the end of a file, making it if there is none. -/
def append (disk : Disk) (path : String) (bytes : Bytes) : Except IoError Disk := do
  match ← disk.openForWriting path with
  | (at_, some (id, before, kept)) => return disk.put at_ (.file id (before ++ bytes) kept)
  | (at_, none) => return disk.addFile at_ bytes false

/-- Make a file that must not exist yet. -/
def createNew (disk : Disk) (path : String) : Except IoError Disk := do
  let (parent, name) ← disk.locateEntry path
  match name with
  | none => throw .alreadyExists
  | some name =>
    if hasSlash path then throw .isDirectory
    match disk.get? (parent ++ [name]) with
    | some _ => throw .alreadyExists
    | none => return disk.addFile (parent ++ [name]) [] false

def mkdir (disk : Disk) (path : String) : Except IoError Disk := do
  let (parent, name) ← disk.locateEntry path
  match name with
  | none => throw .alreadyExists
  | some name =>
    match disk.get? (parent ++ [name]) with
    | some _ => throw .alreadyExists
    | none => return disk.put (parent ++ [name]) .dir

def symlink (disk : Disk) (target path : String) : Except IoError Disk := do
  let (parent, name) ← disk.locateEntry path
  match name with
  | none => throw .alreadyExists
  | some name =>
    match disk.get? (parent ++ [name]) with
    | some _ => throw .alreadyExists
    | none => return disk.put (parent ++ [name]) (.link target)

/-- Remove a file or a symbolic link. -/
def unlink (disk : Disk) (path : String) : Except IoError Disk := do
  let (parent, name) ← disk.locateEntry path
  match name with
  | none => throw .isDirectory
  | some name =>
    match disk.get? (parent ++ [name]) with
    | none => throw .notFound
    | some .dir => throw .isDirectory
    | some _ => if hasSlash path then throw .notDirectory else return disk.erase (parent ++ [name])

/-- Remove an empty directory. -/
def rmdir (disk : Disk) (path : String) : Except IoError Disk := do
  let (parent, name) ← disk.locateEntry path
  match name with
  | none =>
    if (PathText.pieces path).getLast? == some "." then throw .invalidArgument
    else throw .notEmpty
  | some name =>
    match disk.get? (parent ++ [name]) with
    | none => throw .notFound
    | some .dir =>
      if (disk.children (parent ++ [name])).isEmpty then return disk.erase (parent ++ [name])
      else throw .notEmpty
    | some _ => throw .notDirectory

/-- Give an entry another name or place. A file replaces a file and a directory an empty
directory. -/
def rename (disk : Disk) (source target : String) : Except IoError Disk := do
  let (sourceDir, sourceName) ← disk.locateEntry source
  let (targetDir, targetName) ← disk.locateEntry target
  match sourceName, targetName with
  | some sourceName, some targetName =>
    let old := sourceDir ++ [sourceName]
    let new := targetDir ++ [targetName]
    match disk.get? old with
    | none => throw .notFound
    | some moved =>
      if moved != .dir && (hasSlash source || hasSlash target) then throw .notDirectory
      if old == new then return disk
      if old.isPrefixOf new then throw .invalidArgument
      match disk.get? new with
      | none => return disk.relocate old new
      | some .dir =>
        if moved != .dir then throw .isDirectory
        if !(disk.children new).isEmpty then throw .notEmpty
        return (disk.erase new).relocate old new
      | some _ =>
        if moved == .dir then throw .notDirectory
        return (disk.erase new).relocate old new
  | _, _ => throw .invalidArgument

/-- Let the owner execute a file, or not. -/
def setExecutable (disk : Disk) (path : String) (executable : Bool) : Except IoError Disk := do
  match ← disk.lookup true path with
  | (at_, .file id bytes _) => return disk.put at_ (.file id bytes executable)
  | _ => return disk

/-- Copy the bytes and permissions of a file. The target is opened and emptied before
anything is read from the source. -/
def copyFile (disk : Disk) (source target : String) : Except IoError Disk := do
  match ← disk.lookup true source with
  | (from_, .file _ _ executable) =>
    let emptied ← disk.write target []
    match emptied.get? from_ with
    | some (.file _ bytes _) => (← emptied.write target bytes).setExecutable target executable
    | _ => throw .notFound
  | _ => throw .notRegular

/-- Take the advisory lock on an open file, unless somebody has it. -/
def tryLock (disk : Disk) (id : Nat) : Option Disk :=
  if disk.locked.contains id then none else some { disk with locked := id :: disk.locked }

def unlock (disk : Disk) (id : Nat) : Disk := { disk with locked := disk.locked.erase id }

/-- The contents of an open file, wherever it now is. -/
def contents? (disk : Disk) (id : Nat) : Option Bytes :=
  disk.entries.findSome? fun
    | (_, .file other bytes _) => if other == id then some bytes else none
    | _ => none

/-- Replace the contents of an open file, wherever it now is. -/
def rewrite (disk : Disk) (id : Nat) (bytes : Bytes) : Disk :=
  { disk with entries := disk.entries.map fun entry => (entry.1, entry.2.rewritten id bytes) }

end Provision.Disk
