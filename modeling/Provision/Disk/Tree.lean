import Provision.Text.Utf8

/-! The contents of a disk: what stands at which location. Siblings are listed in the
order in which they are stored, which nothing else depends on. -/

namespace Provision

/-- Names on the way from the root directory, outermost first. -/
abbrev Location := List String

inductive Node where
  /-- `id` tells a file from one that had the same name before. -/
  | file (id : Nat) (bytes : Bytes) (executable : Bool)
  | dir
  | link (target : String)
  deriving DecidableEq, Repr

/-- The node with other contents, if it is the file with this identity. -/
def Node.rewritten (id : Nat) (bytes : Bytes) : Node → Node
  | .file other before executable => .file other (if other == id then bytes else before) executable
  | node => node

structure Disk where
  /-- Where relative paths start. -/
  cwd : Location := []
  entries : List (Location × Node) := []
  /-- An identity no file has had yet. -/
  fresh : Nat := 0
  /-- Files on which somebody holds the advisory lock. -/
  locked : List Nat := []
  deriving Inhabited

namespace Disk

/-- What stands at a location. The root directory is always there. -/
def get? (disk : Disk) (at_ : Location) : Option Node :=
  if at_.isEmpty then some .dir else (disk.entries.find? fun entry => entry.1 == at_).map Prod.snd

/-- Put a node in its place, keeping the place of an entry that is replaced. -/
def put (disk : Disk) (at_ : Location) (node : Node) : Disk :=
  if disk.entries.any fun entry => entry.1 == at_ then
    { disk with
      entries := disk.entries.map fun entry => if entry.1 == at_ then (at_, node) else entry }
  else { disk with entries := disk.entries ++ [(at_, node)] }

/-- Remove one entry. -/
def erase (disk : Disk) (at_ : Location) : Disk :=
  { disk with entries := disk.entries.filter fun entry => entry.1 != at_ }

/-- Remove an entry and everything below it. -/
def eraseTree (disk : Disk) (at_ : Location) : Disk :=
  { disk with entries := disk.entries.filter fun entry => !at_.isPrefixOf entry.1 }

/-- Give an entry and everything below it a new location. -/
def relocate (disk : Disk) (source target : Location) : Disk :=
  { disk with
    entries := disk.entries.map fun entry =>
      if source.isPrefixOf entry.1 then (target ++ entry.1.drop source.length, entry.2)
      else entry }

/-- Names of the entries directly below a location. -/
def children (disk : Disk) (at_ : Location) : List String :=
  disk.entries.filterMap fun entry =>
    match entry.1.getLast? with
    | some name => if entry.1 == at_ ++ [name] then some name else none
    | none => none

def isDirAt (disk : Disk) (at_ : Location) : Bool := disk.get? at_ == some .dir

/-- Store a file that was not there before. -/
def addFile (disk : Disk) (at_ : Location) (bytes : Bytes) (executable : Bool) : Disk :=
  { disk.put at_ (.file disk.fresh bytes executable) with fresh := disk.fresh + 1 }

theorem get?_root (disk : Disk) : disk.get? [] = some .dir := rfl

end Disk

end Provision

/-! The ways in which the operating system refuses a request, with the texts under
which they are known. -/

namespace Provision

inductive IoError where
  | notFound
  | execFormat
  | permissionDenied
  | alreadyExists
  | notDirectory
  | isDirectory
  | invalidArgument
  | brokenPipe
  | nameTooLong
  | notEmpty
  | linkLoop
  | nulInPath
  | nulInArgument
  | notUtf8
  | notRegular
  deriving DecidableEq, Repr

namespace IoError

def message : IoError → String
  | notFound => "No such file or directory (os error 2)"
  | execFormat => "Exec format error (os error 8)"
  | permissionDenied => "Permission denied (os error 13)"
  | alreadyExists => "File exists (os error 17)"
  | notDirectory => "Not a directory (os error 20)"
  | isDirectory => "Is a directory (os error 21)"
  | invalidArgument => "Invalid argument (os error 22)"
  | brokenPipe => "Broken pipe (os error 32)"
  | nameTooLong => "File name too long (os error 36)"
  | notEmpty => "Directory not empty (os error 39)"
  | linkLoop => "Too many levels of symbolic links (os error 40)"
  | nulInPath => "file name contained an unexpected NUL byte"
  | nulInArgument => "nul byte found in provided data"
  | notUtf8 => "stream did not contain valid UTF-8"
  | notRegular => "the source path is neither a regular file nor a symlink to a regular file"

end IoError

end Provision
