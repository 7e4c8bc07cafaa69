import Provision.Archive.Zip
import Provision.Disk.Transfer

/-! Unpacking an archive into a directory. Names that would lead out of it end the
work. -/

namespace Provision.Archive

/-- How deep below its start a path ends, provided that it is relative and never climbs
above its start on the way. -/
def depthFrom : (depth : Nat) → List PathText.Component → Option Nat
  | depth, [] => some depth
  | depth, .name _ :: rest => depthFrom (depth + 1) rest
  | depth, .here :: rest => depthFrom depth rest
  | 0, .up :: _ => none
  | depth + 1, .up :: rest => depthFrom depth rest
  | _, .root :: _ => none

/-- Names that stay at or below the place they are put. -/
def isEnclosed (name : String) : Bool :=
  !name.toList.contains '\x00' && (depthFrom 0 (PathText.components name)).isSome

/-- Write a file's contents and then its permission, and fail only then if the contents
are flawed. -/
def writeFile (path : String) (bytes : Bytes) (flaw : Option Flaw) (executable : Option Bool) :
    Disk.Work Unit := do
  Disk.attempt ("cannot create " ++ path) fun disk => disk.write path bytes
  match flaw with
  | some flaw => throw ["write error for " ++ path, flaw.message]
  | none =>
    match executable with
    | some executable =>
      match (← get).setExecutable path executable with
      | .ok disk => set disk
      | .error _ => pure ()
    | none => pure ()

/-- Unpack one entry and say how many files that made. -/
def extractEntry (data : ByteArray) (target : String) (entry : Entry) : Disk.Work Nat := do
  match Zip.contents? data entry with
  | none => throw ["zip entry error", Zip.defect]
  | some contents =>
    if !isEnclosed entry.name then throw ["zip entry escapes destination: " ++ entry.name]
    let path := PathText.join target entry.name
    if entry.isDirectory then
      Disk.makeDirs path
      return 0
    else
      match PathText.parent? path with
      | some parent => Disk.makeDirs parent
      | none => pure ()
      let (bytes, flaw) := contents ()
      writeFile path bytes flaw entry.executable
      return 1

def extractAll (data : ByteArray) (target : String) : List Entry → Disk.Work Nat
  | [] => return 0
  | entry :: rest => do
    let first ← extractEntry data target entry
    let others ← extractAll data target rest
    return first + others

/-- The bytes of an archive file. A directory can be opened too, but holds none. -/
def readArchive (archive : String) (disk : Disk) : Except IoError ByteArray :=
  if disk.isDir archive then .ok ByteArray.empty
  else (disk.read archive).map fun bytes => ByteArray.mk bytes.toArray

/-- Unpack an archive file into a directory and count the files written. What was written
before an error stays. -/
def extract (archive target : String) : Disk.Work Nat := do
  let data ← Disk.inquire ("cannot open " ++ archive) (readArchive archive)
  match Zip.entries? data with
  | none => throw ["zip read error: " ++ archive, Zip.defect]
  | some entries => extractAll data target entries

end Provision.Archive
