import Provision.Archive.Method
import Provision.Archive.Zip.Ending
import Provision.Archive.Zip.Extra
import Provision.Text.CodePage

/-! Reading zip archives through their directory. -/

namespace Provision.Archive

/-- An entry of an archive. Whether its contents can be had is only seen when they are
asked for. -/
structure Entry where
  name : String
  /-- Whether the owner may execute the file, if the archive says so. -/
  executable : Option Bool
  isSealed : Bool
  method : Nat
  checksum : UInt32
  /-- Where the entry itself begins. -/
  start : Nat
  size : Nat
  deriving DecidableEq, Repr

/-- Names of directories end in a slash of either kind. -/
def Entry.isDirectory (entry : Entry) : Bool :=
  entry.name.toList.getLast? == some '/' || entry.name.toList.getLast? == some '\\'

namespace Zip

/-- Stands for the details of what is wrong with an archive. -/
def defect : String := "<zip>"

private def entryMark : Nat := 0x04034b50

private def readName (utf8 : Bool) (raw : Bytes) : String :=
  if utf8 then Text.decodeLossy raw else String.ofList (raw.map Text.codePage437)

/-- Permissions are kept the way of the system that made the entry. -/
private def executable? (system attributes : Nat) : Option Bool :=
  if attributes == 0 then none
  else if system == 3 then some ((attributes / 65536) / 64 % 2 == 1)
  else if system == 0 then some (attributes / 16 % 2 == 1)
  else none

/-- The number of the method that means encryption, of which an extra field must tell
more. -/
private def sealedMethod : Nat := 99

/-- The directory record at this position: its entry and the position behind it. -/
private def entryAt? (data : ByteArray) (offset position : Nat) : Option (Entry × Nat) := do
  let mark ← word? data position 4
  let system ← word? data (position + 5) 1
  let flags ← word? data (position + 8) 2
  let method ← word? data (position + 10) 2
  let sum ← word? data (position + 16) 4
  let size ← word? data (position + 20) 4
  let fullSize ← word? data (position + 24) 4
  let nameSize ← word? data (position + 28) 2
  let extraSize ← word? data (position + 30) 2
  let commentSize ← word? data (position + 32) 2
  let attributes ← word? data (position + 38) 4
  let start ← word? data (position + 42) 4
  let extraStart := position + 46 + nameSize
  let commentStart := extraStart + extraSize
  let next := commentStart + commentSize
  if mark != directoryMark || data.size < next then none
  else
    let utf8 := flags.testBit 11
    let slice := fun start stop => (data.extract start stop).data.toList
    let rawName := slice (position + 46) extraStart
    let details : Details :=
      { rawName, name := readName utf8 rawName, comment := readName utf8 (slice commentStart next),
        method, size, fullSize, start }
    let details ← details.extend? (slice extraStart commentStart)
    if details.method == sealedMethod && !details.isSealed then none
    else
      some ({
        name := details.name
        executable := executable? system attributes
        isSealed := details.isSealed || flags.testBit 0
        method := details.method
        checksum := sum.toUInt32
        start := details.start + offset
        size := details.size }, next)

private def readEntries (data : ByteArray) (offset : Nat) :
    (count : Nat) → (position : Nat) → Option (List Entry)
  | 0, _ => some []
  | count + 1, position =>
    match entryAt? data offset position with
    | none => none
    | some (entry, next) => (readEntries data offset count next).map (entry :: ·)

/-- Of entries with one name, the last takes the place of the first. -/
def merge (entries : List Entry) : List Entry :=
  entries.foldl (fun merged entry =>
    if merged.any fun other => other.name == entry.name then
      merged.map fun other => if other.name == entry.name then entry else other
    else merged ++ [entry]) []

/-- The entries of an archive in the order of its directory. Of several directories that
could be meant, the last one that can be read counts. -/
def entries? (data : ByteArray) : Option (List Entry) :=
  ((directories data).findSome? fun directory =>
    readEntries data directory.offset directory.count directory.start).map merge

/-- The contents of an entry, and what is found wrong with them, unless they are encrypted,
compressed in a way not understood here, or not at their place. -/
def contents? (data : ByteArray) (entry : Entry) : Option (Unit → Bytes × Option Flaw) := do
  let mark ← word? data entry.start 4
  let nameSize ← word? data (entry.start + 26) 2
  let extraSize ← word? data (entry.start + 28) 2
  if mark != entryMark || entry.isSealed then none
  else
    let method ← Method.ofNumber? entry.method
    let start := entry.start + 30 + nameSize + extraSize
    let stop := min (start + entry.size) data.size
    some fun _ => method.unpack (data.extract (min start stop) stop) entry.checksum

end Zip

end Provision.Archive
