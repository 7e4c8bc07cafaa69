import Provision.Archive.Bits

/-! What stands at the end of a zip archive and says where its directory is. Anything may
stand in front of an archive, and a comment behind it. -/

namespace Provision.Archive.Zip

private def endMark : Nat := 0x06054b50
private def wideEndMark : Nat := 0x06064b50
private def locatorMark : Nat := 0x07064b50
def directoryMark : Nat := 0x02014b50

/-- Where the directory is and how many entries it has. -/
structure Directory where
  start : Nat
  count : Nat
  /-- How far everything is displaced by what stands in front of the archive. -/
  offset : Nat
  deriving DecidableEq, Repr

/-- What an end record says. -/
private structure Ending where
  disk : Nat
  directoryDisk : Nat
  countHere : Nat
  count : Nat
  start : Nat

private def endingAt? (data : ByteArray) (position : Nat) : Option Ending := do
  if (← word? data position 4) != endMark then none
  let comment ← word? data (position + 20) 2
  if data.size < position + 22 + comment then none
  some {
    disk := ← word? data (position + 4) 2
    directoryDisk := ← word? data (position + 6) 2
    countHere := ← word? data (position + 8) 2
    count := ← word? data (position + 10) 2
    start := ← word? data (position + 16) 4 }

/-- The first place from `start` on at which a mark stands whole before `stop`. -/
private def findMark? (data : ByteArray) (mark start stop : Nat) : Option Nat :=
  (List.range' start (stop - 3 - start)).find? fun position => word? data position 4 == some mark

/-- The directory is where the record says, or else displaced by what stands in front. -/
private def narrowDirectory? (data : ByteArray) (position : Nat) (ending : Ending) :
    Option Directory := do
  let offset ←
    if ending.count == 0 then some (position - ending.start)
    else if position ≤ ending.start then none
    else (findMark? data directoryMark ending.start position).map (· - ending.start)
  if ending.disk != ending.directoryDisk then none
  else some ⟨ending.start + offset, ending.countHere, offset⟩

/-- The wide end record at this place, which reaches up to its locator. -/
private def wideEndingAt? (data : ByteArray) (position stop offset directoryDisk : Nat) :
    Option Directory := do
  if (← word? data position 4) != wideEndMark then none
  let size ← word? data (position + 4) 8
  let madeBy ← word? data (position + 12) 2
  let needed ← word? data (position + 14) 2
  let disk ← word? data (position + 16) 4
  let ownDirectoryDisk ← word? data (position + 20) 4
  let countHere ← word? data (position + 24) 8
  let count ← word? data (position + 32) 8
  let start ← word? data (position + 48) 8
  if size < 44 || size + 12 != stop - position || ownDirectoryDisk != directoryDisk ||
      position < 46 * count + start then none
  else if count < countHere || madeBy < needed || disk != directoryDisk then none
  else some ⟨start + offset, count, offset⟩

/-- The locator of a wide end record: the disk of the directory and where the record
begins. -/
private def locatorBefore? (data : ByteArray) (position : Nat) : Option (Nat × Nat × Nat) := do
  if position < 20 then none
  let place := position - 20
  if (← word? data place 4) != locatorMark then none
  some (← word? data (place + 4) 4, ← word? data (place + 8) 8, ← word? data (place + 16) 4)

private def wideDirectory? (data : ByteArray) (stop : Nat) (locator : Nat × Nat × Nat) :
    Option Directory :=
  let (directoryDisk, start, disks) := locator
  if stop ≤ start || 1 < disks then none
  else
    (List.range' start (stop - start)).findSome? fun position =>
      wideEndingAt? data position stop (position - start) directoryDisk

/-- The directory that the end record at this place leads to. -/
private def directoryAt? (data : ByteArray) (position : Nat) : Option Directory := do
  let ending ← endingAt? data position
  let isWide := ending.count == 0xFFFF || ending.start == 0xFFFFFFFF
  match if isWide then locatorBefore? data position else none with
  | some locator => wideDirectory? data (position - 20) locator
  | none => narrowDirectory? data position ending

/-- The directories that end records lead to, from the last record on. -/
def directories (data : ByteArray) : List Directory :=
  (List.range (data.size - 21)).reverse.filterMap (directoryAt? data)

end Provision.Archive.Zip
