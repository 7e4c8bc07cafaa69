import Provision.Archive.Checksum
import Provision.Text.Utf8

/-! Further details of an entry, each with a number that says what it is and with its size.
When the last of them is cut short, those before it still count. -/

namespace Provision.Archive.Zip

/-- What an entry says of itself, as far as further details can change it. -/
structure Details where
  rawName : Bytes
  name : String
  comment : String
  method : Nat
  size : Nat
  fullSize : Nat
  start : Nat
  isSealed : Bool := false
  deriving Repr

/-- Why details cannot be read any further. -/
inductive Trouble where
  | cutShort
  | invalid
  deriving DecidableEq, Repr

private abbrev Reader := StateT Bytes (Except Trouble)

private def number (width : Nat) : Reader Nat := fun bytes =>
  if bytes.length < width then .error .cutShort
  else .ok ((bytes.take width).foldr (fun byte value => byte.toNat + 256 * value) 0, bytes.drop width)

private def piece (size : Nat) : Reader Bytes := fun bytes =>
  if bytes.length < size then .error .cutShort else .ok (bytes.take size, bytes.drop size)

/-- A size or place that does not fit its field. -/
private def tooWide : Nat := 0xFFFFFFFF

/-- Sizes and the place of the contents in eight bytes each: all of them, or those that do
not fit their fields. -/
private def readWide (size : Nat) (details : Details) : Reader Details := do
  let full ←
    if 24 ≤ size || details.fullSize == tooWide then (do pure (some (← number 8))) else pure none
  let packed ←
    if 24 ≤ size || details.size == tooWide then (do pure (some (← number 8))) else pure none
  let start ←
    if 24 ≤ size || details.start == tooWide then (do pure (some (← number 8))) else pure none
  let used := 8 * ([full, packed, start].filter Option.isSome).length
  if size < used then throw .invalid
  let _ ← piece (size - used)
  return { details with
    fullSize := full.getD details.fullSize
    size := packed.getD details.size
    start := start.getD details.start }

/-- Times in the manner of one file system. -/
private def readTimes (size : Nat) : Reader Unit := do
  if size != 32 then throw .invalid
  let _ ← number 4
  if (← number 2) != 1 then throw .invalid
  if (← number 2) != 24 then throw .invalid
  let _ ← piece 24

/-- Encryption, with the method of compression that lies below it. -/
private def readSeal (size : Nat) (details : Details) : Reader Details := do
  if size != 7 then throw .invalid
  let version ← number 2
  let vendor ← number 2
  let strength ← number 1
  let method ← number 2
  if vendor != 0x4541 || version < 1 || 2 < version || strength < 1 || 3 < strength then
    throw .invalid
  return { details with method, isSealed := true }

/-- Times of which flags say which are there. -/
private def readStamps (size : Nat) : Reader Unit := do
  let flags ← number 1
  let count := ((List.range 8).filter fun bit => flags.testBit bit).length
  if size != 5 && size != 1 + 4 * count then throw .invalid
  if flags.testBit 0 || size == 5 then (do let _ ← number 4)
  if flags.testBit 1 && 5 < size then (do let _ ← number 4)
  if flags.testBit 2 && 5 < size then (do let _ ← number 4)

/-- A text that replaces another, if it was made for that one. -/
private def readReplacement (size : Nat) (replaced : Bytes) : Reader (Bytes × String) := do
  let _ ← number 1
  let sum ← number 4
  if size < 5 then throw .invalid
  let bytes ← piece (size - 5)
  if (checksum replaced).toNat != sum then throw .invalid
  match Text.decode? bytes with
  | some text => return (bytes, text)
  | none => throw .invalid

private def readDetail (details : Details) : Reader Details := do
  let kind ← number 2
  let size ← number 2
  match kind with
  | 0x0001 => readWide size details
  | 0x000a => do readTimes size; return details
  | 0x9901 => readSeal size details
  | 0x5455 => do readStamps size; return details
  | 0x6375 => do
    let (_, comment) ← readReplacement size (Text.encode details.comment)
    return { details with comment }
  | 0x7075 => do
    let (rawName, name) ← readReplacement size details.rawName
    return { details with rawName, name }
  | _ => do let _ ← piece size; return details

/-- Take in the details one after the other, unless one is invalid. -/
private def readDetails : (fuel : Nat) → Bytes → Details → Option Details
  | 0, _, details => some details
  | fuel + 1, bytes, details =>
    if bytes.isEmpty then some details
    else
      match readDetail details bytes with
      | .ok (details, rest) => readDetails fuel rest details
      | .error .cutShort => some details
      | .error .invalid => none

/-- The details of an entry after those that stand in its extra field. -/
def Details.extend? (details : Details) (extra : Bytes) : Option Details :=
  readDetails extra.length extra details

end Provision.Archive.Zip
