import Provision.Archive.Checksum
import Provision.Archive.Lzma

/-! Decompression of the xz format: blocks with headers and check values, an index of
them at the end, and in each block chunks that are compressed or not. -/

namespace Provision.Archive.Xz

inductive Defect where
  | brokenOff
  | header (what : String)
  | chunk (defect : Lzma.Defect)
  deriving DecidableEq, Repr

def Defect.message : Defect → String
  | brokenOff => "failed to fill whole buffer"
  | header what => what
  | chunk defect => defect.message

/-- Bytes at a place. -/
private def slice (data : ByteArray) (position size : Nat) : Except Defect Bytes :=
  if data.size < position + size then .error .brokenOff
  else .ok (data.extract position (position + size)).data.toList

private def numberAt (data : ByteArray) (position width : Nat) : Except Defect Nat :=
  match word? data position width with
  | some value => .ok value
  | none => .error .brokenOff

/-- A number in up to nine bytes of seven bits each, low bits first. -/
private def multibyte (data : ByteArray) :
    (bytes : Nat) → (position : Nat) → (weight : Nat) → Except Defect (Nat × Nat)
  | 0, _, _ => .error (.header "Invalid multi-byte encoding")
  | bytes + 1, position, weight => do
    let byte ← numberAt data position 1
    if byte < 128 then return (byte * weight, position + 1)
    let (high, position) ← multibyte data bytes (position + 1) (128 * weight)
    return ((byte - 128) * weight + high, position)

private def number (data : ByteArray) (position : Nat) : Except Defect (Nat × Nat) :=
  multibyte data 9 position 1

/-- The bytes that are missing to a multiple of four. -/
private def padding (size : Nat) : Nat := (4 - size % 4) % 4

private def requireZeros (bytes : Bytes) (what : String) : Except Defect Unit :=
  if bytes.all (· == 0) then .ok () else .error (.header what)

/-! ## Chunks -/

private def expect (what : String) (data : ByteArray) (position width : Nat) :
    Except Defect Nat :=
  match (List.range width).mapM fun place => word? data (position + place) 1 with
  | some bytes => .ok (bytes.foldl (fun value byte => 256 * value + byte) 0)
  | none => .error (.chunk (.expected what))

/-- What one chunk leaves to the next. -/
private structure Chunks where
  properties : Lzma.Properties := {}
  memory : Lzma.Memory := {}
  models : Array UInt32 := #[]
  out : ByteArray
  base : Nat

private def readUncompressed (data : ByteArray) (position : Nat) (reset : Bool) (chunks : Chunks) :
    Except Defect (Nat × Chunks) := do
  let size := (← expect "unpacked size" data position 2) + 1
  if data.size < position + 2 + size then
    throw (.chunk (.expected (toString size ++ " uncompressed bytes")))
  return (position + 2 + size, { chunks with
    base := if reset then chunks.out.size else chunks.base
    out := chunks.out ++ data.extract (position + 2) (position + 2 + size) })

/-- A compressed chunk. Its status says how much of what is known starts afresh. -/
private def readCompressed (data : ByteArray) (position status : Nat) (chunks : Chunks) :
    Except Defect (Nat × Chunks) := do
  let size := status % 32 * 65536 + (← expect "unpacked size" data position 2) + 1
  let packed := (← expect "packed size" data (position + 2) 2) + 1
  let resets := status / 32 % 4
  let base := if resets == 3 then chunks.out.size else chunks.base
  let position := position + 4
  let (position, chunks) ←
    if resets == 0 then pure (position, chunks)
    else if resets == 1 then
      pure (position, { chunks with memory := {}, models := Lzma.Model.all chunks.properties })
    else do
      let sent ← expect "new properties" data position 1
      if 225 ≤ sent then throw (.chunk (.unknownProperties sent))
      let properties := Lzma.Properties.ofNumber sent
      if 4 < properties.literalContext + properties.literalPosition then
        throw (.chunk (.manyContexts properties.literalContext properties.literalPosition))
      pure (position + 1,
        { chunks with properties, memory := {}, models := Lzma.Model.all properties })
  let ⟨properties, memory, models, out, _⟩ := chunks
  let coder : Lzma.Coder := { data, position, stop := position + packed, models, out, base }
  let some coder := coder.start | throw (.chunk .tooShort)
  let wanted := coder.size + size
  match Lzma.readUntil properties wanted size memory coder with
  | .error defect => throw (.chunk defect)
  | .ok (memory, coder) =>
    if coder.size != wanted then throw (.chunk (.wrongSize wanted coder.size))
    return (coder.position, ⟨properties, memory, coder.models, coder.out, base⟩)

private def readChunks (data : ByteArray) :
    (fuel : Nat) → (position : Nat) → Chunks → Except Defect (Nat × ByteArray)
  | 0, _, _ => .error .brokenOff
  | fuel + 1, position, chunks => do
    let status ← expect "new status" data position 1
    if status == 0 then return (position + 1, chunks.out)
    let (position, chunks) ←
      if status ≤ 2 then readUncompressed data (position + 1) (status == 1) chunks
      else if status < 128 then throw (.chunk (.unknownStatus status))
      else readCompressed data (position + 1) status chunks
    readChunks data fuel position chunks

/-! ## Blocks and streams -/

/-- What the index at the end says about a block: its size without padding, and the size
of its contents. -/
private structure Record where
  size : Nat
  contents : Nat
  deriving DecidableEq

/-- The bytes of a check value, by its kind. -/
private def checkSize (kind : Nat) : Nat :=
  if kind == 0 then 0 else 4 <<< ((kind - 1) / 3)

private def readFilter (data : ByteArray) (position : Nat) : Except Defect Nat := do
  let (filter, position) ← number data position
  if filter != 0x21 then throw (.header "Unsupported XZ filter ID")
  let (size, position) ← number data position
  if size != 1 then throw (.header "Unsupported XZ filter properties size")
  let properties ← numberAt data position 1
  if 64 ≤ properties then throw (.header "Unsupported XZ filter properties")
  return position + 1

/-- The header of a block, whose own size is known. -/
private def readBlockHeader (data : ByteArray) (start size : Nat) : Except Defect Nat := do
  let stop := start + 4 * size
  let flags ← numberAt data (start + 1) 1
  let position := start + 2
  let position ←
    if flags.testBit 6 then do pure (← number data position).2 else pure position
  let position ←
    if flags.testBit 7 then do pure (← number data position).2 else pure position
  let position ← (List.range (flags % 4 + 1)).foldlM (fun position _ => readFilter data position) position
  if stop < position then throw (.header "Invalid XZ block header padding")
  requireZeros (← slice data position (stop - position)) "Invalid XZ block header padding"
  let check ← numberAt data stop 4
  if (checksum (← slice data start (stop - start))).toNat != check then
    throw (.header "Invalid XZ block header CRC32")
  return stop + 4

/-- A block: the position behind it, its record and the contents so far. -/
private def readBlock (data : ByteArray) (kind start size : Nat) (out : ByteArray) :
    Except Defect (Nat × Record × ByteArray) := do
  let before := out.size
  let position ← readBlockHeader data start size
  let (position, out) ← readChunks data data.size position { out, base := out.size }
  let used := position - start
  let _ ← slice data position (padding used + checkSize kind)
  requireZeros (← slice data position (padding used)) "Invalid XZ block padding"
  return (position + padding used + checkSize kind,
    ⟨used + checkSize kind, out.size - before⟩, out)

private def readRecords (data : ByteArray) :
    List Record → (position : Nat) → Except Defect Nat
  | [], position => .ok position
  | record :: records, position => do
    let (size, position) ← number data position
    if size != record.size then throw (.header "Invalid XZ unpadded size")
    let (contents, position) ← number data position
    if contents != record.contents then throw (.header "Invalid XZ uncompressed size")
    readRecords data records position

/-- The index and what closes a stream: the position behind them. -/
private def readIndex (data : ByteArray) (kind start : Nat) (records : List Record) :
    Except Defect Nat := do
  let (count, position) ← number data (start + 1)
  if count != records.length then throw (.header "Invalid XZ block index")
  let position ← readRecords data records position
  let stop := position + padding (position - start)
  requireZeros (← slice data position (stop - position)) "Invalid XZ index padding"
  let footer ← slice data stop 16
  if (checksum (← slice data start (stop - start))).toNat != (← numberAt data stop 4) then
    throw (.header "Invalid XZ index CRC32")
  if (checksum ((footer.drop 8).take 6)).toNat != (← numberAt data (stop + 4) 4) then
    throw (.header "Invalid XZ footer CRC32")
  if 4 * (← numberAt data (stop + 8) 4) != stop - start then throw (.header "Invalid XZ footer size")
  if (footer.drop 12).take 2 != [0, kind.toUInt8] then throw (.header "Invalid XZ footer flags")
  if footer.drop 14 != [0x59, 0x5A] then throw (.header "Invalid XZ footer magic")
  return stop + 16

/-- The header of a stream: which kind of check value its blocks have. -/
private def readStreamHeader (data : ByteArray) (start : Nat) : Except Defect Nat := do
  let header ← slice data start 12
  if header.take 6 != [0xFD, 0x37, 0x7A, 0x58, 0x5A, 0] then throw (.header "Invalid XZ header")
  match (header.drop 6).take 2 with
  | [0, kind] =>
    if 16 ≤ kind then throw (.header "Unsupported XZ stream flags")
    if (checksum [0, kind]).toNat != (← numberAt data (start + 8) 4) then
      throw (.header "Invalid XZ stream flags CRC32")
    return kind.toNat
  | _ => throw (.header "Invalid XZ stream flags")

/-- The parts of a file: streams of blocks, one after the other. -/
private def readParts (data : ByteArray) :
    (fuel : Nat) → (position : Nat) → (stream : Option (Nat × List Record)) → ByteArray →
    Option Defect × ByteArray
  | 0, _, _, out => (some .brokenOff, out)
  | fuel + 1, position, none, out =>
    if data.size ≤ position then (none, out)
    else
      match readStreamHeader data position with
      | .error defect => (some defect, out)
      | .ok kind => readParts data fuel (position + 12) (some (kind, [])) out
  | fuel + 1, position, some (kind, records), out =>
    match numberAt data position 1 with
    | .error defect => (some defect, out)
    | .ok 0 =>
      match readIndex data kind position records with
      | .error defect => (some defect, out)
      | .ok position => readParts data fuel position none out
    | .ok size =>
      match readBlock data kind position size out with
      | .error defect => (some defect, out)
      | .ok (position, record, out) =>
        readParts data fuel position (some (kind, records ++ [record])) out

/-- Decompress as much as can be. -/
def decompress (data : ByteArray) : Option Defect × ByteArray :=
  readParts data (data.size + 2) 0 none ByteArray.empty

end Provision.Archive.Xz
