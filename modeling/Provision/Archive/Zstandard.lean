import Provision.Archive.Checksum
import Provision.Archive.Zstandard.Sequences

/-! Decompression of the Zstandard format: frames of blocks, which may be followed by
other frames. -/

namespace Provision.Archive.Zstandard

private def frameMark : Nat := 0xFD2FB528

/-- The first of sixteen marks of frames that are to be passed over. -/
private def skippableMark : Nat := 0x184D2A50

/-- No window may be larger. -/
private def maxWindow : Nat := 1 <<< 27

structure Header where
  window : Nat
  contents : Option Nat
  isChecked : Bool
  /-- Where the first block begins. -/
  next : Nat
  deriving Repr

private def field (data : ByteArray) (position width : Nat) : Except Defect Nat :=
  match word? data position width with
  | some value => .ok value
  | none => .error .brokenOff

/-- What stands behind the mark of a frame. -/
private def readHeader (data : ByteArray) (start : Nat) : Except Defect Header := do
  let flags ← field data start 1
  let isSingle := flags.testBit 5
  let windowSize := if isSingle then 0 else 1
  let dictionarySize := #[0, 1, 2, 4].getD (flags % 4) 0
  let contentsSize :=
    if flags / 64 == 0 then if isSingle then 1 else 0 else 1 <<< (flags / 64)
  let position := start + 1
  let next := position + windowSize + dictionarySize + contentsSize
  if data.size < next then throw .brokenOff
  if flags.testBit 3 then throw .unsupported
  let windowByte ← field data position windowSize
  let dictionary ← field data (position + windowSize) dictionarySize
  let contents ← field data (position + windowSize + dictionarySize) contentsSize
  let contents := if contentsSize == 2 then contents + 256 else contents
  let base := 1 <<< (10 + windowByte / 8)
  let window := if isSingle then contents else base + base / 8 * (windowByte % 8)
  if maxWindow < window then throw .tooMuchMemory
  if dictionary != 0 then throw .dictionary
  return ⟨window, if contentsSize == 0 then none else some contents, flags.testBit 2, next⟩

/-- The blocks of a frame: what is wrong or the position behind them, and all that has been
written. -/
private def readBlocks (data : ByteArray) (header : Header) (base : Nat) :
    (fuel : Nat) → (position : Nat) → Context → ByteArray → Except Defect Nat × ByteArray
  | 0, _, _, out => (.error .brokenOff, out)
  | fuel + 1, position, context, out =>
    match word? data position 3 with
    | none => (.error .brokenOff, out)
    | some block =>
      let isLast := block % 2 == 1
      let kind := block / 2 % 4
      let size := block / 8
      let start := position + 3
      let used := if kind == 1 then 1 else size
      if kind == 3 || min header.window maxBlock < size then (.error .corrupt, out)
      else if data.size < start + used then (.error .brokenOff, out)
      else
        let result : Except Defect (Context × ByteArray) :=
          if kind == 0 then .ok (context, out ++ data.extract start (start + size))
          else if kind == 1 then .ok (context, pushMany ((data[start]?).getD 0) size out)
          else readBlock data start (start + size) base context out
        match result with
        | .error defect => (.error defect, out)
        | .ok (context, out) =>
          if isLast then (.ok (start + used), out)
          else readBlocks data header base fuel (start + used) context out

/-- What a frame says about its contents has to be so. -/
private def verify (data : ByteArray) (header : Header) (position : Nat) (contents : ByteArray) :
    Except Defect Nat := do
  if header.contents.any (· != contents.size) then throw .corrupt
  if !header.isChecked then return position
  let sum ← field data position 4
  if (digest contents).toNat % 0x100000000 != sum then throw .checksum
  return position + 4

private def readFrames (data : ByteArray) :
    (fuel : Nat) → (position : Nat) → ByteArray → Option Defect × ByteArray
  | 0, _, out => (some .brokenOff, out)
  | fuel + 1, position, out =>
    match word? data position 4 with
    | none => (some .brokenOff, out)
    | some mark =>
      if mark == frameMark then
        match readHeader data (position + 4) with
        | .error defect => (some defect, out)
        | .ok header =>
          let base := out.size
          match readBlocks data header base data.size header.next {} out with
          | (.error defect, out) => (some defect, out)
          | (.ok position, out) =>
            match verify data header position (out.extract base out.size) with
            | .error defect => (some defect, out)
            | .ok position =>
              if data.size ≤ position then (none, out) else readFrames data fuel position out
      else if mark / 16 == skippableMark / 16 then
        match word? data (position + 4) 4 with
        | none => (some .brokenOff, out)
        | some size =>
          let next := position + 8 + size
          if data.size < next then (some .brokenOff, out)
          else if data.size == next then (none, out)
          else readFrames data fuel next out
      else (some .unknownFrame, out)

/-- Decompress as much as can be. -/
def decompress (data : ByteArray) : Option Defect × ByteArray :=
  readFrames data (data.size + 1) 0 ByteArray.empty

end Provision.Archive.Zstandard
