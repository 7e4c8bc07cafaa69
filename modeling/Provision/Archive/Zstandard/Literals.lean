import Provision.Archive.Zstandard.Entropy

/-! The literal bytes of a block: as they are, one of them repeated, or in a prefix code
that is sent along or was before. -/

namespace Provision.Archive.Zstandard

/-- A prefix code as a table: the bits that follow, as many as the longest code has, lead
to a symbol and the length of its code. -/
structure Huffman where
  longest : Nat
  entries : Array (Nat × Nat)
  deriving Inhabited

namespace Huffman

/-- The code in which a symbol of weight w has a code of `longest + 1 - w` bits, one of
weight zero none. Long codes come first. -/
def ofWeights (longest : Nat) (weights : List Nat) : Huffman where
  longest
  entries := ((List.range longest).flatMap fun index =>
    (weights.zipIdx.filter fun entry => entry.1 == index + 1).flatMap fun entry =>
      List.replicate (1 <<< index) (entry.2, longest - index)).toArray

/-- No code is longer. -/
private def maxBits : Nat := 11

/-- The weight of the last symbol is what is missing to a power of two. -/
private def complete (weights : List Nat) : Except Defect Huffman := do
  let sum := (weights.map fun weight => if weight == 0 then 0 else 1 <<< (weight - 1)).foldl (· + ·) 0
  if sum == 0 then throw .corrupt
  let longest := Nat.log2 sum + 1
  if maxBits < longest then throw .corrupt
  let rest := (1 <<< longest) - sum
  if 1 <<< Nat.log2 rest != rest then throw .corrupt
  return ofWeights longest (weights ++ [Nat.log2 rest + 1])

/-- Weights from two machines that take turns, until the bits are used up. -/
private def readWeights (machine : Machine) :
    (fuel : Nat) → (now later : State) → Backwards → List Nat → Option (List Nat)
  | 0, _, _, _, _ => none
  | fuel + 1, now, later, bits, done =>
    let (following, bits) := machine.next now bits
    if bits.left < 0 then some (later.symbol :: now.symbol :: done)
    else readWeights machine fuel later following bits (now.symbol :: done)

/-- The code that stands at a position, and the position behind it. -/
def read (data : ByteArray) (start stop : Nat) : Except Defect (Huffman × Nat) := do
  let some header := word? data start 1 | throw .corrupt
  let next := if header < 128 then start + 1 + header else start + 1 + (header - 127 + 1) / 2
  if stop < next then throw .corrupt
  if header < 128 then
    let (machine, position) ← readMachine data (start + 1) next 6 256
    let some bits := Backwards.ofPiece? data position (next - position) | throw .corrupt
    let (now, bits) := machine.begin_ bits
    let (later, bits) := machine.begin_ bits
    if bits.left < 0 then throw .corrupt
    let some reversed := readWeights machine 255 now later bits [] | throw .corrupt
    if 255 < reversed.length || reversed.any (maxBits < ·) then throw .corrupt
    return (← complete reversed.reverse, next)
  else
    let count := header - 127
    let weights := (List.range count).map fun index =>
      let byte := (word? data (start + 1 + index / 2) 1).getD 0
      if index % 2 == 0 then byte / 16 else byte % 16
    if weights.any (maxBits < ·) then throw .corrupt
    return (← complete weights, next)

private def decodeFrom (code : Huffman) : (count : Nat) → Backwards → ByteArray → Backwards × ByteArray
  | 0, bits, out => (bits, out)
  | count + 1, bits, out =>
    let (symbol, length) := code.entries.getD (bits.peek code.longest) (0, 1)
    decodeFrom code count (bits.skip length) (out.push symbol.toUInt8)

/-- So many symbols, which must use up the bits. -/
def decode (code : Huffman) (data : ByteArray) (start size count : Nat) (out : ByteArray) :
    Except Defect ByteArray :=
  match Backwards.ofPiece? data start size with
  | none => .error .corrupt
  | some bits =>
    let (bits, out) := decodeFrom code count bits out
    if bits.left == 0 then .ok out else .error .corrupt

end Huffman

/-- The most bytes a block stands for. -/
def maxBlock : Nat := 131072

/-- Four streams, each but the last for a quarter of the bytes, after the sizes of the
first three. -/
private def readFour (code : Huffman) (data : ByteArray) (start stop count : Nat) :
    Except Defect ByteArray := do
  let some first := word? data start 2 | throw .corrupt
  let some second := word? data (start + 2) 2 | throw .corrupt
  let some third := word? data (start + 4) 2 | throw .corrupt
  let begin_ := start + 6
  let quarter := (count + 3) / 4
  if stop < begin_ + first + second + third || count < 3 * quarter then throw .corrupt
  let out ← code.decode data begin_ first quarter ByteArray.empty
  let out ← code.decode data (begin_ + first) second quarter out
  let out ← code.decode data (begin_ + first + second) third quarter out
  let last := begin_ + first + second + third
  code.decode data last (stop - last) (count - 3 * quarter) out

/-- The literals of the block from `start` to `stop`: the bytes, the code that is known
from now on, and the position behind them. -/
def readLiterals (data : ByteArray) (start stop : Nat) (known : Option Huffman) :
    Except Defect (ByteArray × Option Huffman × Nat) := do
  let some first := word? data start 1 | throw .corrupt
  let kind := first % 4
  let format := first / 4 % 4
  if kind < 2 then
    let (bytes, shift) := if format == 1 then (2, 4) else if format == 3 then (3, 4) else (1, 3)
    let some header := word? data start bytes | throw .corrupt
    let size := header >>> shift
    let position := start + bytes
    let used := if kind == 0 then size else 1
    if maxBlock < size || stop < position + used then throw .corrupt
    let literals :=
      if kind == 0 then data.extract position (position + size)
      else pushMany ((data[position]?).getD 0) size ByteArray.empty
    return (literals, known, position + used)
  else
    let (bytes, width) := if format ≤ 1 then (3, 10) else if format == 2 then (4, 14) else (5, 18)
    let some header := word? data start bytes | throw .corrupt
    let size := (header >>> 4) % (1 <<< width)
    let packed := (header >>> (4 + width)) % (1 <<< width)
    let position := start + bytes
    let next := position + packed
    if maxBlock < size || stop < next then throw .corrupt
    let (code, position) ←
      if kind == 2 then Huffman.read data position next
      else
        match known with
        | some code => pure (code, position)
        | none => throw .corrupt
    let literals ←
      if format == 0 then code.decode data position (next - position) size ByteArray.empty
      else readFour code data position next size
    return (literals, some code, next)

end Provision.Archive.Zstandard
