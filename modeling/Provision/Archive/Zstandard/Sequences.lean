import Provision.Archive.Zstandard.Literals

/-! A compressed block: literals, and for each of its sequences how many of them to take
and what to repeat after them. -/

namespace Provision.Archive.Zstandard

/-- Base value and number of extra bits of the symbols for numbers of literals. -/
private def literalLengths : Array (Nat × Nat) :=
  ((List.range 16).map fun length => (length, 0)).toArray ++ #[
    (16, 1), (18, 1), (20, 1), (22, 1), (24, 2), (28, 2), (32, 3), (40, 3), (48, 4), (64, 6),
    (128, 7), (256, 8), (512, 9), (1024, 10), (2048, 11), (4096, 12), (8192, 13), (16384, 14),
    (32768, 15), (65536, 16)]

/-- Base value and number of extra bits of the symbols for lengths of repetitions. -/
private def matchLengths : Array (Nat × Nat) :=
  ((List.range 32).map fun length => (length + 3, 0)).toArray ++ #[
    (35, 1), (37, 1), (39, 1), (41, 1), (43, 2), (47, 2), (51, 3), (59, 3), (67, 4), (83, 4),
    (99, 5), (131, 7), (259, 8), (515, 9), (1027, 10), (2051, 11), (4099, 12), (8195, 13),
    (16387, 14), (32771, 15), (65539, 16)]

private def usualLiteralLengths : Machine :=
  .ofShares 6 [4, 3, 2, 2, 2, 2, 2, 2, 2, 2, 2, 2, 2, 1, 1, 1, 2, 2, 2, 2, 2, 2, 2, 2, 2, 3, 2, 1,
    1, 1, 1, 1, -1, -1, -1, -1]

private def usualMatchLengths : Machine :=
  .ofShares 6 [1, 4, 3, 2, 2, 2, 2, 2, 2, 1, 1, 1, 1, 1, 1, 1, 1, 1, 1, 1, 1, 1, 1, 1, 1, 1, 1, 1,
    1, 1, 1, 1, 1, 1, 1, 1, 1, 1, 1, 1, 1, 1, 1, 1, 1, 1, -1, -1, -1, -1, -1, -1, -1]

private def usualOffsets : Machine :=
  .ofShares 5 [1, 1, 1, 1, 1, 1, 2, 2, 2, 1, 1, 1, 1, 1, 1, 1, 1, 1, 1, 1, 1, 1, 1, 1, -1, -1, -1,
    -1, -1]

/-- What one block leaves to the next. -/
structure Context where
  huffman : Option Huffman := none
  literalLengths : Option Machine := none
  offsets : Option Machine := none
  matchLengths : Option Machine := none
  /-- The three distances last used. -/
  recent : Nat × Nat × Nat := (1, 4, 8)

/-- The machine that a mode chooses, and the position behind it. -/
private def chooseMachine (mode : Nat) (usual : Machine) (known : Option Machine)
    (mostAccuracy mostSymbols : Nat) (data : ByteArray) (start stop : Nat) :
    Except Defect (Machine × Nat) :=
  match mode with
  | 0 => .ok (usual, start)
  | 1 =>
    match data[start]? with
    | some symbol =>
      if stop ≤ start || mostSymbols ≤ symbol.toNat then .error .corrupt
      else .ok (.single symbol.toNat, start + 1)
    | none => .error .corrupt
  | 2 => readMachine data start stop mostAccuracy mostSymbols
  | _ =>
    match known with
    | some machine => .ok (machine, start)
    | none => .error .corrupt

/-- Offsets up to three stand for the distances last used, shifted by one where no
literals come before. -/
def resolveOffset (value literals : Nat) (recent : Nat × Nat × Nat) :
    Nat × (Nat × Nat × Nat) :=
  let (a, b, c) := recent
  if 3 < value then (value - 3, (value - 3, a, b))
  else
    match value + (if literals == 0 then 1 else 0) with
    | 1 => (a, recent)
    | 2 => (b, (b, a, c))
    | 3 => (c, (c, a, b))
    | _ => (a - 1, (a - 1, a, b))

private structure States where
  literals : State
  offset : State
  match_ : State

/-- Sequence after sequence: the bits that are left, what has been written, the literals
taken and the distances last used. -/
private def runSequences (literalMachine offsetMachine matchMachine : Machine)
    (literals : ByteArray) (base : Nat) :
    (count : Nat) → States → Backwards → (taken : Nat) → (recent : Nat × Nat × Nat) →
    ByteArray → Except Defect (ByteArray × Nat × (Nat × Nat × Nat))
  | 0, _, bits, taken, recent, out =>
    if bits.left == 0 then .ok (out, taken, recent) else .error .corrupt
  | count + 1, states, bits, taken, recent, out =>
    let (low, bits) := bits.take states.offset.symbol
    let value := (1 <<< states.offset.symbol) + low
    let (matchBase, matchBits) := matchLengths.getD states.match_.symbol (0, 0)
    let (low, bits) := bits.take matchBits
    let matchLength := matchBase + low
    let (literalBase, literalBits) := literalLengths.getD states.literals.symbol (0, 0)
    let (low, bits) := bits.take literalBits
    let literalLength := literalBase + low
    let (distance, recent) := resolveOffset value literalLength recent
    if bits.left < 0 || literals.size < taken + literalLength then .error .corrupt
    else
      let out := out ++ literals.extract taken (taken + literalLength)
      if distance == 0 || out.size - base < distance then .error .corrupt
      else
        let out := repeatBack distance matchLength out
        let (states, bits) :=
          if count == 0 then (states, bits)
          else
            let (literalState, bits) := literalMachine.next states.literals bits
            let (matchState, bits) := matchMachine.next states.match_ bits
            let (offsetState, bits) := offsetMachine.next states.offset bits
            (⟨literalState, offsetState, matchState⟩, bits)
        runSequences literalMachine offsetMachine matchMachine literals base count states bits
          (taken + literalLength) recent out

/-- The number of sequences, and the position behind it. -/
private def readCount (data : ByteArray) (start : Nat) : Option (Nat × Nat) := do
  let first ← word? data start 1
  if first < 128 then return (first, start + 1)
  else if first < 255 then return ((first - 128) * 256 + (← word? data (start + 1) 1), start + 2)
  else return ((← word? data (start + 1) 2) + 0x7F00, start + 3)

/-- A compressed block from `start` to `stop`. What was written before `base` belongs to
another frame. -/
def readBlock (data : ByteArray) (start stop base : Nat) (context : Context) (out : ByteArray) :
    Except Defect (Context × ByteArray) := do
  let (literals, huffman, position) ← readLiterals data start stop context.huffman
  let some (count, position) := readCount data position | throw .corrupt
  if stop < position then throw .corrupt
  if count == 0 then
    if position != stop then throw .corrupt
    return ({ context with huffman }, out ++ literals)
  let some modes := word? data position 1 | throw .corrupt
  if stop ≤ position || modes % 4 != 0 then throw .corrupt
  let (literalMachine, position) ← chooseMachine (modes / 64) usualLiteralLengths
    context.literalLengths 9 36 data (position + 1) stop
  let (offsetMachine, position) ← chooseMachine (modes / 16 % 4) usualOffsets
    context.offsets 8 32 data position stop
  let (matchMachine, position) ← chooseMachine (modes / 4 % 4) usualMatchLengths
    context.matchLengths 9 53 data position stop
  if stop < position then throw .corrupt
  let some bits := Backwards.ofPiece? data position (stop - position) | throw .corrupt
  let (literalState, bits) := literalMachine.begin_ bits
  let (offsetState, bits) := offsetMachine.begin_ bits
  let (matchState, bits) := matchMachine.begin_ bits
  let (out, taken, recent) ← runSequences literalMachine offsetMachine matchMachine literals base
    count ⟨literalState, offsetState, matchState⟩ bits 0 context.recent out
  return (⟨huffman, some literalMachine, some offsetMachine, some matchMachine, recent⟩,
    out ++ literals.extract taken literals.size)

end Provision.Archive.Zstandard
