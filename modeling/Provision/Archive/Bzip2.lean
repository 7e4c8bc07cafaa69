import Provision.Archive.Checksum
import Provision.Archive.PrefixCode

/-! Decompression of the bzip2 format. A block was sorted by what follows each byte, so
that equal bytes stand together; ranks of recent use and run lengths then took their
place, in prefix codes. -/

namespace Provision.Archive.Bzip2

inductive Defect where
  | noHeader
  | invalid
  | brokenOff
  deriving DecidableEq, Repr

def Defect.message : Defect → String
  | noHeader => "bzip2: bz2 header missing"
  | invalid => "bzip2: invalid data"
  | brokenOff => "decompression not finished but EOF reached"

private def require (bits : Nat) (source : BitSource) : Except Defect (Nat × BitSource) :=
  match source.number? bits with
  | some result => .ok result
  | none => .error .brokenOff

private def blockMark : Nat := 0x314159265359
private def endMark : Nat := 0x177245385090

/-- The bytes that occur in a block: sixteen ranges are chosen, then the bytes in them. -/
private def readAlphabet (source : BitSource) : Except Defect (List UInt8 × BitSource) := do
  let (ranges, source) ← require 16 source
  (List.range 16).foldlM (fun (found, source) range => do
    if ranges.testBit (15 - range) then
      let (members, source) ← require 16 source
      let bytes := (List.range 16).filter fun member => members.testBit (15 - member)
      return (found ++ bytes.map fun member => (16 * range + member).toUInt8, source)
    else return (found, source)) ([], source)

/-- A number in as many ones, below a limit. -/
private def readUnary (limit : Nat) : (fuel count : Nat) → BitSource → Except Defect (Nat × BitSource)
  | 0, _, _ => .error .invalid
  | fuel + 1, count, source => do
    let (bit, source) ← require 1 source
    if bit == 0 then return (count, source)
    else if limit ≤ count + 1 then throw .invalid
    else readUnary limit fuel (count + 1) source

/-- Move the element at an index to the front. -/
def toFront {α : Type} (index : Nat) (items : List α) : List α :=
  match items[index]? with
  | some item => item :: items.eraseIdx index
  | none => items

/-- Which code each group of symbols is in, given by ranks of recent use. -/
private def readSelectors (codes : Nat) :
    (count : Nat) → (recent : List Nat) → BitSource → Except Defect (List Nat × BitSource)
  | 0, _, source => .ok ([], source)
  | count + 1, recent, source => do
    let (rank, source) ← readUnary codes (codes + 1) 0 source
    let recent := toFront rank recent
    let (others, source) ← readSelectors codes count recent source
    return (recent.headD 0 :: others, source)

/-- A code length, given by steps from the one before it. -/
private def readLength : (fuel length : Nat) → BitSource → Except Defect (Nat × BitSource)
  | 0, _, _ => .error .brokenOff
  | fuel + 1, length, source => do
    if length < 1 || 20 < length then throw .invalid
    let (step, source) ← require 1 source
    if step == 0 then return (length, source)
    let (down, source) ← require 1 source
    readLength fuel (if down == 1 then length - 1 else length + 1) source

private def readLengths : (symbols length : Nat) → BitSource → Except Defect (List Nat × BitSource)
  | 0, _, source => .ok ([], source)
  | symbols + 1, length, source => do
    let (length, source) ← readLength (source.left + 1) length source
    let (others, source) ← readLengths symbols length source
    return (length :: others, source)

private def readCodes (symbols : Nat) :
    (count : Nat) → BitSource → Except Defect (List PrefixCode × BitSource)
  | 0, source => .ok ([], source)
  | count + 1, source => do
    let (first, source) ← require 5 source
    let (lengths, source) ← readLengths symbols first source
    let (others, source) ← readCodes symbols count source
    return (.ofLengths 20 lengths :: others, source)

/-- Symbols in one code. -/
private def groupSize : Nat := 50

/-- The symbols of a block up to the one that ends it, latest first. -/
private def readSymbols (codes : Array PrefixCode) (last : Nat) :
    (fuel inGroup : Nat) → (selectors : List Nat) → BitSource → (done : List Nat) →
    Except Defect (List Nat × BitSource)
  | 0, _, _, _, _ => .error .brokenOff
  | fuel + 1, inGroup, selectors, source, done =>
    match selectors with
    | [] => .error .invalid
    | selector :: later =>
      match codes[selector]? with
      | none => .error .invalid
      | some code =>
        match code.read source with
        | .brokenOff => .error .brokenOff
        | .unknown => .error .invalid
        | .symbol value source =>
          if value == last then .ok (done, source)
          else if inGroup + 1 == groupSize then
            readSymbols codes last fuel 0 later source (value :: done)
          else readSymbols codes last fuel (inGroup + 1) selectors source (value :: done)

/-- Undo the ranks. Symbols 0 and 1 are the digits of how often the foremost byte comes,
each weighing twice the one before; any other symbol is one more than a rank. -/
private def expand (limit : Nat) :
    (symbols : List Nat) → (recent : List UInt8) → (run weight : Nat) → ByteArray → Option ByteArray
  | [], recent, run, _, out =>
    if limit < out.size + run then none else some (pushMany (recent.headD 0) run out)
  | symbol :: symbols, recent, run, weight, out =>
    if symbol ≤ 1 then
      if limit < run then none
      else expand limit symbols recent (run + weight * (symbol + 1)) (2 * weight) out
    else if limit ≤ out.size + run then none
    else
      let out := pushMany (recent.headD 0) run out
      let recent := toFront (symbol - 1) recent
      expand limit symbols recent 0 1 (out.push (recent.headD 0))

/-- Where each byte of the last column stands in the first, sorted column. -/
private def successors (column : ByteArray) : Array Nat :=
  let bytes := column.data.toList
  let counts := bytes.foldl (fun (counts : Array Nat) byte => counts.modify byte.toNat (· + 1))
    (Array.replicate 256 0)
  let starts := (counts.foldl (fun (starts, sum) count => (starts.push sum, sum + count))
    ((#[] : Array Nat), 0)).1
  (bytes.zipIdx.foldl (fun (places, starts) (byte, index) =>
    let place := starts.getD byte.toNat 0
    (places.setIfInBounds place index, starts.modify byte.toNat (· + 1)))
    (Array.replicate column.size 0, starts)).1

private def follow (column : ByteArray) (next : Array Nat) :
    (count place : Nat) → ByteArray → ByteArray
  | 0, _, out => out
  | count + 1, place, out =>
    follow column next count (next.getD place 0) (out.push ((column[place]?).getD 0))

/-- Undo the sorting of a block whose own text begins at the row `origin`. -/
def unsort (column : ByteArray) (origin : Nat) : ByteArray :=
  let next := successors column
  follow column next column.size (next.getD origin 0) ByteArray.empty

/-- Undo the outermost shortening: after four equal bytes a number says how many more
follow. `equal` counts those seen. -/
private def unrun : List UInt8 → (last : UInt8) → (equal : Nat) → ByteArray → ByteArray
  | [], _, _, out => out
  | byte :: bytes, last, equal, out =>
    if equal == 4 then unrun bytes last 0 (pushMany last byte.toNat out)
    else unrun bytes byte (if equal != 0 && byte == last then equal + 1 else 1) (out.push byte)

/-- What a block holds, with the check value that was sent along. -/
private def readBlock (limit : Nat) (source : BitSource) :
    Except Defect (ByteArray × UInt32 × BitSource) := do
  let (check, source) ← require 32 source
  let (shuffled, source) ← require 1 source
  let (origin, source) ← require 24 source
  if shuffled == 1 || limit + 10 < origin then throw .invalid
  let (alphabet, source) ← readAlphabet source
  if alphabet.isEmpty then throw .invalid
  let (codeCount, source) ← require 3 source
  if codeCount < 2 || 6 < codeCount then throw .invalid
  let (selectorCount, source) ← require 15 source
  if selectorCount < 1 then throw .invalid
  let (selectors, source) ← readSelectors codeCount selectorCount (List.range codeCount) source
  let (codes, source) ← readCodes (alphabet.length + 2) codeCount source
  let (reversed, source) ← readSymbols codes.toArray (alphabet.length + 1) (source.left + 1) 0
    selectors source []
  match expand limit reversed.reverse alphabet 0 1 ByteArray.empty with
  | none => throw .invalid
  | some column =>
    if column.size ≤ origin then throw .invalid
    return (unrun (unsort column origin).data.toList 0 0 ByteArray.empty, check.toUInt32, source)

/-- The blocks up to the end mark, and what is wrong, if anything is. A block is passed on
before its check value is looked at. -/
private def readBlocks (limit : Nat) :
    (fuel : Nat) → (combined : UInt32) → BitSource → ByteArray → Option Defect × ByteArray
  | 0, _, _, out => (some .brokenOff, out)
  | fuel + 1, combined, source, out =>
    match require 48 source with
    | .error defect => (some defect, out)
    | .ok (mark, source) =>
      if mark == endMark then
        match require 32 source with
        | .error defect => (some defect, out)
        | .ok (check, _) => (if check.toUInt32 == combined then none else some .invalid, out)
      else if mark != blockMark then (some .invalid, out)
      else
        match readBlock limit source with
        | .error defect => (some defect, out)
        | .ok (block, check, source) =>
          let out := out ++ block
          if checksumHighFirst block.data.toList != check then (some .invalid, out)
          else
            let rotated := (combined <<< 1) ||| (combined >>> 31)
            readBlocks limit fuel (rotated ^^^ check) source out

/-- Decompress as much as can be. -/
def decompress (data : ByteArray) : Option Defect × ByteArray :=
  match ({ data, order := .highFirst } : BitSource).numbers? 8 4 with
  | some ([0x42, 0x5A, 0x68, level], source) =>
    if level < 0x31 || 0x39 < level then (some .noHeader, ByteArray.empty)
    else readBlocks (100000 * (level - 0x30)) (data.size + 1) 0 source ByteArray.empty
  | some _ => (some .noHeader, ByteArray.empty)
  | none => (some .brokenOff, ByteArray.empty)

end Provision.Archive.Bzip2
