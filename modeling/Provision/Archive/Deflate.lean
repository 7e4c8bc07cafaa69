import Provision.Archive.PrefixCode

/-! Decompression of the deflate format: blocks of literal bytes and of references to
what came before, in fixed or transmitted prefix codes. A wider form of the format
reaches back farther and knows longer repetitions. -/

namespace Provision.Archive

/-- How decompression ended. -/
inductive Ending where
  | complete
  | brokenOff
  | corrupt
  deriving DecidableEq, Repr

namespace Deflate

/-- Base value and number of extra bits of the length symbols from 257 on, up to the
last. -/
private def shortLengths : Array (Nat × Nat) := #[
  (3, 0), (4, 0), (5, 0), (6, 0), (7, 0), (8, 0), (9, 0), (10, 0), (11, 1), (13, 1), (15, 1),
  (17, 1), (19, 2), (23, 2), (27, 2), (31, 2), (35, 3), (43, 3), (51, 3), (59, 3), (67, 4),
  (83, 4), (99, 4), (115, 4), (131, 5), (163, 5), (195, 5), (227, 5)]

/-- Base value and number of extra bits of the distance symbols. -/
private def nearDistances : Array (Nat × Nat) := #[
  (1, 0), (2, 0), (3, 0), (4, 0), (5, 1), (7, 1), (9, 2), (13, 2), (17, 3), (25, 3), (33, 4),
  (49, 4), (65, 5), (97, 5), (129, 6), (193, 6), (257, 7), (385, 7), (513, 8), (769, 8),
  (1025, 9), (1537, 9), (2049, 10), (3073, 10), (4097, 11), (6145, 11), (8193, 12), (12289, 12),
  (16385, 13), (24577, 13)]

/-- What the symbols of a form of the format stand for. -/
structure Form where
  lengths : Array (Nat × Nat)
  distances : Array (Nat × Nat)

/-- The common form: lengths up to 258 and distances up to 32768. -/
def plain : Form := ⟨shortLengths.push (258, 0), nearDistances⟩

/-- The wide form: lengths up to 65538 and distances up to 98304. -/
def wide : Form := ⟨shortLengths.push (3, 16), (nearDistances.push (49153, 14)).push (65537, 14)⟩

/-- The longest code has fifteen bits. -/
private def longest : Nat := 15

private def fixedLiterals : PrefixCode :=
  .ofLengths longest (List.replicate 144 8 ++ List.replicate 112 9 ++ List.replicate 24 7 ++
    List.replicate 8 8)

private def fixedDistances : PrefixCode := .ofLengths longest (List.replicate 32 5)

/-- How a part of the stream ended: more is to follow, or decompression is over. -/
private inductive Part where
  | more (source : BitSource)
  | ended (ending : Ending)

/-- A base value plus the number in its extra bits. -/
private def extended (table : Array (Nat × Nat)) (index : Nat) (source : BitSource) :
    Except Ending (Nat × BitSource) :=
  match table[index]? with
  | none => .error .corrupt
  | some (base, extra) =>
    match source.number? extra with
    | none => .error .brokenOff
    | some (more, source) => .ok (base + more, source)

/-- The symbols of a block up to its end. Every symbol takes at least one bit, so the bits
that are left bound their number. -/
private def readSymbols (form : Form) (literals distances : PrefixCode) :
    (fuel : Nat) → BitSource → ByteArray → Part × ByteArray
  | 0, _, out => (.ended .brokenOff, out)
  | fuel + 1, source, out =>
    match literals.read source with
    | .brokenOff => (.ended .brokenOff, out)
    | .unknown => (.ended .corrupt, out)
    | .symbol value source =>
      if value < 256 then readSymbols form literals distances fuel source (out.push value.toUInt8)
      else if value == 256 then (.more source, out)
      else
        match extended form.lengths (value - 257) source with
        | .error ending => (.ended ending, out)
        | .ok (count, source) =>
          match distances.read source with
          | .brokenOff => (.ended .brokenOff, out)
          | .unknown => (.ended .corrupt, out)
          | .symbol place source =>
            match extended form.distances place source with
            | .error ending => (.ended ending, out)
            | .ok (distance, source) =>
              readSymbols form literals distances fuel source (repeatBack distance count out)

/-- The order in which the lengths of the code for code lengths are sent. -/
private def lengthOrder : List Nat :=
  [16, 17, 18, 0, 8, 7, 9, 6, 10, 5, 11, 4, 12, 3, 13, 2, 14, 1, 15]

/-- Code lengths, latest first, until there are `wanted`. Three of the symbols stand for
repetitions. -/
private def readLengths (code : PrefixCode) (wanted : Nat) :
    (fuel : Nat) → BitSource → List Nat → Except Ending (List Nat × BitSource)
  | 0, _, _ => .error .brokenOff
  | fuel + 1, source, done =>
    if done.length == wanted then .ok (done, source)
    else if wanted < done.length then .error .corrupt
    else
      match code.read source with
      | .brokenOff => .error .brokenOff
      | .unknown => .error .corrupt
      | .symbol value source =>
        if value < 16 then readLengths code wanted fuel source (value :: done)
        else
          let (bits, least, repeated) :=
            if value == 16 then (2, 3, done.head?)
            else if value == 17 then (3, 3, some 0)
            else (7, 11, some 0)
          match repeated, source.number? bits with
          | none, _ => .error .corrupt
          | _, none => .error .brokenOff
          | some length, some (more, source) =>
            readLengths code wanted fuel source (List.replicate (least + more) length ++ done)

/-- The most codes for bytes and lengths that a block may bring along. -/
private def maxLiterals : Nat := 286

/-- The two codes that a block brings along. -/
private def readCodes (form : Form) (source : BitSource) :
    Except Ending (PrefixCode × PrefixCode × BitSource) := do
  let some (literalCount, source) := source.number? 5 | throw .brokenOff
  let some (distanceCount, source) := source.number? 5 | throw .brokenOff
  let some (lengthCount, source) := source.number? 4 | throw .brokenOff
  let literalCount := literalCount + 257
  let distanceCount := distanceCount + 1
  if maxLiterals < literalCount || form.distances.size < distanceCount then throw .corrupt
  let some (sent, source) := source.numbers? 3 (lengthCount + 4) | throw .brokenOff
  let lengths := (List.range 19).map fun symbol =>
    ((lengthOrder.zip sent).find? fun entry => entry.1 == symbol).elim 0 Prod.snd
  let code := PrefixCode.ofLengths longest lengths
  if !code.isComplete then throw .corrupt
  let (reversed, source) ←
    readLengths code (literalCount + distanceCount) (source.left + 1) source []
  let all := reversed.reverse
  let literals := PrefixCode.ofLengths longest (all.take literalCount)
  let distances := PrefixCode.ofLengths longest (all.drop literalCount)
  if !literals.isUsable || !distances.isUsable then throw .corrupt
  return (literals, distances, source)

/-- A block of bytes as they are, after their number and its complement. -/
private def readStored (source : BitSource) (out : ByteArray) : Part × ByteArray :=
  match source.align.numbers? 16 2 with
  | some ([count, check], source) =>
    if count + check != 65535 then (.ended .corrupt, out)
    else
      let start := source.position / 8
      let out := out ++ source.data.extract start (start + count)
      if source.data.size < start + count then (.ended .brokenOff, out)
      else (.more { source with position := source.position + 8 * count }, out)
  | _ => (.ended .brokenOff, out)

private def readBlock (form : Form) (kind : Nat) (source : BitSource) (out : ByteArray) :
    Part × ByteArray :=
  match kind with
  | 0 => readStored source out
  | 1 => readSymbols form fixedLiterals fixedDistances (source.left + 1) source out
  | 2 =>
    match readCodes form source with
    | .error ending => (.ended ending, out)
    | .ok (literals, distances, source) =>
      readSymbols form literals distances (source.left + 1) source out
  | _ => (.ended .corrupt, out)

private def readBlocks (form : Form) : (fuel : Nat) → BitSource → ByteArray → Ending × ByteArray
  | 0, _, out => (.brokenOff, out)
  | fuel + 1, source, out =>
    match source.numbers? 1 1 with
    | some ([last], afterLast) =>
      match afterLast.number? 2 with
      | none => (.brokenOff, out)
      | some (kind, source) =>
        match readBlock form kind source out with
        | (.ended ending, out) => (ending, out)
        | (.more source, out) =>
          if last == 1 then (.complete, out) else readBlocks form fuel source out
    | _ => (.brokenOff, out)

/-- Decompress as much as can be. -/
def decompress (form : Form) (data : ByteArray) : Ending × ByteArray :=
  readBlocks form (8 * data.size + 1) { data } ByteArray.empty

end Deflate

end Provision.Archive
