import Provision.Archive.Bits

/-! A range coder: every bit narrows a range of numbers in proportion to how likely it
was, and each model learns from the bits it has seen. -/

namespace Provision.Archive.Lzma

inductive Defect where
  | brokenOff
  /-- The data end where this should stand. -/
  | expected (what : String)
  | unknownStatus (status : Nat)
  | unknownProperties (properties : Nat)
  | manyContexts (context position : Nat)
  | farReference (distance size : Nat)
  | farWindow (distance size : Nat)
  | farLiteral (distance size : Nat)
  | tooShort
  | afterEnd
  | wrongSize (wanted found : Nat)
  deriving DecidableEq, Repr

private def short : String := "failed to fill whole buffer"

private def Defect.detail : Defect → String
  | brokenOff => short
  | expected what => "LZMA2 expected " ++ what ++ ": " ++ short
  | unknownStatus status =>
    "LZMA2 invalid status " ++ toString status ++ ", must be 0, 1, 2 or >= 128"
  | unknownProperties properties =>
    "LZMA2 invalid properties: " ++ toString properties ++ " must be < 225"
  | manyContexts context position =>
    "LZMA2 invalid properties: lc + lp (" ++ toString context ++ " + " ++ toString position ++
      ") must be <= 4"
  | farReference distance size =>
    "LZ distance " ++ toString distance ++ " is beyond output size " ++ toString size
  | farWindow distance size =>
    "LZ distance " ++ toString distance ++ " is beyond dictionary size " ++ toString size
  | farLiteral distance size =>
    "Match distance " ++ toString distance ++ " is beyond output size " ++ toString size
  | tooShort => "LZMA stream too short: " ++ short
  | afterEnd => "Found end-of-stream marker but more bytes are available"
  | wrongSize wanted found =>
    "Expected unpacked size of " ++ toString wanted ++ " but decompressed to " ++ toString found

def Defect.message : Defect → String
  | brokenOff =>
    "IoError(Error \x7b kind: UnexpectedEof, message: \"" ++ short ++ "\" \x7d)"
  | defect => "LzmaError(\"" ++ defect.detail ++ "\")"

/-- The coder between two bits, with what has been decoded so far. -/
structure Coder where
  data : ByteArray
  position : Nat
  /-- Where the bytes of the coder end. -/
  stop : Nat
  range : UInt32 := 0xFFFFFFFF
  code : UInt32 := 0
  /-- How likely a zero is according to each model, of 2048. -/
  models : Array UInt32 := #[]
  out : ByteArray := ByteArray.empty
  /-- Where in the output the window begins. -/
  base : Nat := 0

abbrev Reader := StateT Coder (Except Defect)

namespace Coder

/-- Bytes in the window. -/
def size (coder : Coder) : Nat := coder.out.size - coder.base

/-- Take in a byte when the range has become small. -/
private def normalize (coder : Coder) : Except Defect Coder :=
  if coder.range < 0x1000000 then
    if coder.position < coder.stop then
      match coder.data[coder.position]? with
      | some byte =>
        .ok { coder with
          position := coder.position + 1
          range := coder.range <<< (8 : UInt32)
          code := (coder.code <<< (8 : UInt32)) ^^^ byte.toUInt32 }
      | none => .error .brokenOff
    else .error .brokenOff
  else .ok coder

/-- A bit under a model. -/
def bit (model : Nat) : Reader Nat := fun coder =>
  let chance := coder.models.getD model 1024
  let bound := (coder.range >>> (11 : UInt32)) * chance
  if coder.code < bound then
    (Coder.normalize { coder with
      range := bound
      models := coder.models.setIfInBounds model (chance + ((2048 - chance) >>> (5 : UInt32))) }).map
      fun coder => (0, coder)
  else
    (Coder.normalize { coder with
      range := coder.range - bound
      code := coder.code - bound
      models := coder.models.setIfInBounds model (chance - (chance >>> (5 : UInt32))) }).map
      fun coder => (1, coder)

/-- A bit that is as likely zero as one. -/
private def evenBit : Reader Nat := fun coder =>
  let half := coder.range >>> (1 : UInt32)
  if coder.code < half then (Coder.normalize { coder with range := half }).map fun coder => (0, coder)
  else
    (Coder.normalize { coder with range := half, code := coder.code - half }).map
      fun coder => (1, coder)

/-- A number of evenly likely bits, high bit first. -/
def evenBits : (bits : Nat) → (high : Nat) → Reader Nat
  | 0, high => pure high
  | bits + 1, high => do evenBits bits (2 * high + (← evenBit))

/-- Bits under the models of a tree, high bit first, behind those already known. -/
def treeFrom (base : Nat) : (bits : Nat) → (node : Nat) → Reader Nat
  | 0, node => pure node
  | bits + 1, node => do treeFrom base bits (2 * node + (← bit (base + node)))

/-- A number of so many bits under the models of a tree. -/
def tree (base bits : Nat) : Reader Nat := do return (← treeFrom base bits 1) - (1 <<< bits)

/-- A number under the models of a tree, low bit first. -/
def treeLowFirst (base : Nat) : (bits : Nat) → (node weight : Nat) → Reader Nat
  | 0, _, _ => pure 0
  | bits + 1, node, weight => do
    let low ← bit (base + node)
    return low * weight + (← treeLowFirst base bits (2 * node + low) (2 * weight))

/-- Begin a range: a byte without meaning and the first four bytes of the code. -/
def start (coder : Coder) : Option Coder :=
  if coder.stop < coder.position + 5 || coder.data.size < coder.position + 5 then none
  else
    let byteAt := fun place => ((coder.data[coder.position + place]?).getD 0).toUInt32
    some { coder with
      position := coder.position + 5
      range := 0xFFFFFFFF
      code := ((byteAt 1 * 256 + byteAt 2) * 256 + byteAt 3) * 256 + byteAt 4 }

/-- Nothing is left to be decoded. -/
def isFinished (coder : Coder) : Bool := coder.code == 0 && coder.stop ≤ coder.position

/-- The byte at a distance back in the window. -/
def byteBack (distance : Nat) : Reader UInt8 := fun coder =>
  .ok (if coder.size < distance then 0 else (coder.out[coder.out.size - distance]?).getD 0, coder)

def emit (byte : UInt8) : Reader Unit := fun coder =>
  .ok ((), { coder with out := coder.out.push byte })

/-- Repeat bytes from a distance back, which must lie in the window. -/
def emitBack (window : Option Nat) (distance count : Nat) : Reader Unit := fun coder =>
  if window.any (· < distance) then .error (.farWindow distance (window.getD 0))
  else if coder.size < distance then .error (.farReference distance coder.size)
  else .ok ((), { coder with out := repeatBack distance count coder.out })

end Coder

end Provision.Archive.Lzma
