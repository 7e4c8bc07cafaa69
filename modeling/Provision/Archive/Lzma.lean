import Provision.Archive.Lzma.Coder

/-! Decompression of a stream of literal bytes and of references to what came before,
every decision being a bit under a model. -/

namespace Provision.Archive.Lzma

/-- How many bits of the byte before, and of the position, choose among the models. -/
structure Properties where
  literalContext : Nat := 0
  literalPosition : Nat := 0
  position : Nat := 0
  deriving DecidableEq, Repr

/-- The three numbers are packed into one. -/
def Properties.ofNumber (number : Nat) : Properties :=
  ⟨number % 9, number / 9 % 5, number / 45⟩

/-- What the next decision depends on besides the models: what the last decisions were and
the four distances last used. -/
structure Memory where
  state : Nat := 0
  distances : List Nat := [1, 1, 1, 1]
  deriving DecidableEq, Repr

namespace Model

/-! Where the models for each kind of decision begin. -/

def isMatch : Nat := 0
def isRepeat : Nat := 192
def isOlder : Nat := 204
def isLong : Nat := 240
def slot : Nat := 432
def align : Nat := 688
def distance : Nat := 704
def length : Nat := 819
def repeatLength : Nat := 1333
def literal : Nat := 1847

/-- A model for each decision, all of them undecided. -/
def all (properties : Properties) : Array UInt32 :=
  Array.replicate (literal + (0x300 <<< (properties.literalContext + properties.literalPosition))) 1024

end Model

/-- The rest of a literal byte whose first bits are those of the byte that a reference
would give, as long as they agree with it. -/
private def matchedFrom (base : Nat) : (bits : Nat) → (expected node : Nat) → Lzma.Reader Nat
  | 0, _, node => pure node
  | bits + 1, expected, node => do
    let likely := (expected >>> bits) % 2
    let bit ← Coder.bit (base + 256 * (1 + likely) + node)
    if bit == likely then matchedFrom base bits expected (2 * node + bit)
    else Coder.treeFrom base bits (2 * node + bit)

private def readLiteral (properties : Properties) (memory : Memory) : Reader Unit := fun coder =>
  let size := coder.size
  let last := if size == 0 then 0 else ((coder.out[coder.out.size - 1]?).getD 0).toNat
  let context := ((size % (1 <<< properties.literalPosition)) <<< properties.literalContext) +
    (last >>> (8 - properties.literalContext))
  let base := Model.literal + 0x300 * context
  let distance := memory.distances.headD 1
  if 7 ≤ memory.state && size < distance then .error (.farLiteral distance size)
  else
    (do
      let node ←
        if 7 ≤ memory.state then do
          matchedFrom base 8 (← Coder.byteBack distance).toNat 1
        else Coder.treeFrom base 8 1
      Coder.emit (node - 256).toUInt8 : Reader Unit) coder

/-- How long a repetition is, less two. -/
private def readLength (base place : Nat) : Reader Nat := do
  if (← Coder.bit base) == 0 then Coder.tree (base + 2 + 8 * place) 3
  else if (← Coder.bit (base + 1)) == 0 then return 8 + (← Coder.tree (base + 130 + 8 * place) 3)
  else return 16 + (← Coder.tree (base + 258) 8)

/-- How far back a new reference goes, less one. -/
private def readDistance (length : Nat) : Reader Nat := do
  let slot ← Coder.tree (Model.slot + 64 * min length 3) 6
  if slot < 4 then return slot
  let bits := slot / 2 - 1
  let high := (2 + slot % 2) <<< bits
  if slot < 14 then
    return high + (← Coder.treeLowFirst (Model.distance + high - slot) bits 1 1)
  else
    let middle ← Coder.evenBits (bits - 4) 0
    return high + 16 * middle + (← Coder.treeLowFirst Model.align 4 1 1)

/-- Which of the four distances last used comes again. -/
private def readOlder (state : Nat) : Reader Nat := do
  if (← Coder.bit (Model.isOlder + 12 + state)) == 0 then return 1
  else if (← Coder.bit (Model.isOlder + 24 + state)) == 0 then return 2
  else return 3

/-- The distance that stands for the end of the stream. -/
private def endDistance : Nat := 0x100000000

/-- One decision with all that belongs to it: what is remembered after it, or nothing at
the end of the stream. -/
def readStep (properties : Properties) (window : Option Nat) (memory : Memory) :
    Reader (Option Memory) := fun coder =>
  let place := coder.size % (1 <<< properties.position)
  let state := memory.state
  (do
    if (← Coder.bit (Model.isMatch + 16 * state + place)) == 0 then
      readLiteral properties memory
      let state := if state < 4 then 0 else if state < 10 then state - 3 else state - 6
      return some { memory with state }
    else if (← Coder.bit (Model.isRepeat + state)) == 0 then
      let length ← readLength Model.length place
      let distance := (← readDistance length) + 1
      if distance == endDistance then
        if (← get).isFinished then return none else throw Defect.afterEnd
      else
        Coder.emitBack window distance (length + 2)
        return some ⟨if state < 7 then 7 else 10, distance :: memory.distances.take 3⟩
    else
      let older := (← Coder.bit (Model.isOlder + state)) != 0
      let short ←
        if older then pure false
        else (do return (← Coder.bit (Model.isLong + 16 * state + place)) == 0)
      if short then
        Coder.emitBack window (memory.distances.headD 1) 1
        return some { memory with state := if state < 7 then 9 else 11 }
      else
        let index ← if older then readOlder state else pure 0
        let distance := memory.distances.getD index 1
        let length ← readLength Model.repeatLength place
        Coder.emitBack window distance (length + 2)
        return some ⟨if state < 7 then 8 else 11, distance :: memory.distances.eraseIdx index⟩
    : Reader (Option Memory)) coder

/-- A bit costs at least a fiftieth of a bit of the data, which bounds their number. -/
def budget (bytes : Nat) : Nat := 400 * bytes + 2000

/-- Steps until the window holds so many bytes, and what is remembered then. -/
def readUntil (properties : Properties) (wanted : Nat) :
    (fuel : Nat) → Memory → Reader Memory
  | 0, memory => pure memory
  | fuel + 1, memory => fun coder =>
    if wanted ≤ coder.size then .ok (memory, coder)
    else
      match readStep properties none memory coder with
      | .error defect => .error defect
      | .ok (none, coder) => .ok (memory, coder)
      | .ok (some memory, coder) => readUntil properties wanted fuel memory coder

/-- Steps until the data end or the window holds so many bytes: all that can be
decompressed. -/
def readAll (properties : Properties) (wanted : Option Nat) (window : Nat) :
    (fuel : Nat) → Memory → Coder → Option Defect × ByteArray
  | 0, _, coder => (none, coder.out)
  | fuel + 1, memory, coder =>
    if wanted.any (· ≤ coder.size) then (none, coder.out)
    else
      match readStep properties (some window) memory coder with
      | .error .brokenOff => (none, coder.out)
      | .error defect => (some defect, coder.out)
      | .ok (none, coder) => (none, coder.out)
      | .ok (some memory, coder) => readAll properties wanted window fuel memory coder

end Provision.Archive.Lzma

/-! A single stream with a header in front: the properties in a byte, the size of the
window in four and the size of the contents in eight. -/

namespace Provision.Archive.Lzma

/-- The least window, whatever the header says. -/
private def leastWindow : Nat := 4096

/-- Decompress a stream with its header. Contents are passed on only when the window is
full, so that the rest of them never comes. -/
def decompress (data : ByteArray) : Option Defect × ByteArray :=
  match word? data 0 1, word? data 1 4, word? data 5 8 with
  | some number, some window, some size =>
    if 225 ≤ number then (some (.unknownProperties number), ByteArray.empty)
    else
      let properties := Properties.ofNumber number
      let window := max window leastWindow
      let wanted := if size == 0xFFFFFFFFFFFFFFFF then none else some size
      let coder : Coder := { data, position := 13, stop := data.size, models := Model.all properties }
      match coder.start with
      | none => (none, ByteArray.empty)
      | some coder =>
        match readAll properties wanted window (budget data.size) {} coder with
        | (some defect, _) => (some defect, ByteArray.empty)
        | (none, out) => (none, out.extract 0 (out.size / window * window))
  | _, _, _ => (none, ByteArray.empty)

end Provision.Archive.Lzma
