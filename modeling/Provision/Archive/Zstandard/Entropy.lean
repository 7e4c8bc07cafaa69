import Provision.Archive.Bits

/-! Entropy coding by state machines. A state stands for a symbol, and the bits that are
read next say which state follows. The bits are written in the opposite direction, so that
they are read from the end of the data. -/

namespace Provision.Archive.Zstandard

inductive Defect where
  | unknownFrame
  | corrupt
  | checksum
  | unsupported
  | tooMuchMemory
  | dictionary
  | brokenOff
  deriving DecidableEq, Repr

def Defect.message : Defect → String
  | unknownFrame => "Unknown frame descriptor"
  | corrupt => "Data corruption detected"
  | checksum => "Restored data doesn't match checksum"
  | unsupported => "Unsupported frame parameter"
  | tooMuchMemory => "Frame requires too much memory for decoding"
  | dictionary => "Dictionary mismatch"
  | brokenOff => "incomplete frame"

/-! ## Bits from the end -/

/-- Bits of a piece of data that are read from its end. -/
structure Backwards where
  data : ByteArray
  start : Nat
  /-- Bits that are left, negative once more have been asked for than there were. -/
  left : Int

namespace Backwards

/-- The last byte holds a one that marks where the bits begin. -/
def ofPiece? (data : ByteArray) (start size : Nat) : Option Backwards :=
  if size == 0 then none
  else
    match data[start + size - 1]? with
    | none => none
    | some byte =>
      if byte == 0 then none
      else some ⟨data, start, (8 * (size - 1) + Nat.log2 byte.toNat : Nat)⟩

private def bitAt (bits : Backwards) (place : Int) : Nat :=
  if place < 0 then 0
  else
    match bits.data[bits.start + place.toNat / 8]? with
    | some byte => (byte.toNat >>> (place.toNat % 8)) % 2
    | none => 0

/-- The next bits as a number, first bit highest. Beyond the end there are zeros. -/
def peek (bits : Backwards) (count : Nat) : Nat :=
  (List.range count).foldl (fun value (index : Nat) => 2 * value + bits.bitAt (bits.left - 1 - index)) 0

def skip (bits : Backwards) (count : Nat) : Backwards := { bits with left := bits.left - count }

def take (bits : Backwards) (count : Nat) : Nat × Backwards := (bits.peek count, bits.skip count)

end Backwards

/-! ## State machines -/

/-- A state: its symbol, and how many bits to add to what to come to the next state. -/
structure State where
  symbol : Nat
  bits : Nat
  base : Nat
  deriving Inhabited, Repr

/-- A table of states, as many as the power of two. -/
structure Machine where
  accuracy : Nat
  states : Array State
  deriving Inhabited, Repr

namespace Machine

/-- The machine for one symbol alone, which takes no bits. -/
def single (symbol : Nat) : Machine := ⟨0, #[⟨symbol, 0, 0⟩]⟩

/-- The next place below a limit. -/
private def nextPlace (size step limit : Nat) : (fuel : Nat) → (place : Nat) → Nat
  | 0, place => place
  | fuel + 1, place =>
    let place := (place + step) % size
    if limit ≤ place then nextPlace size step limit fuel place else place

/-- Symbols take every so many places in turn. Those beyond a limit belong to the rarest. -/
private def spread (size step limit : Nat) :
    (symbols : List Nat) → (place : Nat) → Array Nat → Array Nat
  | [], _, table => table
  | symbol :: symbols, place, table =>
    spread size step limit symbols (nextPlace size step limit size place)
      (table.setIfInBounds place symbol)

/-- The machine for a distribution, given by the shares of the symbols in order. A symbol
of share −1 is rarer than one of share 1. -/
def ofShares (accuracy : Nat) (shares : List Int) : Machine :=
  let size := 1 <<< accuracy
  let rare := (shares.zipIdx.filter fun entry => entry.1 == -1).map Prod.snd
  let table := rare.zipIdx.foldl (fun (table : Array Nat) (symbol, index) =>
    table.setIfInBounds (size - 1 - index) symbol) (Array.replicate size 0)
  let symbols := shares.zipIdx.flatMap fun (share, symbol) => List.replicate share.toNat symbol
  let table := spread size (size / 2 + size / 8 + 3) (size - rare.length) symbols 0 table
  let first := (shares.map fun share => if share == -1 then 1 else share.toNat).toArray
  let states := (table.foldl (fun (states, next) symbol =>
    let number := next.getD symbol 1
    let bits := accuracy - Nat.log2 number
    (states.push ⟨symbol, bits, (number <<< bits) - size⟩, next.setIfInBounds symbol (number + 1)))
    ((#[] : Array State), first)).1
  ⟨accuracy, states⟩

def stateAt (machine : Machine) (index : Nat) : State := machine.states.getD index default

/-- The first state takes as many bits as tell all states apart. -/
def begin_ (machine : Machine) (bits : Backwards) : State × Backwards :=
  let (index, bits) := bits.take machine.accuracy
  (machine.stateAt index, bits)

def next (machine : Machine) (state : State) (bits : Backwards) : State × Backwards :=
  let (low, bits) := bits.take state.bits
  (machine.stateAt (state.base + low), bits)

end Machine

/-! ## Distributions -/

private def require (bits : Nat) (source : BitSource) : Except Defect (Nat × BitSource) :=
  match source.number? bits with
  | some result => .ok result
  | none => .error .corrupt

/-- After a share of zero, how many more symbols have none. -/
private def readZeros : (fuel : Nat) → BitSource → Except Defect (Nat × BitSource)
  | 0, _ => .error .corrupt
  | fuel + 1, source => do
    let (count, source) ← require 2 source
    if count < 3 then return (count, source)
    let (more, source) ← readZeros fuel source
    return (3 + more, source)

/-- The shares, latest first, until nothing remains. A share takes only as many bits as
what remains could need. -/
private def readShares (most : Nat) :
    (remaining : Nat) → (fuel : Nat) → List Int → BitSource → Except Defect (List Int × BitSource)
  | 0, _, shares, source => .ok (shares, source)
  | _, 0, _, _ => .error .corrupt
  | remaining, fuel + 1, shares, source => do
    if most < shares.length + 1 then throw .corrupt
    let bits := Nat.log2 (remaining + 1) + 1
    let half := 1 <<< (bits - 1)
    let spare := 2 * half - 1 - (remaining + 1)
    let (low, source) ← require (bits - 1) source
    let (value, source) ←
      if low < spare then pure (low, source)
      else do
        let (high, source) ← require 1 source
        let value := low + high * half
        pure (if half ≤ value then value - spare else value, source)
    let share : Int := (value : Int) - 1
    let used := if share < 0 then 1 else share.toNat
    if remaining < used then throw .corrupt
    if share == 0 then
      let (zeros, source) ← readZeros fuel source
      readShares most (remaining - used) fuel (List.replicate (zeros + 1) 0 ++ shares) source
    else readShares most (remaining - used) fuel (share :: shares) source

/-- A machine that is sent along, for at most so many symbols, and the position behind
it. -/
def readMachine (data : ByteArray) (start stop : Nat) (mostAccuracy mostSymbols : Nat) :
    Except Defect (Machine × Nat) := do
  let source : BitSource := { data := data.extract start stop }
  let (low, source) ← require 4 source
  let accuracy := low + 5
  if mostAccuracy < accuracy then throw .corrupt
  let (reversed, source) ← readShares mostSymbols (1 <<< accuracy) (8 * (stop - start) + 1) [] source
  if mostSymbols < reversed.length then throw .corrupt
  return (.ofShares accuracy reversed.reverse, start + source.align.position / 8)

end Provision.Archive.Zstandard
