import Provision.Text.Utf8

/-! Numbers that are packed into bytes without regard to where a byte ends. -/

namespace Provision.Archive

/-- Which bit of a byte, and of a number, comes first. -/
inductive BitOrder where
  | lowFirst
  | highFirst
  deriving DecidableEq, Repr

/-- Bits still to be read. -/
structure BitSource where
  data : ByteArray
  order : BitOrder := .lowFirst
  position : Nat := 0

namespace BitSource

def bit? (source : BitSource) : Option (Nat × BitSource) :=
  match source.data[source.position / 8]? with
  | some byte =>
    let place := match source.order with
      | .lowFirst => source.position % 8
      | .highFirst => 7 - source.position % 8
    some ((byte.toNat >>> place) % 2, { source with position := source.position + 1 })
  | none => none

private def lowFirst? : (bits : Nat) → BitSource → Option (Nat × BitSource)
  | 0, source => some (0, source)
  | bits + 1, source =>
    match source.bit? with
    | none => none
    | some (low, source) => (lowFirst? bits source).map fun (high, source) => (low + 2 * high, source)

private def highFirst? : (bits : Nat) → (high : Nat) → BitSource → Option (Nat × BitSource)
  | 0, high, source => some (high, source)
  | bits + 1, high, source =>
    match source.bit? with
    | none => none
    | some (low, source) => highFirst? bits (2 * high + low) source

/-- A number of so many bits. -/
def number? (bits : Nat) (source : BitSource) : Option (Nat × BitSource) :=
  match source.order with
  | .lowFirst => lowFirst? bits source
  | .highFirst => highFirst? bits 0 source

/-- So many numbers of one width. -/
def numbers? (bits : Nat) : (count : Nat) → BitSource → Option (List Nat × BitSource)
  | 0, source => some ([], source)
  | count + 1, source =>
    match source.number? bits with
    | none => none
    | some (value, source) =>
      (numbers? bits count source).map fun (values, source) => (value :: values, source)

/-- Skip to the start of a byte. -/
def align (source : BitSource) : BitSource :=
  { source with position := (source.position + 7) / 8 * 8 }

/-- Bits that are left. -/
def left (source : BitSource) : Nat := 8 * source.data.size - source.position

theorem number?_zero (source : BitSource) : source.number? 0 = some (0, source) := by
  unfold number?
  cases source.order <;> rfl

end BitSource

/-- A little-endian number of so many bytes. -/
def word? (data : ByteArray) (position : Nat) : (width : Nat) → Option Nat
  | 0 => some 0
  | width + 1 => do
    let low ← data[position]?
    let high ← word? data (position + 1) width
    return low.toNat + 256 * high

/-- Write one byte so many times. -/
def pushMany (byte : UInt8) : (count : Nat) → ByteArray → ByteArray
  | 0, out => out
  | count + 1, out => pushMany byte count (out.push byte)

theorem size_pushMany (byte : UInt8) (count : Nat) (out : ByteArray) :
    (pushMany byte count out).size = out.size + count := by
  induction count generalizing out with
  | zero => rfl
  | succ count ih => simp only [pushMany, ih, ByteArray.size_push]; omega

/-- Repeat bytes from `distance` back. They may overlap with what is being written, and
what would stand before the first byte is zero. -/
def repeatBack (distance : Nat) : (count : Nat) → ByteArray → ByteArray
  | 0, out => out
  | count + 1, out =>
    let byte := if out.size < distance then 0 else (out[out.size - distance]?).getD 0
    repeatBack distance count (out.push byte)

theorem size_repeatBack (distance count : Nat) (out : ByteArray) :
    (repeatBack distance count out).size = out.size + count := by
  induction count generalizing out with
  | zero => rfl
  | succ count ih => simp only [repeatBack, ih, ByteArray.size_push]; omega

end Provision.Archive
