import Provision.Archive.Bits

/-! Check values that archives keep of their contents. -/

namespace Provision.Archive

/-- Divide out one bit, `count` times. -/
private def shiftOut : (count : Nat) → UInt32 → UInt32
  | 0, rest => rest
  | count + 1, rest =>
    shiftOut count (if rest &&& 1 == 1 then (rest >>> 1) ^^^ 0xEDB88320 else rest >>> 1)

/-- The remainder by the polynomial 0xEDB88320, least significant bit first. -/
def checksum (bytes : Bytes) : UInt32 :=
  (bytes.foldl (fun rest byte => shiftOut 8 (rest ^^^ byte.toUInt32)) 0xFFFFFFFF) ^^^ 0xFFFFFFFF

theorem checksum_nil : checksum [] = 0 := by decide

private def shiftUp : (count : Nat) → UInt32 → UInt32
  | 0, rest => rest
  | count + 1, rest =>
    shiftUp count (if rest &&& 0x80000000 != 0 then (rest <<< 1) ^^^ 0x04C11DB7 else rest <<< 1)

/-- The remainder by the same polynomial, most significant bit first. -/
def checksumHighFirst (bytes : Bytes) : UInt32 :=
  (bytes.foldl (fun (rest : UInt32) byte => shiftUp 8 (rest ^^^ (byte.toUInt32 <<< (24 : UInt32))))
    0xFFFFFFFF) ^^^ 0xFFFFFFFF

/-! ## The 64-bit multiplicative digest -/

namespace Digest

private def prime₁ : UInt64 := 0x9E3779B185EBCA87
private def prime₂ : UInt64 := 0xC2B2AE3D27D4EB4F
private def prime₃ : UInt64 := 0x165667B19E3779F9
private def prime₄ : UInt64 := 0x85EBCA77C2B2AE63
private def prime₅ : UInt64 := 0x27D4EB2F165667C5

private def rotate (word : UInt64) (bits : UInt64) : UInt64 :=
  (word <<< bits) ||| (word >>> (64 - bits))

private def mix (lane word : UInt64) : UInt64 := rotate (lane + word * prime₂) 31 * prime₁

private def merge (sum lane : UInt64) : UInt64 := (sum ^^^ mix 0 lane) * prime₁ + prime₄

private def wordAt (data : ByteArray) (position width : Nat) : UInt64 :=
  ((word? data position width).getD 0).toUInt64

/-- The four lanes after so many stripes of 32 bytes. -/
private def lanesAfter (data : ByteArray) (stripes : Nat) : UInt64 × UInt64 × UInt64 × UInt64 :=
  (List.range stripes).foldl (fun (a, b, c, d) stripe =>
    let start := 32 * stripe
    (mix a (wordAt data start 8), mix b (wordAt data (start + 8) 8),
      mix c (wordAt data (start + 16) 8), mix d (wordAt data (start + 24) 8)))
    (prime₁ + prime₂, prime₂, 0, 0 - prime₁)

/-- Take in what is left, in pieces of eight, four and one bytes. -/
private def finish (data : ByteArray) : (fuel position : Nat) → UInt64 → UInt64
  | 0, _, sum => sum
  | fuel + 1, position, sum =>
    if position + 8 ≤ data.size then
      finish data fuel (position + 8)
        (rotate (sum ^^^ mix 0 (wordAt data position 8)) 27 * prime₁ + prime₄)
    else if position + 4 ≤ data.size then
      finish data fuel (position + 4)
        (rotate (sum ^^^ (wordAt data position 4 * prime₁)) 23 * prime₂ + prime₃)
    else if position < data.size then
      finish data fuel (position + 1)
        (rotate (sum ^^^ (wordAt data position 1 * prime₅)) 11 * prime₁)
    else sum

end Digest

open Digest in
/-- A digest of all bytes that is quick to compute. -/
def digest (data : ByteArray) : UInt64 :=
  let stripes := data.size / 32
  let start :=
    if stripes == 0 then prime₅
    else
      let (a, b, c, d) := lanesAfter data stripes
      let sum := rotate a 1 + rotate b 7 + rotate c 12 + rotate d 18
      merge (merge (merge (merge sum a) b) c) d
  let sum := finish data 32 (32 * stripes) (start + data.size.toUInt64)
  let sum := (sum ^^^ (sum >>> 33)) * prime₂
  let sum := (sum ^^^ (sum >>> 29)) * prime₃
  sum ^^^ (sum >>> 32)

end Provision.Archive
