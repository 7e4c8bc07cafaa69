import Provision.Archive.Bits

/-! Canonical prefix codes, which their lengths alone determine. -/

namespace Provision.Archive

/-- How many codes there are of each length from one bit on, and the symbols in the order
of their codes. -/
structure PrefixCode where
  counts : List Nat
  symbols : Array Nat

namespace PrefixCode

/-- Every symbol that has a code gets the next free one of its length, where no code has
more than `longest` bits. -/
def ofLengths (longest : Nat) (lengths : List Nat) : PrefixCode where
  counts := (List.range longest).map fun length => lengths.count (length + 1)
  symbols := ((List.range longest).flatMap fun length =>
    (lengths.zipIdx.filter fun entry => entry.1 == length + 1).map Prod.snd).toArray

/-- The share of the code space that is taken, in units of the longest possible code. -/
def used (code : PrefixCode) : Nat :=
  code.counts.zipIdx.foldl (fun sum (count, index) =>
    sum + (count <<< (code.counts.length - 1 - index))) 0

/-- Every sequence of bits begins with a code, and with one only. -/
def isComplete (code : PrefixCode) : Bool := code.used == 1 <<< code.counts.length

/-- Code space may be left unused only where there is no symbol at all, or a single one with
a code of one bit. -/
def isUsable (code : PrefixCode) : Bool :=
  code.isComplete || code.symbols.isEmpty ||
    (code.symbols.size == 1 && code.counts.head? == some 1)

/-- What reading one symbol leads to. -/
inductive Symbol where
  | symbol (value : Nat) (rest : BitSource)
  | brokenOff
  | unknown

/-- Lengthen the code bit by bit until it is one of its length. `first` is the first code
of the present length and `index` the place of its symbol. -/
private def readFrom (symbols : Array Nat) (code first index : Nat) :
    List Nat → BitSource → Symbol
  | [], _ => .unknown
  | count :: counts, source =>
    match source.bit? with
    | none => .brokenOff
    | some (bit, source) =>
      let code := code + bit
      if code < first + count then
        match symbols[index + (code - first)]? with
        | some value => .symbol value source
        | none => .unknown
      else readFrom symbols (2 * code) (2 * (first + count)) (index + count) counts source

def read (code : PrefixCode) (source : BitSource) : Symbol :=
  readFrom code.symbols 0 0 0 code.counts source

end PrefixCode

end Provision.Archive
