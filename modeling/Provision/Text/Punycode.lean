import Provision.Text.Numeral

/-! Any text in lower-case letters, digits and hyphens. The plain characters stand in front
of the last hyphen; behind it, the others are inserted one by one in the order of their
code points. Each number says how far ahead the next insertion is, and is written in digits
to the base 36, lowest first, the last of which lies below a bound of its place. -/

namespace Provision.Text.Punycode

private def digitChar (value : Nat) : Char :=
  if value < 26 then Char.ofNat (97 + value) else Char.ofNat (22 + value)

private def digit? (c : Char) : Option Nat :=
  if c.isLower then some (c.toNat - 97)
  else if c.isUpper then some (c.toNat - 65)
  else if c.isDigit then some (c.toNat - 22)
  else none

/-- Digits below the bound end a number. The bias moves the places at which the bound
rises. -/
def bound (place bias : Nat) : Nat := min 26 (max 1 (place - bias))

theorem bound_pos (place bias : Nat) : 1 ≤ bound place bias := by
  unfold bound; omega

theorem bound_le (place bias : Nat) : bound place bias ≤ 26 := by
  unfold bound; omega

private def settle (bias delta : Nat) : Nat :=
  if 455 < delta then settle (bias + 36) (delta / 35) else bias + 36 * delta / (delta + 38)
termination_by delta
decreasing_by omega

/-- The bias that suits numbers like the last one, which was written when there were `count`
characters. -/
def adapt (isFirst : Bool) (delta count : Nat) : Nat :=
  let damped := if isFirst then delta / 700 else delta / 2
  settle 0 (damped + damped / count)

private def digitsFrom (bias place value : Nat) : List Char :=
  if value < bound place bias then [digitChar value]
  else
    let excess := value - bound place bias
    let base := 36 - bound place bias
    digitChar (bound place bias + excess % base) :: digitsFrom bias (place + 36) (excess / base)
termination_by value
decreasing_by
  have := bound_pos place bias
  have := Nat.div_le_self (value - bound place bias) (36 - bound place bias)
  omega

private structure Writing where
  digits : List Char := []
  delta : Nat
  bias : Nat
  /-- How many characters are dealt with. -/
  done : Nat

/-- Walk excess one character while those with the code point `next` are inserted. -/
private def writePast (plain next : Nat) (writing : Writing) (c : Char) : Writing :=
  if c.toNat < next then { writing with delta := writing.delta + 1 }
  else if c.toNat == next then
    { digits := writing.digits ++ digitsFrom writing.bias 36 writing.delta
      delta := 0
      bias := adapt (writing.done == plain) writing.delta (writing.done + 1)
      done := writing.done + 1 }
  else writing

private def writeAll (text : List Char) (plain : Nat) : (next : Nat) → List Nat → Writing → List Char
  | _, [], writing => writing.digits
  | next, code :: codes, writing =>
    let delta := writing.delta + (code - next) * (writing.done + 1)
    let writing := text.foldl (writePast plain code) { writing with delta }
    writeAll text plain (code + 1) codes { writing with delta := writing.delta + 1 }

private def isPlain (c : Char) : Bool := c.toNat < 0x80

def encode (text : List Char) : List Char :=
  let plain := text.filter isPlain
  let codes := ((text.filter fun c => !isPlain c).map Char.toNat).mergeSort.eraseDups
  plain ++ (if plain.isEmpty then [] else ['-']) ++
    writeAll text plain.length 0x80 codes { delta := 0, bias := 72, done := plain.length }

/-- A number and what follows it. -/
private def readNumber (bias : Nat) : (place weight value : Nat) → List Char → Option (Nat × List Char)
  | _, _, _, [] => none
  | place, weight, value, c :: rest =>
    match digit? c with
    | none => none
    | some digit =>
      let value := value + digit * weight
      if digit < bound place bias then some (value, rest)
      else readNumber bias (place + 36) (weight * (36 - bound place bias)) value rest

/-- Insert characters into `done`, the next of them at `place` or later, which is nought only
for the first, and with the code point `code` or a higher one. Every number takes at least
one character. -/
private def readAll : (fuel : Nat) → (code place bias : Nat) → (done : List Char) → List Char →
    Option (List Char)
  | _, _, _, _, done, [] => some done
  | 0, _, _, _, _, _ => none
  | fuel + 1, code, place, bias, done, text =>
    match readNumber bias 36 1 0 text with
    | none => none
    | some (delta, rest) =>
      let count := done.length + 1
      let code := code + (place + delta) / count
      let here := (place + delta) % count
      if decide code.isValidChar then
        readAll fuel code (here + 1) (adapt (place == 0) delta count)
          (done.take here ++ Char.ofNat code :: done.drop here) rest
      else none

/-- The text that was encoded. -/
def decode? (text : List Char) : Option (List Char) :=
  let digits := (text.reverse.takeWhile (· != '-')).reverse
  let plain := (text.take (text.length - digits.length)).dropLast
  if text.all isPlain then readAll digits.length 0x80 0 72 plain digits else none

end Provision.Text.Punycode
