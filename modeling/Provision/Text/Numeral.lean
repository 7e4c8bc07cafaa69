/-! Unsigned decimal numerals of a bounded width, with the reason a text is
refused, and hexadecimal digits. -/

namespace Provision.Text

/-- Why a text is no numeral of the wanted width. -/
inductive NumeralError where
  | empty
  | invalidDigit
  | tooLarge
  deriving DecidableEq, Repr

def NumeralError.message : NumeralError → String
  | .empty => "cannot parse integer from empty string"
  | .invalidDigit => "invalid digit found in string"
  | .tooLarge => "number too large to fit in target type"

/-- The value of a run of ASCII digits, most significant first. -/
def digitsValue (digits : List Char) : Nat :=
  digits.foldl (fun value c => 10 * value + (c.toNat - 48)) 0

/-- Scan digit by digit, so that the first fault met decides which error is
reported: a bad digit before the overflow, or the overflow before it. -/
def scanDigits (bound : Nat) : Nat → List Char → Except NumeralError Nat
  | value, [] => .ok value
  | value, c :: rest =>
    if !c.isDigit then .error .invalidDigit
    else
      let next := 10 * value + (c.toNat - 48)
      if next < bound then scanDigits bound next rest else .error .tooLarge

/-- Read an unsigned numeral below the bound. One leading plus is allowed. -/
def readNatBelow (bound : Nat) (text : String) : Except NumeralError Nat :=
  match text.toList with
  | [] => .error .empty
  | ['+'] | ['-'] => .error .invalidDigit
  | '+' :: rest => scanDigits bound 0 rest
  | chars => scanDigits bound 0 chars

/-- The value of a hexadecimal digit of either case. -/
def hexDigit? (c : Char) : Option Nat :=
  let n := c.toNat
  if 48 ≤ n ∧ n ≤ 57 then some (n - 48)
  else if 97 ≤ n ∧ n ≤ 102 then some (n - 87)
  else if 65 ≤ n ∧ n ≤ 70 then some (n - 55)
  else none

/-- Lower-case hexadecimal digit of a value below sixteen. -/
def hexDigit (value : Nat) : Char :=
  if value < 10 then Char.ofNat (48 + value) else Char.ofNat (87 + value)

/-- Exactly `width` lower-case hexadecimal digits, high digit first. -/
def hexFixed : (width : Nat) → (value : Nat) → List Char
  | 0, _ => []
  | width + 1, value => hexFixed width (value / 16) ++ [hexDigit (value % 16)]

/-- Hexadecimal without leading zeros. -/
def hexShort (value : Nat) : List Char :=
  match (hexFixed 8 value).dropWhile (· == '0') with
  | [] => ['0']
  | digits => digits

theorem length_hexFixed (width value : Nat) : (hexFixed width value).length = width := by
  induction width generalizing value with
  | zero => rfl
  | succ width ih => simp [hexFixed, ih]

/-- Read hexadecimal digits, none of which may be foreign. -/
def readHex? (digits : List Char) : Option Nat :=
  digits.foldl (fun value c =>
    match value, hexDigit? c with
    | some v, some d => some (16 * v + d)
    | _, _ => none) (some 0)

end Provision.Text
