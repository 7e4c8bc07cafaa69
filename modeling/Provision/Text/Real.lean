import Provision.Text.Numeral

/-! Real numbers with 64 binary digits: reading their decimal or hexadecimal form, and
printing them with a given number of decimal digits. -/

namespace Provision.Text

/-- A number with its sign. A finite one is `mantissa * 2 ^ exponent`. -/
inductive Real where
  | finite (negative : Bool) (mantissa : Nat) (exponent : Int)
  | infinite (negative : Bool)
  | undefined (negative : Bool)
  deriving DecidableEq, Repr

namespace Real

/-- The nearest integer to a quotient; a half goes to the even neighbour. -/
def roundedQuotient (dividend divisor : Nat) : Nat :=
  let low := dividend / divisor
  let twice := 2 * (dividend % divisor)
  if twice < divisor then low
  else if divisor < twice then low + 1
  else low + low % 2

/-- How many binary digits a mantissa has. -/
def width : Nat := 64

private def smallestExponent : Int := -16445

private def largestExponent : Int := 16320

/-- The number nearest to a quotient. -/
def ofQuotient (negative : Bool) (dividend divisor : Nat) : Real :=
  if dividend == 0 then .finite negative 0 0
  else
    let guess : Int := (dividend.log2 : Int) - divisor.log2 - width
    let scaled (exponent : Int) : Nat :=
      if exponent < 0 then roundedQuotient (dividend <<< exponent.natAbs) divisor
      else roundedQuotient dividend (divisor <<< exponent.natAbs)
    let exponent := if scaled guess < 1 <<< width then guess else guess + 1
    let exponent := max exponent smallestExponent
    if largestExponent < exponent then .infinite negative
    else .finite negative (scaled exponent) exponent

private structure Digits where
  value : Nat := 0
  /-- How many digits stand behind the point. -/
  places : Nat := 0
  count : Nat := 0

private def digitsOf (base : Nat) (digit? : Char → Option Nat) :
    Bool → Digits → List Char → Digits × List Char
  | _, digits, [] => (digits, [])
  | behindPoint, digits, c :: rest =>
    if c == '.' && !behindPoint then digitsOf base digit? true digits rest
    else
      match digit? c with
      | some value =>
        let places := if behindPoint then digits.places + 1 else digits.places
        digitsOf base digit? behindPoint
          ⟨base * digits.value + value, places, digits.count + 1⟩ rest
      | none => (digits, c :: rest)

private def decimalDigit? (c : Char) : Option Nat :=
  if c.isDigit then some (c.toNat - 48) else none

/-- The exponent behind a mark, if digits follow it. -/
private def exponentOf (mark : Char) (text : List Char) : Int × List Char :=
  match text with
  | c :: rest =>
    if c.toLower != mark then (0, text)
    else
      let negative := rest.head? == some '-'
      let digits := (if negative || rest.head? == some '+' then rest.tail else rest)
      let found := digits.takeWhile Char.isDigit
      if found.isEmpty then (0, text)
      else
        let value : Int := (digitsValue found : Nat)
        (if negative then -value else value, digits.drop found.length)
  | [] => (0, [])

/-- Exponents beyond this make every number infinite or nought. -/
private def exponentBound : Int := 20000

private def power (negative : Bool) (value base : Nat) (exponent : Int) : Real :=
  if value == 0 then .finite negative 0 0
  else if exponentBound < exponent then .infinite negative
  else if exponent < -(exponentBound + (value.log2 : Int)) then .finite negative 0 0
  else if exponent < 0 then ofQuotient negative value (Nat.pow base exponent.natAbs)
  else ofQuotient negative (value * Nat.pow base exponent.natAbs) 1

private def startsWith (word : String) (text : List Char) : Bool :=
  word.toList.isPrefixOf (text.map Char.toLower)

private def unsigned (negative : Bool) (text : List Char) : Option (Real × List Char) :=
  if startsWith "infinity" text then some (.infinite negative, text.drop 8)
  else if startsWith "inf" text then some (.infinite negative, text.drop 3)
  else if startsWith "nan" text then some (.undefined negative, text.drop 3)
  else
    let (hexDigits, behindHex) := digitsOf 16 hexDigit? false {} (text.drop 2)
    if startsWith "0x" text && hexDigits.count != 0 then
      let (exponent, rest) := exponentOf 'p' behindHex
      some (power negative hexDigits.value 2 (exponent - 4 * hexDigits.places), rest)
    else
      let (digits, behind) := digitsOf 10 decimalDigit? false {} text
      if digits.count == 0 then none
      else
        let (exponent, rest) := exponentOf 'e' behind
        some (power negative digits.value 10 (exponent - digits.places), rest)

/-- The number with which a text begins, and what stands behind it. -/
def read? (text : List Char) : Option (Real × List Char) :=
  match text with
  | '-' :: rest => unsigned true rest
  | '+' :: rest => unsigned false rest
  | rest => unsigned false rest

/-- The magnitude times a power of ten, rounded. -/
private def scaledBy (mantissa : Nat) (exponent places : Int) : Nat :=
  let dividend := mantissa * (if 0 ≤ exponent then 1 <<< exponent.natAbs else 1) *
    (if 0 ≤ places then Nat.pow 10 places.natAbs else 1)
  let divisor := (if exponent < 0 then 1 <<< exponent.natAbs else 1) *
    (if places < 0 then Nat.pow 10 places.natAbs else 1)
  roundedQuotient dividend divisor

private def decimal (value : Nat) : List Char := Nat.toDigits 10 value

private def withPoint (whole fraction : List Char) (keepPoint : Bool) : List Char :=
  if fraction.isEmpty && !keepPoint then whole else whole ++ '.' :: fraction

/-- With so many digits behind the point. -/
private def fixed (mantissa : Nat) (exponent : Int) (places : Nat) (keepPoint : Bool) :
    List Char :=
  let digits := decimal (scaledBy mantissa exponent places)
  let digits := List.replicate (places + 1 - digits.length) '0' ++ digits
  let whole := digits.length - places
  withPoint (digits.take whole) (digits.drop whole) keepPoint

/-- How many decimal digits the whole part has, less one, once the number is rounded to so
many more digits than one. -/
private def decimalExponent (mantissa : Nat) (exponent : Int) (places : Nat) : Int :=
  if mantissa == 0 then 0
  else
    let guess : Int := ((mantissa.log2 : Int) + exponent) * 30103 / 100000 - 1
    let fits (power : Int) : Bool :=
      scaledBy mantissa exponent (places - power) < Nat.pow 10 (places + 1)
    if fits guess then guess else if fits (guess + 1) then guess + 1
    else if fits (guess + 2) then guess + 2 else guess + 3

/-- With one digit in front of the point, so many behind it, and an exponent. -/
private def scientific (mantissa : Nat) (exponent : Int) (places : Nat) (keepPoint : Bool) :
    List Char :=
  let power := decimalExponent mantissa exponent places
  let digits := decimal (scaledBy mantissa exponent (places - power))
  let digits := digits ++ List.replicate (places + 1 - digits.length) '0'
  let shown := decimal power.natAbs
  let shown := if shown.length < 2 then '0' :: shown else shown
  withPoint (digits.take 1) (digits.drop 1) keepPoint ++ 'e' ::
    (if power < 0 then '-' else '+') :: shown

private def withoutZeros (text : List Char) : List Char :=
  let whole := text.takeWhile (· != 'e')
  let behind := text.drop whole.length
  if whole.contains '.' then
    let kept := whole.reverse.dropWhile (· == '0')
    let kept := if kept.head? == some '.' then kept.tail else kept
    kept.reverse ++ behind
  else text

/-- With so many digits in all, in whichever form is shorter. -/
private def general (mantissa : Nat) (exponent : Int) (digits : Nat) (keepPoint : Bool) :
    List Char :=
  let digits := max digits 1
  let power := decimalExponent mantissa exponent (digits - 1)
  let text :=
    if -4 ≤ power && power < digits then
      fixed mantissa exponent ((digits : Int) - 1 - power).toNat keepPoint
    else scientific mantissa exponent (digits - 1) keepPoint
  if keepPoint then text else withoutZeros text

def isNegative : Real → Bool
  | .finite negative _ _ | .infinite negative | .undefined negative => negative

def isFinite : Real → Bool
  | .finite .. => true
  | _ => false

/-- The digits of a number without its sign, as the lower-case letter of a conversion asks
for them. -/
def digits (form : Char) (places : Nat) (keepPoint : Bool) : Real → String
  | .infinite _ => "inf"
  | .undefined _ => "nan"
  | .finite _ mantissa exponent =>
    String.ofList <|
      match form with
      | 'f' => fixed mantissa exponent places keepPoint
      | 'e' => scientific mantissa exponent places keepPoint
      | _ => general mantissa exponent places keepPoint

end Real

end Provision.Text
