import Provision.Json.Value
import Provision.Text.Numeral

/-! Reading JSON texts. A text is accepted when it is a single value by the grammar
of the format, however deeply nested. -/

namespace Provision.Json

/-- Blank, line feed, carriage return and tab separate tokens. -/
def skipBlanks (text : List Char) : List Char :=
  text.dropWhile fun c => c == ' ' || c == '\n' || c == '\r' || c == '\t'

/-- What a string literal is made of: characters, or code units written by number. -/
inductive Unit16 where
  | char (c : Char)
  | unit (value : Nat)

def simpleEscape? : Char → Option Char
  | '"' => some '"'
  | '\\' => some '\\'
  | '/' => some '/'
  | 'b' => some '\x08'
  | 'f' => some '\x0c'
  | 'n' => some '\n'
  | 'r' => some '\r'
  | 't' => some '\t'
  | _ => none

/-- The contents of a string literal up to its closing quote, and the text behind it. -/
def readUnits : List Char → Option (List Unit16 × List Char)
  | [] => none
  | '"' :: rest => some ([], rest)
  | '\\' :: 'u' :: a :: b :: c :: d :: rest =>
    match Text.readHex? [a, b, c, d] with
    | none => none
    | some value => (readUnits rest).map fun (units, rest) => (.unit value :: units, rest)
  | '\\' :: c :: rest =>
    match simpleEscape? c with
    | none => none
    | some plain => (readUnits rest).map fun (units, rest) => (.char plain :: units, rest)
  | c :: rest =>
    if c.toNat < 0x20 then none
    else (readUnits rest).map fun (units, rest) => (.char c :: units, rest)

def isHigh (value : Nat) : Bool := 0xD800 ≤ value && value ≤ 0xDBFF

def isLow (value : Nat) : Bool := 0xDC00 ≤ value && value ≤ 0xDFFF

/-- Join surrogate pairs; half a pair alone denotes no character. -/
def joinUnits : List Unit16 → Option (List Char)
  | [] => some []
  | .char c :: rest => (joinUnits rest).map (c :: ·)
  | .unit high :: .unit low :: rest =>
    if isHigh high && isLow low then
      (joinUnits rest).map
        (Char.ofNat (0x10000 + (high - 0xD800) * 0x400 + (low - 0xDC00)) :: ·)
    else if isHigh high || isLow high then none
    else (joinUnits (.unit low :: rest)).map (Char.ofNat high :: ·)
  | .unit value :: rest =>
    if isHigh value || isLow value then none
    else (joinUnits rest).map (Char.ofNat value :: ·)

/-- A string literal after its opening quote. -/
def readString (text : List Char) : Option (Option String × List Char) :=
  (readUnits text).map fun (units, rest) => ((joinUnits units).map String.ofList, rest)

def digits1 (text : List Char) : Option (List Char × List Char) :=
  match text.takeWhile Char.isDigit with
  | [] => none
  | digits => some (digits, text.dropWhile Char.isDigit)

/-- The digits before the point: a single zero, or a run that does not start with one. -/
def integerPart : List Char → Option (List Char × List Char)
  | '0' :: rest => some (['0'], rest)
  | text => digits1 text

def fractionPart (text : List Char) : Option (List Char × List Char) :=
  match text with
  | '.' :: rest => (digits1 rest).map fun (digits, rest) => ('.' :: digits, rest)
  | _ => some ([], text)

def exponentPart (text : List Char) : Option (List Char × List Char) :=
  match text with
  | e :: rest =>
    if e == 'e' || e == 'E' then
      match rest with
      | sign :: after =>
        if sign == '+' || sign == '-' then
          (digits1 after).map fun (digits, rest) => (e :: sign :: digits, rest)
        else (digits1 rest).map fun (digits, rest) => (e :: digits, rest)
      | [] => none
    else some ([], text)
  | [] => some ([], [])

def signPart : List Char → List Char × List Char
  | '-' :: rest => (['-'], rest)
  | text => ([], text)

/-- A zero before the point has no digit behind it. -/
def standsAlone : List Char → List Char → Bool
  | ['0'], c :: _ => !c.isDigit
  | _, _ => true

/-- A number literal at the front of the text. -/
def readNumber (text : List Char) : Option (String × List Char) := do
  let (sign, text) := signPart text
  let (whole, text) ← integerPart text
  guard (standsAlone whole text)
  let (fraction, text) ← fractionPart text
  let (exponent, text) ← exponentPart text
  return (String.ofList (sign ++ whole ++ fraction ++ exponent), text)

mutual

/-- A value at the front of the text, which carries no leading blanks. -/
def readValue : (fuel : Nat) → List Char → Option (Json × List Char)
  | 0, _ => none
  | fuel + 1, text =>
    match text with
    | 'n' :: 'u' :: 'l' :: 'l' :: rest => some (null, rest)
    | 't' :: 'r' :: 'u' :: 'e' :: rest => some (bool true, rest)
    | 'f' :: 'a' :: 'l' :: 's' :: 'e' :: rest => some (bool false, rest)
    | '"' :: rest => (readString rest).map fun (text, rest) => (string text, rest)
    | '[' :: rest =>
      match skipBlanks rest with
      | ']' :: rest => some (array [], rest)
      | text => (readItems fuel text).map fun (items, rest) => (array items, rest)
    | '\x7b' :: rest =>
      match skipBlanks rest with
      | '\x7d' :: rest => some (object [], rest)
      | text => (readMembers fuel text).map fun (members, rest) => (object members, rest)
    | text => (readNumber text).map fun (literal, rest) => (number literal, rest)

/-- Items up to the closing bracket; there is at least one. -/
def readItems : (fuel : Nat) → List Char → Option (List Json × List Char)
  | 0, _ => none
  | fuel + 1, text =>
    match readValue fuel text with
    | none => none
    | some (item, rest) =>
      match skipBlanks rest with
      | ']' :: rest => some ([item], rest)
      | ',' :: rest => (readItems fuel (skipBlanks rest)).map fun (items, rest) => (item :: items, rest)
      | _ => none

/-- Members up to the closing brace; there is at least one. -/
def readMembers : (fuel : Nat) → List Char → Option (List (Option String × Json) × List Char)
  | 0, _ => none
  | fuel + 1, text =>
    match text with
    | '"' :: rest =>
      match readString rest with
      | none => none
      | some (key, rest) =>
        match skipBlanks rest with
        | ':' :: rest =>
          match readValue fuel (skipBlanks rest) with
          | none => none
          | some (value, rest) =>
            match skipBlanks rest with
            | '\x7d' :: rest => some ([(key, value)], rest)
            | ',' :: rest =>
              (readMembers fuel (skipBlanks rest)).map fun (members, rest) =>
                ((key, value) :: members, rest)
            | _ => none
        | _ => none
    | _ => none

end

/-- Read a text that is one value with blanks around it. Two units of fuel for each
character are more than the nesting can use up. -/
def parse? (text : String) : Option Json :=
  let chars := skipBlanks text.toList
  match readValue (2 * chars.length + 2) chars with
  | some (value, rest) => if (skipBlanks rest).isEmpty then some value else none
  | none => none

end Provision.Json
