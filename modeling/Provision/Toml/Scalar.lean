import Provision.Text.Numeral
import Provision.Toml.Value

/-! The parts of a TOML text that do not nest: blanks, comments, strings, numbers and
dates. Readers take the front of a text and leave the rest. -/

namespace Provision.Toml

def isSpace (c : Char) : Bool := c == ' ' || c == '\t'

def skipSpaces (text : List Char) : List Char := text.dropWhile isSpace

/-- What stands behind a line end, if there is one in front. -/
def newline? : List Char → Option (List Char)
  | '\n' :: rest => some rest
  | '\r' :: '\n' :: rest => some rest
  | _ => none

/-- Characters that may stand in comments and literal strings. -/
def isPlain (c : Char) : Bool := c == '\t' || (0x20 ≤ c.toNat && c.toNat != 0x7F)

/-- Drop a comment, if there is one; its line end stays. -/
def skipComment (text : List Char) : List Char :=
  match text with
  | '#' :: rest => rest.dropWhile isPlain
  | _ => text

/-- The end of a line: blanks, perhaps a comment, and a line end or the end of the text. -/
def lineEnd? (text : List Char) : Option (List Char) :=
  match skipComment (skipSpaces text) with
  | [] => some []
  | rest => newline? rest

/-- Drop blanks, comments and line ends. Each turn takes at least one character, so the
length is enough fuel. -/
def skipLines : (fuel : Nat) → List Char → List Char
  | 0, text => text
  | fuel + 1, text =>
    let text := skipSpaces text
    match newline? (skipComment text) with
    | some rest => skipLines fuel rest
    | none => text

private def scalar? (digits : List Char) : Option Char :=
  (Text.readHex? digits).bind fun value =>
    if value < 0xD800 || (0xDFFF < value && value < 0x110000) then some (Char.ofNat value) else none

/-- The character that an escape stands for, after its backslash. -/
def escape? : List Char → Option (Char × List Char)
  | 'b' :: rest => some ('\x08', rest)
  | 't' :: rest => some ('\t', rest)
  | 'n' :: rest => some ('\n', rest)
  | 'f' :: rest => some ('\x0c', rest)
  | 'r' :: rest => some ('\r', rest)
  | '"' :: rest => some ('"', rest)
  | '\\' :: rest => some ('\\', rest)
  | 'u' :: a :: b :: c :: d :: rest => (scalar? [a, b, c, d]).map fun c => (c, rest)
  | 'U' :: a :: b :: c :: d :: e :: f :: g :: h :: rest =>
    (scalar? [a, b, c, d, e, f, g, h]).map fun c => (c, rest)
  | _ => none

theorem length_escape {text rest : List Char} {c : Char} (found : escape? text = some (c, rest)) :
    rest.length < text.length := by
  unfold escape? at found
  split at found
  all_goals first
    | (obtain ⟨_, _, pair⟩ := Option.map_eq_some_iff.1 found
       injection pair with _ same
       subst same
       simp only [List.length_cons]
       omega)
    | (injection found with pair
       injection pair with _ same
       subst same
       simp only [List.length_cons]
       omega)
    | exact nomatch found

/-- A string in double quotes, after the opening one. -/
def basic? (text : List Char) : Option (List Char × List Char) :=
  match text with
  | [] => none
  | '"' :: rest => some ([], rest)
  | '\\' :: rest =>
    match found : escape? rest with
    | none => none
    | some (c, after) =>
      have := length_escape found
      (basic? after).map fun (cs, rest) => (c :: cs, rest)
  | c :: rest =>
    if isPlain c then (basic? rest).map fun (cs, rest) => (c :: cs, rest) else none
termination_by text.length
decreasing_by all_goals simp <;> omega

/-- A string in single quotes, after the opening one. -/
def literal? : List Char → Option (List Char × List Char)
  | [] => none
  | '\x27' :: rest => some ([], rest)
  | c :: rest => if isPlain c then (literal? rest).map fun (cs, rest) => (c :: cs, rest) else none

/-- How many of the quotes in front of a text belong to a string that ends with three of
them, and what stands behind; none if the string goes on. Five in a row are at most two of
its own. -/
def closing? (quote : Char) (text : List Char) : Option (List Char × List Char) :=
  let quotes := (text.takeWhile (· == quote)).length
  if quotes < 3 then none
  else
    let own := min (quotes - 3) 2
    some (List.replicate own quote, text.drop (own + 3))

/-- Drop blanks and line ends. -/
def skipBlankLines : List Char → List Char
  | '\r' :: '\n' :: rest => skipBlankLines rest
  | c :: rest => if isSpace c || c == '\n' then skipBlankLines rest else c :: rest
  | [] => []

/-- Blanks and line ends after a backslash at the end of a line. -/
def foldLine? (text : List Char) : Option (List Char) :=
  (newline? (skipSpaces text)).map skipBlankLines

/-- A line end inside a string of several lines counts as a line feed. -/
private def plainLine? (text : List Char) : Option (Char × List Char) :=
  match newline? text, text with
  | some rest, _ => some ('\n', rest)
  | none, c :: rest => if isPlain c then some (c, rest) else none
  | none, [] => none

/-- A string in three single quotes, after the opening ones. -/
def literalLines? : (fuel : Nat) → List Char → Option (List Char × List Char)
  | 0, _ => none
  | fuel + 1, text =>
    match closing? '\x27' text with
    | some ended => some ended
    | none =>
      match plainLine? text with
      | none => none
      | some (c, rest) => (literalLines? fuel rest).map fun (cs, rest) => (c :: cs, rest)

/-- A string in three double quotes, after the opening ones. -/
def basicLines? : (fuel : Nat) → List Char → Option (List Char × List Char)
  | 0, _ => none
  | fuel + 1, text =>
    match closing? '"' text with
    | some ended => some ended
    | none =>
      match text with
      | '\\' :: rest =>
        match foldLine? rest with
        | some rest => basicLines? fuel rest
        | none =>
          match escape? rest with
          | none => none
          | some (c, rest) => (basicLines? fuel rest).map fun (cs, rest) => (c :: cs, rest)
      | _ =>
        match plainLine? text with
        | none => none
        | some (c, rest) => (basicLines? fuel rest).map fun (cs, rest) => (c :: cs, rest)

/-- A line end right after three opening quotes does not count. -/
private def dropNewline (text : List Char) : List Char := (newline? text).getD text

/-- A string of any kind. -/
def string? (text : List Char) : Option (String × List Char) :=
  let read := match text with
    | '"' :: '"' :: '"' :: rest => basicLines? (rest.length + 1) (dropNewline rest)
    | '\x27' :: '\x27' :: '\x27' :: rest => literalLines? (rest.length + 1) (dropNewline rest)
    | '"' :: rest => basic? rest
    | '\x27' :: rest => literal? rest
    | _ => none
  read.map fun (cs, rest) => (String.ofList cs, rest)

/-- One part of a key: a bare word or a string on one line. -/
def keyPart? (text : List Char) : Option (String × List Char) :=
  match text with
  | '"' :: rest => (basic? rest).map fun (cs, rest) => (String.ofList cs, rest)
  | '\x27' :: rest => (literal? rest).map fun (cs, rest) => (String.ofList cs, rest)
  | _ =>
    let isBare := fun (c : Char) => c.isAlphanum || c == '-' || c == '_'
    match text.takeWhile isBare with
    | [] => none
    | word => some (String.ofList word, text.dropWhile isBare)

/-- Digits of a base, where single underscores may separate them. -/
def digits? (isDigit : Char → Bool) (text : List Char) : Option (List Char × List Char) :=
  let run := text.takeWhile fun c => isDigit c || c == '_'
  let rec separated : List Char → Bool
    | [] => true
    | [c] => isDigit c
    | '_' :: '_' :: _ => false
    | _ :: rest => separated rest
  match run with
  | c :: _ =>
    if isDigit c && separated run then some (run.filter (· != '_'), text.drop run.length) else none
  | [] => none

/-- Every integer fits in a signed word of 64 bits. -/
def inRange (value : Int) : Bool := -0x8000000000000000 ≤ value && value < 0x8000000000000000

def based? (base : Nat) (isDigit : Char → Bool) (text : List Char) :
    Option (Toml × List Char) :=
  (digits? isDigit text).bind fun (digits, rest) =>
    let value := digits.foldl (fun value c => base * value + (Text.hexDigit? c).getD 0) 0
    if inRange value then some (.integer value, rest) else none

private def sign (text : List Char) : Bool × List Char :=
  match text with
  | '-' :: rest => (true, rest)
  | '+' :: rest => (false, rest)
  | _ => (false, text)

/-- Decimal digits without a leading zero, unless zero is all there is. -/
private def whole? (text : List Char) : Option (List Char × List Char) :=
  match text with
  | '0' :: rest => some (['0'], rest)
  | _ => digits? Char.isDigit text

/-- The part of a number behind its whole digits: fraction and exponent. -/
private def fraction? (text : List Char) : Option (List Char × List Char) :=
  match text with
  | '.' :: rest => digits? Char.isDigit rest
  | _ => some ([], text)

private def exponent? (text : List Char) : Option (Int × List Char) :=
  match text with
  | e :: rest =>
    if e == 'e' || e == 'E' then
      let (negative, rest) := sign rest
      (digits? Char.isDigit rest).map fun (digits, rest) =>
        let value : Int := Text.digitsValue digits
        (if negative then -value else value, rest)
    else some (0, text)
  | [] => some (0, [])

/-- Whether a decimal is too large for double precision: at or past the middle between the
greatest number and the next power of two. Sizes far outside are told by their digits. -/
private def overflows (digits : List Char) (exponent : Int) : Bool :=
  let value := Text.digitsValue digits
  let size := (digits.dropWhile (· == '0')).length + exponent
  if value == 0 || size < 300 then false
  else if 320 < size then true
  else
    let limit := (1 <<< 1024) - (1 <<< 970)
    if 0 ≤ exponent then limit ≤ value * Nat.pow 10 exponent.toNat
    else limit * Nat.pow 10 (-exponent).toNat ≤ value

/-- A decimal number, with a fraction or an exponent or neither. Only a positive one can
be too large. -/
def decimal? (text : List Char) : Option (Toml × List Char) := do
  let (negative, text) := sign text
  match text with
  | 'i' :: 'n' :: 'f' :: rest => return (.float, rest)
  | 'n' :: 'a' :: 'n' :: rest => return (.float, rest)
  | _ =>
    let (whole, afterWhole) ← whole? text
    let (fraction, afterFraction) ← fraction? afterWhole
    let (exponent, rest) ← exponent? afterFraction
    if rest.length == afterWhole.length then
      let value : Int := Text.digitsValue whole
      let value := if negative then -value else value
      if inRange value then return (.integer value, rest) else none
    else if !negative && overflows (whole ++ fraction) (exponent - fraction.length) then none
    else return (.float, rest)

def number? (text : List Char) : Option (Toml × List Char) :=
  match text with
  | '0' :: 'x' :: rest => based? 16 (fun c => (Text.hexDigit? c).isSome) rest
  | '0' :: 'o' :: rest => based? 8 (fun c => '0' ≤ c && c ≤ '7') rest
  | '0' :: 'b' :: rest => based? 2 (fun c => c == '0' || c == '1') rest
  | _ => decimal? text

/-- Exactly so many digits. -/
private def fixed? (width : Nat) (text : List Char) : Option (Nat × List Char) :=
  let digits := text.take width
  if digits.length == width && digits.all Char.isDigit then
    some (Text.digitsValue digits, text.drop width)
  else none

private def mark? (mark : Char) : List Char → Option (List Char)
  | c :: rest => if c == mark then some rest else none
  | [] => none

private def daysIn (year month : Nat) : Nat :=
  if month == 2 then
    if year % 4 == 0 && (year % 100 != 0 || year % 400 == 0) then 29 else 28
  else if month == 4 || month == 6 || month == 9 || month == 11 then 30
  else 31

/-- A date whose day is one of its month. -/
def date? (text : List Char) : Option (List Char) := do
  let (year, text) ← fixed? 4 text
  let text ← mark? '-' text
  let (month, text) ← fixed? 2 text
  let text ← mark? '-' text
  let (day, text) ← fixed? 2 text
  if 1 ≤ month && month ≤ 12 && 1 ≤ day && day ≤ daysIn year month then return text else none

/-- A time of day. The second of that name may be a leap second. -/
def time? (text : List Char) : Option (List Char) := do
  let (hour, text) ← fixed? 2 text
  let text ← mark? ':' text
  let (minute, text) ← fixed? 2 text
  let text ← mark? ':' text
  let (second, text) ← fixed? 2 text
  if 23 < hour || 59 < minute || 60 < second then none
  else
    match text with
    | '.' :: c :: rest => return (if c.isDigit then rest.dropWhile Char.isDigit else text)
    | _ => return text

/-- The distance from universal time, which need not be there. -/
private def offset? (text : List Char) : Option (List Char) :=
  match text with
  | c :: rest =>
    if c == 'Z' || c == 'z' then some rest
    else if c == '+' || c == '-' then do
      let (hour, text) ← fixed? 2 rest
      let text ← mark? ':' text
      let (minute, text) ← fixed? 2 text
      if 23 < hour || 59 < minute then none else return text
    else some text
  | [] => some []

/-- A date, a time, or both with or without an offset. -/
def datetime? (text : List Char) : Option (Toml × List Char) :=
  match date? text with
  | none => (time? text).map fun rest => (.datetime, rest)
  | some afterDate =>
    match afterDate with
    | c :: rest =>
      if c == 'T' || c == 't' || c == ' ' then
        match time? rest with
        | none => some (.datetime, afterDate)
        | some afterTime => (offset? afterTime).map fun rest => (.datetime, rest)
      else some (.datetime, afterDate)
    | [] => some (.datetime, [])

/-- A number, a date or a truth value. -/
def plain? (text : List Char) : Option (Toml × List Char) :=
  match text with
  | 't' :: 'r' :: 'u' :: 'e' :: rest => some (.bool true, rest)
  | 'f' :: 'a' :: 'l' :: 's' :: 'e' :: rest => some (.bool false, rest)
  | _ =>
    match datetime? text with
    | some found => some found
    | none => number? text

end Provision.Toml
