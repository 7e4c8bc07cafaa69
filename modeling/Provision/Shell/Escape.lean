import Provision.Text.Numeral
import Provision.Text.Utf8

/-! Characters written by a backslash and what follows it. -/

namespace Provision.Shell

/-- Where an escape stands, which decides what is known there. -/
inductive EscapeStyle where
  /-- In a quoted text behind a dollar sign. -/
  | quoted
  /-- In what is to be printed with escapes. -/
  | printed
  /-- In an argument that is to be printed with escapes. -/
  | argument
  /-- In a format. -/
  | format
  /-- In what a program of its own prints. -/
  | program
  deriving DecidableEq, Repr

/-- What an escape stands for. -/
inductive Escaped where
  | text (text : String)
  /-- Nothing at all is printed from here on. -/
  | stop
  deriving DecidableEq, Repr

private def simpleEscape? : Char → Option Char
  | 'a' => some '\x07'
  | 'b' => some '\x08'
  | 'e' => some '\x1b'
  | 'f' => some '\x0c'
  | 'n' => some '\n'
  | 'r' => some '\r'
  | 't' => some '\t'
  | 'v' => some '\x0b'
  | '\\' => some '\\'
  | _ => none

private def isOctal (c : Char) : Bool := '0' ≤ c && c ≤ '7'

private def isHex (c : Char) : Bool := (Text.hexDigit? c).isSome

private def octalValue (digits : List Char) : Nat :=
  digits.foldl (fun value c => 8 * value + (c.toNat - 48)) 0

private def hexValue (digits : List Char) : Nat := (Text.readHex? digits).getD 0

private def octet (value : Nat) : String := String.singleton (Char.ofNat (value % 256))

/-- A number in so many hexadecimal digits at least. -/
def hexText (width value : Nat) (upper : Bool) : String :=
  let digits := (Nat.toDigits 16 value).map fun c => if upper then c.toUpper else c
  String.ofList (List.replicate (width - digits.length) '0' ++ digits)

/-- Characters beyond ASCII cannot be printed and are written as escapes. -/
private def codePoint (value : Nat) : String :=
  if value < 0x80 then String.singleton (Char.ofNat value)
  else if value < 0x10000 then "\\u" ++ hexText 4 value true
  else "\\U" ++ hexText 8 value true

private def unicodeEscape (most : Nat) (rest : List Char) : Option (Nat × Escaped) :=
  let digits := (rest.take most).takeWhile isHex
  if digits.isEmpty then none else some (1 + digits.length, .text (codePoint (hexValue digits)))

/-- How many characters behind a backslash belong to it, and what they stand for. -/
def escapeAt? (style : EscapeStyle) (behind : List Char) : Option (Nat × Escaped) :=
  match behind with
  | [] => none
  | 'x' :: rest =>
    let braced := style == .quoted && rest.head? == some '\x7b'
    let inner := if braced then rest.tail else rest.take 2
    let digits := inner.takeWhile isHex
    if digits.isEmpty then none
    else
      let closed := braced && (inner.drop digits.length).head? == some '\x7d'
      some (1 + digits.length + (if braced then 1 else 0) + (if closed then 1 else 0),
        .text (octet (hexValue digits)))
  | 'u' :: rest => if style == .program then none else unicodeEscape 4 rest
  | 'U' :: rest => if style == .program then none else unicodeEscape 8 rest
  | 'c' :: rest =>
    match style, rest with
    | .quoted, c :: _ => some (2, .text (octet (c.toUpper.toNat ^^^ 64)))
    | .printed, _ | .argument, _ | .program, _ => some (1, .stop)
    | _, _ => none
  | 'E' :: _ =>
    if style == .program then none else some (1, .text "\x1b")
  | '\x27' :: _ | '"' :: _ | '?' :: _ =>
    if style == .quoted || style == .format || style == .argument then
      some (1, .text (String.ofList (behind.take 1)))
    else none
  | c :: rest =>
    if c == '0' && (style == .printed || style == .argument || style == .program) then
      let digits := (rest.take 3).takeWhile isOctal
      some (1 + digits.length, .text (octet (octalValue digits)))
    else if isOctal c && style != .printed then
      let digits := (behind.take 3).takeWhile isOctal
      some (digits.length, .text (octet (octalValue digits)))
    else (simpleEscape? c).map fun plain => (1, .text (String.singleton plain))

/-- Replace every escape by what it stands for, up to one that stops all. A backslash in
front of anything else stays. Whether nothing stopped it is told as well. -/
private def unescapeChars (style : EscapeStyle) : Nat → List Char → List Char × Bool
  | 0, text => (text, true)
  | _, [] => ([], true)
  | fuel + 1, '\\' :: behind =>
    match escapeAt? style behind with
    | some (count, .text text) =>
      let (rest, whole) := unescapeChars style fuel (behind.drop count)
      (text.toList ++ rest, whole)
    | some (_, .stop) => ([], false)
    | none =>
      let (rest, whole) := unescapeChars style fuel behind
      ('\\' :: rest, whole)
  | fuel + 1, c :: rest =>
    let (rest, whole) := unescapeChars style fuel rest
    (c :: rest, whole)

def unescape (style : EscapeStyle) (text : String) : String × Bool :=
  let (chars, whole) := unescapeChars style text.length text.toList
  (String.ofList chars, whole)

end Provision.Shell
