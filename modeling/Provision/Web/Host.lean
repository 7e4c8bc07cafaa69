import Provision.Text.Utf8
import Provision.Web.Domain

/-! The hosts that addresses name: by a domain name, by a number, or by a text that only
the scheme of the address understands. -/

namespace Provision

inductive Host where
  | name (text : String)
  /-- An address of four bytes as one number. -/
  | ipv4 (number : Nat)
  /-- An address of eight pieces of two bytes. -/
  | ipv6 (pieces : List Nat)
  deriving DecidableEq, Repr

inductive HostError where
  | ipv4
  | ipv6
  | domain
  | character
  deriving DecidableEq, Repr

namespace Host

/-! Addresses of four bytes. -/

/-- A number in one of three bases, told apart by its front. Nothing behind the front stands
for nought. -/
private def numeral? (text : List Char) : Option Nat :=
  let read (base : Nat) (digits : List Char) : Option Nat :=
    digits.foldlM (fun value c => do
      let digit ← Text.hexDigit? c
      if digit < base then some (base * value + digit) else none) 0
  match text with
  | [] => none
  | '0' :: 'x' :: digits | '0' :: 'X' :: digits => read 16 digits
  | '0' :: c :: digits => read 8 (c :: digits)
  | digits => read 10 digits

/-- The parts between the dots; a dot at the end does not count. -/
private def dottedParts (text : List Char) : List (List Char) :=
  let parts := text.splitOn '.'
  if parts.getLast? == some [] then parts.dropLast else parts

/-- Whether a name can only be meant as a number. -/
private def endsInNumber (text : List Char) : Bool :=
  match (dottedParts text).getLast? with
  | none => false
  | some last => (!last.isEmpty && last.all Char.isDigit) || (numeral? last).isSome

/-- Every part but the last is a byte, and the last stands for all bytes that are left. -/
private def readIpv4? (text : List Char) : Option Nat := do
  let numbers ← (dottedParts text).mapM numeral?
  let last ← numbers.getLast?
  let bytes := numbers.dropLast
  if bytes.length ≤ 3 && bytes.all (· < 256) && last < Nat.pow 256 (4 - bytes.length) then
    some (last + (bytes.zipIdx.map fun (byte, place) => byte * Nat.pow 256 (3 - place)).foldl (· + ·) 0)
  else none

private def showIpv4 (number : Nat) : String :=
  String.intercalate "." ([3, 2, 1, 0].map fun place => toString (number / Nat.pow 256 place % 256))

/-! Addresses of eight pieces. -/

private def piece? (digits : List Char) : Option Nat :=
  if !digits.isEmpty && digits.length ≤ 4 then Text.readHex? digits else none

/-- A byte in plain decimal. -/
private def byte? (digits : List Char) : Option Nat :=
  let isPlain := !digits.isEmpty && digits.all Char.isDigit && digits.length ≤ 3 &&
    (digits.length == 1 || digits.head? != some '0')
  if isPlain && Text.digitsValue digits < 256 then some (Text.digitsValue digits) else none

/-- Pieces between colons. The last two may be written as four bytes if they end the whole
address. -/
private def pieces? (atEnd : Bool) : List (List Char) → Option (List Nat)
  | [] => some []
  | [last] =>
    if atEnd && last.contains '.' then do
      match ← (last.splitOn '.').mapM byte? with
      | [a, b, c, d] => some [256 * a + b, 256 * c + d]
      | _ => none
    else (piece? last).map fun piece => [piece]
  | first :: rest => do return (← piece? first) :: (← pieces? atEnd rest)

/-- The text in front of two colons, and the text behind them. -/
private def splitGap : List Char → Option (List Char × List Char)
  | ':' :: ':' :: rest => some ([], rest)
  | c :: rest => (splitGap rest).map fun (front, back) => (c :: front, back)
  | [] => none

private def parts (text : List Char) : List (List Char) :=
  if text.isEmpty then [] else text.splitOn ':'

/-- Two colons stand for as many noughts as are missing, but at least one. -/
private def readIpv6? (text : List Char) : Option (List Nat) := do
  match splitGap text with
  | some (front, back) =>
    let front ← pieces? false (parts front)
    let back ← pieces? true (parts back)
    let missing := 8 - (front.length + back.length)
    if missing == 0 then none else some (front ++ List.replicate missing 0 ++ back)
  | none =>
    let pieces ← pieces? true (parts text)
    if pieces.length == 8 then some pieces else none

/-- How many noughts there are in a row from each place on. -/
private def runs : List Nat → List Nat
  | [] => []
  | piece :: rest =>
    let later := runs rest
    (if piece == 0 then later.headD 0 + 1 else 0) :: later

private def showPieces (pieces : List Nat) : String :=
  String.intercalate ":" (pieces.map fun piece => String.ofList (Text.hexShort piece))

/-- The first of the longest rows of noughts is left out, unless it is one alone. -/
private def showIpv6 (pieces : List Nat) : String :=
  let lengths := runs pieces
  let longest := lengths.foldl max 0
  if longest ≤ 1 then showPieces pieces
  else
    let place := lengths.findIdx (· == longest)
    showPieces (pieces.take place) ++ "::" ++ showPieces (pieces.drop (place + longest))

/-! Hosts. -/

/-- The bytes of a text in which some are written in percent. -/
private def percentDecoded : List Char → Bytes
  | '%' :: high :: low :: rest =>
    match Text.hexDigit? high, Text.hexDigit? low with
    | some high, some low => (16 * high + low).toUInt8 :: percentDecoded rest
    | _, _ => 37 :: percentDecoded (high :: low :: rest)
  | c :: rest => String.utf8EncodeChar c ++ percentDecoded rest
  | [] => []

/-- A host in brackets. -/
private def bracketed? : List Char → Option (Except HostError Host)
  | '[' :: inner =>
    if inner.getLast? == some ']' then
      match readIpv6? inner.dropLast with
      | some pieces => some (.ok (.ipv6 pieces))
      | none => some (.error .ipv6)
    else some (.error .ipv6)
  | _ => none

/-- A host on the network. -/
def ofText (text : List Char) : Except HostError Host :=
  match bracketed? text with
  | some host => host
  | none =>
    match (Text.decode? (percentDecoded text)).bind fun decoded => Domain.plain? decoded.toList with
    | none => .error .domain
    | some plain =>
      if endsInNumber plain then
        match readIpv4? plain with
        | some number => .ok (.ipv4 number)
        | none => .error .ipv4
      else .ok (.name (String.ofList plain))

private def isForbiddenInAny (c : Char) : Bool :=
  ['\x00', '\t', '\n', '\r', ' ', '#', '/', ':', '<', '>', '?', '@', '[', '\\', ']', '^', '|'].contains c

/-- A host whose meaning only the scheme knows; `encode` shows what cannot be printed. -/
def ofForeign (encode : List Char → List Char) (text : List Char) : Except HostError Host :=
  match bracketed? text with
  | some host => host
  | none =>
    if text.any isForbiddenInAny then .error .character
    else .ok (.name (String.ofList (encode text)))

def isEmpty (host : Host) : Bool := host == .name ""

def render : Host → String
  | name text => text
  | ipv4 number => showIpv4 number
  | ipv6 pieces => "[" ++ showIpv6 pieces ++ "]"

end Host

end Provision
