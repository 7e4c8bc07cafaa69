import Provision.Shell.Builtin.Options
import Provision.Shell.Store

/-! Reading. -/

namespace Provision.Shell.Builtin

private def isSeparator (separators : List Char) (entry : Char × Bool) : Bool :=
  entry.2 && separators.contains entry.1

private def isSpace (separators : List Char) (entry : Char × Bool) : Bool :=
  isSeparator separators entry && (entry.1 == ' ' || entry.1 == '\t' || entry.1 == '\n')

/-- How much is read. -/
private structure Extent where
  /-- The octet that ends what is read, if one does. -/
  stop : Option UInt8
  /-- The largest number of characters. -/
  most : Option Nat
  raw : Bool

/-- The characters that are read, each with whether it was written freely; how many octets
that takes, and whether the reading came to its end. -/
private def readChars (extent : Extent) : Nat → (count : Nat) → Bytes → List (Char × Bool) × Nat × Bool
  | 0, _, _ => ([], 0, false)
  | fuel + 1, count, bytes =>
    if extent.most == some count then ([], 0, true)
    else
      let with_ (entry : Char × Bool) (taken : Nat) (rest : Bytes) : List (Char × Bool) × Nat × Bool :=
        let (chars, more, ended) := readChars extent fuel (count + 1) rest
        (entry :: chars, more + taken, ended)
      match bytes with
      | [] => ([], 0, false)
      | byte :: rest =>
        if extent.stop == some byte then ([], 1, true)
        else if byte == 92 && !extent.raw then
          match rest with
          | [] => ([], 1, false)
          | 10 :: rest =>
            let (chars, more, ended) := readChars extent fuel count rest
            (chars, more + 2, ended)
          | next :: rest => with_ (Char.ofNat next.toNat, false) 2 rest
        else if byte == 0 then
          let (chars, more, ended) := readChars extent fuel count rest
          (chars, more + 1, ended)
        else with_ (Char.ofNat byte.toNat, true) 1 rest

private def textOf (chars : List (Char × Bool)) : String := String.ofList (chars.map Prod.fst)

/-- Drop the blanks around a text, and a separator behind the last field of all. -/
private def lastField (separators : List Char) (chars : List (Char × Bool)) : String :=
  let isSpace := isSpace separators
  let chars := chars.dropWhile isSpace
  let trimmed := (chars.reverse.dropWhile isSpace).reverse
  let field := trimmed.takeWhile fun entry => !isSeparator separators entry
  match trimmed.drop field.length with
  | [_] => textOf field
  | behind =>
    if behind.tail.all isSpace && !behind.isEmpty then textOf field else textOf trimmed

/-- The field in front, and what stands behind the separators that end it. -/
private def splitField (separators : List Char) (chars : List (Char × Bool)) :
    String × List (Char × Bool) :=
  let isSpace := isSpace separators
  let chars := chars.dropWhile isSpace
  let first := chars.takeWhile fun entry => !isSeparator separators entry
  let behind := (chars.drop first.length).dropWhile isSpace
  let behind :=
    match behind, chars.drop first.length with
    | entry :: rest, next :: _ =>
      if isSpace next then
        if isSeparator separators entry then rest.dropWhile isSpace else behind
      else rest.dropWhile isSpace
    | [], _ => []
    | behind, [] => behind
  (textOf first, behind)

private def assignTo (name text : String) : Act Bool := do
  let (name, index) := splitIndex name
  assignText name index text

private def assignFields (separators : List Char) :
    List String → List (Char × Bool) → Act Bool
  | [], _ => return true
  | [name], chars => assignTo name (lastField separators chars)
  | name :: names, chars => do
    let (first, rest) := splitField separators chars
    if ← assignTo name first then assignFields separators names rest else return false

private def allFields (separators : List Char) : Nat → List (Char × Bool) → List String
  | 0, _ => []
  | fuel + 1, chars =>
    let chars := chars.dropWhile (isSpace separators)
    if chars.isEmpty then []
    else
      let (first, rest) := splitField separators chars
      first :: allFields separators fuel rest

private def readUsage : String :=
  "[-ers] [-a array] [-d delim] [-i text] [-n nchars] [-N nchars] [-p prompt] [-t timeout] " ++
    "[-u fd] [name ...]"

private def isTime (text : String) : Bool :=
  let whole := text.toList.takeWhile Char.isDigit
  match text.toList.drop whole.length with
  | [] => !whole.isEmpty
  | '.' :: rest => rest.all Char.isDigit
  | _ => false

/-- A fault in the options of a reading, if there is one. -/
private def readFault? (choices : List Choice) : Option String :=
  let count? (letter : Char) : Option String :=
    (argument? choices letter).bind fun text =>
      match integer? text with
      | some value => if value < 0 then some (text ++ ": invalid number") else none
      | none => some (text ++ ": invalid number")
  let time? : Option String := (argument? choices 't').bind fun text =>
    if isTime text then none else some (text ++ ": invalid timeout specification")
  let port? : Option String := (argument? choices 'u').bind fun text =>
    if (integer? text).isSome then none
    else some (text ++ ": invalid file descriptor specification")
  count? 'n' <|> count? 'N' <|> time? <|> port?

def read (words : List String) : Act Nat := do
  let some (choices, names) ← takeOptions? "read" readUsage "ersa:d:i:n:N:p:t:u:" words | return 2
  if let some fault := readFault? choices then return ← fail 1 ("read: " ++ fault)
  let port := (((argument? choices 'u').bind integer?).getD 0).toNat
  let shell ← get
  if (shell.channelAt? port).isNone then
    return ← fail 1 ("read: " ++ toString port ++ ": invalid file descriptor: Bad file descriptor")
  for name in names do
    if !isName (splitIndex name).1 then
      refuseName "read" name
      return 1
  let number (letter : Char) : Option Nat := ((argument? choices letter).bind integer?).map Int.toNat
  let stop : UInt8 :=
    match argument? choices 'd' with
    | some text => if text.isEmpty then 0 else text.front.toNat.toUInt8
    | none => 10
  let exact := has choices 'N'
  let extent : Extent :=
    { stop := if exact then none else some stop
      most := if exact then number 'N' else number 'n'
      raw := has choices 'r' }
  let bytes := (shell.readable? port).getD []
  let (chars, taken, ended) := readChars extent (bytes.length + 1) 0 bytes
  modify (advance port taken)
  let separators := if exact then [] else shell.separators
  let assigned ←
    match argument? choices 'a', names with
    | some array, _ =>
      assignValue array (.ofTexts (allFields separators (chars.length + 1) chars))
    | none, [] => assignText "REPLY" none (textOf chars)
    | none, names => assignFields separators names chars
  return if ended && assigned then 0 else 1

private def mapfileUsage : String :=
  "[-d delim] [-n count] [-O origin] [-s count] [-t] [-u fd] [-C callback] [-c quantum] [array]"

/-- The lines that are left, with their ends, at most so many of them, and how many octets
that takes. -/
private def linesLeft (stop : UInt8) : Nat → (most : Option Nat) → Bytes → List (Bytes × Bool) × Nat
  | 0, _, _ => ([], 0)
  | fuel + 1, most, bytes =>
    if bytes.isEmpty || most == some 0 then ([], 0)
    else
      let line := bytes.takeWhile (· != stop)
      let ended := line.length < bytes.length
      let count := line.length + if ended then 1 else 0
      let (rest, taken) := linesLeft stop fuel (most.map (· - 1)) (bytes.drop count)
      ((line, ended) :: rest, taken + count)

def mapfile (words : List String) : Act Nat := do
  let some (choices, names) ← takeOptions? "mapfile" mapfileUsage "d:n:O:s:tu:C:c:" words
    | return 2
  let name := names.headD "MAPFILE"
  if !isName name then
    refuseName "mapfile" name
    return 1
  let number (letter : Char) : Nat := (((argument? choices letter).bind integer?).getD 0).toNat
  let port := number 'u'
  let stop : UInt8 :=
    match argument? choices 'd' with
    | some text => if text.isEmpty then 0 else text.front.toNat.toUInt8
    | none => 10
  let shell ← get
  let bytes := (shell.readable? port).getD []
  let skip := number 's'
  let most := if number 'n' == 0 then none else some (skip + number 'n')
  let (lines, taken) := linesLeft stop (bytes.length + 1) most bytes
  modify (advance port taken)
  let texts := (lines.drop skip).map fun (line, ended) =>
    let text := Text.ofOctets line
    if ended && !has choices 't' && stop != 0 then text ++ String.singleton (Char.ofNat stop.toNat)
    else text
  let origin := number 'O'
  let before := if has choices 'O' then ((shell.value? name).getD .unset) else .list []
  let value := texts.zipIdx.foldl
    (fun (value : Value) (text, i) => value.setElement (.number (origin + i)) text) before
  return if ← assignValue name value then 0 else 1

end Provision.Shell.Builtin
