import Provision.Shell.Cursor
import Provision.Shell.Escape
import Provision.Shell.Syntax

/-! Reading the words of a script. -/

namespace Provision.Shell

/-- Characters that end a word and stand for something themselves. -/
def isMeta (c : Char) : Bool := " \t\n;&|()<>".toList.contains c

/-- Neighbours of one kind become one piece. -/
def merge : List Piece → List Piece
  | [] => []
  | piece :: rest =>
    match piece, merge rest with
    | .plain a, .plain b :: rest => .plain (a ++ b) :: rest
    | .quoted a, .quoted b :: rest => .quoted (a ++ b) :: rest
    | piece, rest => piece :: rest

/-- How many characters stand in front of the bracket that closes, those in quotes, behind
a backslash and in inner brackets being passed over. -/
def spanClose (opens closes : Char) : Nat → Option Char → List Char → Option Nat
  | _, _, [] => none
  | depth, some '\x27', c :: rest =>
    (spanClose opens closes depth (if c == '\x27' then none else some '\x27') rest).map (· + 1)
  | depth, quote, '\\' :: _ :: rest => (spanClose opens closes depth quote rest).map (· + 2)
  | depth, some mark, c :: rest =>
    (spanClose opens closes depth (if c == mark then none else some mark) rest).map (· + 1)
  | depth, none, c :: rest =>
    if c == '"' || c == '\x27' || c == '\x60' then
      (spanClose opens closes depth (some c) rest).map (· + 1)
    else if c == opens then (spanClose opens closes (depth + 1) none rest).map (· + 1)
    else if c == closes then
      match depth with
      | 0 => some 0
      | depth + 1 => (spanClose opens closes depth none rest).map (· + 1)
    else (spanClose opens closes depth none rest).map (· + 1)

/-- How far a run of pieces goes. -/
inductive Extent where
  /-- Up to a character that ends words. -/
  | word
  /-- Up to one of these characters. -/
  | before (stops : List Char)
  /-- Up to the bracket that closes an index. -/
  | index
  /-- Up to a blank outside of brackets. -/
  | expression
  deriving DecidableEq

/-- What a run of quoted pieces is part of, which decides where it ends and what a
backslash guards. -/
inductive Quotation where
  | string
  | document
  | arithmetic
  /-- An operand in braces within something quoted. -/
  | operand
  deriving DecidableEq

namespace Parser

/-- Take what stands in front of the bracket that closes, and the bracket. -/
def upToClose (opens closes : Char) (defect : Defect) : Parser String := do
  let text := (← get).rest
  match spanClose opens closes 0 none text with
  | none => throw defect
  | some count =>
    drop (count + 1)
    return String.ofList (text.take count)

/-- Take what stands in front of the mark, and the mark. -/
private def upToMark (mark : Char) (line : Nat) : Parser String := do
  let text := (← get).rest.takeWhile (· != mark)
  drop text.length
  if (← next?).isNone then throw (.unclosed mark line)
  return String.ofList text

/-- How many characters stand in front of the mark, those behind a backslash being passed
over. -/
private def spanMark (mark : Char) : List Char → Option Nat
  | [] => none
  | '\\' :: _ :: rest => (spanMark mark rest).map (· + 2)
  | c :: rest => if c == mark then some 0 else (spanMark mark rest).map (· + 1)

private def upToFreeMark (mark : Char) (line : Nat) : Parser String := do
  let text := (← get).rest
  match spanMark mark text with
  | none => throw (.unclosed mark line)
  | some count =>
    drop (count + 1)
    return String.ofList (text.take count)

private def removeBackslashes (keepBefore : Char → Bool) : List Char → List Char
  | '\\' :: c :: rest =>
    if keepBefore c then '\\' :: c :: removeBackslashes keepBefore rest
    else c :: removeBackslashes keepBefore rest
  | c :: rest => c :: removeBackslashes keepBefore rest
  | [] => []

/-- A script between back quotes, in which a backslash guards only a few characters. -/
private def backQuoted (isQuoted : Bool) : Parser Piece := do
  let line := (← get).line
  let text ← upToFreeMark '\x60' line
  let kept (c : Char) : Bool :=
    c != '\x60' && c != '\\' && c != '$' && !(isQuoted && c == '"')
  return .output (String.ofList (removeBackslashes kept text.toList)) line isQuoted

private def isSpecialName (c : Char) : Bool := "@*#?$!-".toList.contains c

/-- Read a whole text on its own. -/
def within {α : Type} (text : String) (reading : Parser α) : Parser α := do
  match reading { rest := text.toList, line := (← get).line } with
  | .ok (value, _) => return value
  | .error defect => throw defect

/-- A text between double brackets, if the second bracket closes the first: an arithmetic
expression. The first bracket has been taken. -/
def expression? : Parser (Option String) := do
  let here ← get
  match here.rest with
  | '(' :: rest =>
    if (spanClose '(' ')' 0 none here.rest).isNone then throw (.unclosed ')' here.line)
    match spanClose '(' ')' 0 none rest with
    | some count =>
      if (rest.drop (count + 1)).head? == some ')' then
        drop (count + 3)
        return some (String.ofList (rest.take count))
      else return none
    | none => return none
  | _ => return none

/-- The script of a dollar sign and brackets, which `script` reads up to the bracket that
closes. -/
private def inserted (script : Parser Unit) : Parser (String × Nat) := do
  let here ← get
  let finished (cursor : Cursor) : Except Defect (Unit × Cursor) :=
    match script cursor with
    | .error (.unexpected token line) => .error (.unexpected token line)
    | .error (.badCondition message token line) => .error (.badCondition message token line)
    | .error _ => .error .unclosedScript
    | .ok result => .ok result
  finished
  skipSpace
  match ← peek with
  | some ')' =>
    let there ← get
    drop 1
    return (String.ofList (here.rest.take (here.rest.length - there.rest.length)), here.line)
  | none => throw .unclosedScript
  | some c => throw (.unexpected (String.singleton c) (← get).line)

/-- The name of a variable that stands here, if one does. -/
private def name? : Parser (Option String) := do
  match ← peek with
  | some c =>
    if isNameStart c then return some (← takeWhile isNameChar)
    else if c.isDigit then return some (← takeWhile Char.isDigit)
    else if isSpecialName c then
      drop 1
      return some (String.singleton c)
    else return none
  | none => return none

private def endsAt (extent : Extent) (depth : Nat) (c : Char) : Bool :=
  match extent with
  | .word => isMeta c && depth == 0
  | .before stops => stops.contains c
  | .index => c == ']' && depth == 0
  | .expression => depth == 0 && (c == ' ' || c == '\t' || c == '\n' || c == ')')

/-- How deep in brackets the text goes on behind a character. -/
private def depthBehind (extent : Extent) (depth : Nat) (c : Char) : Nat :=
  match extent with
  | .word => if depth == 0 then 0 else if c == '(' then depth + 1 else if c == ')' then depth - 1 else depth
  | .before _ => 0
  | .index => if c == '[' then depth + 1 else if c == ']' then depth - 1 else depth
  | .expression => if c == '(' then depth + 1 else if c == ')' then depth - 1 else depth

private def guardedIn (quotation : Quotation) (c : Char) : Bool :=
  c == '\\' || c == '$' || c == '\x60' ||
    match quotation with
    | .string => c == '"'
    | .operand => c == '"' || c == '\x7d'
    | _ => false

mutual

/-- Quoted pieces up to where the quotation ends. -/
private def quotedPieces (script : Parser Unit) (line : Nat) (quotation : Quotation) :
    Nat → Parser (List Piece)
  | 0 => throw .unfinished
  | fuel + 1 => do
    if quotation == .operand && (← peek) == some '\x7d' then return []
    match ← next? with
    | none =>
      match quotation with
      | .string => throw (.unclosed '"' line)
      | .operand => throw (.unclosed '\x7d' line)
      | _ => return []
    | some '"' =>
      match quotation with
      | .string => return []
      | .document => return .quoted "\"" :: (← quotedPieces script line quotation fuel)
      | .arithmetic => quotedPieces script line quotation fuel
      | .operand =>
        let inner ← quotedPieces script line .string fuel
        return inner ++ (← quotedPieces script line quotation fuel)
    | some '\\' =>
      match ← next? with
      | none => return [.quoted "\\"]
      | some '\n' => quotedPieces script line quotation fuel
      | some c =>
        let text := if guardedIn quotation c then [c] else ['\\', c]
        return .quoted (String.ofList text) :: (← quotedPieces script line quotation fuel)
    | some '$' =>
      return (← dollar script true fuel) ++ (← quotedPieces script line quotation fuel)
    | some '\x60' =>
      return (← backQuoted true) :: (← quotedPieces script line quotation fuel)
    | some c =>
      return .quoted (String.singleton c) :: (← quotedPieces script line quotation fuel)

/-- The pieces up to where the extent ends, within so many brackets. -/
private def pieces (script : Parser Unit) (extent : Extent) : Nat → (depth : Nat) → Parser (List Piece)
  | 0, _ => throw .unfinished
  | fuel + 1, depth => do
    match ← peek with
    | none => return []
    | some c =>
      let line := (← get).line
      if extent == .word && ((← isAt "<(") || (← isAt ">(")) && depth == 0 then
        drop 2
        let (text, line) ← inserted script
        return .channel (c == '<') text line :: (← pieces script extent fuel depth)
      if endsAt extent depth c then return []
      if (← get).isExtended && extent == .word && "?*+@!".toList.contains c then
        if ((← get).rest.tail).head? == some '(' then
          drop 2
          return .plain (String.ofList [c, '(']) :: (← pieces script extent fuel (depth + 1))
      let _ ← next?
      match c with
      | '\\' =>
        match ← next? with
        | none => return [.plain "\\"]
        | some '\n' => pieces script extent fuel depth
        | some c => return .quoted (String.singleton c) :: (← pieces script extent fuel depth)
      | '\x27' =>
        return .quoted (← upToMark '\x27' line) :: (← pieces script extent fuel depth)
      | '"' =>
        let inner ← quotedPieces script line .string fuel
        return (if inner.isEmpty then [.quoted ""] else inner) ++ (← pieces script extent fuel depth)
      | '$' => return (← dollar script false fuel) ++ (← pieces script extent fuel depth)
      | '\x60' => return (← backQuoted false) :: (← pieces script extent fuel depth)
      | c =>
        return .plain (String.singleton c) :: (← pieces script extent fuel (depthBehind extent depth c))

/-- What a dollar sign introduces. -/
private def dollar (script : Parser Unit) (isQuoted : Bool) : Nat → Parser (List Piece)
  | 0 => throw .unfinished
  | fuel + 1 => do
    let line := (← get).line
    let plain : List Piece := [if isQuoted then .quoted "$" else .plain "$"]
    match ← peek with
    | some '(' =>
      drop 1
      match ← expression? with
      | some text =>
        return [.number (merge (← within text (quotedPieces script line .arithmetic fuel))) isQuoted]
      | none =>
        let (text, line) ← inserted script
        return [.output text line isQuoted]
    | some '[' =>
      drop 1
      let text ← upToClose '[' ']' (.unclosed ']' line)
      return [.number (merge (← within text (quotedPieces script line .arithmetic fuel))) isQuoted]
    | some '\x7b' =>
      drop 1
      let here ← get
      let found ← braced script isQuoted fuel
      if ← isAt "\x7d" then
        let there ← get
        drop 1
        let text := String.ofList (here.rest.take (here.rest.length - there.rest.length))
        match found with
        | some (reference, index, operand, further) =>
          let reference := { reference with text := "$\x7b" ++ text ++ "\x7d" }
          return [.variable_ reference index operand further isQuoted]
        | none => pure ()
      set here
      let text ← upToClose '\x7b' '\x7d' (.unclosed '\x7d' line)
      let reference : Reference :=
        { name := "", operation := .unknown, text := "$\x7b" ++ text ++ "\x7d" }
      return [.variable_ reference [] [] [] isQuoted]
    | some '\x27' =>
      if isQuoted then return plain
      drop 1
      let (text, _) := unescape .quoted (← upToFreeMark '\x27' line)
      return [.quoted (String.ofList (text.toList.takeWhile (· != '\x00')))]
    | some '"' => if isQuoted then return plain else return []
    | some c =>
      if isNameStart c then
        return [.variable_ { name := ← takeWhile isNameChar } [] [] [] isQuoted]
      else if c.isDigit || isSpecialName c then
        drop 1
        return [.variable_ { name := String.singleton c } [] [] [] isQuoted]
      else return plain
    | none => return plain

/-- What stands in braces behind a dollar sign, up to the brace that closes: the reference,
its index and its operands. -/
private def braced (script : Parser Unit) (isQuoted : Bool) :
    Nat → Parser (Option (Reference × Word × Word × Word))
  | 0 => throw .unfinished
  | fuel + 1 => do
    let line := (← get).line
    let subscript : Parser (Selection × Word) := do
      if !(← isAt "[") then return (.whole, [])
      drop 1
      if ← take "@]" then return (.each, [])
      if ← take "*]" then return (.joined, [])
      let index ← pieces script .index fuel 0
      if !(← take "]") then throw (.unclosed ']' line)
      return (.element, merge index)
    let operand (isPattern : Bool) (stops : List Char) : Parser Word := do
      if isQuoted && !isPattern then return merge (← quotedPieces script line .operand fuel)
      else return merge (← pieces script (.before stops) fuel 0)
    let here ← get
    if ← take "#" then
      if let some name ← name? then
        let (selection, index) ← subscript
        if ← isAt "\x7d" then
          return some ({ name, selection, operation := .length }, index, [], [])
      set here
    let isIndirect ← do
      if !(← take "!") then pure false
      else
        match ← peek with
        | some c => pure (isNameStart c || c.isDigit || "@*#?!$".toList.contains c)
        | none => pure false
    if !isIndirect then set here
    let some name ← name? | return none
    let (selection, index) ← subscript
    if isIndirect && ((← isAt "*\x7d") || (← isAt "@\x7d")) then
      let selection : Selection := if ← isAt "*" then .joined else .each
      drop 1
      return some ({ name, selection, operation := .names }, [], [], [])
    let reference : Reference := { name, selection, isIndirect }
    let with_ (operation : Operation) (operand : Word) (further : Word) :
        Option (Reference × Word × Word × Word) :=
      some ({ reference with operation }, index, operand, further)
    if ← isAt "\x7d" then return with_ .value [] []
    let here ← get
    let colon ← take ":"
    if ← take "-" then return with_ (.fallback colon) (← operand false ['\x7d']) []
    if ← take "=" then return with_ (.assign colon) (← operand false ['\x7d']) []
    if ← take "?" then return with_ (.demand colon) (← operand false ['\x7d']) []
    if ← take "+" then return with_ (.alternative colon) (← operand false ['\x7d']) []
    if colon then
      let offset ← operand true [':', '\x7d']
      if ← take ":" then return with_ (.slice true) offset (← operand true ['\x7d'])
      if offset.isEmpty then return none
      return with_ (.slice false) offset []
    set here
    if ← take "##" then return with_ (.removeFront true) (← operand true ['\x7d']) []
    if ← take "#" then return with_ (.removeFront false) (← operand true ['\x7d']) []
    if ← take "%%" then return with_ (.removeBack true) (← operand true ['\x7d']) []
    if ← take "%" then return with_ (.removeBack false) (← operand true ['\x7d']) []
    if ← take "/" then
      let place : Place ←
        if ← take "/" then pure .everywhere
        else if ← take "#" then pure .front
        else if ← take "%" then pure .back
        else pure .first
      let pattern ← operand true ['/', '\x7d']
      let replacement ← if ← take "/" then operand true ['\x7d'] else pure []
      return with_ (.replace place) pattern replacement
    for (mark, change) in [("^", CaseChange.upper), (",", CaseChange.lower), ("~", CaseChange.swap)] do
      if ← take (mark ++ mark) then
        return with_ (.letters change true) (← operand true ['\x7d']) []
      if ← take mark then
        return with_ (.letters change false) (← operand true ['\x7d']) []
    if ← take "@" then
      match ← next? with
      | some letter => return with_ (.transform letter) [] []
      | none => return none
    return none

end

private def enough : Parser Nat := return 2 * (← get).rest.length + 2

/-- The word that stands here, if one does. -/
def word? (script : Parser Unit) : Parser (Option Word) := do
  match ← peek with
  | none => return none
  | some c =>
    if isMeta c && !(← isAt "<(") && !(← isAt ">(") then return none
    return some (merge (← pieces script .word (← enough) 0))

/-- An index that stands here, up to the bracket that closes. -/
def index (script : Parser Unit) : Parser Word := do
  return merge (← pieces script .index (← enough) 0)

/-- A regular expression that stands here. -/
def regularExpression (script : Parser Unit) : Parser Word := do
  return merge (← pieces script .expression (← enough) 0)

/-- The pieces of an arithmetic expression. -/
def arithmetic (script : Parser Unit) (text : String) : Parser Word := do
  let line := (← get).line
  return merge (← within text (do quotedPieces script line .arithmetic (← enough)))

/-- Lines up to the one that ends a document, that line, and how many lines that is. -/
private def documentLines (stop : String) (strip : Bool) :
    Nat → List Char → List String × Option (List Char) × Nat
  | 0, _ => ([], none, 0)
  | _, [] => ([], none, 0)
  | fuel + 1, text =>
    let line := text.takeWhile (· != '\n')
    let rest := text.drop line.length
    let shown := String.ofList (if strip then line.dropWhile (· == '\t') else line)
    if shown == stop then ([], some rest.tail, 1)
    else
      let (lines, behind, count) := documentLines stop strip fuel rest.tail
      ((if rest.isEmpty then shown else shown ++ "\n") :: lines, behind, count + 1)

/-- The document that begins behind this line. It belongs to the word that ends it, and is
taken out of the text. -/
def document (stop : String) (strip : Bool) : Parser String := do
  let cursor ← get
  let start ← match cursor.behind with
    | some (rest, lines) => pure (rest, lines)
    | none =>
      match cursor.rest.dropWhile (· != '\n') with
      | _ :: rest => pure (rest, 0)
      | [] => if cursor.isWhole then pure ([], 0) else throw .unfinished
  let (lines, behind, count) := documentLines stop strip (start.1.length + 1) start.1
  match behind with
  | some rest => set { cursor with behind := some (rest, start.2 + count) }
  | none =>
    if !cursor.isWhole then throw .unfinished
    let entry := (cursor.line, cursor.line + start.2 + count, stop)
    set { cursor with
      behind := some ([], start.2 + count)
      openDocuments := cursor.openDocuments ++ [entry] }
  return String.join lines

/-- What a document stands for in which variables are replaced. -/
def documentPieces (script : Parser Unit) (text : String) : Parser Word := do
  let line := (← get).line
  return merge (← within text (do quotedPieces script line .document (← enough)))

private def operators : List String :=
  ["&>>", "<<<", "<<-", ";;&", "&&", "||", ";;", ";&", "|&", ">>", "<<", ">&", "<&", "&>", ">|",
    "<>", ";", "&", "|", "(", ")", "<", ">"]

/-- What stands here, as far as it is one token. -/
def tokenHere (script : Parser Unit) : Parser String := do
  let before := (← get).rest
  match operators.find? fun operator => operator.toList.isPrefixOf before with
  | some operator => return operator
  | none =>
    if before.head? == some '\n' then return "newline"
    let after ← look do
      let _ ← word? script
      return (← get).rest
    return String.ofList (before.take (before.length - after.length))

/-- Refuse what stands here. -/
def refuse {α : Type} (script : Parser Unit) : Parser α := do
  skipBlanks
  if (← peek).isNone then throw .unfinished
  throw (.unexpected (← tokenHere script) (← get).line)

end Parser

end Provision.Shell
