/-! A place in a script that is being read, and what can be wrong with a script. -/

namespace Provision.Shell

structure Cursor where
  rest : List Char
  line : Nat
  /-- Where the text goes on behind the line that is being read, if a document that belongs
  to the line stands there first, and how many lines that document has. -/
  behind : Option (List Char × Nat) := none
  /-- Whether nothing more of the script can come. -/
  isWhole : Bool := true
  /-- Whether patterns may hold lists of others. -/
  isExtended : Bool := false
  /-- Documents that end with the script: the lines at which they begin and end, and the
  text that should have ended them. -/
  openDocuments : List (Nat × Nat × String) := []

inductive Defect where
  /-- A mark that opened on this line has no counterpart. -/
  | unclosed (mark : Char) (line : Nat)
  /-- A list that begins on this line has no end. -/
  | unclosedList (line : Nat)
  /-- The script ends within a command. -/
  | unfinished
  /-- The script ends within an inserted script. -/
  | unclosedScript
  | unexpected (token : String) (line : Nat)
  /-- A loop has no expressions to count with, for which there are several words. -/
  | badLoop (messages : List String) (line : Nat)
  /-- A condition is no condition. -/
  | badCondition (message : String) (token : String) (line : Nat)

/-- Whether more of the script could mend the defect. -/
def Defect.canGrow : Defect → Bool
  | .unexpected .. | .badCondition .. | .badLoop .. => false
  | _ => true

abbrev Parser := StateT Cursor (Except Defect)

namespace Parser

def peek : Parser (Option Char) := return (← get).rest.head?

/-- Take the next character. -/
def next? : Parser (Option Char) := fun cursor =>
  match cursor.rest with
  | [] => .ok (none, cursor)
  | c :: rest => .ok (some c, { cursor with rest, line := if c == '\n' then cursor.line + 1 else cursor.line })

/-- Go on behind a text that has been looked at. -/
def drop (count : Nat) : Parser Unit :=
  modify fun cursor =>
    { cursor with
      rest := cursor.rest.drop count
      line := cursor.line + (cursor.rest.take count).count '\n' }

/-- Whether the text stands here. -/
def isAt (text : String) : Parser Bool := return text.toList.isPrefixOf (← get).rest

/-- Take the text if it stands here. -/
def take (text : String) : Parser Bool := do
  let found ← isAt text
  if found then drop text.length
  return found

def takeWhile (keep : Char → Bool) : Parser String := do
  let text := (← get).rest.takeWhile keep
  drop text.length
  return String.ofList text

/-- Take a line end if it stands here, with the documents behind it. -/
def takeLineEnd : Parser Bool := fun cursor =>
  match cursor.rest, cursor.behind with
  | '\n' :: _, some (rest, lines) =>
    .ok (true, { cursor with rest, line := cursor.line + 1 + lines, behind := none })
  | '\n' :: rest, none => .ok (true, { cursor with rest, line := cursor.line + 1 })
  | _, _ => .ok (false, cursor)

private def behindBlanks (line : Nat) : List Char → List Char × Nat
  | '\\' :: '\n' :: rest => behindBlanks (line + 1) rest
  | ' ' :: rest => behindBlanks line rest
  | '\t' :: rest => behindBlanks line rest
  | '#' :: rest => (rest.dropWhile (· != '\n'), line)
  | rest => (rest, line)

/-- Skip blanks, escaped line ends and a comment. -/
def skipBlanks : Parser Unit :=
  modify fun cursor =>
    let (rest, line) := behindBlanks cursor.line cursor.rest
    { cursor with rest, line }

/-- Skip whole lines that hold nothing, too. -/
def skipLines : Nat → Parser Unit
  | 0 => pure ()
  | fuel + 1 => do
    skipBlanks
    if ← takeLineEnd then skipLines fuel

/-- Skip everything in front of the next token. -/
def skipSpace : Parser Unit := do skipLines ((← get).rest.length + 1)

/-- Look at what a reading would find here. -/
def look {α : Type} (reading : Parser α) : Parser α := do
  let here ← get
  let found ← reading
  set here
  return found

end Parser

end Provision.Shell
