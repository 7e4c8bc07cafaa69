/-! What shell scripts are made of. All texts are octets. -/

namespace Provision.Shell

/-- Which part of a variable is meant. -/
inductive Selection where
  /-- The variable itself, which for an array is its first element. -/
  | whole
  /-- Every element, each on its own. -/
  | each
  /-- Every element, all in one text. -/
  | joined
  /-- The element that an index names. -/
  | element
  deriving DecidableEq, Repr

/-- Where a pattern is replaced. -/
inductive Place where
  | first | everywhere | front | back
  deriving DecidableEq, Repr

/-- How the case of letters is changed. -/
inductive CaseChange where
  | upper | lower | swap
  deriving DecidableEq, Repr

/-- What is done with the value of a variable. With `blankToo` an empty value counts as
none. -/
inductive Operation where
  | value
  | length
  /-- The names of the variables that begin like this. -/
  | names
  | fallback (blankToo : Bool)
  | assign (blankToo : Bool)
  | demand (blankToo : Bool)
  | alternative (blankToo : Bool)
  | removeFront (longest : Bool)
  | removeBack (longest : Bool)
  | replace (place : Place)
  | slice (bounded : Bool)
  | letters (change : CaseChange) (everywhere : Bool)
  | transform (letter : Char)
  /-- Nothing that has a meaning. -/
  | unknown
  deriving DecidableEq, Repr

/-- What a dollar sign asks for. -/
structure Reference where
  name : String
  selection : Selection := .whole
  /-- Whether the value is the name of the variable that is meant; of an array, whether its
  indices are meant. -/
  isIndirect : Bool := false
  operation : Operation := .value
  /-- How it is written. -/
  text : String := ""
  deriving Repr

/-- Part of a word. What is quoted is never split and holds no patterns. -/
inductive Piece where
  | plain (text : String)
  | quoted (text : String)
  /-- A variable, with an index, an operand and another one, as its operation needs
  them. -/
  | variable_ (reference : Reference) (index operand further : List Piece) (isQuoted : Bool)
  /-- What a script prints that begins on this line. -/
  | output (script : String) (line : Nat) (isQuoted : Bool)
  /-- The value of an arithmetic expression. -/
  | number (expression : List Piece) (isQuoted : Bool)
  /-- A file from which the output of a script is read, or to which its input is
  written. -/
  | channel (isRead : Bool) (script : String) (line : Nat)
  deriving Inhabited, Repr

abbrev Word := List Piece

/-- An element of a list that is assigned. -/
structure Element where
  index : Option Word
  append : Bool
  value : Word
  deriving Repr

inductive Assigned where
  | word (word : Word)
  /-- A list, with how it is written. -/
  | list (elements : List Element) (text : String)
  deriving Repr

structure Assignment where
  name : String
  index : Option Word
  append : Bool
  value : Assigned
  deriving Repr

/-- What follows the name of a command. -/
inductive Argument where
  | word (word : Word)
  | assignment (assignment : Assignment)
  deriving Repr

/-- Where a port is led. -/
inductive Target where
  | read (word : Word)
  | write (word : Word) (append clobber : Bool)
  | update (word : Word)
  | duplicate (word : Word)
  /-- A text that is read, with or without a line end behind it. -/
  | supply (word : Word) (ended : Bool)
  deriving Repr

structure Redirection where
  port : Nat
  target : Target
  /-- How the target is written. -/
  text : String := ""
  deriving Repr

/-- A condition in double brackets. -/
inductive Test where
  | word (word : Word)
  | unary (operator : String) (word : Word)
  | binary (operator : String) (left right : Word)
  | negated (test : Test)
  | both (left right : Test)
  | either (left right : Test)
  deriving Repr

/-- What follows the commands of a branch: nothing, the commands of the next branch, or the
next branch that is chosen. -/
inductive BranchEnd where
  | leave | fallThrough | goOn
  deriving DecidableEq, Repr

inductive Command where
  | simple (line : Nat) (assignments : List Assignment) (arguments : List Argument)
      (redirections : List Redirection)
  | condition (line : Nat) (test : Test)
  | arithmetic (line : Nat) (expression : Word)
  | pipeline (negated : Bool) (parts : List Command)
  /-- Tell how long the body takes, in a short form or in the usual one. -/
  | timed (isShort : Bool) (body : Command)
  | both (left right : Command)
  | either (left right : Command)
  | sequence (parts : List Command)
  | background (body : Command)
  | subshell (body : Command)
  | choice (test accepted rejected : Command)
  /-- Repeat the body as long as the test succeeds, or as long as it fails. -/
  | loop (expected : Bool) (test body : Command)
  /-- Repeat the body for every word, or for every argument if no words are given. The text
  tells how the words are written. -/
  | each (line : Nat) (name : String) (words : Option (List Word)) (text : String)
      (body : Command)
  /-- Repeat the body with expressions in front of all, in front of each round and behind
  it. -/
  | count (line : Nat) (first test step : Word) (body : Command)
  /-- Run the branch that the subject, which is written like this, belongs to. -/
  | select (line : Nat) (subject : Word) (text : String)
      (branches : List (List Word × Command × BranchEnd))
  | define (name : String) (body : Command)
  | redirected (body : Command) (redirections : List Redirection)
  deriving Inhabited, Repr

/-- The text of a word that is written plainly throughout. -/
def literal? : Word → Option String
  | [.plain text] => some text
  | _ => none

def isNameStart (c : Char) : Bool := c.isAlpha || c == '_'

def isNameChar (c : Char) : Bool := c.isAlphanum || c == '_'

def isName (text : String) : Bool :=
  match text.toList with
  | [] => false
  | c :: rest => isNameStart c && rest.all isNameChar

end Provision.Shell
