import Provision.Shell.Quoting
import Provision.Shell.Syntax

/-! Variables: texts, lists with numbers for indices, and tables with texts for keys. -/

namespace Provision.Shell

/-! ## The order of names -/

/-- How many groups names and keys are spread over. -/
private def groups : Nat := 1024

/-- The group of a name, by which names without another order are ordered. -/
def groupOf (name : String) : Nat :=
  let mix (sum : UInt32) (c : Char) : UInt32 :=
    let octet : UInt32 := if c.toNat < 128 then c.toNat.toUInt32
      else (c.toNat + 0xFFFFFF00).toUInt32
    (sum * 16777619) ^^^ octet
  (name.toList.foldl mix 2166136261).toNat % groups

/-! ## Values -/

inductive Value where
  /-- None at all. -/
  | unset
  | plain (text : String)
  /-- Lowest index first. -/
  | list (entries : List (Nat × String))
  /-- In the order of the groups of the keys, and within a group newest first. -/
  | table (entries : List (String × String))
  deriving DecidableEq, Repr

private def insertAt (index : Nat) (text : String) : List (Nat × String) → List (Nat × String)
  | [] => [(index, text)]
  | (other, before) :: rest =>
    if other < index then (other, before) :: insertAt index text rest
    else if other == index then (index, text) :: rest
    else (index, text) :: (other, before) :: rest

private def insertNew (key text : String) : List (String × String) → List (String × String)
  | [] => [(key, text)]
  | (other, before) :: rest =>
    if groupOf other < groupOf key then (other, before) :: insertNew key text rest
    else (key, text) :: (other, before) :: rest

private def insertKey (key text : String) (entries : List (String × String)) :
    List (String × String) :=
  if entries.any fun entry => entry.1 == key then
    entries.map fun entry => if entry.1 == key then (key, text) else entry
  else insertNew key text entries

/-- What names an element. -/
inductive Index where
  | number (value : Nat)
  | key (text : String)
  deriving DecidableEq, Repr

namespace Value

def ofTexts (texts : List String) : Value := .list (texts.zipIdx.map fun (text, i) => (i, text))

/-- Every element with the text of its index. -/
def elements : Value → List (String × String)
  | .unset => []
  | .plain text => [("0", text)]
  | .list entries => entries.map fun (index, text) => (toString index, text)
  | .table entries => entries

/-- The text that stands for the whole: of a list or a table, that of its first index. -/
def first? : Value → Option String
  | .unset => none
  | .plain text => some text
  | .list entries => (entries.find? fun entry => entry.1 == 0).map Prod.snd
  | .table entries => (entries.find? fun entry => entry.1 == "0").map Prod.snd

def element? (value : Value) (index : Index) : Option String :=
  match value, index with
  | .plain text, .number 0 => some text
  | .list entries, .number index => (entries.find? fun entry => entry.1 == index).map Prod.snd
  | .table entries, .key key => (entries.find? fun entry => entry.1 == key).map Prod.snd
  | _, _ => none

/-- Give an element a text. What is no list becomes one, its text being the first element. -/
def setElement (value : Value) (index : Index) (text : String) : Value :=
  match value, index with
  | .table entries, .key key => .table (insertKey key text entries)
  | .table entries, .number index => .table (insertKey (toString index) text entries)
  | .list entries, .number index => .list (insertAt index text entries)
  | .plain before, .number index => .list (insertAt index text [(0, before)])
  | .unset, .number index => .list [(index, text)]
  | .unset, .key key => .table [(key, text)]
  | value, .key _ => value

def removeElement (value : Value) (index : Index) : Value :=
  match value, index with
  | .list entries, .number index => .list (entries.filter fun entry => entry.1 != index)
  | .table entries, .key key => .table (entries.filter fun entry => entry.1 != key)
  | .plain _, .number 0 => .unset
  | value, _ => value

/-- Give the whole a text, which for a list or a table is its first element. -/
def setFirst (value : Value) (text : String) : Value :=
  match value with
  | .list _ => value.setElement (.number 0) text
  | .table _ => value.setElement (.key "0") text
  | _ => .plain text

/-- One more than the largest index. -/
def nextIndex : Value → Nat
  | .list entries => (entries.getLast?.map fun entry => entry.1 + 1).getD 0
  | .plain _ => 1
  | _ => 0

def isSet : Value → Bool
  | .unset => false
  | _ => true

end Value

/-! ## Variables -/

structure Variable where
  value : Value := .unset
  isExported : Bool := false
  isReadonly : Bool := false
  /-- Whether values are expressions of which the result is kept. -/
  isInteger : Bool := false
  isList : Bool := false
  isTable : Bool := false
  /-- Whether the value is the name of the variable that is meant. -/
  isReference : Bool := false
  letters : Option CaseChange := none
  deriving DecidableEq, Repr

namespace Variable

/-- The letters that tell what kind of variable it is. -/
def traits (found : Variable) : String :=
  let shown := [(found.isList, 'a'), (found.isTable, 'A'), (found.isInteger, 'i'),
    (found.isReference, 'n'), (found.isReadonly, 'r'), (found.isExported, 'x'),
    (found.letters == some .lower, 'l'), (found.letters == some .swap, 'c'),
    (found.letters == some .upper, 'u')]
  String.ofList ((shown.filter Prod.fst).map Prod.snd)

private def keyText (key : String) : String :=
  if Quoting.needsEscapes key || Quoting.hasMeta key || key == "@" || key == "*" then
    Quoting.declared key
  else key

/-- A list or a table as it would be assigned. -/
def compound? (found : Variable) : Option String :=
  match found.value with
  | .list entries =>
    let shown := entries.map fun (index, text) =>
      "[" ++ toString index ++ "]=" ++ Quoting.declared text
    some ("(" ++ String.intercalate " " shown ++ ")")
  | .table entries =>
    let shown := entries.map fun (key, text) =>
      "[" ++ keyText key ++ "]=" ++ Quoting.declared text ++ " "
    some ("(" ++ String.join shown ++ ")")
  | _ => none

/-- The declaration that makes such a variable. -/
def declaration (found : Variable) (name : String) : String :=
  let traits := if found.traits.isEmpty then "-" else found.traits
  let front := "declare -" ++ traits ++ " " ++ name
  match found.value, found.compound? with
  | .plain text, _ => front ++ "=" ++ Quoting.declared text
  | _, some text => front ++ "=" ++ text
  | _, none => front

/-- A name and its value among all variables. -/
def listing (found : Variable) (name : String) : String :=
  match found.value, found.compound? with
  | .plain text, _ => name ++ "=" ++ Quoting.assigned text
  | _, some text => name ++ "=" ++ text
  | _, none => name

private def changed (change : CaseChange) (c : Char) : Char :=
  match change with
  | .upper => c.toUpper
  | .lower => c.toLower
  | .swap => if c.isUpper then c.toLower else c.toUpper

/-- A text with the case that the variable keeps it in. -/
def cased (found : Variable) (text : String) : String :=
  match found.letters, text.toList with
  | some .swap, first :: rest => String.ofList (first.toUpper :: rest.map Char.toLower)
  | some change, chars => String.ofList (chars.map (changed change))
  | none, _ => text

end Variable

/-- Variables that belong together. Those of a function are seen only while it runs. -/
structure Scope where
  entries : List (String × Variable) := []
  ofFunction : Bool := false

namespace Scope

def find? (scope : Scope) (name : String) : Option Variable :=
  (scope.entries.find? fun entry => entry.1 == name).map Prod.snd

def put (scope : Scope) (name : String) (found : Variable) : Scope :=
  { scope with entries := (name, found) :: scope.entries.filter fun entry => entry.1 != name }

def remove (scope : Scope) (name : String) : Scope :=
  { scope with entries := scope.entries.filter fun entry => entry.1 != name }

end Scope

end Provision.Shell
