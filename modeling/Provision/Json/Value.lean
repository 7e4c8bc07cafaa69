/-! JSON values. Members keep their order and may repeat, numbers keep their
spelling, and a string whose escapes name half a surrogate pair denotes no
text. -/

namespace Provision

inductive Json where
  | null
  | bool (value : Bool)
  | number (literal : String)
  | string (text : Option String)
  | array (items : List Json)
  | object (members : List (Option String × Json))
  deriving Inhabited

namespace Json

def ofText (text : String) : Json := string (some text)

def ofNat (value : Nat) : Json := number (toString value)

/-- An object with these keys, in this order. -/
def ofMembers (members : List (String × Json)) : Json :=
  object (members.map fun member => (some member.1, member.2))

def text? : Json → Option String
  | string text => text
  | _ => none

def items? : Json → Option (List Json)
  | array items => some items
  | _ => none

/-- The value of the first member with this key. -/
def get? (value : Json) (key : String) : Option Json :=
  match value with
  | object members => (members.find? fun member => member.1 == some key).map Prod.snd
  | _ => none

end Json

end Provision

/-! Records in JSON. A record is an object of its fields, in any order and with unknown ones
among them, or a list of them in their fixed order, the last of which may be left out. -/

namespace Provision.Json

/-- Whether every key is a text and none of the known names is there twice. -/
def areDistinct (names : List String) (members : List (Option String × Json)) : Bool :=
  members.all (fun member => member.1.isSome) &&
    names.all fun name => (members.filter fun member => member.1 == some name).length ≤ 1

/-- The value at the place that a name has in a list of names. -/
def atName? {α : Type} (names : List String) (items : List α) (name : String) : Option α :=
  ((names.zip items).find? fun entry => entry.1 == name).map Prod.snd

/-- How to find the fields of a record by name. A list of more values than there are fields
is none. -/
def fields? (names : List String) : Json → Option (String → Option Json)
  | object members =>
    if areDistinct names members then some (object members).get? else none
  | array items => if items.length ≤ names.length then some (atName? names items) else none
  | _ => none

/-- A word out of a fixed set: itself, or the only key of an object that has nothing to say
about it. -/
def word? : Json → Option String
  | string text => text
  | object [(some name, null)] => some name
  | _ => none

/-- A field that may be left out. -/
def orElse {α : Type} (default : α) (read : Json → Option α) : Option Json → Option α
  | none => some default
  | some value => read value

/-- A field that may be left out or null. -/
def optional? {α : Type} (read : Json → Option α) : Option Json → Option (Option α)
  | none | some null => some none
  | some value => (read value).map some

end Provision.Json
