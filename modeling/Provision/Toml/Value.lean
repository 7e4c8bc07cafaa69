import Provision.Uuid

/-! TOML documents as trees. Tables remember how they came to be, because that decides in
which ways they may still grow. -/

namespace Provision

/-- How a table was made. -/
inductive TableOrigin where
  /-- The document itself, or a table with a header of its own. -/
  | header
  /-- A table that only stands on the way to another header. -/
  | implied
  /-- A table made by a dotted key. -/
  | dotted
  /-- A table written in braces, which never grows. -/
  | inline
  deriving DecidableEq, Repr

inductive Toml where
  | string (text : String)
  | integer (value : Int)
  | float
  | bool (value : Bool)
  | datetime
  | array (items : List Toml)
  | table (origin : TableOrigin) (members : List (String × Toml))
  /-- An array that is written header by header. -/
  | tables (items : List Toml)
  deriving Inhabited

namespace Toml

/-- The members of a table. -/
abbrev Members := List (String × Toml)

namespace Members

def get? (members : Members) (key : String) : Option Toml :=
  (members.find? fun member => member.1 == key).map Prod.snd

/-- Put a value in the place of an earlier one, or behind all others. -/
def put (members : Members) (key : String) (value : Toml) : Members :=
  if members.any fun member => member.1 == key then
    members.map fun member => if member.1 == key then (key, value) else member
  else members ++ [(key, value)]

end Members

/-- Whether keys of this sort may pass through the table. Dotted keys add nothing to a
table that has a header, and nothing at all is added to one in braces. -/
def mayPass (dotted : Bool) : TableOrigin → Bool
  | .inline => false
  | .header => !dotted
  | .implied | .dotted => true

/-- Change the table at the end of a path; tables that are missing on the way are made. In
an array of tables the way goes through its last. -/
def descend (dotted : Bool) (change : TableOrigin → Members → Option Members) :
    (path : List String) → TableOrigin → Members → Option Members
  | [], origin, members => change origin members
  | key :: rest, _, members =>
    match members.get? key with
    | none =>
      let origin := if dotted then .dotted else .implied
      (descend dotted change rest origin []).map fun below =>
        members.put key (.table origin below)
    | some (.table origin below) =>
      if mayPass dotted origin then
        (descend dotted change rest origin below).map fun below =>
          members.put key (.table origin below)
      else none
    | some (.tables items) =>
      match items.getLast? with
      | some (.table origin below) =>
        (descend dotted change rest origin below).map fun below =>
          members.put key (.tables (items.dropLast ++ [.table origin below]))
      | _ => none
    | some _ => none

/-- Add a value under a key that is new. Only tables made by dotted keys are added to
through dotted keys. -/
def addValue (path : List String) (key : String) (value : Toml) (origin : TableOrigin)
    (members : Members) : Option Members :=
  descend true (fun origin members =>
    if (origin == .dotted) == path.isEmpty || (members.get? key).isSome then none
    else some (members ++ [(key, value)])) path origin members

/-- Open the table of a header. One that was only implied so far may get its header. -/
def openTable (path : List String) (key : String) (members : Members) : Option Members :=
  descend false (fun _ members =>
    match members.get? key with
    | none => some (members ++ [(key, .table .header [])])
    | some (.table .implied below) => some (members.put key (.table .header below))
    | some _ => none) path .header members

/-- Open one more table of an array of tables. -/
def openNext (path : List String) (key : String) (members : Members) : Option Members :=
  descend false (fun _ members =>
    match members.get? key with
    | none => some (members ++ [(key, .tables [.table .header []])])
    | some (.tables items) => some (members.put key (.tables (items ++ [.table .header []])))
    | some _ => none) path .header members

end Toml

end Provision

/-! Records in TOML. A record is a table of its fields, or a list of them in their fixed
order, the last of which may be left out. -/

namespace Provision.Toml

def text? : Toml → Option String
  | string text => some text
  | _ => none

private def isEmpty : Toml → Bool
  | array items | tables items => items.isEmpty
  | table _ members => members.isEmpty
  | _ => false

/-- A word out of a fixed set: itself, or the only key of a table that has nothing to say
about it. -/
def word? : Toml → Option String
  | string text => some text
  | table _ [(name, value)] => if isEmpty value then some name else none
  | _ => none

/-- How to find the fields of a record by name. What follows the last field of a list does
not count. -/
def fields? (names : List String) : Toml → Option (String → Option Toml)
  | table _ members => some (Members.get? members)
  | array items | tables items =>
    some fun name => ((names.zip items).find? fun entry => entry.1 == name).map Prod.snd
  | _ => none

def items? : Toml → Option (List Toml)
  | array items | tables items => some items
  | _ => none

/-- A natural number below a bound. -/
def natBelow? (bound : Nat) : Toml → Option Nat
  | integer value => if 0 ≤ value && value < bound then some value.toNat else none
  | _ => none

/-- An identifier: its text, or a list of its bytes. What follows the last byte does not
count. -/
def uuid? : Toml → Option Uuid
  | string text => Uuid.parse? text
  | array items | tables items => do
    let bytes ← (items.take 16).mapM (natBelow? 256)
    if bytes.length == 16 then some (Uuid.ofBytes bytes) else none
  | _ => none

/-- A field that may be left out. -/
def orElse {α : Type} (default : α) (read : Toml → Option α) : Option Toml → Option α
  | none => some default
  | some value => read value

/-- A field that need not be there. -/
def optional? {α : Type} (read : Toml → Option α) : Option Toml → Option (Option α)
  | none => some none
  | some value => (read value).map some

end Provision.Toml
