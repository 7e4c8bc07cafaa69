import Provision.Platform
import Provision.Step

/-! A piece of software in one version, and the recipe that installs it. -/

namespace Provision

structure Software where
  name : Option String := none
  version : Option String := none
  arch : Option Arch := none
  parameter : String := ""
  steps : List Step := []
  deriving DecidableEq, Repr

/-- What a person would call it. -/
def Software.label (software : Software) : String :=
  match software.name, software.version with
  | some name, _ => name
  | none, some version => version
  | none, none => "recipe"

end Provision

/-! Numeric components of a human-readable version such as `67.0.4esr`. -/

namespace Provision.Version

/-- The value of a digit run, or zero if it does not fit in 32 bits. -/
def runValue (digits : List Char) : Nat :=
  let value := digits.foldl (fun value c => 10 * value + (c.toNat - 48)) 0
  if value < 0x100000000 then value else 0

/-- The component at an index: digit runs separated by single dots are counted
from the front, and the count ends at the first run that is missing. -/
def component : (index : Nat) → List Char → Nat
  | 0, text => runValue (text.takeWhile Char.isDigit)
  | index + 1, text =>
    if (text.takeWhile Char.isDigit).isEmpty then 0
    else
      match text.dropWhile Char.isDigit with
      | '.' :: rest => component index rest
      | _ => 0

def get (text : String) (index : Nat) : Nat := component index text.toList

def major (text : String) : Nat := get text 0

def minor (text : String) : Nat := get text 1

end Provision.Version
