import Provision.Shell.Pattern

/-! Splitting what words stand for into fields. -/

namespace Provision.Shell

/-- Part of what a word stands for. -/
inductive Fragment where
  /-- Taken as it is, even if it is empty. -/
  | solid (text : String)
  /-- Written freely, so that it can be part of a pattern. -/
  | plain (text : String)
  /-- Written freely and split at separators. -/
  | loose (text : String)
  /-- A field ends here. Where no fields are made, the text stands in between. -/
  | boundary (joint : String)
  deriving Repr

namespace Fragment

def ofText (isQuoted : Bool) (text : String) : Fragment :=
  if isQuoted then .solid text else .loose text

def text : Fragment → String
  | .solid text | .plain text | .loose text | .boundary text => text

/-- The characters of a fragment, each with whether it was written freely. -/
def field : Fragment → Field
  | .solid text | .boundary text => Field.quoted text
  | .plain text | .loose text => Field.free text

/-- What is written freely counts as the result of an expansion. -/
def loosened : Fragment → Fragment
  | .plain text => .loose text
  | fragment => fragment

end Fragment

/-- The fragments as one text. -/
def joined (fragments : List Fragment) : String := String.join (fragments.map Fragment.text)

/-- Fields in the making: those that are complete, last one first, and the one that is
not, if it has begun. -/
private structure Split where
  done : List Field := []
  open_ : Option Field := none
  /-- Whether blanks ended the last field, so that another separator still belongs to its
  end. -/
  behindBlank : Bool := false

private def Split.close (split : Split) : Split :=
  match split.open_ with
  | some field => { done := field.reverse :: split.done, open_ := none }
  | none => split

private def Split.push (split : Split) (c : Char) (free : Bool) : Split :=
  { split with open_ := some ((c, free) :: split.open_.getD []), behindBlank := false }

/-- Begin a field if none has begun. -/
private def Split.begin_ (split : Split) : Split :=
  { split with open_ := some (split.open_.getD []), behindBlank := false }

/-- Blanks end a field that has begun. Another separator ends one even if it is empty,
unless blanks have ended it already. -/
private def Split.separate (split : Split) (c : Char) : Split :=
  if c == ' ' || c == '\t' || c == '\n' then
    { split.close with behindBlank := split.behindBlank || split.open_.isSome }
  else if split.behindBlank && split.open_.isNone then { split with behindBlank := false }
  else { split.begin_.close with behindBlank := false }

private def Split.add (separators : List Char) (split : Split) : Fragment → Split
  | .solid text => text.toList.foldl (fun split c => split.push c false) split.begin_
  | .plain text => text.toList.foldl (fun split c => split.push c true) split
  | .loose text =>
    text.toList.foldl
      (fun split c => if separators.contains c then split.separate c else split.push c true) split
  | .boundary _ => { split.close with behindBlank := false }

/-- The fields that fragments make up. -/
def fieldsOf (separators : List Char) (fragments : List Fragment) : List Field :=
  (fragments.foldl (Split.add separators) {}).close.done.reverse

end Provision.Shell
