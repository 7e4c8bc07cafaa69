/-! Paths as texts: their components, parents and names. Nothing here looks at a
disk. -/

namespace Provision.PathText

inductive Component where
  | root
  | here
  | up
  | name (text : String)
  deriving DecidableEq, Repr

/-- The pieces between slashes, empty ones left out. -/
def pieces (path : String) : List String :=
  (path.toList.splitOn '/').filterMap fun piece =>
    if piece.isEmpty then none else some (String.ofList piece)

def isAbsolute (path : String) : Bool := path.toList.head? == some '/'

/-- Repeated slashes and single dots count for nothing, except for a dot in front of
a relative path. -/
def components (path : String) : List Component :=
  let body := (pieces path).filterMap fun piece =>
    if piece == "." then none else if piece == ".." then some .up else some (.name piece)
  if isAbsolute path then .root :: body
  else if (pieces path).head? == some "." then .here :: body
  else body

/-- The last component, if it is a name. -/
def fileName? (path : String) : Option String :=
  match (components path).getLast? with
  | some (.name text) => some text
  | _ => none

/-- Remove slashes and single dots from the end of a reversed path, but nothing of
its first `floor` characters. -/
def dropTail (floor : Nat) : List Char → List Char
  | '/' :: rest => if rest.length < floor then '/' :: rest else dropTail floor rest
  | '.' :: '/' :: rest =>
    if rest.length < floor then '.' :: '/' :: rest else dropTail floor rest
  | other => other

/-- How much of a path belongs to its root or to its leading dot. -/
def floorOf (path : String) : Nat :=
  match components path with
  | .root :: _ | .here :: _ => 1
  | _ => 0

/-- The path without its last component, in its own spelling. A root has no parent,
and neither has the empty path. -/
def parent? (path : String) : Option String :=
  match (components path).getLast? with
  | none | some .root => none
  | some .here => some ""
  | some _ =>
    let floor := floorOf path
    let body := dropTail floor path.toList.reverse
    let kept := body.drop (min (body.takeWhile (· != '/')).length (body.length - floor))
    some (String.ofList (dropTail floor kept).reverse)

/-- The second path as seen from the first. -/
def join (base path : String) : String :=
  if isAbsolute path then path
  else if base.isEmpty then path
  else if base.toList.getLast? == some '/' then base ++ path
  else base ++ "/" ++ path

/-- The name split at its last dot; a dot in front alone separates nothing. -/
private def splitName (name : String) : String × Option String :=
  if name == ".." then (name, none)
  else
    let after := (name.toList.reverse.takeWhile (· != '.')).reverse
    let before := name.toList.take (name.length - after.length - 1)
    if after.length == name.length || before.isEmpty then (name, none)
    else (String.ofList before, some (String.ofList after))

/-- The name without its extension. -/
def stem? (path : String) : Option String := (fileName? path).map fun name => (splitName name).1

def extension? (path : String) : Option String := (fileName? path).bind fun name => (splitName name).2

end Provision.PathText
