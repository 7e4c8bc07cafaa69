import Provision.Shell.Condition
import Provision.Shell.Format
import Provision.Shell.Tool.Options

/-! Printing texts, and what is known about paths, names and the surroundings. -/

namespace Provision.Shell.Tool

private def misuseBy (status : Nat) (name text : String) : Act Nat := do
  misused name text
  return status

/-! ## Texts -/

private def isPrintOption (word : String) : Bool :=
  match word.toList with
  | '-' :: letters => !letters.isEmpty && letters.all fun c => "neE".toList.contains c
  | _ => false

def echo (name : String) (words : List String) : Act Nat := do
  let letters := (words.takeWhile isPrintOption).flatMap String.toList
  let text := String.intercalate " " (words.dropWhile isPrintOption)
  let chosen := letters.reverse.find? fun c => c == 'e' || c == 'E'
  let (text, whole) := if chosen == some 'e' then unescape .program text else (text, true)
  put name (if letters.contains 'n' || !whole then text else text ++ "\n")

def printf (name : String) (words : List String) : Act Nat := do
  let words := if words.head? == some "--" then words.drop 1 else words
  match words with
  | [] => misuseBy 1 name "missing operand"
  | format :: arguments =>
    let (text, faults, failed) := (Format.ofText .program format).print .program arguments
    let status ← put name text
    for fault in faults do warn name fault
    return if failed then 1 else status

private def decide (closing : Option String) (name : String) (words : List String) : Act Nat := do
  match ← (Condition.decide closing words).run with
  | .ok true => return 0
  | .ok false => return 1
  | .error fault =>
    warn name fault
    return 2

def test (name : String) (words : List String) : Act Nat := decide none name words

/-- Decide a condition that a bracket closes. -/
def bracket (name : String) (words : List String) : Act Nat := do
  if words.getLast? == some "]" then return ← decide (some "]") name words.dropLast
  warn name "missing \x27]\x27"
  return 2

/-! ## Paths -/

private def withoutSlashes (path : List Char) : List Char :=
  (path.reverse.dropWhile (· == '/')).reverse

private def baseOf (path : String) (suffix : String) : String :=
  let chars := withoutSlashes path.toList
  if chars.isEmpty then (if path.isEmpty then "" else "/")
  else
    let base := (chars.reverse.takeWhile (· != '/')).reverse
    let stem := base.take (base.length - suffix.length)
    if !suffix.isEmpty && suffix.toList.isSuffixOf base && !stem.isEmpty then String.ofList stem
    else String.ofList base

private def parentOf (path : String) : String :=
  let chars := withoutSlashes path.toList
  if chars.isEmpty then (if path.isEmpty then "." else "/")
  else
    let front := (chars.reverse.dropWhile (· != '/')).reverse
    if front.isEmpty then "."
    else
      let front := withoutSlashes front
      if front.isEmpty then "/" else String.ofList front

private def rows (choices : List Choice) (texts : List String) : String :=
  String.join (texts.map (· ++ if has choices 'z' then "\x00" else "\n"))

def baseName (name : String) (words : List String) : Act Nat := do
  let grammar : Grammar :=
    { letters := "as:z", long := [("multiple", 'a'), ("suffix", 's'), ("zero", 'z')], isMixed := false }
  let some (choices, paths) ← takeOptions? name grammar words | return 1
  match paths, has choices 'a' || has choices 's' with
  | [], _ => misuseBy 1 name "missing operand"
  | paths, true =>
    put name (rows choices (paths.map fun path => baseOf path ((argument? choices 's').getD "")))
  | [path], false => put name (rows choices [baseOf path ""])
  | [path, suffix], false => put name (rows choices [baseOf path suffix])
  | _ :: _ :: extra :: _, false => misuseBy 1 name ("extra operand " ++ quoted extra)

def parentName (name : String) (words : List String) : Act Nat := do
  let some (choices, paths) ← takeOptions? name { letters := "z", long := [("zero", 'z')] } words
    | return 1
  if paths.isEmpty then misuseBy 1 name "missing operand"
  else put name (rows choices (paths.map parentOf))

/-- The path without links that a path amounts to, of which the last piece may be missing
unless it is demanded. -/
private def canonical? (disk : Disk) (demand : Bool) (path : String) : Except IoError String :=
  match disk.canonical (Text.narrow path) with
  | .ok path => .ok (Text.widen path)
  | .error error =>
    if demand || path.isEmpty then .error error
    else
      match disk.locate true (Text.narrow path) with
      | .ok at_ => .ok (Text.widen (Disk.pathOf at_))
      | .error error => .error error

def readLink (name : String) (words : List String) : Act Nat := do
  let grammar : Grammar :=
    { letters := "femnqsvz"
      long := [("canonicalize", 'f'), ("canonicalize-existing", 'e'), ("no-newline", 'n'),
        ("quiet", 'q'), ("silent", 's'), ("verbose", 'v')] }
  let some (choices, paths) ← takeOptions? name grammar words | return 1
  if paths.isEmpty then return ← misuseBy 1 name "missing operand"
  forWords (fun path => do
    let disk := (← get).disk
    let found : Except IoError String :=
      if has choices 'f' || has choices 'e' || has choices 'm' then
        canonical? disk (has choices 'e') path
      else
        match disk.lookup false (Text.narrow path) with
        | .ok (_, .link target) => .ok (Text.widen target)
        | .ok _ => .error .invalidArgument
        | .error error => .error error
    match found with
    | .ok text => put name (text ++ if has choices 'n' && paths.length == 1 then "" else "\n")
    | .error error =>
      if has choices 'v' then warn name (shown path ++ ": " ++ reason error)
      return 1) paths

def realPath (name : String) (words : List String) : Act Nat := do
  let grammar : Grammar :=
    { letters := "emqLPsz"
      long := [("canonicalize-existing", 'e'), ("canonicalize-missing", 'm'), ("quiet", 'q')] }
  let some (choices, paths) ← takeOptions? name grammar words | return 1
  if paths.isEmpty then return ← misuseBy 1 name "missing operand"
  forWords (fun path => do
    match canonical? (← get).disk (has choices 'e') path with
    | .ok text => put name (text ++ "\n")
    | .error error =>
      if !has choices 'q' then warn name (shown path ++ ": " ++ reason error)
      return 1) paths

def workingDirectory (name : String) (words : List String) : Act Nat := do
  let some _ ← takeOptions? name { letters := "LP", long := [("logical", 'L'), ("physical", 'P')] } words
    | return 1
  put name (Text.widen (Disk.pathOf (← get).disk.cwd) ++ "\n")

/-! ## Listing -/

private structure Listing where
  name : String
  choices : List Choice

private def Listing.rows (listing : Listing) (entries : List (String × Node)) : String :=
  let choices := listing.choices
  let mark (node : Node) : String :=
    match node with
    | .dir => if has choices 'p' || has choices 'F' then "/" else ""
    | .link _ => if has choices 'F' then "@" else ""
    | .file _ _ executable => if has choices 'F' && executable then "*" else ""
  let sorted := entries.mergeSort fun a b => a.1 ≤ b.1
  let sorted := if has choices 'r' then sorted.reverse else sorted
  let names := sorted.map fun (name, node) =>
    (if has choices 'Q' then "\"" ++ name ++ "\"" else name) ++ mark node
  if has choices 'm' then (if names.isEmpty then "" else String.intercalate ", " names ++ "\n")
  else String.join (names.map (· ++ "\n"))

private def Listing.children (listing : Listing) (disk : Disk) (at_ : Location) :
    List (String × Node) :=
  let choices := listing.choices
  let named := (disk.children at_).filterMap fun name =>
    (disk.get? (at_ ++ [name])).map fun node => (Text.widen name, node)
  let isHidden (name : String) : Bool := name.front == '.'
  if has choices 'a' then (".", Node.dir) :: ("..", .dir) :: named
  else if has choices 'A' then named
  else named.filter fun entry => !isHidden entry.1

private def Listing.tree (listing : Listing) (disk : Disk) : Nat → String → Location → List (String × String)
  | 0, _, _ => []
  | fuel + 1, path, at_ =>
    let children := listing.children disk at_
    let own := (path, listing.rows children)
    if !has listing.choices 'R' then [own]
    else
      let inner := (children.filter fun entry => entry.2 == .dir && entry.1 != "." && entry.1 != "..")
        |>.mergeSort fun a b => a.1 ≤ b.1
      own :: inner.flatMap fun (name, _) =>
        listing.tree disk fuel (path ++ "/" ++ name) (at_ ++ [Text.narrow name])

def list (name : String) (words : List String) : Act Nat := do
  let grammar : Grammar :=
    { letters := "aAdFpQrRm1tSUhisxCLlnogGkNB"
      long := [("all", 'a'), ("almost-all", 'A'), ("directory", 'd'), ("classify", 'F'),
        ("reverse", 'r'), ("recursive", 'R')] }
  let some (choices, paths) ← takeOptions? name grammar words | return 2
  let listing : Listing := ⟨name, choices⟩
  let disk := (← get).disk
  let paths := (if paths.isEmpty then ["."] else paths).mergeSort fun a b => a ≤ b
  let found := paths.map fun path =>
    let isProgram := (Host.program? path).isSome
    let follows := !has choices 'd'
    let place := match disk.lookup follows (Text.narrow path) with
      | .ok found => Except.ok found
      | .error error =>
        match disk.lookup false (Text.narrow path) with
        | .ok found => .ok found
        | .error _ => .error error
    let place := if isProgram then .ok ([], .file 0 [] true) else place
    (path, place)
  for (path, place) in found do
    if let .error error := place then warn name ("cannot access " ++ quoted path ++ ": " ++ reason error)
  let failed := found.any fun entry => !entry.2.isOk
  let present := found.filterMap fun (path, place) => place.toOption.map fun found => (path, found)
  let isListed (entry : String × Location × Node) : Bool := entry.2.2 == .dir && !has choices 'd'
  let plain := present.filter fun entry => !isListed entry
  let directories := present.filter isListed
  let directories := if has choices 'r' then directories.reverse else directories
  let own := listing.rows (plain.map fun (path, _, node) => (path, node))
  let blocks := directories.flatMap fun (path, at_, _) =>
    listing.tree disk (disk.entries.length + 1) path at_
  let titles := 1 < paths.length || has choices 'R'
  let shownBlocks := blocks.map fun (path, text) => (if titles then path ++ ":\n" else "") ++ text
  let parts := (if own.isEmpty then [] else [own]) ++ shownBlocks
  let status ← put name (String.intercalate "\n" parts)
  return if failed then 2 else status

/-! ## Surroundings -/

def printEnvironment (name : String) (words : List String) : Act Nat := do
  let some (_, names) ← takeOptions? name { letters := "0", isMixed := false } words | return 2
  let given := (← get).given
  if names.isEmpty then put name (String.join (given.map fun entry => entry.1 ++ "=" ++ entry.2 ++ "\n"))
  else
    forWords (fun key => do
      match lookup? given key with
      | some value => put name (value ++ "\n")
      | none => return 1) names

private def isInterval (word : String) : Bool :=
  let chars := word.toList
  let whole := chars.takeWhile Char.isDigit
  let rest := chars.drop whole.length
  let (fraction, rest) := match rest with
    | '.' :: more => (more.takeWhile Char.isDigit, more.dropWhile Char.isDigit)
    | rest => ([], rest)
  !(whole.isEmpty && fraction.isEmpty) && (rest.isEmpty || ["s", "m", "h", "d"].contains (String.ofList rest))

def sleep (name : String) (words : List String) : Act Nat := do
  let some (_, times) ← takeOptions? name { letters := "" } words | return 1
  if times.isEmpty then return ← misuseBy 1 name "missing operand"
  let bad := times.filter fun word => !isInterval word && word != "infinity" && word != "inf"
  if bad.isEmpty then return 0
  for word in bad do warn name ("invalid time interval " ++ quoted word)
  let _ ← write 2 ("Try \x27" ++ name ++ " --help\x27 for more information.\n")
  return 1

def whoAmI (name : String) (_ : List String) : Act Nat := put name "root\n"

def identity (name : String) (words : List String) : Act Nat := do
  let some (choices, _) ← takeOptions? name { letters := "ugnrGz" } words | return 1
  if has choices 'u' || has choices 'g' || has choices 'G' then
    put name (if has choices 'n' then "root\n" else "0\n")
  else put name "uid=0(root) gid=0(root) groups=0(root)\n"

def system (name : String) (words : List String) : Act Nat := do
  let some (choices, _) ← takeOptions? name { letters := "snmo" } words | return 1
  let parts := [('s', "Linux"), ('n', "vm"), ('m', "x86_64"), ('o', "GNU/Linux")].filter fun entry =>
    has choices entry.1 || (choices.isEmpty && entry.1 == 's')
  put name (String.intercalate " " (parts.map Prod.snd) ++ "\n")

end Provision.Shell.Tool
