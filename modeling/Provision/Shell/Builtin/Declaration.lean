import Provision.Shell.Assignment
import Provision.Shell.Builtin.Options

/-! Declaring variables and saying what kind they are. -/

namespace Provision.Shell.Builtin

/-- A word behind the name of a command, which may be an assignment. -/
inductive Item where
  | word (text : String)
  | assignment (setting : Setting)
  deriving Repr

def Item.text : Item → String
  | .word written => written
  | .assignment setting => setting.word

/-- What a declaration does with the variables it names. -/
structure Kind where
  /-- Letters of what they become, and of what they cease to be. -/
  on : List Char := []
  off : List Char := []
  /-- Whether they belong to the running function. -/
  isLocal : Bool := false
  isGlobal : Bool := false
  /-- What stands in front of a message about a variable that must not change. -/
  front : String := ""

private def with_ (kind : Kind) (letter : Char) (before : Bool) : Bool :=
  if kind.on.contains letter then true else if kind.off.contains letter then false else before

private def lettersOf (kind : Kind) (before : Option CaseChange) : Option CaseChange :=
  if kind.on.contains 'l' then some .lower
  else if kind.on.contains 'u' then some .upper
  else if kind.on.contains 'c' then some .swap
  else if kind.off.any fun letter => "luc".toList.contains letter then none
  else before

/-- The value of a variable that becomes a list or a table. -/
private def reshaped (kind : Kind) (value : Value) : Value :=
  match value with
  | .plain text =>
    if kind.on.contains 'A' then .table [("0", text)]
    else if kind.on.contains 'a' then .list [(0, text)]
    else value
  | value => value

private def shaped (kind : Kind) (found : Variable) : Variable :=
  { found with
    value := reshaped kind found.value
    isInteger := with_ kind 'i' found.isInteger
    isList := with_ kind 'a' found.isList && !kind.on.contains 'A'
    isTable := with_ kind 'A' found.isTable
    isReference := with_ kind 'n' found.isReference
    letters := lettersOf kind found.letters }

private def sealed_ (kind : Kind) (found : Variable) : Variable :=
  { found with
    isReadonly := with_ kind 'r' found.isReadonly
    isExported := with_ kind 'x' found.isExported }

/-- The variable of a name that a declaration is about. -/
private def subject (kind : Kind) (shell : Shell) (name : String) : Variable :=
  if kind.isLocal then (shell.localVariable? name).getD {}
  else (shell.scopes.findSome? fun scope => scope.find? name).getD {}

private def place (kind : Kind) (name : String) (found : Variable) (shell : Shell) : Shell :=
  if kind.isLocal then shell.putLocal name found else shell.putVariable name found

private def isGuarded (shell : Shell) (name : String) : Bool :=
  ((shell.scopes.findSome? fun scope => scope.find? name).map (·.isReadonly)).getD false

/-- Declare one variable, and give it a value if there is one. -/
private def declareOne (command : String) (kind : Kind) (name : String)
    (setting : Option Setting) : Act Bool := do
  let shell ← get
  let asWritten := kind.isLocal || kind.on.contains 'n' || kind.off.contains 'n'
  let name := if asWritten then name else shell.resolve name
  let before := subject kind shell name
  let changes := setting.isSome || kind.off.contains 'r'
  if (before.isReadonly || (kind.isLocal && isGuarded shell name)) && changes then
    complain (kind.front ++ name ++ ": readonly variable")
    return false
  if kind.on.contains 'A' && before.value matches .list _ then
    complain (command ++ ": " ++ name ++ ": cannot convert indexed to associative array")
    return false
  if kind.on.contains 'a' && before.value matches .table _ then
    complain (command ++ ": " ++ name ++ ": cannot convert associative to indexed array")
    return false
  if kind.on.contains 'n' then
    let value :=
      match setting.map (·.value) with
      | some (.text text) => Value.plain text
      | _ => before.value
    modify (place kind name { before with value, isReference := true })
    return true
  let started := shaped kind before
  modify (place kind name started)
  let done ←
    match setting with
    | some setting => applySetting { setting with name }
    | none => pure true
  if !done then
    if !(← isHalted) then stop .discard
    return false
  let found := subject kind (← get) name
  modify (place kind name (sealed_ kind found))
  return true

/-- The setting or the bare name that an item states, unless it is no name. -/
private def stated? : Item → Option (String × Option Setting)
  | .assignment setting => some (setting.name, some setting)
  | .word text =>
    match Setting.ofText? text with
    | some setting => some (setting.name, some setting)
    | none =>
      let (name, _) := splitIndex text
      if isName name then some (name, none) else none

private def declareEach (command : String) (kind : Kind) : List Item → (status : Nat) → Act Nat
  | [], status => return status
  | item :: rest, status => do
    match stated? item with
    | none =>
      refuseName command item.text
      declareEach command kind rest 1
    | some (name, setting) =>
      let done ← declareOne command kind name setting
      if ← isHalted then return 1
      declareEach command kind rest (if done then status else 1)

/-- Declare among the variables that are seen everywhere. -/
private def globally (work : Act Nat) : Act Nat := do
  let before := (← get).scopes
  modify fun shell => { shell with scopes := before.drop (before.length - 1) }
  let status ← work
  modify fun shell => { shell with scopes := before.dropLast ++ shell.scopes }
  return status

private def declarations (shell : Shell) (wanted : Variable → Bool) : String :=
  String.join (shell.variableNames.filterMap fun name =>
    match shell.scopes.findSome? fun scope => scope.find? name with
    | some found => if wanted found then some (found.declaration name ++ "\n") else none
    | none => none)

private def showNamed (command : String) : List String → (status : Nat) → Act Nat
  | [], status => return status
  | name :: rest, status => do
    match (← get).variableOf? name with
    | some found =>
      let _ ← print command (found.declaration name ++ "\n")
      showNamed command rest status
    | none =>
      complain (command ++ ": " ++ name ++ ": not found")
      showNamed command rest 1

private def listings (shell : Shell) : String :=
  String.join (shell.variableNames.filterMap fun name =>
    match shell.variableOf? name with
    | some found => if found.value.isSet then some (found.listing name ++ "\n") else none
    | none => none)

/-- All variables with their values. -/
def showVariables : Act Nat := do print "set" (listings (← get))

private def functionNames (shell : Shell) : List String :=
  ((shell.functions.map Prod.fst).mergeSort fun a b => a ≤ b).eraseReps

private def showFunctions (names : List String) : Act Nat := do
  let shell ← get
  if names.isEmpty then
    print "declare" (String.join ((functionNames shell).map fun name =>
      "declare -f " ++ name ++ "\n"))
  else
    let known := names.filter fun name => (shell.function? name).isSome
    let _ ← print "declare" (String.join (known.map (· ++ "\n")))
    return if known.length == names.length then 0 else 1

private def declareUsage : String :=
  "[-aAfFgiIlnrtux] [name[=value] ...] or declare -p [-aAfFilnrtux] [name ...]"

private def isKindWord (text : String) : Bool :=
  match text.toList with
  | '-' :: _ :: _ | '+' :: _ :: _ => true
  | _ => false

private def kindLetters : List Char := "aAfFgiIlnprtuxc".toList

/-- The kind that words in front of the names ask for, or the letter that makes no
sense. -/
private def kindOf (kind : Kind) : List Item → Except Char (Kind × List Item)
  | .word text :: rest =>
    match text.toList with
    | ['-', '-'] => .ok (kind, rest)
    | mark :: letters =>
      if !isKindWord text then .ok (kind, .word text :: rest)
      else
        match letters.find? fun letter => !kindLetters.contains letter with
        | some letter => .error letter
        | none =>
          if mark == '-' then kindOf { kind with on := kind.on ++ letters } rest
          else kindOf { kind with off := kind.off ++ letters } rest
    | [] => .ok (kind, .word text :: rest)
  | items => .ok (kind, items)

private def declareWith (command : String) (start : Kind) (items : List Item) : Act Nat := do
  match kindOf start items with
  | .error letter =>
    complain (command ++ ": -" ++ String.singleton letter ++ ": invalid option")
    showUsage command (if command == "local" then "[option] name[=value] ..."
      else declareUsage)
    return 2
  | .ok (kind, names) =>
    if kind.on.contains 'F' || kind.on.contains 'f' then
      return ← showFunctions (names.map Item.text)
    if kind.on.contains 'p' && !names.isEmpty then
      return ← showNamed command (names.map Item.text) 0
    if names.isEmpty then
      let shell ← get
      if kind.on.contains 'p' || !kind.on.isEmpty then
        let traits := kind.on.filter fun letter => "aAilnrtux".toList.contains letter
        return ← print command (declarations shell fun found =>
          traits.all fun letter => found.traits.toList.contains letter)
      return ← showVariables
    if kind.on.contains 'g' then globally (declareEach command { kind with isLocal := false } names 0)
    else declareEach command kind names 0

def declare (command : String) (items : List Item) : Act Nat := do
  let isLocal := (← get).inFunction
  declareWith command { isLocal, front := command ++ ": " } items

def local_ (items : List Item) : Act Nat := do
  if !(← get).inFunction then fail 1 "local: can only be used in a function"
  else declareWith "local" { isLocal := true, front := "local: " } items

/-- Publish variables to programs, or make them unchangeable. -/
private def mark (command usage letters : String) (kind : Char) (items : List Item) : Act Nat := do
  let isOption : Item → Bool
    | .word text => isKindWord text
    | .assignment _ => false
  let options := items.takeWhile isOption
  let rest := items.drop options.length
  let words := options.map Item.text
  let some (choices, left) ← takeOptions? command usage letters words | return 2
  let names := left.map Item.word ++ rest
  let shell ← get
  if has choices 'f' then
    for name in names do
      if (shell.function? name.text).isNone then
        complain (command ++ ": " ++ name.text ++ ": not a function")
        return 1
    return 0
  if names.isEmpty then
    return ← print command (declarations shell fun found => found.traits.toList.contains kind)
  let shapes := (choices.map Prod.fst).filter fun letter => letter == 'a' || letter == 'A'
  let change : Kind :=
    if has choices 'n' then { off := [kind] } else { on := kind :: shapes }
  declareEach command change names 0

def export_ (items : List Item) : Act Nat :=
  mark "export" "[-fn] [name[=value] ...] or export -p" "fnp" 'x' items

def readonly (items : List Item) : Act Nat :=
  mark "readonly" "[-aAf] [name[=value] ...] or readonly -p" "aAfp" 'r' items

/-- Every command of this kind. -/
def declarator? (name : String) : Option (List Item → Act Nat) :=
  match name with
  | "declare" | "typeset" => some (declare name)
  | "local" => some local_
  | "export" => some export_
  | "readonly" => some readonly
  | _ => none

end Provision.Shell.Builtin
