import Provision.Shell.Expansion

/-! Assignments: their values are worked out first, and then given to the variables. -/

namespace Provision.Shell

/-- An element of a list, with the text of its index if it has one. -/
structure Entry where
  index : Option String
  append : Bool
  text : String
  deriving Repr

/-- The value of an assignment. -/
inductive Settled where
  | text (text : String)
  /-- A list, with how it is written. -/
  | list (entries : List Entry) (written : String)
  deriving Repr

/-- An assignment of which the values have been worked out. -/
structure Setting where
  name : String
  index : Option String := none
  append : Bool := false
  value : Settled
  deriving Repr

private def settleElements (run : Runner) : List Element → Act (List Entry)
  | [] => return []
  | element :: rest => do
    let entries ←
      match element.index with
      | some index => do
        let index ← expandText run index
        pure [⟨some index, element.append, ← expandAssigned run element.value⟩]
      | none => do
        pure ((← expand run [element.value]).map fun text => (⟨none, false, text⟩ : Entry))
    if ← isHalted then return []
    return entries ++ (← settleElements run rest)

/-- Work out the values of an assignment. -/
def settle (run : Runner) (assignment : Assignment) : Act Setting := do
  let index ←
    match assignment.index with
    | some index => do pure (some (← expandText run index))
    | none => pure none
  let value ←
    match assignment.value with
    | .word word => do pure (Settled.text (← expandAssigned run word))
    | .list elements written => do pure (.list (← settleElements run elements) written)
  return ⟨assignment.name, index, assignment.append, value⟩

namespace Setting

/-- The setting that a text states. -/
def ofText? (text : String) : Option Setting :=
  let name := text.toList.takeWhile isNameChar
  let behind := text.toList.drop name.length
  let name := String.ofList name
  if !isName name then none
  else
    let (index, behind) :=
      match behind with
      | '[' :: rest =>
        match spanClose '[' ']' 0 none rest with
        | some count => (some (String.ofList (rest.take count)), rest.drop (count + 1))
        | none => (none, behind)
      | behind => (none, behind)
    match behind with
    | '+' :: '=' :: value => some ⟨name, index, true, .text (String.ofList value)⟩
    | '=' :: value => some ⟨name, index, false, .text (String.ofList value)⟩
    | _ => none

private def target (setting : Setting) : String :=
  match setting.index with
  | some index => setting.name ++ "[" ++ index ++ "]"
  | none => setting.name

/-- The assignment as it is reported. -/
def shown (setting : Setting) : String :=
  let mark := if setting.append then "+=" else "="
  match setting.value with
  | .text text => setting.target ++ mark ++ Quoting.assigned text
  | .list _ written => setting.target ++ mark ++ written

private def entryShown (entry : Entry) : String :=
  let index := entry.index.map fun index => "[" ++ Quoting.single index ++ "]"
  index.getD "" ++ (if index.isSome then (if entry.append then "+=" else "=") else "") ++
    Quoting.single entry.text

/-- A list as it is reported when its values have been worked out. -/
def settledList? (setting : Setting) : Option String :=
  match setting.value with
  | .text _ => none
  | .list entries _ =>
    let mark := if setting.append then "+=(" else "=("
    some (setting.name ++ mark ++ String.intercalate " " (entries.map entryShown) ++ ")")

/-- The assignment as one word of a command. -/
def word (setting : Setting) : String :=
  let mark := if setting.append then "+=" else "="
  match setting.value with
  | .text text => setting.target ++ mark ++ text
  | .list _ _ => setting.name

end Setting

/-- Entries of a table that are written without keys: every second one is a value. -/
private def paired : List Entry → List (String × String)
  | [] => []
  | [key] => [(key.text, "")]
  | key :: value :: rest => (key.text, value.text) :: paired rest

/-- The text of an element, as the kind of the variable demands. -/
private def elementText (found : Variable) (before : Option String) (entry : Entry) :
    ExceptT Arithmetic.Fault Act String := do
  if found.isInteger then
    let value ← Arithmetic.value entry.text
    let start ← if entry.append then Arithmetic.value (before.getD "0") else pure 0
    return toString (Arithmetic.wrap (start + value))
  else return found.cased (if entry.append then before.getD "" ++ entry.text else entry.text)

private def fillList (name : String) (found : Variable) :
    List Entry → (next : Nat) → Value → ExceptT Arithmetic.Fault Act Value
  | [], _, value => return value
  | entry :: rest, next, value => do
    let place ←
      match entry.index with
      | none => pure next
      | some index => do
        let place ← Arithmetic.value index
        match Arithmetic.placeOf? value place with
        | some place => pure place
        | none => throw (.fatal (name ++ "[" ++ index ++ "]: bad array subscript"))
    let text ← elementText found (value.element? (.number place)) entry
    fillList name found rest (place + 1) (value.setElement (.number place) text)

private def fillTable (found : Variable) :
    List Entry → Value → ExceptT Arithmetic.Fault Act Value
  | [], value => return value
  | entry :: rest, value => do
    let key := entry.index.getD ""
    let text ← elementText found (value.element? (.key key)) entry
    fillTable found rest (value.setElement (.key key) text)

/-- The list that a plain text begins. -/
private def asList : Value → Value
  | .plain text => .list [(0, text)]
  | .unset => .list []
  | value => value

private def assignedList (name : String) (entries : List Entry) (append : Bool) :
    ExceptT Arithmetic.Fault Act Unit := do
  let name := (← get).resolve name
  let found := ((← get).variableOf? name).getD {}
  if found.isReadonly then
    liftM (complain (name ++ ": readonly variable") : Act Unit)
    throw .reported
  let isExported := found.isExported || (← get).has "allexport"
  if found.isTable then
    let start : Value :=
      match found.value with
      | .table entries => if append then .table entries else .table []
      | .plain text => if append then .table [("0", text)] else .table []
      | _ => .table []
    let value ←
      if entries.any (·.index.isSome) then fillTable found entries start
      else
        fillTable found ((paired entries).map fun (key, text) => ⟨some key, false, text⟩) start
    modify (Shell.putVariable name { found with value, isExported })
  else
    let start := if append then asList found.value else .list []
    let value ← fillList name found entries start.nextIndex start
    modify (Shell.putVariable name { found with value, isList := true, isExported })

/-- Carry out an assignment. Whether that was possible; if not, it has been said why. -/
def applySetting (setting : Setting) : Act Bool := do
  match setting.value, setting.index with
  | .text text, index => assignText setting.name index text setting.append
  | .list _ _, some index =>
    complain (setting.name ++ "[" ++ index ++ "]: cannot assign list to array member")
    setStatus 1
    return false
  | .list entries _, none =>
    match ← (assignedList setting.name entries setting.append).run with
    | .ok () => return true
    | .error fault =>
      reportFault "" fault
      return false

end Provision.Shell

/-! Reporting commands before they are carried out. -/

namespace Provision.Shell

/-- What stands in front of a report: its first character is repeated for every script that
the running one is nested in. -/
private def traceFront (run : Runner) : Act String := do
  let shell ← get
  let text := (shell.text? "PS4").getD ""
  let reading := Parser.documentPieces (do let _ ← Parser.commands) text
  match reading { rest := [], line := shell.line } with
  | .ok (word, _) =>
    set (shell.setOption "xtrace" false)
    let front ← expandText run word
    modify fun after =>
      { after with options := shell.options, status := shell.status, halt := shell.halt }
    match front.toList with
    | first :: rest => return String.ofList (List.replicate (shell.depth + 1) first ++ rest)
    | [] => return ""
  | .error _ => return text

/-- Report what is going to be carried out, if that is wanted. -/
def trace (run : Runner) (text : String) : Act Unit := do
  if (← get).has "xtrace" then
    let _ ← write 2 ((← traceFront run) ++ text ++ "\n")

def traceWords (run : Runner) (words : List String) : Act Unit := do
  if (← get).has "xtrace" then
    trace run (String.intercalate " " (words.map Quoting.ifNeeded))

end Provision.Shell
