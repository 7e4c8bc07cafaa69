import Provision.Shell.Arithmetic

/-! Giving values to variables, as their kinds demand. -/

namespace Provision.Shell

/-- Say what is wrong with an expression. -/
def reportFault (front : String) : Arithmetic.Fault → Act Unit
  | .wrong message => do
    complain (front ++ message)
    setStatus 1
  | .fatal message => abandon message
  | .reported => setStatus 1
  | .unbound name => do
    complain (name ++ ": unbound variable")
    setStatus (if (← get).manner == some 'c' then 127 else 1)
    stop .exit

/-- The value of an expression; if there is none, what was read with it is given up. -/
def evaluate? (front expression : String) : Act (Option Int) := do
  match ← (Arithmetic.value expression).run with
  | .ok value => return some value
  | .error fault =>
    reportFault front fault
    if !(← isHalted) then stop .discard
    return none

/-- A name with the index in brackets behind it, if there is one. -/
def splitIndex (text : String) : String × Option String :=
  let name := text.toList.takeWhile (· != '[')
  match text.toList.drop name.length with
  | '[' :: rest =>
    if rest.getLast? == some ']' && isName (String.ofList name) then
      (String.ofList name, some (String.ofList rest.dropLast))
    else (text, none)
  | _ => (text, none)

/-- The name and the index that are meant by those of a variable that may refer to another
one. -/
private def target (shell : Shell) (name : String) (index : Option String) :
    String × Option String :=
  let name := shell.resolve name
  match index with
  | none => splitIndex name
  | some index => (name, some index)

/-- What becomes of a text that a variable is given, as its kind demands. -/
private def converted (found : Variable) (before : Option String) (text : String) (append : Bool) :
    ExceptT Arithmetic.Fault Act String := do
  if found.isInteger then
    let value ← Arithmetic.value text
    let start ← if append then Arithmetic.value (before.getD "0") else pure 0
    return toString (Arithmetic.wrap (start + value))
  else return found.cased (if append then before.getD "" ++ text else text)

private def assigned (name : String) (index : Option String) (text : String) (append : Bool) :
    ExceptT Arithmetic.Fault Act Unit := do
  let (name, index) := target (← get) name index
  let found := ((← get).variableOf? name).getD {}
  if found.isReadonly then
    liftM (complain (name ++ ": readonly variable") : Act Unit)
    throw .reported
  let value ←
    match index with
    | none => do pure (found.value.setFirst (← converted found found.value.first? text append))
    | some index => do
      if index.isEmpty then throw (.fatal (name ++ "[]: bad array subscript"))
      let place ← Arithmetic.index name index
      let text ← converted found (found.value.element? place) text append
      pure (found.value.setElement place text)
  let value :=
    match found.value, value, found.isList, found.isTable with
    | .unset, .plain text, true, _ => .list [(0, text)]
    | .unset, .plain text, _, true => .table [("0", text)]
    | _, value, _, _ => value
  let isList := found.isList || value matches .list _
  let isExported := found.isExported || (← get).has "allexport"
  modify fun shell =>
    let shell := if name == "OPTIND" then { shell with optionPlace := 0 } else shell
    shell.putVariable name { found with value, isList, isExported }

/-- Give a variable or an element a text, or add it to the one it has. Whether that was
possible; if not, it has been said why. -/
def assignText (name : String) (index : Option String) (text : String) (append : Bool := false) :
    Act Bool := do
  match ← (assigned name index text append).run with
  | .ok () => return true
  | .error fault =>
    reportFault "" fault
    return false

/-- Replace the value of a variable as a whole. -/
def assignValue (name : String) (value : Value) : Act Bool := do
  let name := (← get).resolve name
  let found := ((← get).variableOf? name).getD {}
  if found.isReadonly then
    complain (name ++ ": readonly variable")
    setStatus 1
    return false
  let isList := value matches .list _
  let isTable := value matches .table _
  let isExported := found.isExported || (← get).has "allexport"
  modify (Shell.putVariable name { found with value, isList, isTable, isExported })
  return true

end Provision.Shell
