import Provision.Disk.Walk
import Provision.Shell.Host
import Provision.Shell.Store

/-! Conditions on texts, numbers and files. -/

namespace Provision.Shell.Condition

/-- A condition that may make no sense, with words that say why. -/
abbrev Decide := ExceptT String Act

/-! ## Files -/

/-- What a condition on a file is about. -/
inductive Subject where
  | node (at_ : Location) (node : Node)
  | program
  | device

private def subject? (disk : Disk) (follow : Bool) (path : String) : Option Subject :=
  if (Host.program? path).isSome then some .program
  else if (Host.device? path).isSome then some .device
  else
    match disk.lookup follow (Text.narrow path) with
    | .ok (at_, node) => some (.node at_ node)
    | .error _ => none

private def isDirectory : Subject → Bool
  | .node _ .dir => true
  | _ => false

private def isFile : Subject → Bool
  | .node _ (.file ..) | .program => true
  | _ => false

private def isLink : Subject → Bool
  | .node _ (.link _) => true
  | _ => false

private def isDevice : Subject → Bool
  | .device => true
  | _ => false

private def isExecutable : Subject → Bool
  | .node _ (.file _ _ executable) => executable
  | .device => false
  | _ => true

private def hasContents : Subject → Bool
  | .node _ (.file _ bytes _) => !bytes.isEmpty
  | .device => false
  | _ => true

/-- Whether a variable or an element has a value. -/
private def isAssigned (text : String) : Act Bool := do
  let shell ← get
  match splitIndex text with
  | (name, some "@") | (name, some "*") =>
    return (shell.value? name).any fun value => !value.elements.isEmpty
  | (name, some index) =>
    match ← (Arithmetic.index name index).run with
    | .ok index => return ((shell.value? name).bind fun value => value.element? index).isSome
    | .error _ => return false
  | (name, none) => return (shell.text? name).isSome

/-- Operators with one operand. -/
def unaryOperators : List String :=
  ["-a", "-b", "-c", "-d", "-e", "-f", "-g", "-h", "-k", "-p", "-r", "-s", "-t", "-u", "-w", "-x",
    "-G", "-L", "-N", "-O", "-S", "-n", "-o", "-v", "-R", "-z"]

/-- Decide a condition on one operand. -/
def unary (operator operand : String) : Act Bool := do
  let shell ← get
  let disk := shell.disk
  let found := subject? disk true operand
  match operator with
  | "-n" => return !operand.isEmpty
  | "-z" => return operand.isEmpty
  | "-e" | "-a" | "-r" | "-w" | "-G" | "-O" => return found.isSome
  | "-f" => return found.any isFile
  | "-d" => return found.any isDirectory
  | "-x" => return found.any isExecutable
  | "-s" => return found.any hasContents
  | "-c" => return found.any isDevice
  | "-h" | "-L" => return (subject? disk false operand).any isLink
  | "-o" => return shell.has operand
  | "-v" => isAssigned operand
  | "-R" =>
    return ((shell.scopes.findSome? fun scope => scope.find? operand).map (·.isReference)).getD false
  | _ => return false

/-! ## Comparisons -/

/-- Operators between two operands. -/
def binaryOperators : List String :=
  ["=", "==", "!=", "<", ">", "-eq", "-ne", "-lt", "-le", "-gt", "-ge", "-nt", "-ot", "-ef"]

def compareNumbers? (operator : String) (left right : Int) : Option Bool :=
  match operator with
  | "-eq" => some (left == right)
  | "-ne" => some (left != right)
  | "-lt" => some (left < right)
  | "-le" => some (left ≤ right)
  | "-gt" => some (right < left)
  | "-ge" => some (right ≤ left)
  | _ => none

/-- Compare texts or files. -/
def compare (disk : Disk) (operator left right : String) : Bool :=
  match operator with
  | "=" | "==" => left == right
  | "!=" => left != right
  | "<" => left < right
  | ">" => right < left
  | "-nt" => (subject? disk true left).isSome && (subject? disk true right).isNone
  | "-ot" => (subject? disk true left).isNone && (subject? disk true right).isSome
  | "-ef" =>
    match subject? disk true left, subject? disk true right with
    | some (.node a _), some (.node b _) => a == b
    | some .program, some .program => left == right
    | some .device, some .device => left == right
    | _, _ => false
  | _ => false

private def number (text : String) : Decide Int :=
  match (integer? text).filter inWord with
  | some value => return value
  | none => throw (text ++ ": integer expression expected")

private def binary (operator left right : String) : Decide Bool := do
  if (compareNumbers? operator 0 0).isSome then
    let left ← number left
    let right ← number right
    return (compareNumbers? operator left right).getD false
  return compare (← (get : ExceptT String Act Shell)).disk operator left right

/-! ## Words -/

private def two (first second : String) : Decide Bool := do
  if first == "!" then return second.isEmpty
  if unaryOperators.contains first then return ← liftM (unary first second)
  throw (first ++ ": unary operator expected")

private def three (first second third : String) : Decide Bool := do
  if binaryOperators.contains second then binary second first third
  else if second == "-a" then return !first.isEmpty && !third.isEmpty
  else if second == "-o" then return !first.isEmpty || !third.isEmpty
  else if first == "!" then return !(← two second third)
  else if first == "(" && third == ")" then return !second.isEmpty
  else throw (second ++ ": binary operator expected")

/-- What stands behind the last word. -/
structure Words where
  rest : List String
  closing : Option String

private abbrev Reading := StateT Words Decide

private def missing {α : Type} : Reading α := throw "argument expected"

private def next : Reading String := do
  let words ← get
  match words.rest with
  | [] => missing
  | first :: rest =>
    set { words with rest }
    return first

mutual

private def term : Nat → Reading Bool
  | 0 => missing
  | fuel + 1 => do
    match (← get).rest with
    | "!" :: rest =>
      if rest.isEmpty then missing
      let _ ← next
      return !(← term fuel)
    | "(" :: rest =>
      if rest.isEmpty then missing
      let _ ← next
      let value ← disjunction fuel
      let words ← get
      match words.rest with
      | ")" :: rest =>
        set { words with rest }
        return value
      | found :: _ => throw ("\x60)\x27 expected, found " ++ found)
      | [] =>
        match words.closing with
        | some closing => throw ("\x60)\x27 expected, found " ++ closing)
        | none => throw "\x60)\x27 expected"
    | first :: second :: third :: rest =>
      if binaryOperators.contains second then
        modify fun words => { words with rest }
        liftM (binary second first third)
      else if unaryOperators.contains first then
        modify fun words => { words with rest := third :: rest }
        liftM (unary first second : Act Bool)
      else
        modify fun words => { words with rest := second :: third :: rest }
        return !first.isEmpty
    | [first, second] =>
      if unaryOperators.contains first then
        modify fun words => { words with rest := [] }
        liftM (unary first second : Act Bool)
      else
        modify fun words => { words with rest := [second] }
        return !first.isEmpty
    | [first] =>
      modify fun words => { words with rest := [] }
      return !first.isEmpty
    | [] => missing

private def conjunction : Nat → Reading Bool
  | 0 => missing
  | fuel + 1 => do
    let left ← term fuel
    match (← get).rest with
    | "-a" :: rest =>
      modify fun words => { words with rest }
      let right ← conjunction fuel
      return left && right
    | _ => return left

private def disjunction : Nat → Reading Bool
  | 0 => missing
  | fuel + 1 => do
    let left ← conjunction fuel
    match (← get).rest with
    | "-o" :: rest =>
      modify fun words => { words with rest }
      let right ← disjunction fuel
      return left || right
    | _ => return left

end

private def long (closing : Option String) (words : List String) : Decide Bool := do
  let (value, left) ← (disjunction (4 * words.length + 4)).run ⟨words, closing⟩
  match left.rest with
  | [] => return value
  | first :: _ =>
    if first.front == '-' then throw ("syntax error: \x60" ++ first ++ "\x27 unexpected")
    else throw "too many arguments"

/-- Whether the condition that the words state holds. The closing word, if one has been
taken away, is told in messages. -/
def decide (closing : Option String) (words : List String) : Decide Bool :=
  match words with
  | [] => return false
  | [only] => return !only.isEmpty
  | [first, second] => two first second
  | [first, second, third] => three first second third
  | [first, second, third, fourth] => do
    if first == "!" then return !(← three second third fourth)
    else if first == "(" && fourth == ")" then two second third
    else long closing words
  | words => long closing words

end Provision.Shell.Condition
