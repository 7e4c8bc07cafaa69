import Provision.Shell.Assignment
import Provision.Shell.Condition
import Provision.Shell.Regex

/-! Conditions in double brackets, and numbers as conditions. -/

namespace Provision.Shell

/-- A field as it is reported: what is quoted has a backslash in front of each character. -/
private def shownField (field : Field) : String :=
  String.join (field.map fun (c, isFree) =>
    if isFree then String.singleton c else "\\" ++ String.singleton c)

private def shownText (text : String) : String := if text.isEmpty then "\x27\x27" else text

private def report (run : Runner) (negated : Bool) (text : String) : Act Unit :=
  trace run ("[[ " ++ (if negated then "! " else "") ++ text ++ " ]]")

private def truth (value : Bool) : Nat := if value then 0 else 1

private def operandNumber? (text : String) : Act (Option Int) := do
  match ← (Arithmetic.value text).run with
  | .ok value => return some value
  | .error fault =>
    reportFault "[[: " fault
    return none

private def matchRegex (text : String) (field : Field) : Act Nat := do
  let shell ← get
  match Regex.ofField? field with
  | none => return 2
  | some (regex, groups) =>
    let found := Regex.find? (shell.can "nocasematch") regex groups text.toList
    let value : Value := .ofTexts (found.getD [])
    modify (Shell.putVariable "BASH_REMATCH" { value, isList := true })
    return truth found.isSome

private def compareWords (run : Runner) (negated : Bool) (operator : String) (left right : Word) :
    Act Nat := do
  let text ← expandWhole run left
  if ← isHalted then return 1
  let front := shownText text ++ " " ++ operator ++ " "
  if ["==", "=", "!=", "=~"].contains operator then
    let field ← expandField run right
    if ← isHalted then return 1
    report run negated (front ++ shownText (shownField field))
    if operator == "=~" then return ← matchRegex text field
    let ignoreCase := (← get).can "nocasematch"
    let found := (Pattern.ofField true field).accepts ignoreCase text.toList
    return truth (found == (operator != "!="))
  let other ← expandWhole run right
  if ← isHalted then return 1
  report run negated (front ++ shownText other)
  if (Condition.compareNumbers? operator 0 0).isSome then
    let some leftNumber ← operandNumber? text | return 1
    let some rightNumber ← operandNumber? other | return 1
    return truth ((Condition.compareNumbers? operator leftNumber rightNumber).getD false)
  return truth (Condition.compare (← get).disk operator text other)

/-- The status of a condition: 0 if it holds, and 1 if it does not. -/
def statusOfTest (run : Runner) (negated : Bool) : Test → Act Nat
  | .word word => do
    let text ← expandWhole run word
    if ← isHalted then return 1
    report run negated ("-n " ++ shownText text)
    return truth (!text.isEmpty)
  | .unary operator word => do
    let text ← expandWhole run word
    if ← isHalted then return 1
    report run negated (operator ++ " " ++ shownText text)
    return truth (← Condition.unary operator text)
  | .binary operator left right => compareWords run negated operator left right
  | .negated test => do
    let status ← statusOfTest run (!negated) test
    return if status == 0 then 1 else if status == 1 then 0 else status
  | .both left right => do
    let status ← statusOfTest run false left
    if status == 0 && !(← isHalted) then statusOfTest run false right else return status
  | .either left right => do
    let status ← statusOfTest run false left
    if status != 0 && !(← isHalted) then statusOfTest run false right else return status

/-- The value of an expression that is a command or part of a loop; nothing if it has none,
which has been said. -/
def valueOf? (run : Runner) (expression : Word) : Act (Option Int) := do
  let text ← expandText run expression
  if ← isHalted then return none
  trace run ("(( " ++ text ++ " ))")
  match ← (Arithmetic.value text).run with
  | .ok value => return some value
  | .error fault =>
    reportFault "((: " fault
    return none

end Provision.Shell
