import Provision.Shell.Assignment
import Provision.Shell.Builtin.Table
import Provision.Shell.Program
import Provision.Shell.Redirect
import Provision.Shell.Traps

/-! Simple commands: assignments, and calls of functions, of the shell's own commands and of
programs. -/

namespace Provision.Shell

open Builtin (Item)

private def asText (item : Item) : String := item.text

/-! ## Functions -/

/-- Events that do not reach into functions. -/
private def isHidden (shell : Shell) (event : String) : Bool :=
  (event == "ERR" && !shell.has "errtrace") ||
    ((event == "DEBUG" || event == "RETURN") && !shell.has "functrace")

private def leaveCall (run : Runner) : Act Unit := do
  modify fun shell => if shell.halt == some .fromFunction then { shell with halt := none } else shell
  if !(← isHalted) then runTrap run "RETURN"

def callFunction (run : Runner) (name : String) (function : Function) (arguments : List String) :
    Act Unit := do
  let before ← get
  let hidden := before.traps.filter fun entry => isHidden before entry.1
  let traps := before.traps.filter fun entry => !isHidden before entry.1
  let calls := ⟨name, function.origin, before.line, true⟩ :: before.calls
  let scopes := { ofFunction := true } :: before.scopes
  set { before with arguments, calls, scopes, traps, loops := 0 }
  run (.command function.body)
  leaveCall run
  let restored (after : Shell) : List (String × String) :=
    hidden.filter fun entry => (lookup? after.traps entry.1).isNone
  modify fun after =>
    { after with
      arguments := before.arguments
      calls := before.calls
      loops := before.loops
      scopes := after.scopes.drop 1
      traps := restored after ++ after.traps }

/-! ## Scripts in place of a command -/

private def evaluate (run : Runner) (words : List String) : Act Unit := do
  let some (_, words) ← Builtin.takeOptions? "eval" "[arg ...]" "" words | setStatus 2
  let before ← get
  set { before with scriptMark := "eval", depth := before.depth + 1 }
  run (.script (String.intercalate " " words) before.line)
  modify fun after => { after with scriptMark := before.scriptMark, depth := before.depth }

/-- Where a script is found that has to be read in place. -/
private def scriptPath (shell : Shell) (path : String) : String :=
  if path.toList.contains '/' then path
  else
    let directories := (shell.textOf "PATH").splitOn ":"
    let candidates := directories.map fun directory =>
      if directory.isEmpty then path else directory ++ "/" ++ path
    let isFile (path : String) : Bool :=
      match shell.disk.lookup true (Text.narrow path) with
      | .ok (_, .file ..) => true
      | _ => false
    (candidates.find? isFile).getD path

private def readText (run : Runner) (path text : String) (arguments : List String) : Act Unit := do
  let before ← get
  set { before with
    calls := ⟨"source", path, before.line, false⟩ :: before.calls
    arguments := if arguments.isEmpty then before.arguments else arguments
    scriptMark := ""
    depth := before.depth + 1
    hasNewArguments := false }
  run (.script text 1)
  leaveCall run
  let isKept (after : Shell) : Bool :=
    arguments.isEmpty || (after.hasNewArguments && !before.inFunction)
  modify fun after =>
    { after with
      calls := before.calls
      scriptMark := before.scriptMark
      depth := before.depth
      arguments := if isKept after then after.arguments else before.arguments
      hasNewArguments := before.hasNewArguments || after.hasNewArguments }

private def readScript (run : Runner) (name : String) (words : List String) : Act Unit := do
  let usage := "filename [arguments]"
  let some (_, words) ← Builtin.takeOptions? name usage "" words | setStatus 2
  match words with
  | [] =>
    complain (name ++ ": filename argument required")
    Builtin.showUsage name usage
    setStatus 2
  | path :: arguments =>
    let shell ← get
    let path := scriptPath shell path
    match shell.disk.read (Text.narrow path) with
    | .ok bytes => readText run path (Text.ofOctets bytes) arguments
    | .error .isDirectory => setStatus (← fail 1 (name ++ ": " ++ path ++ ": is a directory"))
    | .error error => setStatus (← fail 1 (path ++ ": " ++ reason error))

/-! ## Calls -/

private def missingCommand (run : Runner) (name : String) (words : List String) : Act Unit := do
  match (← get).function? "command_not_found_handle" with
  | some function =>
    inSubshell run (callFunction run "command_not_found_handle" function (name :: words))
  | none => refuseCommand name

/-- Carry on as a program that a word names, and then end. -/
private def replaceShell (run : Runner) (words : List String) : Act Unit := do
  let usage := "[-cl] [-a name] [command [argument ...]] [redirection ...]"
  let some (choices, words) ← Builtin.takeOptions? "exec" usage "cla:" words | setStatus 2
  match words with
  | [] => setStatus 0
  | name :: arguments =>
    let shell ← get
    let isMissing := !name.toList.contains '/' && !(programOf shell name).isOk
    let called := (Builtin.argument? choices 'a').getD name
    if isMissing then
      setStatus (← fail 127 ("exec: " ++ name ++ ": not found"))
      if !shell.can "execfail" then stop .exit
    else
      let refused := (programOf shell name).toOption.bind fun path =>
        match invoke shell.disk (Text.narrow path) name [] with
        | .ok _ | .error .execFormat | .error .notFound => none
        | .error error =>
          if shell.disk.isDir (Text.narrow path) then some IoError.isDirectory else some error
      match programOf shell name with
      | .ok path => callAt run path called arguments
      | .error _ => pure ()
      match refused with
      | some error =>
        setStatus (← fail 126 ("exec: " ++ name ++ ": cannot execute: " ++ reason error))
      | none => modify fun shell => { shell with traps := [] }
      if !(← isHalted) then stop .exit

/-- Call what a name stands for, functions left out. -/
private def callCommand (run : Runner) (items : List Item) : Act Unit := do
  match items with
  | [] => pure ()
  | first :: rest =>
    let name := first.text
    let words := rest.map asText
    match Builtin.declarator? name, Builtin.find? name with
    | some work, _ => setStatus (← work rest)
    | _, some work => setStatus (← work words)
    | _, _ => callProgram run (missingCommand run name words) name words

private def callBuiltin (run : Runner) (items : List Item) : Act Unit := do
  match items with
  | [] => pure ()
  | first :: rest =>
    let words := rest.map asText
    match first.text with
    | "eval" => evaluate run words
    | "." | "source" => readScript run first.text words
    | "exec" => replaceShell run words
    | _ => callCommand run items

private def dropOptions (rest : List Item) (left : List String) : List Item :=
  rest.drop (rest.length - left.length)

/-- Call what is named behind `command` or `builtin`, which may stand there as well. -/
private def callOutright (run : Runner) : Nat → List Item → Act Unit
  | 0, _ => pure ()
  | _, [] => pure ()
  | fuel + 1, first :: rest => do
    let words := rest.map asText
    match first.text with
    | "command" =>
      let some (choices, left) ← Builtin.takeOptions? "command" "[-pVv] command [arg ...]" "pVv" words
        | setStatus 2
      if left.isEmpty then setStatus 0
      else if Builtin.has choices 'v' || Builtin.has choices 'V' then
        setStatus (← Builtin.tellNames (Builtin.has choices 'V') left)
      else callOutright run fuel (dropOptions rest left)
    | "builtin" =>
      let some (_, left) ← Builtin.takeOptions? "builtin" "[shell-builtin [arg ...]]" "" words
        | setStatus 2
      match left with
      | [] => setStatus 0
      | name :: _ =>
        if Builtin.names.contains name then callOutright run fuel (dropOptions rest left)
        else setStatus (← fail 1 ("builtin: " ++ name ++ ": not a shell builtin"))
    | _ => callBuiltin run (first :: rest)

private def call (run : Runner) (items : List Item) : Act Unit := do
  let name := (items.head?.map asText).getD ""
  match (← get).function? name with
  | some function => callFunction run name function ((items.drop 1).map asText)
  | none => callOutright run (items.length + 1) items

/-! ## Assignments -/

/-- Carry out assignments one after the other; one that is impossible ends what was read
with it. -/
private def assignAll (run : Runner) : List Assignment → Act Unit
  | [] => pure ()
  | assignment :: rest => do
    let setting ← settle run assignment
    if ← isHalted then return ()
    trace run setting.shown
    if ← applySetting setting then assignAll run rest
    else if !(← isHalted) then stop .discard

/-- Give variables their values for one call. -/
private def lendValues (run : Runner) : List Assignment → Act Unit
  | [] => pure ()
  | assignment :: rest => do
    let setting ← settle run assignment
    if ← isHalted then return ()
    trace run setting.shown
    let shell ← get
    let found := (shell.variableOf? setting.name).getD {}
    if found.isReadonly then complain (setting.name ++ ": readonly variable")
    else
      match setting.value, shell.scopes with
      | .text text, scope :: scopes =>
        let text := if setting.append then (found.value.first?.getD "") ++ text else text
        let variable_ : Variable := { value := .plain (found.cased text), isExported := true }
        set { shell with scopes := scope.put setting.name variable_ :: scopes }
      | _, _ => pure ()
    lendValues run rest

private def withValues (run : Runner) (assignments : List Assignment) (work : Act Unit) :
    Act Unit := do
  if assignments.isEmpty then work
  else
    modify fun shell => { shell with scopes := {} :: shell.scopes }
    lendValues run assignments
    if !(← isHalted) then work
    modify fun shell => { shell with scopes := shell.scopes.drop 1 }

/-! ## Simple commands -/

private def expandItems (run : Runner) : List Argument → Act (List Item)
  | [] => return []
  | argument :: rest => do
    let items ←
      match argument with
      | .word word => do pure ((← expand run [word]).map Item.word)
      | .assignment assignment => do
        let setting ← settle run assignment
        if !(← isHalted) then
          if let some text := setting.settledList? then trace run text
        pure [Item.assignment setting]
    if ← isHalted then return []
    return items ++ (← expandItems run rest)

/-- Report a call. What is published or made unchangeable is reported once more. -/
private def traceCall (run : Runner) (items : List Item) : Act Unit := do
  traceWords run (items.map asText)

private def traceDeclared (run : Runner) (items : List Item) : Act Unit := do
  let name := (items.head?.map asText).getD ""
  if name == "export" || name == "readonly" then
    for item in items.drop 1 do
      if let .assignment setting := item then
        if setting.settledList?.isNone then trace run setting.shown

/-- Run a simple command that stands on this line. -/
def runSimple (run : Runner) (line : Nat) (assignments : List Assignment)
    (arguments : List Argument) (redirections : List Redirection) : Act Unit := do
  modify fun shell => { shell with line, substituted := none }
  runTrap run "DEBUG"
  if ← isHalted then return ()
  let items ← expandItems run arguments
  if ← isHalted then return ()
  match items with
  | [] =>
    assignAll run assignments
    if ← isHalted then return ()
    withPorts run redirections do
      modify fun shell => { shell with status := shell.substituted.getD 0 }
  | first :: rest =>
    if first.text == "exec" && ((← get).function? "exec").isNone then
      withValues run assignments do
        traceCall run items
        if ← redirect run redirections then replaceShell run (rest.map asText)
        else if !(← isHalted) then setStatus 1
    else
      withValues run assignments do
        traceCall run items
        traceDeclared run items
        withPorts run redirections (call run items)
  modify fun shell =>
    { shell with
      statuses := [shell.status]
      lastWord := (items.getLast?.map asText).getD "" }
  checkStatus run
  if !(← isHalted) then settleTraps run

end Provision.Shell
