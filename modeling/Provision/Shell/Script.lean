import Provision.Shell.Expansion

/-! Reading a script and running it command by command. What stands on lines that have not
been read yet plays no part, so a command can change how the rest is read. -/

namespace Provision.Shell

/-! ## Lines -/

private def withoutNul (line : String) : String := String.ofList (line.toList.filter (· != '\x00'))

/-- Take the next line. The last one is ended if it is not. -/
private def takeSourceLine? : Act (Option String) := do
  let shell ← get
  match shell.source with
  | .text [] => return none
  | .text (line :: rest) =>
    set { shell with source := .text rest }
    let last := line.toList.getLast?
    return some (if last == some '\n' || last == some '\\' then line else line ++ "\n")
  | .input =>
    let (line, ended) ← readLine 0
    if line.isEmpty && !ended then return none
    return some (line ++ "\n")

private def nextLine? : Act (Option String) := do
  match ← takeSourceLine? with
  | none => return none
  | some line =>
    let line := withoutNul line
    modify fun shell => { shell with lines := shell.lines + 1 }
    if (← get).has "verbose" then
      let _ ← write 2 line
    return some line

/-- More than the lines that are left of the script. -/
private def lineBound (shell : Shell) : Nat :=
  match shell.source with
  | .text lines => lines.length + 2
  | .input => ((shell.readable? 0).getD []).length + 2

/-! ## Defects -/

private def complainAt (line : Nat) (text : String) : Act Unit := do
  let shell ← get
  let name := (shell.calls.head?.map (·.origin)).getD shell.name
  let mark := if shell.scriptMark.isEmpty then "" else " " ++ shell.scriptMark ++ ":"
  let _ ← write 2 (name ++ ":" ++ mark ++ " line " ++ toString line ++ ": " ++ text ++ "\n")

/-- Say what is wrong with a script. A shell that ends on failures ends. -/
private def complainOfForm (line : Nat) (text : String) : Act Unit := do
  complainAt line text
  setStatus 2
  if (← get).has "errexit" then stop .exit

private def lineOfText (text : String) (index : Nat) : String := (text.splitOn "\n")[index]?.getD ""

/-- Say at which token a script makes no sense, and show its line. -/
private def complainOfToken (text report : String) (line : Nat) : Act Unit := do
  complainOfForm line report
  if !(← isHalted) then
    let shown := lineOfText text (line - (← get).pendingLine)
    complainAt line ("\x60" ++ shown ++ "\x27")

private def quotedMark (mark : String) : String := "\x60" ++ mark ++ "\x27"

private def refuseText (text : String) (defect : Defect) : Act Unit := do
  let last := (← get).lines
  match defect with
  | .unclosed mark line =>
    complainOfForm line
      ("unexpected EOF while looking for matching " ++ quotedMark (String.singleton mark))
  | .unclosedList line =>
    complainOfForm line ("unexpected EOF while looking for matching " ++ quotedMark ")")
    setStatus 1
  | .unclosedScript =>
    complainOfForm (last + 1) ("unexpected EOF while looking for matching " ++ quotedMark ")")
  | .unfinished => complainOfForm (last + 1) "syntax error: unexpected end of file"
  | .unexpected token line =>
    complainOfToken text ("syntax error near unexpected token " ++ quotedMark token) line
  | .badLoop messages line =>
    for message in messages do
      if !(← isHalted) then complainOfForm line message
  | .badCondition message token line =>
    if !message.isEmpty then complainOfForm line message
    if !(← isHalted) then complainOfToken text ("syntax error near " ++ quotedMark token) line

private def warnOfDocuments (documents : List (Nat × Nat × String)) : Act Unit :=
  documents.forM fun (first, last, stop) => do
    modify fun shell => { shell with line := last }
    complain
      ("warning: here-document at line " ++ toString first ++ " delimited by end-of-file (wanted " ++
        quotedMark stop ++ ")")

/-! ## Commands -/

/-- Whether a script goes on, and whether a command of it has been run. -/
private structure Progress where
  goesOn : Bool
  hasRun : Bool

/-- Run what has been read together. What it gives up ends there, but in a copy of the
shell everything is given up. -/
private def runCommands (run : Runner) (commands : List Command) : Act Progress := do
  if !commands.isEmpty then run (.command (.sequence commands))
  let shell ← get
  if shell.halt == some .discard && shell.level == 0 then
    set { shell with halt := none }
    if shell.has "onecmd" then stop .exit
    return ⟨true, true⟩
  if shell.has "onecmd" && shell.halt.isNone then stop .exit
  return ⟨!(← isHalted), !commands.isEmpty⟩

private def endsInBackslash (text : String) : Bool :=
  match text.toList.reverse with
  | '\n' :: rest => (rest.takeWhile (· == '\\')).length % 2 == 1
  | _ => false

private def cursorAt (shell : Shell) (text : String) (isWhole : Bool) : Cursor :=
  { rest := text.toList, line := shell.pendingLine, isWhole, isExtended := shell.can "extglob" }

/-- Run what is complete of a text; nothing if it takes more lines to complete it. -/
private def runText? (run : Runner) (text : String) (isWhole : Bool) : Act (Option Progress) := do
  match Parser.commands (cursorAt (← get) text isWhole) with
  | .ok (commands, cursor) =>
    warnOfDocuments cursor.openDocuments.reverse
    modify fun shell => { shell with pending := "" }
    return some (← runCommands run commands)
  | .error defect =>
    if defect.canGrow && !isWhole then return none
    modify fun shell => { shell with pending := "" }
    refuseText text defect
    return some ⟨false, true⟩

/-- Take another line of the script and run what is complete. -/
private def runLine (run : Runner) : Act Progress := do
  let before := (← get).pending
  match ← nextLine? with
  | none =>
    if before.isEmpty then return ⟨false, false⟩
    return { (← runText? run before true).getD ⟨false, false⟩ with goesOn := false }
  | some line =>
    let text := before ++ line
    if before.isEmpty then modify fun shell => { shell with pendingLine := shell.lines }
    if !endsInBackslash text then
      if let some progress ← runText? run text false then return progress
    modify fun shell => { shell with pending := text }
    return ⟨true, false⟩

private def runLines (run : Runner) : Nat → Act Bool
  | 0 => return false
  | fuel + 1 => do
    let progress ← runLine run
    if progress.goesOn then return (← runLines run fuel) || progress.hasRun
    else return progress.hasRun

/-- Run the script in front of the shell, and what was kept for its end. -/
def runScript (run : Runner) : Act Unit := do
  let bound := lineBound (← get)
  let _ ← runLines run bound
  runOnExit run

/-- Run a text that begins on this line in place of the script. One without commands
succeeds. -/
def runText (run : Runner) (text : String) (line : Nat) : Act Unit := do
  let before ← get
  set { before with source := .text (linesOf text), pending := "", lines := line - 1 }
  let hasRun ← runLines run ((linesOf text).length + 2)
  let source := before.source
  let pending := before.pending
  let pendingLine := before.pendingLine
  let lines := before.lines
  modify fun after =>
    { after with
      source, pending, pendingLine, lines
      line := before.line
      status := if hasRun then after.status else 0 }

end Provision.Shell
