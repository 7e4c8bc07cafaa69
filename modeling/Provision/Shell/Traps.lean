import Provision.Shell.Expansion
import Provision.Shell.Format

/-! What is kept to be run when something happens. -/

namespace Provision.Shell

/-- Run a kept text. It does not change the status, unless it ends something. -/
private def runKept (run : Runner) (text : String) : Act Unit := do
  let before ← get
  set { before with depth := before.depth + 1 }
  run (.script text before.line)
  let depth := before.depth
  let line := before.line
  modify fun after =>
    { after with
      depth, line
      statuses := before.statuses
      lastWord := before.lastWord
      status := if after.halt.isSome then after.status else before.status }

/-- Run what is kept for an event. While it runs, the event means nothing. -/
def runTrap (run : Runner) (event : String) : Act Unit := do
  let shell ← get
  match lookup? shell.traps event with
  | none | some "" => pure ()
  | some text =>
    set { shell with traps := shell.traps.filter fun entry => entry.1 != event }
    runKept run text
    modify fun after =>
      if (lookup? after.traps event).isSome then after
      else { after with traps := (event, text) :: after.traps }

private def runSprung (run : Runner) : Nat → Act Unit
  | 0 => pure ()
  | fuel + 1 => do
    let shell ← get
    match shell.sprung with
    | [] => pure ()
    | text :: rest =>
      if shell.halt.isNone then
        set { shell with sprung := rest }
        runKept run text
        runSprung run fuel

/-- How many traps can be sprung by one command. -/
private def maxSprung : Nat := 100

/-- Run what signals have sprung. -/
def settleTraps (run : Runner) : Act Unit := runSprung run maxSprung

/-- Take notice of a failure that was not tested: it may be trapped, and it may end the
shell. -/
def checkStatus (run : Runner) : Act Unit := do
  let shell ← get
  if shell.status != 0 && !shell.isTested && shell.halt.isNone then
    runTrap run "ERR"
    if (← get).has "errexit" && !(← isHalted) then stop .exit

/-- Run something for its status, which ends nothing. -/
def tested (work : Act Unit) : Act Unit := do
  let before := (← get).isTested
  modify fun shell => { shell with isTested := true }
  work
  modify fun shell => { shell with isTested := before }

end Provision.Shell

/-! Signals and the other events for which something can be kept to be run. -/

namespace Provision.Shell.Signal

private def named : List (Nat × String) :=
  [(1, "HUP"), (2, "INT"), (3, "QUIT"), (4, "ILL"), (5, "TRAP"), (6, "ABRT"), (7, "BUS"),
    (8, "FPE"), (9, "KILL"), (10, "USR1"), (11, "SEGV"), (12, "USR2"), (13, "PIPE"),
    (14, "ALRM"), (15, "TERM"), (16, "STKFLT"), (17, "CHLD"), (18, "CONT"), (19, "STOP"),
    (20, "TSTP"), (21, "TTIN"), (22, "TTOU"), (23, "URG"), (24, "XCPU"), (25, "XFSZ"),
    (26, "VTALRM"), (27, "PROF"), (28, "WINCH"), (29, "IO"), (30, "PWR"), (31, "SYS")]

private def realTime : List (Nat × String) :=
  (34, "RTMIN") :: (List.range 15).map (fun i => (35 + i, "RTMIN+" ++ toString (i + 1))) ++
    (List.range 14).map (fun i => (50 + i, "RTMAX-" ++ toString (14 - i))) ++ [(64, "RTMAX")]

/-- All signals with their numbers. -/
def all : List (Nat × String) := named ++ realTime

def name? (number : Nat) : Option String :=
  (all.find? fun entry => entry.1 == number).map Prod.snd

private def upper (text : String) : String := text.map Char.toUpper

private def withoutFront (word : String) : String :=
  if (upper word).startsWith "SIG" then String.ofList (word.toList.drop 3) else word

/-- The signal that a name or a number means. -/
def number? (word : String) : Option Nat :=
  match integer? word with
  | some value =>
    if value == 0 then some 0
    else if 0 < value && (name? value.toNat).isSome then some value.toNat else none
  | none =>
    (all.find? fun entry => entry.2 == upper (withoutFront word)).map Prod.fst

/-- The event that a name or a number means. -/
def event? (word : String) : Option String :=
  let name := upper word
  if name == "EXIT" || word == "0" then some "EXIT"
  else if name == "DEBUG" || name == "ERR" || name == "RETURN" then some name
  else (number? word).bind name?

/-- Events in the order in which they are listed. -/
def events : List String := "EXIT" :: all.map Prod.snd ++ ["DEBUG", "ERR", "RETURN"]

/-- An event as it is shown. -/
def shown (event : String) : String :=
  if ["EXIT", "DEBUG", "ERR", "RETURN"].contains event then event else "SIG" ++ event

private def rows (perRow : Nat) : Nat → List String → List (List String)
  | 0, _ => []
  | fuel + 1, cells =>
    if cells.isEmpty then [] else cells.take perRow :: rows perRow fuel (cells.drop perRow)

/-- All signals as a table. -/
def table : String :=
  let cells := all.map fun (number, name) =>
    (if number < 10 then " " else "") ++ toString number ++ ") SIG" ++ name
  String.join ((rows 5 cells.length cells).map fun row =>
    String.intercalate "\t" row ++ (if row.length == 5 then "\t" else "") ++ "\n")

end Provision.Shell.Signal
