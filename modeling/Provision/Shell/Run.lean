import Provision.Shell.Call
import Provision.Shell.Choice

/-! Running commands. -/

namespace Provision.Shell

private def runSequence (run : Runner) : List Command → Act Unit
  | [] => pure ()
  | command :: rest => do
    run (.command command)
    if !(← isHalted) then runSequence run rest

/-! ## Pipelines -/

/-- Run the commands with the output of each led to the input of the next. Gives how they
ended. -/
private def runParts (run : Runner) : List Command → Act (List Nat)
  | [] => return []
  | [last] => do
    if (← get).can "lastpipe" then run (.command last) else inSubshell run (run (.command last))
    return [(← get).status]
  | first :: rest => do
    let before ← get
    let channel := before.channels.size
    set (before.openPort 1 (.buffer []))
    inSubshell run (run (.command first))
    let status := (← get).status
    let bytes := (← get).written channel
    modify fun shell => { shell with ports := before.ports }.openPort 0 (.reader bytes 0)
    return status :: (← runParts run rest)

private def pipelineStatus (shell : Shell) (statuses : List Nat) : Nat :=
  if shell.has "pipefail" then ((statuses.reverse.find? (· != 0)).getD 0)
  else statuses.getLast?.getD 0

private def runPipeline (run : Runner) (parts : List Command) : Act Unit := do
  match parts with
  | [only] => run (.command only)
  | parts =>
    let ports := (← get).ports
    let statuses ← runParts run parts
    modify fun shell => { shell with ports, statuses, status := pipelineStatus shell statuses }

/-- The identity of the first command that is started beside others. -/
private def firstJob : Nat := 3

/-- Start a command beside others. It is run at once. -/
private def runBeside (run : Runner) (body : Command) : Act Unit := do
  let ports := (← get).ports
  modify (openPort 0 (.reader [] 0))
  inSubshell run (run (.command body))
  modify fun shell =>
    let job := firstJob + shell.jobs.length
    { shell with ports, status := 0, jobs := (job, shell.status) :: shell.jobs, lastJob := some job }

/-! ## Loops -/

/-- What the end of a round means for its loop: whether there is another one. -/
private def endRound : Act Bool := do
  let shell ← get
  match shell.halt with
  | none => return true
  | some (.leaveLoops count) =>
    set { shell with halt := if count ≤ 1 then none else some (.leaveLoops (count - 1)) }
    return false
  | some (.nextRound count) =>
    set { shell with halt := if count ≤ 1 then none else some (.nextRound (count - 1)) }
    return count ≤ 1
  | some _ => return false

private def inLoop (work : Act Unit) : Act Unit := do
  modify fun shell => { shell with loops := shell.loops + 1 }
  work
  modify fun shell => { shell with loops := shell.loops - 1 }

private def eachRound (run : Runner) (line : Nat) (name text : String) (body : Command) :
    List String → Act Unit
  | [] => pure ()
  | value :: rest => do
    modify fun shell => { shell with line }
    runTrap run "DEBUG"
    trace run ("for " ++ name ++ " in " ++ text)
    if ← assignText name none value then
      run (.command body)
      if ← endRound then eachRound run line name text body rest
    else setStatus 1

/-- How many rounds of one loop are run at most. -/
private def maxRounds : Nat := 1000000

private def rounds (run : Runner) (expected : Bool) (test body : Command) (status : Nat) :
    Nat → Act Unit
  | 0 => stop (.killed 9)
  | fuel + 1 => do
    tested (run (.command test))
    if ← isHalted then
      if ← endRound then rounds run expected test body status fuel
    else if ((← get).status == 0) == expected then
      run (.command body)
      let status := (← get).status
      if ← endRound then rounds run expected test body status fuel
    else setStatus status

/-- The value of an expression of a counting loop; a missing one holds. -/
private def countValue? (run : Runner) (expression : Word) : Act (Option Int) :=
  if expression.isEmpty then return some 1 else valueOf? run expression

private def countRounds (run : Runner) (test step : Word) (body : Command) (status : Nat) :
    Nat → Act Unit
  | 0 => stop (.killed 9)
  | fuel + 1 => do
    match ← countValue? run test with
    | none => setStatus 1
    | some 0 => setStatus status
    | some _ =>
      run (.command body)
      let status := (← get).status
      if ← endRound then
        if (← countValue? run step).isNone then setStatus 1
        else countRounds run test step body status fuel

/-! ## Branches -/

private def anyAccepts (run : Runner) (text : String) : List Word → Act Bool
  | [] => return false
  | word :: rest => do
    let field ← expandField run word
    if ← isHalted then return false
    let shell ← get
    let pattern := Pattern.ofField (shell.can "extglob") field
    if pattern.accepts (shell.can "nocasematch") text.toList then return true
    else anyAccepts run text rest

/-- Run the branch that the text belongs to, and those that follow from it. -/
private def runBranches (run : Runner) (text : String) :
    (isChosen : Bool) → List (List Word × Command × BranchEnd) → Act Unit
  | _, [] => pure ()
  | isChosen, (words, body, ending) :: rest => do
    let chosen ← if isChosen then pure true else anyAccepts run text words
    if ← isHalted then return ()
    if chosen then
      setStatus 0
      run (.command body)
      if ← isHalted then return ()
      match ending with
      | .leave => pure ()
      | .fallThrough => runBranches run text true rest
      | .goOn => runBranches run text false rest
    else runBranches run text false rest

/-! ## Commands -/

private def printContents (run : Runner) (word : Word) (line : Nat) : Act Unit := do
  modify fun shell => { shell with line }
  withPorts run [⟨0, .read word, ""⟩] do
    let text ← readAll 0
    let _ ← write 1 text
    setStatus 0

/-- Set the status of a command that consists of one part. -/
private def endWith (run : Runner) (status : Nat) : Act Unit := do
  modify fun shell => { shell with status, statuses := [status] }
  checkStatus run

/-- Nothing takes any time. -/
private def timing (isShort : Bool) : String :=
  if isShort then "real 0.00\nuser 0.00\nsys 0.00\n"
  else "\nreal\t0m0.000s\nuser\t0m0.000s\nsys\t0m0.000s\n"

private def runCommand (run : Runner) : Command → Act Unit
  | .simple line assignments arguments redirections =>
    runSimple run line assignments arguments redirections
  | .condition line test => do
    modify fun shell => { shell with line }
    runTrap run "DEBUG"
    let status ← statusOfTest run false test
    if !(← isHalted) then endWith run status
  | .arithmetic line expression => do
    modify fun shell => { shell with line }
    runTrap run "DEBUG"
    let value ← valueOf? run expression
    if !(← isHalted) then endWith run (if value.any (· != 0) then 0 else 1)
  | .pipeline negated parts => do
    if negated then
      tested (runPipeline run parts)
      if !(← isHalted) then
        modify fun shell => { shell with status := if shell.status == 0 then 1 else 0 }
    else
      runPipeline run parts
      if 1 < parts.length then checkStatus run
  | .timed isShort body => do
    run (.command body)
    let _ ← write 2 (timing isShort)
  | .both left right => do
    tested (run (.command left))
    if !(← isHalted) && (← get).status == 0 then run (.command right)
  | .either left right => do
    tested (run (.command left))
    if !(← isHalted) && (← get).status != 0 then run (.command right)
  | .sequence parts => runSequence run parts
  | .background body => runBeside run body
  | .subshell body => do
    inSubshell run (run (.command body))
    let status := (← get).status
    if !(← isHalted) then endWith run status
  | .choice test accepted rejected => do
    tested (run (.command test))
    if ← isHalted then return ()
    let succeeded := (← get).status == 0
    setStatus 0
    run (.command (if succeeded then accepted else rejected))
  | .loop expected test body => inLoop (rounds run expected test body 0 maxRounds)
  | .each line name words text body => do
    modify fun shell => { shell with line }
    if !isName name then
      complain ("\x60" ++ name ++ "\x27: not a valid identifier")
      setStatus 1
    else
      let values ← match words with
        | some words => expand run words
        | none => do pure (← get).arguments
      if ← isHalted then return ()
      setStatus 0
      inLoop (eachRound run line name text body values)
  | .count line first test step body => do
    modify fun shell => { shell with line }
    if (← countValue? run first).isNone then setStatus 1
    else inLoop (countRounds run test step body 0 maxRounds)
  | .select line subject shown branches => do
    modify fun shell => { shell with line }
    runTrap run "DEBUG"
    trace run ("case " ++ shown ++ " in")
    let text ← expandWhole run subject
    if ← isHalted then return ()
    setStatus 0
    runBranches run text false branches
  | .define name body => do
    let shell ← get
    let others := shell.functions.filter fun entry => entry.1 != name
    let function : Function := ⟨body, shell.currentOrigin⟩
    set { shell with functions := (name, function) :: others, status := 0 }
  | .redirected body redirections => do
    keepingPorts run do
      if ← redirect run redirections then run (.command body)
      else if !(← isHalted) then
        setStatus 1
        checkStatus run

/-- How deep commands can be nested. -/
def maxDepth : Nat := 2000

/-- Run commands that hold others up to the given depth. -/
def runner : Nat → Runner
  | 0, _ => stop (.killed 11)
  | depth + 1, .script text line => runText (runner depth) text line
  | depth + 1, .command command => do
    if !(← get).has "noexec" then runCommand (runner depth) command
  | depth + 1, .contents word line => printContents (runner depth) word line
  | depth + 1, .program invocation => become (runner depth) invocation

end Provision.Shell
