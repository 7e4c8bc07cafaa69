import Provision.Shell.Builtin.Options
import Provision.Shell.Traps

/-! Leaving functions, loops and shells, and what happens between processes. -/

namespace Provision.Shell.Builtin

/-- The status that a number asks for: what is left of it in eight bits. -/
private def statusOf (value : Int) : Nat := (value % 256).toNat

def exit (words : List String) : Act Nat := do
  match words with
  | [] =>
    stop .exit
    return (← get).status
  | word :: rest =>
    match integer? word with
    | some value =>
      if !rest.isEmpty then
        abandon "exit: too many arguments"
        return 1
      stop .exit
      return statusOf value
    | none =>
      stop .exit
      fail 2 ("exit: " ++ word ++ ": numeric argument required")

def return_ (words : List String) : Act Nat := do
  let shell ← get
  if shell.calls.isEmpty || (shell.calls.all fun call => call.name == "main") then
    fail 2 "return: can only \x60return\x27 from a function or sourced script"
  else
    match words with
    | [] =>
      stop .fromFunction
      return shell.status
    | word :: rest =>
      match integer? word with
      | some value =>
        if !rest.isEmpty then
          abandon "return: too many arguments"
          return 1
        stop .fromFunction
        return statusOf value
      | none =>
        stop .fromFunction
        fail 2 ("return: " ++ word ++ ": numeric argument required")

/-- Leave loops or begin their next round, as `reason` has it. -/
def leave (name : String) (reason : Nat → Halt) (words : List String) : Act Nat := do
  let loops := (← get).loops
  if loops == 0 then
    fail 0 (name ++ ": only meaningful in a \x60for\x27, \x60while\x27, or \x60until\x27 loop")
  else
    match words with
    | [] =>
      stop (reason 1)
      return 0
    | word :: rest =>
      match integer? word with
      | none =>
        complain (name ++ ": " ++ word ++ ": numeric argument required")
        stop .exit
        return 128 + (← get).status
      | some value =>
        if !rest.isEmpty then
          abandon (name ++ ": too many arguments")
          return 1
        if value ≤ 0 then
          complain (name ++ ": " ++ toString value ++ ": loop count out of range")
          stop (.leaveLoops loops)
          return 1
        stop (reason (min loops value.toNat))
        return 0

/-! ## Traps -/

private def trapText (event text : String) : String :=
  "trap -- " ++ (if text.isEmpty then "\x27\x27" else Quoting.single text) ++ " " ++
    Signal.shown event ++ "\n"

private def showTraps (events : List String) : Act Nat := do
  let traps := (← get).traps
  print "trap" (String.join (events.filterMap fun event =>
    (lookup? traps event).map (trapText event)))

private def setTrap (event : String) (text : Option String) : Act Unit :=
  modify fun shell =>
    let others := shell.traps.filter fun entry => entry.1 != event
    { shell with
      traps :=
        match text with
        | some text => (event, text) :: others
        | none => others }

private def setTraps (text : Option String) : List String → (status : Nat) → Act Nat
  | [], status => return status
  | word :: rest, status => do
    match Signal.event? word with
    | some event =>
      setTrap event text
      setTraps text rest status
    | none =>
      complain ("trap: " ++ word ++ ": invalid signal specification")
      setTraps text rest 1

def trap (words : List String) : Act Nat := do
  let usage := "[-lp] [[arg] signal_spec ...]"
  let isReset := words.head? == some "-"
  let some (choices, words) ← takeOptions? "trap" usage "lp" words | return 2
  if has choices 'l' then return ← print "trap" Signal.table
  if has choices 'p' then
    if words.isEmpty then return ← showTraps Signal.events
    else return ← showTraps (words.filterMap Signal.event?)
  match words with
  | [] => showTraps Signal.events
  | [only] =>
    if isReset then
      showUsage "trap" usage
      return 2
    match Signal.event? only with
    | some _ => setTraps none [only] 0
    | none =>
      showUsage "trap" usage
      return 2
  | first :: rest =>
    if first == "-" then setTraps none rest 0
    else if !first.isEmpty && first.toList.all Char.isDigit then setTraps none words 0
    else setTraps (some first) rest 0

/-! ## Processes -/

private def killUsage : String :=
  "[-s sigspec | -n signum | -sigspec] pid | jobspec ... or kill -l [sigspec]"

/-- Let a signal take effect on this shell. -/
private def receive (signal : Nat) : Act Unit := do
  let shell ← get
  let text := (Signal.name? signal).bind (lookup? shell.traps)
  let isHarmless := signal == 0 || signal == 17 || signal == 18 || signal == 23 || signal == 28
  match text with
  | some text =>
    if signal == 9 || signal == 19 then stop (.killed signal)
    else if !text.isEmpty then set { shell with sprung := shell.sprung ++ [text] }
  | none => if !isHarmless then stop (.killed signal)

private def sendTo (signal : Nat) : List String → (status : Nat) → Act Nat
  | [], status => return status
  | word :: rest, status => do
    let shell ← get
    if word == pid || word == "0" || word == "-" ++ pid then
      receive signal
      sendTo signal rest status
    else
      match integer? word with
      | none =>
        if word.front == '%' then complain ("kill: " ++ word ++ ": no such job")
        else complain ("kill: " ++ word ++ ": arguments must be process or job IDs")
        sendTo signal rest 1
      | some value =>
        if shell.jobs.any fun job => (job.1 : Int) == value then
          if signal != 0 then
            let jobs := shell.jobs.map fun job =>
              if (job.1 : Int) == value then (job.1, 128 + signal) else job
            set { shell with jobs }
          sendTo signal rest status
        else
          complain ("kill: (" ++ word ++ ") - No such process")
          sendTo signal rest 1

private def listSignals : List String → (status : Nat) → Act Nat
  | [], status => return status
  | word :: rest, status => do
    let shown :=
      match integer? word with
      | some value =>
        let number := if 128 < value then value - 128 else value
        if number == 0 then some "EXIT" else Signal.name? number.toNat
      | none => (Signal.number? word).map toString
    match shown with
    | some text =>
      let _ ← print "kill" (text ++ "\n")
      listSignals rest status
    | none =>
      complain ("kill: " ++ word ++ ": invalid signal specification")
      listSignals rest 1

private def killWith (spec : String) (targets : List String) : Act Nat := do
  match Signal.number? spec, targets with
  | none, _ =>
    if Signal.event? spec == some "EXIT" && !targets.isEmpty then sendTo 0 targets 0
    else fail 1 ("kill: " ++ spec ++ ": invalid signal specification")
  | some _, [] =>
    showUsage "kill" killUsage
    return 2
  | some signal, targets => sendTo signal targets 0

def kill (words : List String) : Act Nat := do
  match words with
  | [] =>
    showUsage "kill" killUsage
    return 2
  | "-l" :: [] | "-L" :: [] => print "kill" Signal.table
  | "-l" :: rest | "-L" :: rest => listSignals rest 0
  | "-s" :: [] | "-n" :: [] => fail 1 ("kill: " ++ words.headD "" ++ ": option requires an argument")
  | "-s" :: spec :: rest | "-n" :: spec :: rest => killWith spec rest
  | "--" :: rest => killWith "15" rest
  | word :: rest =>
    match word.toList with
    | '-' :: spec => killWith (String.ofList spec) rest
    | _ => killWith "15" words

private def waitFor : List String → (status : Nat) → Act Nat
  | [], status => return status
  | word :: rest, _ => do
    let shell ← get
    match integer? word with
    | some value =>
      match shell.jobs.find? fun job => (job.1 : Int) == value with
      | some (_, status) => waitFor rest status
      | none =>
        complain ("wait: pid " ++ word ++ " is not a child of this shell")
        waitFor rest 127
    | none =>
      if word.front == '%' then
        complain ("wait: " ++ word ++ ": no such job")
        waitFor rest 127
      else
        complain ("wait: \x60" ++ word ++ "\x27: not a pid or valid job spec")
        waitFor rest 1

def wait (words : List String) : Act Nat := do
  let some (choices, words) ← takeOptions? "wait" "[-fn] [-p var] [id ...]" "fnp:" words | return 2
  let shell ← get
  if has choices 'n' then
    match shell.lastJob.bind fun job => shell.jobs.find? fun entry => entry.1 == job with
    | some (_, status) => return status
    | none => return 127
  waitFor words 0

end Provision.Shell.Builtin
