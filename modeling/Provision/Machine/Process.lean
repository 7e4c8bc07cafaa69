import Provision.Machine.Temporary
import Provision.Text.Word

/-! Running programs and scripts. -/

namespace Provision.Machine

/-- Exit code and captured output of a finished program. The code is -1 when a signal
ended it. -/
structure Captured where
  code : Int
  out : String
  err : String
  deriving DecidableEq, Repr

def Captured.success (captured : Captured) : Bool := captured.code == 0

def exitCode : ExitStatus → Int
  | .code value => value
  | .signal _ => -1

/-- Start a program and let it run to its end. -/
def launch (program : String) (arguments : List String) (input : Bytes) :
    Machine → Except IoError Finished × Machine :=
  fun machine =>
    if (program :: arguments).any fun word => word.toList.contains '\x00' then
      (.error .nulInArgument, machine)
    else
      let environment := machine.environment
      let (outcome, disk) :=
        machine.launcher { program, arguments, input, environment } machine.disk
      (outcome, { machine with disk := { disk with cwd := machine.disk.cwd } })

/-- How much can be written to a pipe that nobody reads from. -/
def pipeCapacity : Nat := 65536

/-- What writing the input of a program comes to, which is in the pipe as soon as there is room for it:
of what was not read, no more than the pipe holds has got into it. -/
def written (input : Bytes) (finished : Finished) : Except IoError Unit :=
  if finished.taken + pipeCapacity < input.length then .error .brokenPipe else .ok ()

/-- What comes of a program that has run to its end. It need not have read all of its input. -/
def concludeRun (program : String) (finished : Finished) :
    Except IoError Unit → Except (List String) Captured
  | .ok () | .error .brokenPipe =>
    .ok {
      code := exitCode finished.status
      out := Text.decodeLossy finished.out
      err := Text.decodeLossy finished.err }
  | .error error => .error ["cannot write stdin of " ++ program, error.message]

/-- What comes of a shell that was started. The whole script has to get into the pipe. -/
def concludeStart : Except IoError Unit → Except (List String) Unit
  | .ok () => .ok ()
  | .error error => .error ["cannot write script to bash", error.message]

/-- Run a command, feed it the input and capture what it prints. A program that fails is
no error, and neither is one that leaves input unread. -/
def runProcess (command : List String) (input : Option Bytes) : Work Captured := do
  match command with
  | [] => throw ["empty command"]
  | program :: arguments =>
    let (outcome, machine) := launch program arguments (input.getD []) (← get)
    set machine
    match outcome with
    | .ok finished =>
      ExceptT.mk (pure (concludeRun program finished (written (input.getD []) finished)))
    | .error error => throw ["command failed to start: " ++ program, error.message]

/-- Run a command that has to succeed, for what it prints. -/
def runCommand (command : List String) (input : Option Bytes) : Work String := do
  let captured ← runProcess command input
  if captured.success then return captured.out
  else throw ["command failed with exit code: " ++ toString captured.code ++ "\n  command: " ++
    String.intercalate " " command ++ "\n  stderr: " ++ Text.trim captured.err]

/-- Run a shell script that stops at the first command that fails. -/
def runBashScript (script : String) : Work Captured :=
  runProcess ["bash", "-s", "-e"] (some (Text.encode script))

/-- A batch file with the script in it. -/
def writeBatch (script : String) : Work String := do
  let path ← within "cannot create batch file" (temporaryFile "recipe-" ".bat")
  orElseUndo
    (onDisk (Disk.attempt "cannot write batch file" fun disk => disk.write path (Text.encode script)))
    (discard path)
  return path

/-- Run a batch file that exists only while it runs. -/
def runBatchScript (script : String) : Work Captured := do
  let path ← writeBatch script
  let captured ← orElseUndo (runProcess ["cmd", "/C", path] none) (discard path)
  discard path
  return captured

/-- Start a batch file without waiting for it; it stays behind for its reader. -/
def startBatch (script : String) : Work Unit := do
  let path ← writeBatch script
  let (outcome, machine) := launch "cmd" ["/C", "start", "/B", path] [] (← get)
  set machine
  match outcome with
  | .ok _ => pure ()
  | .error error => throw ["command failed to start: cmd", error.message]

/-- Start a shell script without waiting for it. -/
def startBash (script : String) : Work Unit := do
  let input := Text.encode script
  let (outcome, machine) := launch "bash" ["-s", "-e"] input (← get)
  set machine
  match outcome with
  | .ok finished => ExceptT.mk (pure (concludeStart (written input finished)))
  | .error error => throw ["command failed to start: bash", error.message]

end Provision.Machine
