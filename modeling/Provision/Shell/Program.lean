import Provision.Shell.Script
import Provision.Shell.Start
import Provision.Shell.Tool.Environment
import Provision.Shell.Tool.Files
import Provision.Shell.Tool.Lines
import Provision.Shell.Tool.Names

/-! All tools by name. -/

namespace Provision.Shell.Tool

private def table : List (String × (String → List String → Act Nat)) :=
  [("[", bracket), ("basename", baseName), ("cat", cat), ("chmod", changeModes),
    ("cp", copy), ("cut", cut), ("dirname", parentName), ("echo", echo),
    ("false", fun _ _ => return 1), ("grep", search), ("head", head), ("id", identity),
    ("ln", link), ("ls", list), ("mkdir", makeDirectory), ("mv", move),
    ("printenv", printEnvironment), ("printf", printf), ("pwd", workingDirectory),
    ("readlink", readLink), ("realpath", realPath), ("rev", reverseEach), ("rm", remove),
    ("rmdir", removeDirectory), ("seq", sequence), ("sleep", sleep), ("sort", sort),
    ("tac", reverseLines), ("tail", tail), ("tee", tee), ("test", test), ("touch", touch),
    ("tr", translate), ("true", fun _ _ => return 0), ("uname", system), ("uniq", unique),
    ("wc", count), ("whoami", whoAmI)]

/-- Carry on as the tool of this name. -/
def start (run : Runner) (tool : String) (invocation : Invocation) : Act Nat :=
  if tool == "env" then inEnvironment run invocation.name invocation.words
  else
    match table.find? fun entry => entry.1 == tool with
    | some (_, work) => work invocation.name invocation.words
    | none => return 127

end Provision.Shell.Tool

/-! Starting programs from a shell. -/

namespace Provision.Shell

/-- Carry on as a program. -/
def become (run : Runner) (invocation : Invocation) : Act Unit := do
  match invocation.executor with
  | .shell isPlain =>
    modify (beginShell invocation.path invocation.name isPlain invocation.words)
    if !(← isHalted) then runScript run
  | .tool tool => setStatus (← Tool.start run tool invocation)

/-- Go on where the shell was when a child of it has ended. -/
private def resume (shell child : Shell) : Shell :=
  let status :=
    match child.halt with
    | some (.killed signal) => 128 + signal
    | _ => child.status
  let disk := { child.disk with cwd := shell.disk.cwd }
  let channels := child.channels
  { shell with disk, channels, status }

private def startProgram (run : Runner) (invocation : Invocation) : Act Unit := fun shell =>
  let given := givenAt invocation.path shell
  let child := childOf shell invocation.name invocation.words given
  let (_, child) := run (.program invocation) child
  ((), resume shell child)

/-- Run a script of a file that does not say by what it is to be run. -/
private def startScript (run : Runner) (path text : String) (words : List String) : Act Unit :=
  fun shell =>
    let child := continuedShell path text words (childOf shell path words (givenAt path shell))
    let (_, child) := runScript run child
    ((), resume shell child)

private def refuse (status : Nat) (text : String) : Act Unit := do setStatus (← fail status text)

private def refuseError (path : String) (error : IoError) : Act Unit := do
  match error with
  | .notFound =>
    if (← get).disk.contains (Text.narrow path) then
      refuse 127 (path ++ ": cannot execute: required file not found")
    else refuse 127 (path ++ ": No such file or directory")
  | error => refuse 126 (path ++ ": " ++ reason error)

/-- Run the program at a path, under a name. -/
def callAt (run : Runner) (path name : String) (words : List String) : Act Unit := do
  let shell ← get
  let place := Text.narrow path
  if shell.disk.isDir place then refuse 126 (path ++ ": Is a directory")
  else
    match invoke shell.disk place name words with
    | .ok invocation => startProgram run invocation
    | .error .execFormat =>
      match shell.disk.read place with
      | .ok bytes =>
        if ((bytes.take 80).takeWhile (· != 10)).contains 0 then
          refuse 126 (path ++ ": cannot execute binary file: Exec format error")
        else startScript run path (Text.ofOctets bytes) words
      | .error error => refuseError path error
    | .error error => refuseError path error

/-- The path of the program that a word names. -/
def programOf (shell : Shell) (name : String) : Except IoError String :=
  (findProgram shell.disk (Text.narrow (shell.textOf "PATH")) (Text.narrow name)).map Text.widen

/-- Run the program that a word names, or what is said instead if there is none. -/
def callProgram (run : Runner) (missing : Act Unit) (name : String) (words : List String) :
    Act Unit := do
  match programOf (← get) name with
  | .ok path => callAt run path name words
  | .error .notFound => missing
  | .error error => refuse 126 (name ++ ": " ++ reason error)

/-- Say that no command has this name. -/
def refuseCommand (name : String) : Act Unit := do
  let text := if (← get).isPlain then "not found" else "command not found"
  refuse 127 (name ++ ": " ++ text)

end Provision.Shell
