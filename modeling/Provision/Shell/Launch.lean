import Provision.Machine.Basic
import Provision.Shell.Run

/-! Starting programs on a disk: the shell, scripts for it, and a few tools. -/

namespace Provision.Shell

private def firstProgram (launch : Launch) (disk : Disk) : Shell :=
  { disk
    channels := #[.reader launch.input 0, .buffer [], .buffer []]
    ports := [(0, 0), (1, 1), (2, 2)]
    scopes := []
    name := ""
    arguments := []
    origin := ""
    source := .text []
    given := launch.environment.map fun (name, value) => (Text.widen name, Text.widen value) }

private def taken (shell : Shell) : Nat :=
  match shell.channels[(0 : Nat)]? with
  | some (.reader _ count) => count
  | _ => 0

private def finished (shell : Shell) : Finished :=
  { status :=
      match shell.halt with
      | some (.killed signal) => .signal signal
      | _ => .code shell.status
    out := shell.written 1
    err := shell.written 2
    taken := taken shell }

/-- The program that a launch names. Names that no entry of a directory can have are
refused before anything is looked for, and what is no program may not be executed. -/
private def invocationOf (launch : Launch) (disk : Disk) : Except IoError Invocation := do
  let name := launch.program
  if !name.toList.contains '/' && Disk.maxName < name.utf8ByteSize then throw .nameTooLong
  let searchPath := (lookup? launch.environment "PATH").getD "/bin:/usr/bin"
  let path ←
    match findProgram disk searchPath name with
    | .error .notFound =>
      if isAnything disk searchPath name then throw .permissionDenied else throw .notFound
    | found => found
  invoke disk path (Text.widen name) (launch.arguments.map Text.widen)

/-- How programs behave: those that can be found and executed run to their end. -/
def launcher : Launcher := fun launch disk =>
  match invocationOf launch disk with
  | .error error => (.error error, disk)
  | .ok invocation =>
    let (_, shell) := runner maxDepth (.program invocation) (firstProgram launch disk)
    (.ok (finished shell), shell.disk)

end Provision.Shell
