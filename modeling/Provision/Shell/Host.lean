import Provision.Shell.State

/-! What every system has: programs that are known by their location alone, and devices. -/

namespace Provision.Shell.Host

/-- Where programs are. -/
private def directories : List String := ["/bin/", "/usr/bin/"]

private def programs : List String :=
  ["[", "basename", "bash", "cat", "chmod", "cp", "cut", "dirname", "echo", "env", "false", "grep",
    "head", "id", "ln", "ls", "mkdir", "mv", "printenv", "printf", "pwd", "readlink", "realpath",
    "rev", "rm", "rmdir", "seq", "sh", "sleep", "sort", "tac", "tail", "tee", "test", "touch", "tr",
    "true", "uname", "uniq", "wc", "whoami"]

/-- The name of the program that a path leads to. -/
def program? (path : String) : Option String :=
  (directories.findSome? fun directory =>
    if directory.toList.isPrefixOf path.toList then
      some (String.ofList (path.toList.drop directory.length))
    else none).filter programs.contains

/-- What a path below the devices leads to. -/
inductive Device where
  /-- Everything written is lost, and nothing can be read. -/
  | nothing
  /-- As many noughts as are wanted. -/
  | noughts
  | port (number : Nat)
  deriving DecidableEq, Repr

def device? (path : String) : Option Device :=
  match path with
  | "/dev/null" => some .nothing
  | "/dev/zero" => some .noughts
  | "/dev/stdin" => some (.port 0)
  | "/dev/stdout" => some (.port 1)
  | "/dev/stderr" => some (.port 2)
  | path =>
    let front := "/dev/fd/".toList
    let number := path.toList.drop front.length
    if front.isPrefixOf path.toList && !number.isEmpty && number.all Char.isDigit then
      some (.port (Text.digitsValue number))
    else none

/-- Directories that are always there. -/
def places : List String :=
  ["/bin", "/boot", "/dev", "/etc", "/home", "/lib", "/mnt", "/opt", "/proc", "/root", "/run",
    "/sbin", "/srv", "/sys", "/tmp", "/usr", "/usr/bin", "/usr/lib", "/usr/local",
    "/usr/local/bin", "/usr/sbin", "/usr/share", "/var", "/var/log", "/var/tmp"]


end Provision.Shell.Host
