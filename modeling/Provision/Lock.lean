import Provision.Machine.Basic
import Provision.Text.Numeral

/-! Run exclusion: whoever runs a recipe holds an advisory lock on a file beside it, in which
its process identity can be read. The lock belongs to the opened file, not to its name. -/

namespace Provision

structure RunLock where
  /-- The opened file. -/
  file : Nat
  path : String
  deriving DecidableEq, Repr

namespace RunLock

/-- The lock file of a recipe. -/
def pathFor (recipe : String) : String := recipe ++ ".lock"

/-- Whoever holds the lock, by what the file says. -/
def holder? (contents : Bytes) : Option Nat :=
  (Text.decode? contents).bind fun text =>
    (Text.readNatBelow 0x100000000 (Text.trim text)).toOption

def busy (recipe path : String) (holder : Option Nat) : String :=
  recipe ++ " is already being executed" ++
    (match holder with
    | some pid => " (process " ++ toString pid ++ ")"
    | none => "") ++
    "; remove " ++ path ++ " if no run is active"

/-- Take the lock without waiting. A file that was left behind is taken over. -/
def acquire (recipe : String) : Machine.Work RunLock := do
  let path := pathFor recipe
  let machine ← get
  match machine.disk.openOrCreate path with
  | .error error => throw ["cannot open lock file " ++ path, error.message]
  | .ok (file, disk) =>
    match disk.tryLock file with
    | none =>
      set { machine with disk }
      throw [busy recipe path ((disk.contents? file).bind holder?)]
    | some disk =>
      set { machine with disk := disk.rewrite file (Text.encode (toString machine.pid)) }
      return { file, path }

/-- Remove the file, as far as it can be, and give the lock back. -/
def release (lock : RunLock) (machine : Machine) : Machine :=
  let disk := match machine.disk.unlink lock.path with
    | .ok disk => disk
    | .error _ => machine.disk
  { machine with disk := disk.unlock lock.file }

end RunLock

end Provision
