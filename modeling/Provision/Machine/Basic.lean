import Provision.Disk.Transfer
import Provision.Fault
import Provision.Web.Network

/-! The machine on which a run takes place: its disk, its environment, the programs it
can start, the network around it and what has been printed. -/

namespace Provision

/-- A program to be started. -/
structure Launch where
  program : String
  arguments : List String
  input : Bytes
  environment : List (String × String)

inductive ExitStatus where
  | code (value : Nat)
  | signal (number : Nat)
  deriving DecidableEq, Repr

/-- What is known of a program that has run to its end. -/
structure Finished where
  status : ExitStatus
  out : Bytes
  err : Bytes
  /-- How much of its input it has read. -/
  taken : Nat

/-- How programs behave on a disk. -/
abbrev Launcher := Launch → Disk → Except IoError Finished × Disk

structure Machine where
  disk : Disk
  environment : List (String × String) := []
  launcher : Launcher
  network : Network := {}
  /-- The identity of the running process. -/
  pid : Nat := 1
  /-- Counts the random names handed out so far. -/
  names : Nat := 0
  /-- Counts the mount points handed out so far. -/
  mounts : Nat := 0
  rebooted : Bool := false
  out : String := ""
  err : String := ""

namespace Machine

/-- Work on the machine. An error is a list of causes, outermost first, and what was done
before it stays done. -/
abbrev Work (α : Type) := ExceptT (List String) (StateM Machine) α

def env? (machine : Machine) (name : String) : Option String :=
  (machine.environment.find? fun entry => entry.1 == name).map Prod.snd

/-- The home directory: what the variable says, or else that of the administrator. -/
def home (machine : Machine) : String :=
  ((machine.env? "HOME").filter (!·.isEmpty)).getD "/root"

/-- Set a variable, in place of an earlier value. -/
def setVariable (machine : Machine) (name value : String) : Machine :=
  { machine with
    environment := (name, value) :: machine.environment.filter fun entry => entry.1 != name }

def print (text : String) (machine : Machine) : Machine :=
  { machine with out := machine.out ++ text }

def printError (text : String) (machine : Machine) : Machine :=
  { machine with err := machine.err ++ text }

/-- Work on the machine's disk. -/
def onDisk {α : Type} (work : Disk.Work α) : Work α := do
  let (outcome, disk) := work (← get).disk
  modify fun machine => { machine with disk }
  match outcome with
  | .ok value => return value
  | .error causes => throw causes

/-- Say what was being attempted in case the work fails. -/
def within {α : Type} (context : String) (work : Work α) : Work α :=
  tryCatch work fun causes => throw (context :: causes)

/-- Undo something in case the work fails. -/
def orElseUndo {α : Type} (work : Work α) (undo : Work Unit) : Work α :=
  tryCatch work fun causes => do
    tryCatch undo fun _ => pure ()
    throw causes

/-- Run the work as part of a handler. -/
def handling {α : Type} (work : Work α) : Machine → Except Failure α × Machine :=
  fun machine =>
    match work machine with
    | (.ok value, machine) => (.ok value, machine)
    | (.error causes, machine) => (.error (.plain causes), machine)

end Machine

end Provision
