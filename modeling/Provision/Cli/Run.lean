import Provision.Cli.Arguments
import Provision.Config.Load
import Provision.Console
import Provision.Engine.Run
import Provision.Forest
import Provision.Lock
import Provision.Machine.Detect
import Provision.Recipe.File
import Provision.Registry
import Provision.Report

/-! The commands of the command line, on a machine whose disk, programs, network and
terminal they use. -/

namespace Provision.Cli

/-- Why a command did not succeed. -/
inductive Trouble where
  | failed (causes : List String)
  /-- The program had to be given up. -/
  | crashed (message : String)
  deriving DecidableEq, Repr

abbrev Work (α : Type) := ExceptT Trouble (StateM Machine) α

def ofMachine {α : Type} (work : Machine.Work α) : Work α := work.adapt .failed

def say (text : String) : Work Unit := modify (Machine.print text)

/-- The settings in force: files and environment, and the command line above them. -/
def settings (given : Override) : Machine.Work Config := do
  let config ← Config.load given.config
  return { config with
    mirror := { config.mirror with software := given.mirror.getD config.mirror.software }
    family := given.family <|> config.family
    arch := given.arch <|> config.arch
    machineId := given.machineId <|> config.machineId }

/-- What a run on this machine works with. Building it takes a start time that the clock
can tell. -/
def runtime (config : Config) (quiet : Bool)
    (announce : Step → Frame → Machine → Machine) : Work (Runtime Machine) := do
  let (facts, machine) := Machine.detect config (← get)
  set machine
  match Registry.standard config quiet with
  | .error overflow => throw (.crashed overflow.message)
  | .ok registry =>
    return {
      handlers := registry.get?
      constants := Constants.ofMachine facts config.mirror
      facts
      clean := Handlers.clean
      announce }

/-- Run a recipe, with what was reported on the way. -/
def install (runtime : Runtime Machine) (software : Software) (machine : Machine) :
    Except Trouble Unit × List (Step × Frame) × Machine :=
  match runtime.start software machine with
  | .error fault => (.error (.failed fault.causes), [], machine)
  | .ok session =>
    match runtime.execute software session with
    | none => (.error (.crashed "recipe nested too deep"), [], machine)
    | some (outcome, session) =>
      (outcome.mapError fun fault =>
          .failed (("Failed to install " ++ software.label) :: fault.causes),
        session.reports, session.world)

/-- The run itself: on the terminal step by step, or as one document at its end. -/
def runLoaded (config : Config) (software : Software) (tag : Option String) (json : Bool) :
    Work Unit := do
  if json then
    let runtime ← runtime config true fun _ _ machine => machine
    let (outcome, reports, machine) := install runtime software (← get)
    set (machine.print (Report.document reports))
    ExceptT.mk (pure outcome)
  else
    let runtime ← runtime config false fun step frame machine =>
      machine.print (Report.line tag (step, frame))
    say (Console.action ("Installing " ++ software.label))
    let (outcome, _, machine) := install runtime software (← get)
    set machine
    ExceptT.mk (pure outcome)
    say (Console.success (software.label ++ " installed"))

def loadAndRun (config : Config) (file : String) (parameter tag : Option String) (json : Bool) :
    Work Unit := do
  let software ← ofMachine (Recipe.load file)
  runLoaded config { software with parameter := parameter.getD software.parameter } tag json

/-- Hold a lock during some work, and give it back however the work ends. -/
def holding (lock : RunLock) (work : Work Unit) : Work Unit :=
  ExceptT.mk fun machine =>
    let (outcome, machine) := work machine
    (outcome, lock.release machine)

/-- Run a recipe file under its lock. -/
def runFile (config : Config) (file : String) (parameter tag : Option String) (json : Bool) :
    Work Unit := do
  let lock ← ofMachine (RunLock.acquire file)
  holding lock (loadAndRun config file parameter tag json)

private def quietly (_ : Step) (_ : Frame) (machine : Machine) : Machine := machine

def resolve (config : Config) (text : String) (parameter : Option String) : Work Unit := do
  let runtime ← runtime config false quietly
  let stack := (parameter.map Frame.ofValue).toList
  match Placeholder.resolve runtime.constants stack text with
  | .ok resolved => say (resolved ++ "\n")
  | .error fault => throw (.failed fault.causes)

def showConstant (constants : Constants) (constant : Constant) (machine : Machine) : Machine :=
  match constants.value constant with
  | .ok value => machine.print (Console.pair constant.keyword value)
  | .error fault =>
    machine.printError (Console.warning (constant.keyword ++ ": " ++ fault.message))

def listConstants (config : Config) : Work Unit := do
  let runtime ← runtime config false quietly
  say (Console.info ("Constants for " ++ runtime.facts.family.keyword ++ ":"))
  modify fun machine => runtime.constants.supported.foldl
    (fun machine constant => showConstant runtime.constants constant machine) machine

def showTree (file : String) : Work Unit := do
  let software ← ofMachine (Recipe.load file)
  say (Console.info ("Steps of " ++ software.label ++ ":"))
  say (String.join (((Forest.ofSteps software.steps).preorder 0).map fun (depth, step) =>
    Console.treeLine depth step.render))

def perform (given : Override) (command : Command) : Work Unit := do
  let config ← ofMachine (settings given)
  match command with
  | .run file parameter tag json => runFile config file parameter tag json
  | .resolve text parameter => resolve config text parameter
  | .constants => listConstants config
  | .children file => showTree file

def versionLine : String := "recipe 0.1.3\n"

def usage : String :=
  "usage: recipe [OPTIONS] run FILE | resolve TEXT | constants | children FILE\n"

/-- Carry out a command line and return the exit code. -/
def run (words : List String) (machine : Machine) : Nat × Machine :=
  match parse (machine.env? "RECIPE_CONFIG") words with
  | .error .version => (0, machine.print versionLine)
  | .error .help => (0, machine.print usage)
  | .error .usage => (2, machine.printError usage)
  | .ok (given, command) =>
    match perform given command machine with
    | (.ok (), machine) => (0, machine)
    | (.error (.failed causes), machine) =>
      (1, machine.printError (Console.error (joinCauses causes)))
    | (.error (.crashed message), machine) => (101, machine.printError (message ++ "\n"))

end Provision.Cli
