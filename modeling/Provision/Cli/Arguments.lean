import Provision.Platform

/-! The words of a command line. Options may stand before and behind the command; a word
that begins with a hyphen is never taken for a value. -/

namespace Provision.Cli

/-- An option that a command knows. -/
structure OptionForm where
  long : String
  short : Option Char := none
  /-- Which values are accepted, if it takes one. -/
  accepts : Option (String → Bool) := none

/-- What was given to one command. -/
structure Given where
  values : List (String × String) := []
  flags : List String := []
  words : List String := []

/-- Why a command line asks for no run at all. -/
inductive Ending where
  | help
  | version
  | usage
  deriving DecidableEq, Repr

namespace Given

def value? (given : Given) (name : String) : Option String :=
  (given.values.find? fun entry => entry.1 == name).map Prod.snd

def hasFlag (given : Given) (name : String) : Bool := given.flags.contains name

/-- Note the value of an option, which can be given once. -/
def addValue (given : Given) (form : OptionForm) (value : String) : Except Ending Given :=
  match form.accepts with
  | some accepts =>
    if (given.value? form.long).isSome || !accepts value then .error .usage
    else .ok { given with values := (form.long, value) :: given.values }
  | none => .error .usage

/-- Note an option without a value. Help and version are answered at once. -/
def addFlag (given : Given) (form : OptionForm) : Except Ending Given :=
  if form.long == "help" then .error .help
  else if form.long == "version" then .error .version
  else if given.hasFlag form.long then .error .usage
  else .ok { given with flags := form.long :: given.flags }

end Given

private def dropEquals (text : List Char) : List Char :=
  match text with
  | '=' :: rest => rest
  | _ => text

/-- An option in its long form, after the hyphens: what is known then, or the form whose
value is still to come. -/
def readLong (known : List OptionForm) (given : Given) (text : List Char) :
    Except Ending (Given × Option OptionForm) := do
  let name := String.ofList (text.takeWhile (· != '='))
  let attached := text.dropWhile (· != '=')
  let some form := known.find? fun form => form.long == name | throw .usage
  if form.accepts.isNone then
    if attached.isEmpty then return (← given.addFlag form, none) else throw .usage
  else if attached.isEmpty then return (given, some form)
  else return (← given.addValue form (String.ofList (dropEquals attached)), none)

/-- Options in their short form, run together after one hyphen. -/
def readShort (known : List OptionForm) (given : Given) :
    List Char → Except Ending (Given × Option OptionForm)
  | [] => .ok (given, none)
  | c :: rest => do
    let some form := known.find? fun form => form.short == some c | throw .usage
    if form.accepts.isNone then readShort known (← given.addFlag form) rest
    else if rest.isEmpty then return (given, some form)
    else return (← given.addValue form (String.ofList (dropEquals rest)), none)

private def isOption (word : String) : Bool :=
  match word.toList with
  | '-' :: _ :: _ => true
  | _ => false

/-- Read the words for one command: up to its end, or up to the first word that is no
option if that is to be the name of a command. -/
def scan (known : List OptionForm) (untilWord : Bool) (given : Given) :
    List String → Except Ending (Given × List String)
  | [] => .ok (given, [])
  | "--" :: rest =>
    if untilWord then (if rest.isEmpty then .ok (given, []) else .error .usage)
    else .ok ({ given with words := given.words ++ rest }, [])
  | word :: rest =>
    if !isOption word then
      if untilWord then .ok (given, word :: rest)
      else scan known untilWord { given with words := given.words ++ [word] } rest
    else
      let read := match word.toList with
        | '-' :: '-' :: name => readLong known given name
        | '-' :: cluster => readShort known given cluster
        | _ => .error .usage
      match read, rest with
      | .error ending, _ => .error ending
      | .ok (given, none), rest => scan known untilWord given rest
      | .ok (_, some _), [] => .error .usage
      | .ok (given, some form), value :: rest =>
        if isOption value then .error .usage
        else
          match given.addValue form value with
          | .error ending => .error ending
          | .ok given => scan known untilWord given rest

private def anything (_ : String) : Bool := true

private def isPath (word : String) : Bool := !word.isEmpty

/-- Options of every command. -/
def sharedForms : List OptionForm := [
  { long := "config", short := some 'c', accepts := some isPath },
  { long := "mirror", accepts := some anything },
  { long := "os-family", accepts := some fun word => (Family.parse? word).isSome },
  { long := "arch", accepts := some fun word => (Arch.parse? word).isSome },
  { long := "machine-id", accepts := some fun word => (Uuid.parse? word).isSome },
  { long := "verbose", short := some 'v' },
  { long := "help", short := some 'h' }]

def paramForm : OptionForm := { long := "param", short := some 'p', accepts := some anything }

def runForms : List OptionForm :=
  [paramForm, { long := "tag", short := some 't', accepts := some anything }, { long := "json" }]

/-- What is asked for. -/
inductive Command where
  | run (file : String) (parameter tag : Option String) (json : Bool)
  | resolve (text : String) (parameter : Option String)
  | constants
  | children (file : String)
  deriving DecidableEq, Repr

/-- Settings given on the command line, which count more than any others. -/
structure Override where
  config : Option String := none
  mirror : Option String := none
  family : Option Family := none
  arch : Option Arch := none
  machineId : Option Uuid := none
  deriving DecidableEq, Repr

/-- The command that its name and what was given to it amount to. -/
def command (name : String) (given : Given) : Except Ending Command :=
  match name, given.words with
  | "run", [file] =>
    if isPath file then
      .ok (.run file (given.value? "param") (given.value? "tag") (given.hasFlag "json"))
    else .error .usage
  | "resolve", [text] => .ok (.resolve text (given.value? "param"))
  | "constants", [] => .ok .constants
  | "children", [file] => if isPath file then .ok (.children file) else .error .usage
  | _, _ => .error .usage

def commandForms (name : String) : Option (List OptionForm) :=
  match name with
  | "run" => some (runForms ++ sharedForms)
  | "resolve" => some (paramForm :: sharedForms)
  | "constants" | "children" => some sharedForms
  | _ => none

/-- Shared settings; what stands behind the command's name counts more than what stands
before it, and both count more than the environment. -/
def override (before behind : Given) (config : Option String) : Override :=
  let value := fun name => behind.value? name <|> before.value? name
  { config := value "config" <|> config
    mirror := value "mirror"
    family := (value "os-family").bind Family.parse?
    arch := (value "arch").bind Arch.parse?
    machineId := (value "machine-id").bind Uuid.parse? }

/-- Read a command line. `config` is the settings file that the environment names. It
cannot be empty, unless it is named anew on both sides of the command. -/
def parse (config : Option String) (words : List String) : Except Ending (Override × Command) := do
  let (before, rest) ← scan ({ long := "version", short := some 'V' } :: sharedForms) true {} words
  match rest with
  | [] => throw .usage
  | "help" :: topic =>
    match topic with
    | [] => throw .help
    | [name] => if (commandForms name).isSome || name == "help" then throw .help else throw .usage
    | _ => throw .usage
  | name :: rest =>
    let some forms := commandForms name | throw .usage
    let (behind, _) ← scan forms false {} rest
    let isNamed := fun (given : Given) => (given.value? "config").isSome
    if config == some "" && !(isNamed before && isNamed behind) then throw .usage
    return (override before behind config, ← command name behind)

end Provision.Cli
