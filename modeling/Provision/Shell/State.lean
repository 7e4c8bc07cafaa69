import Provision.Disk.Calls
import Provision.Shell.Cursor
import Provision.Shell.Variable
import Provision.Text.Utf8

/-! What a running shell knows: the channels that its ports lead to, its variables and
functions, and the script in front of it. -/

namespace Provision

namespace Shell

/-- What an open file may be used for. -/
inductive Access where
  | reading | writing | adding | updating
  deriving DecidableEq, Repr

/-- What can be behind a port. Channels are shared by all shells of a launch. -/
inductive Channel where
  | reader (rest : Bytes) (taken : Nat)
  /-- What was written, newest piece first. -/
  | buffer (pieces : List Bytes)
  /-- A file, with the place in it that is read or written next. -/
  | file (id place : Nat) (access : Access)

/-- Why the commands that follow are not run. -/
inductive Halt where
  | exit
  | fromFunction
  | leaveLoops (count : Nat)
  | nextRound (count : Nat)
  /-- Nothing more of what was read together is run. -/
  | discard
  | killed (signal : Nat)
  deriving DecidableEq

/-- Where a shell takes its commands from. -/
inductive Source where
  | text (lines : List String)
  | input

structure Function where
  body : Command
  /-- What it was read from. -/
  origin : String

/-- A function or a script that is running. -/
structure Call where
  name : String
  origin : String
  /-- The line on which it was called. -/
  line : Nat
  isFunction : Bool

end Shell

open Shell in
structure Shell where
  disk : Disk
  channels : Array Channel
  /-- Which channel each open port leads to. -/
  ports : List (Nat × Nat)
  /-- Innermost first. -/
  scopes : List Scope
  functions : List (String × Function) := []
  name : String
  arguments : List String
  /-- The name of what the shell reads its commands from. -/
  origin : String
  /-- How the text that is being read is called in messages about its form, if not by the
  name of the shell. -/
  scriptMark : String := ""
  /-- The letter of the option that says where the script is. -/
  manner : Option Char := none
  /-- Whether only the plain language of the shell is understood. -/
  isPlain : Bool := false
  calls : List Call := []
  loops : Nat := 0
  source : Source
  /-- Lines that do not make up a command yet, and the number of the first of them. -/
  pending : String := ""
  pendingLine : Nat := 1
  lines : Nat := 0
  /-- The line of the command that is being run. -/
  line : Nat := 1
  /-- What the shell has been told to do, and what it is able to do. -/
  options : List String := []
  features : List String := []
  /-- Whether a failure is being tested for, so that it ends nothing. -/
  isTested : Bool := false
  status : Nat := 0
  /-- How the parts of the last pipeline ended. -/
  statuses : List Nat := [0]
  /-- How the last inserted script of a command ended. -/
  substituted : Option Nat := none
  /-- The last word of the last command. -/
  lastWord : String := ""
  /-- Commands that were started beside others, with how they ended. -/
  jobs : List (Nat × Nat) := []
  lastJob : Option Nat := none
  /-- What is to be run when something happens. -/
  traps : List (String × String) := []
  /-- Traps that are to be run next. -/
  sprung : List String := []
  halt : Option Halt := none
  /-- How deep the running script is nested in others. -/
  depth : Nat := 0
  level : Nat := 0
  /-- Directories to come back to. -/
  directories : List String := []
  aliases : List (String × String) := []
  /-- How far the letters of an option word have been looked at. -/
  optionPlace : Nat := 0
  /-- Scripts that read what is written to a channel, with the lines on which they begin. -/
  outlets : List (Nat × String × Nat) := []
  umask : Nat := 0o022
  /-- Whether the running script has been given other arguments by a command of it. -/
  hasNewArguments : Bool := false
  /-- The environment that was handed over at the start. -/
  given : List (String × String) := []

namespace Shell

/-- Work in a shell. -/
abbrev Act := StateM Shell

/-- The identity of every shell. -/
def pid : String := "2"

def lookup? (entries : List (String × String)) (name : String) : Option String :=
  (entries.find? fun entry => entry.1 == name).map Prod.snd

/-! ## Options -/

def has (option : String) (shell : Shell) : Bool := shell.options.contains option

def can (feature : String) (shell : Shell) : Bool := shell.features.contains feature

def setOption (option : String) (on : Bool) (shell : Shell) : Shell :=
  let others := shell.options.filter (· != option)
  { shell with options := if on then option :: others else others }

def setFeature (feature : String) (on : Bool) (shell : Shell) : Shell :=
  let others := shell.features.filter (· != feature)
  { shell with features := if on then feature :: others else others }

/-- Options that have a letter, in the order in which they are shown. -/
def optionLetters : List (Char × String) :=
  [('a', "allexport"), ('b', "notify"), ('e', "errexit"), ('f', "noglob"), ('h', "hashall"),
    ('k', "keyword"), ('m', "monitor"), ('n', "noexec"), ('p', "privileged"), ('t', "onecmd"),
    ('u', "nounset"), ('v', "verbose"), ('x', "xtrace"), ('B', "braceexpand"),
    ('C', "noclobber"), ('E', "errtrace"), ('H', "histexpand"), ('P', "physical"),
    ('T', "functrace")]

/-- All options by name, sorted. -/
def optionNames : List String :=
  ["allexport", "braceexpand", "emacs", "errexit", "errtrace", "functrace", "hashall",
    "histexpand", "history", "ignoreeof", "interactive-comments", "keyword", "monitor",
    "noclobber", "noexec", "noglob", "nolog", "notify", "nounset", "onecmd", "physical",
    "pipefail", "posix", "privileged", "verbose", "vi", "xtrace"]

/-- All features by name, sorted. -/
def featureNames : List String :=
  ["autocd", "assoc_expand_once", "cdable_vars", "cdspell", "checkhash", "checkjobs",
    "checkwinsize", "cmdhist", "compat31", "compat32", "compat40", "compat41", "compat42",
    "compat43", "compat44", "complete_fullquote", "direxpand", "dirspell", "dotglob", "execfail",
    "expand_aliases", "extdebug", "extglob", "extquote", "failglob", "force_fignore",
    "globasciiranges", "globskipdots", "globstar", "gnu_errfmt", "histappend", "histreedit",
    "histverify", "hostcomplete", "huponexit", "inherit_errexit", "interactive_comments",
    "lastpipe", "lithist", "localvar_inherit", "localvar_unset", "login_shell", "mailwarn",
    "no_empty_cmd_completion", "nocaseglob", "nocasematch", "noexpand_translation", "nullglob",
    "patsub_replacement", "progcomp", "progcomp_alias", "promptvars", "restricted_shell",
    "shift_verbose", "sourcepath", "varredir_close", "xpg_echo"]

def firstOptions : List String := ["hashall", "braceexpand", "interactive-comments"]

def firstFeatures : List String :=
  ["checkwinsize", "cmdhist", "complete_fullquote", "extquote", "force_fignore",
    "globasciiranges", "globskipdots", "hostcomplete", "interactive_comments",
    "patsub_replacement", "progcomp", "promptvars", "sourcepath"]

private def optionText (shell : Shell) : String :=
  let letters := (optionLetters.filter fun entry => shell.has entry.2).map Prod.fst
  String.ofList (letters ++ shell.manner.toList)

/-! ## Variables -/

/-- The version that the shell behaves like. -/
def release : String := "5.2.21(1)-release"

private def runningFunctions (shell : Shell) : List Call :=
  if shell.calls.any (·.isFunction) then shell.calls else []

/-- Values that follow from the state of the shell. -/
private def derived? (shell : Shell) (name : String) : Option Value :=
  match name with
  | "?" => some (.plain (toString shell.status))
  | "$" | "BASHPID" => some (.plain pid)
  | "PPID" => some (.plain "1")
  | "#" => some (.plain (toString shell.arguments.length))
  | "0" => some (.plain shell.name)
  | "-" => some (.plain (optionText shell))
  | "_" => some (.plain shell.lastWord)
  | "!" => shell.lastJob.map fun job => .plain (toString job)
  | "LINENO" => some (.plain (toString shell.line))
  | "SECONDS" => some (.plain "0")
  | "RANDOM" | "SRANDOM" => some (.plain "4242")
  | "UID" | "EUID" => some (.plain "0")
  | "BASH_SUBSHELL" => some (.plain (toString shell.level))
  | "PIPESTATUS" => some (.ofTexts (shell.statuses.map toString))
  | "FUNCNAME" =>
    match (runningFunctions shell).map (·.name) with
    | [] => none
    | names => some (.ofTexts names)
  | "BASH_SOURCE" => some (.ofTexts (shell.calls.map (·.origin)))
  | "BASH_LINENO" => some (.ofTexts (shell.calls.map fun call => toString call.line))
  | "DIRSTACK" =>
    some (.ofTexts (Text.widen (Disk.pathOf shell.disk.cwd) :: shell.directories))
  | "SHELLOPTS" => some (.plain (String.intercalate ":" (optionNames.filter shell.has)))
  | "BASHOPTS" => some (.plain (String.intercalate ":" (featureNames.filter shell.can)))
  | _ => none

private def positional? (name : String) : Option Nat :=
  if !name.isEmpty && name.toList.all Char.isDigit && name != "0" then
    some (Text.digitsValue name.toList)
  else none

private def stored? (shell : Shell) (name : String) : Option Variable :=
  shell.scopes.findSome? fun scope => scope.find? name

/-- The name that is meant by a name, which may refer to another. -/
def resolve (shell : Shell) (name : String) : (fuel : Nat := 8) → String
  | 0 => name
  | fuel + 1 =>
    match stored? shell name with
    | some found =>
      if found.isReference then
        match found.value with
        | .plain target => resolve shell target fuel
        | _ => name
      else name
    | none => name

/-- The variable of a name. -/
def variableOf? (shell : Shell) (name : String) : Option Variable :=
  match derived? shell name with
  | some value =>
    let kept := (stored? shell name).getD {}
    some { kept with value, isList := value matches .list _ }
  | none =>
    match positional? name with
    | some index =>
      (shell.arguments[index - 1]?).map fun text => { value := .plain text }
    | none => stored? shell (shell.resolve name)

/-- The value of a variable, as far as one has been assigned. -/
def value? (shell : Shell) (name : String) : Option Value :=
  ((shell.variableOf? name).map (·.value)).filter Value.isSet

/-- The text of a variable. -/
def text? (shell : Shell) (name : String) : Option String :=
  (shell.value? name).bind Value.first?

def textOf (shell : Shell) (name : String) : String := (shell.text? name).getD ""

/-- Put a variable where one of that name is, or among those seen everywhere. -/
private def putInto (name : String) (found : Variable) : List Scope → List Scope
  | [] => []
  | [scope] => [scope.put name found]
  | scope :: rest =>
    if (scope.find? name).isSome then scope.put name found :: rest
    else scope :: putInto name found rest

def putVariable (name : String) (found : Variable) (shell : Shell) : Shell :=
  { shell with scopes := putInto name found shell.scopes }

private def putLocalInto (name : String) (found : Variable) : List Scope → List Scope
  | [] => []
  | [scope] => [scope.put name found]
  | scope :: rest =>
    if scope.ofFunction then scope.put name found :: rest
    else scope :: putLocalInto name found rest

/-- Put a variable among those of the running function. -/
def putLocal (name : String) (found : Variable) (shell : Shell) : Shell :=
  { shell with scopes := putLocalInto name found shell.scopes }

def putGlobal (name : String) (found : Variable) (shell : Shell) : Shell :=
  match shell.scopes.reverse with
  | last :: rest => { shell with scopes := (last.put name found :: rest).reverse }
  | [] => shell

/-- The variable of that name that belongs to the running function. -/
def localVariable? (shell : Shell) (name : String) : Option Variable :=
  (shell.scopes.find? (·.ofFunction)).bind fun scope => scope.find? name

private def removeFrom (name : String) : List Scope → List Scope
  | [] => []
  | scope :: rest =>
    match scope.find? name with
    | some _ =>
      if scope.ofFunction then scope.put name {} :: rest else scope.remove name :: rest
    | none => scope :: removeFrom name rest

def removeVariable (name : String) (shell : Shell) : Shell :=
  { shell with scopes := removeFrom name shell.scopes }

/-- Names of all variables, sorted. -/
def variableNames (shell : Shell) : List String :=
  let names := shell.scopes.flatMap fun scope => scope.entries.map Prod.fst
  (names.mergeSort fun a b => a ≤ b).eraseReps

/-- Give a variable a text without regard to what kind of variable it is. -/
def setText (name text : String) (shell : Shell) : Shell :=
  let name := shell.resolve name
  let found := (stored? shell name).getD {}
  let isExported := found.isExported || shell.has "allexport"
  shell.putVariable name { found with value := found.value.setFirst text, isExported }

/-- The variables that a program gets to see. -/
def environment (shell : Shell) : List (String × String) :=
  let names := shell.variableNames.filterMap fun name =>
    match stored? shell name with
    | some found =>
      if found.isExported then found.value.first?.map fun text => (name, text) else none
    | none => none
  names.mergeSort fun a b => groupOf a.1 ≤ groupOf b.1

/-- The characters at which values are split into fields. -/
def separators (shell : Shell) : List Char := ((shell.text? "IFS").getD " \t\n").toList

/-- What stands between values that are put together. -/
def joint (shell : Shell) : String := String.ofList (shell.separators.take 1)

/-! ## Functions -/

def function? (shell : Shell) (name : String) : Option Function :=
  (shell.functions.find? fun entry => entry.1 == name).map Prod.snd

/-- Whether a function is running. -/
def inFunction (shell : Shell) : Bool := shell.calls.any (·.isFunction)

/-- What the running command was read from. -/
def currentOrigin (shell : Shell) : String :=
  (shell.calls.head?.map (·.origin)).getD shell.origin

/-! ## Channels and ports -/

def channelAt? (shell : Shell) (port : Nat) : Option Nat :=
  (shell.ports.find? fun entry => entry.1 == port).map Prod.snd

def setPort (port channel : Nat) (shell : Shell) : Shell :=
  { shell with ports := (port, channel) :: shell.ports.filter fun entry => entry.1 != port }

def closePort (port : Nat) (shell : Shell) : Shell :=
  { shell with ports := shell.ports.filter fun entry => entry.1 != port }

/-- Lead a port to a new channel. -/
def openPort (port : Nat) (channel : Channel) (shell : Shell) : Shell :=
  let index := shell.channels.size
  { shell with channels := shell.channels.push channel }.setPort port index

/-- What was written to a buffer. -/
def written (shell : Shell) (channel : Nat) : Bytes :=
  match shell.channels[channel]? with
  | some (.buffer pieces) => pieces.reverse.flatten
  | _ => []

private def setChannel (index : Nat) (channel : Channel) (shell : Shell) : Shell :=
  let channels := shell.channels
  { shell with channels := channels.set! index channel }

/-- Write octets to a port; false if it leads nowhere. -/
def write (port : Nat) (text : String) : Act Bool := fun shell =>
  match shell.channelAt? port with
  | none => (false, shell)
  | some index =>
    match shell.channels[index]? with
    | some (.buffer pieces) =>
      (true, shell.setChannel index (.buffer (Text.toOctets text :: pieces)))
    | some (.file id place access) =>
      if access == .reading then (false, shell)
      else
        let before := (shell.disk.contents? id).getD []
        let bytes := Text.toOctets text
        let place := if access == .adding then before.length else place
        let front := before.take place
        let gap := List.replicate (place - front.length) (0 : UInt8)
        let after := front ++ gap ++ bytes ++ before.drop (place + bytes.length)
        (true, { shell with disk := shell.disk.rewrite id after }.setChannel index
          (.file id (place + bytes.length) access))
    | _ => (false, shell)

/-- What can still be read from a port; nothing if it cannot be read from. -/
def readable? (shell : Shell) (port : Nat) : Option Bytes :=
  match (shell.channelAt? port).bind fun index => shell.channels[index]? with
  | some (.reader rest _) => some rest
  | some (.file id place .reading) | some (.file id place .updating) =>
    some (((shell.disk.contents? id).getD []).drop place)
  | _ => none

/-- Go on behind so many octets. -/
def advance (port count : Nat) (shell : Shell) : Shell :=
  match shell.channelAt? port with
  | none => shell
  | some index =>
    match shell.channels[index]? with
    | some (.reader rest taken) =>
      shell.setChannel index (.reader (rest.drop count) (taken + count))
    | some (.file id place access) => shell.setChannel index (.file id (place + count) access)
    | _ => shell

/-- Take what stands in front of an octet, and the octet; and whether there was one. -/
def readUpTo (port : Nat) (stop : UInt8) : Act (String × Bool) := fun shell =>
  let rest := (shell.readable? port).getD []
  let line := rest.takeWhile (· != stop)
  let ended := line.length < rest.length
  let count := line.length + if ended then 1 else 0
  ((Text.ofOctets line, ended), shell.advance port count)

/-- Take a line from a port, without its end; and whether it had one. -/
def readLine (port : Nat) : Act (String × Bool) := readUpTo port 10

/-- Take all that is left from a port. -/
def readAll (port : Nat) : Act String := fun shell =>
  let rest := (shell.readable? port).getD []
  (Text.ofOctets rest, shell.advance port rest.length)

/-! ## Messages -/

/-- Say on the third port what is wrong, and where. -/
def complain (text : String) : Act Unit := do
  let shell ← get
  let name := (shell.calls.head?.map (·.origin)).getD shell.name
  let _ ← write 2 (name ++ ": line " ++ toString shell.line ++ ": " ++ text ++ "\n")

/-- Say what is wrong, and fail. -/
def fail (status : Nat) (text : String) : Act Nat := do
  complain text
  return status

def stop (reason : Halt) : Act Unit := modify fun shell => { shell with halt := some reason }

def setStatus (status : Nat) : Act Unit := modify fun shell => { shell with status }

def isHalted : Act Bool := return (← get).halt.isSome

/-- Say that a command cannot be carried out, and give up what was read together with
it. -/
def abandon (text : String) : Act Unit := do
  complain text
  setStatus 1
  stop .discard

/-- The words under which the shell reports a refused request. -/
def reason (error : IoError) : String :=
  Text.widen ((error.message.splitOn " (os error").headD "")

/-- Lines of a text, each with its end if it has one. -/
def linesOf (text : String) : List String :=
  match (text.splitOn "\n").reverse with
  | [] => []
  | last :: rest =>
    let whole := rest.reverse.map (· ++ "\n")
    if last.isEmpty then whole else whole ++ [last]

end Shell

end Provision
