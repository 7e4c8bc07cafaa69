import Provision.Shell.Executable
import Provision.Shell.Format

/-! Beginning a shell: the variables it starts with, and what its options ask for. -/

namespace Provision.Shell

/-! ## Variables -/

private def releaseParts : List String := ["5", "2", "21", "1", "release", "x86_64-pc-linux-gnu"]

private def shellLevel (environment : List (String × String)) : String :=
  match (lookup? environment "SHLVL").bind integer? with
  | some level => toString (max 0 level + 1)
  | none => "1"

private def textVariable (text : String) : Variable := { value := .plain text }

private def exported (text : String) : Variable := { value := .plain text, isExported := true }

/-- Variables that the shell sets if its environment does not have them. -/
private def defaults : List (String × Variable) :=
  [("BASH_LOADABLES_PATH", textVariable "/usr/local/lib/bash:/usr/lib/bash:/opt/local/lib/bash:/usr/pkg/lib/bash:/opt/pkg/lib/bash:."),
    ("HOSTNAME", textVariable "vm"), ("HOSTTYPE", textVariable "x86_64"),
    ("MACHTYPE", textVariable "x86_64-pc-linux-gnu"), ("OSTYPE", textVariable "linux-gnu"),
    ("PATH", textVariable "/usr/local/sbin:/usr/local/bin:/usr/sbin:/usr/bin:/sbin:/bin"),
    ("PS4", textVariable "+ "), ("SHELL", textVariable "/bin/bash"), ("TERM", textVariable "dumb"),
    ("OLDPWD", { isExported := true })]

/-- Variables that the shell sets whatever its environment says. -/
private def fixed (path cwd level : String) : List (String × Variable) :=
  [("BASH", textVariable path), ("BASH_VERSION", textVariable release),
    ("BASH_VERSINFO", { value := .ofTexts releaseParts, isList := true, isReadonly := true }),
    ("IFS", textVariable " \t\n"), ("OPTERR", textVariable "1"),
    ("OPTIND", { value := .plain "1", isInteger := true }), ("PWD", exported cwd),
    ("SHLVL", exported level),
    ("UID", { value := .plain "0", isInteger := true, isReadonly := true }),
    ("EUID", { value := .plain "0", isInteger := true, isReadonly := true }),
    ("PPID", { value := .plain "1", isInteger := true, isReadonly := true })]

private def firstScope (path cwd : String) (environment : List (String × String)) : Scope :=
  let imported := (environment.filter fun entry => isName entry.1 && entry.1 != "_").map
    fun (name, text) => (name, exported text)
  let scope := defaults.foldl (fun scope (name, found) => scope.put name found) ({} : Scope)
  let scope := imported.foldl (fun scope (name, found) => scope.put name found) scope
  (fixed path cwd (shellLevel environment)).foldl
    (fun scope (name, found) => scope.put name found) scope

/-- The environment that a program at a path gets to see. -/
def givenAt (path : String) (shell : Shell) : List (String × String) :=
  shell.environment ++ [("_", path)]

/-- A program of its own that is started from this shell. -/
def childOf (shell : Shell) (name : String) (arguments : List String)
    (given : List (String × String)) : Shell :=
  { disk := shell.disk
    channels := shell.channels
    ports := shell.ports
    umask := shell.umask
    scopes := []
    name, arguments, given
    origin := name
    source := .text [] }

/-- A shell of its own that has been started at a path. -/
private def freshShell (path name : String) (child : Shell) : Shell :=
  let cwd := Text.widen (Disk.pathOf child.disk.cwd)
  { child with
    name
    scopes := [firstScope path cwd child.given]
    options := firstOptions
    features := firstFeatures
    lastWord := (lookup? child.given "_").getD name }

/-! ## Options -/

/-- What the words ask for with which a shell is called. -/
private structure Wish where
  options : List (String × Bool) := []
  features : List (String × Bool) := []
  /-- Whether the script is among the words, and whether it is read from the first port. -/
  takesText : Bool := false
  takesInput : Bool := false
  rest : List String := []

private inductive WishFault where
  | badWord (text : String)
  | missing (text : String)
  | badName (text : String)

private def longOptions : List (String × List (String × Bool) × List (String × Bool)) :=
  [("debug", [], []), ("debugger", [], [("extdebug", true)]), ("dump-po-strings", [], []),
    ("dump-strings", [], []), ("login", [], [("login_shell", true)]), ("noediting", [], []),
    ("noprofile", [], []), ("norc", [], []), ("posix", [("posix", true)], []),
    ("pretty-print", [], []), ("restricted", [], []), ("verbose", [("verbose", true)], [])]

private def readLong (wish : Wish) : List String → Except WishFault Wish
  | [] => .ok wish
  | word :: rest =>
    let isLong := word.toList.take 2 == ['-', '-'] && 2 < word.length
    let name := String.ofList (word.toList.drop (if isLong then 2 else 1))
    match longOptions.find? fun entry => word.front == '-' && entry.1 == name with
    | some (_, options, features) =>
      readLong { wish with
        options := wish.options ++ options, features := wish.features ++ features } rest
    | none => if isLong then .error (.badWord word) else .ok { wish with rest := word :: rest }

private def lookupOption? (letter : Char) : Option String :=
  (optionLetters.find? fun entry => entry.1 == letter).map Prod.snd

private def readLetters (on : Bool) (wish : Wish) :
    List Char → List String → Except WishFault (Wish × List String)
  | [], rest => .ok (wish, rest)
  | 'c' :: letters, rest => readLetters on { wish with takesText := true } letters rest
  | 's' :: letters, rest => readLetters on { wish with takesInput := true } letters rest
  | 'l' :: letters, rest =>
    readLetters on { wish with features := wish.features ++ [("login_shell", on)] } letters rest
  | 'i' :: letters, rest | 'D' :: letters, rest | 'r' :: letters, rest =>
    readLetters on wish letters rest
  | 'o' :: letters, rest =>
    match rest with
    | name :: rest =>
      if optionNames.contains name then
        readLetters on { wish with options := wish.options ++ [(name, on)] } letters rest
      else .error (.badName ("bash: line 0: bash: " ++ name ++ ": invalid option name"))
    | [] => readLetters on wish letters []
  | 'O' :: letters, rest =>
    match rest with
    | name :: rest =>
      if featureNames.contains name then
        readLetters on { wish with features := wish.features ++ [(name, on)] } letters rest
      else .error (.badName ("bash: line 0: " ++ name ++ ": invalid shell option name"))
    | [] => readLetters on wish letters []
  | letter :: letters, rest =>
    match lookupOption? letter with
    | some name => readLetters on { wish with options := wish.options ++ [(name, on)] } letters rest
    | none => .error (.badWord ((if on then "-" else "+") ++ String.singleton letter))

private def readWords (wish : Wish) : Nat → List String → Except WishFault Wish
  | 0, rest => .ok { wish with rest }
  | _, [] => .ok { wish with rest := [] }
  | fuel + 1, word :: rest =>
    match word.toList with
    | ['-'] | ['-', '-'] => .ok { wish with rest }
    | mark :: letters =>
      if mark == '-' || mark == '+' then
        match readLetters (mark == '-') wish letters rest with
        | .ok (wish, rest) => readWords wish fuel rest
        | .error fault => .error fault
      else .ok { wish with rest := word :: rest }
    | [] => .ok { wish with rest := word :: rest }

private def wishOf (words : List String) : Except WishFault Wish := do
  let wish ← readLong {} words
  let wish ← readWords wish (wish.rest.length + 1) wish.rest
  if wish.takesText && wish.rest.isEmpty then throw (.missing "-c")
  return wish

private def usage (name : String) : String :=
  "Usage:\t" ++ name ++ " [GNU long option] [option] ...\n" ++
  "\t" ++ name ++ " [GNU long option] [option] script-file ...\n" ++
  "GNU long options:\n\t--debug\n\t--debugger\n\t--dump-po-strings\n\t--dump-strings\n\t--help\n" ++
  "\t--init-file\n\t--login\n\t--noediting\n\t--noprofile\n\t--norc\n\t--posix\n" ++
  "\t--pretty-print\n\t--rcfile\n\t--restricted\n\t--verbose\n\t--version\n" ++
  "Shell options:\n\t-ilrsD or -c command or -O shopt_option\t\t(invocation only)\n" ++
  "\t-abefhkmnptuvxBCEHPT or -o option\n"

/-! ## Scripts -/

private def isBinary (bytes : Bytes) : Bool :=
  ((bytes.take 80).takeWhile (· != 10)).contains 0

/-- The text of the script at a path, or the status and the words with which it is
refused. -/
private def scriptAt (shell : Shell) (name path : String) : Except (Nat × String) String :=
  let found :=
    if path.toList.contains '/' || shell.disk.contains (Text.narrow path) then Text.narrow path
    else
      let searchPath := Text.narrow (shell.textOf "PATH")
      ((programPaths shell.disk searchPath (Text.narrow path)).head?).getD (Text.narrow path)
  match shell.disk.read found with
  | .ok bytes =>
    if isBinary bytes then .error (126, path ++ ": " ++ path ++ ": cannot execute binary file")
    else .ok (Text.ofOctets bytes)
  | .error .isDirectory => .error (126, path ++ ": " ++ path ++ ": Is a directory")
  | .error error => .error (127, name ++ ": " ++ path ++ ": " ++ reason error)

private def refuseStart (status : Nat) (text : String) (child : Shell) : Shell :=
  { (write 2 text child).2 with status, halt := some .exit }

/-- A shell for a script that is read from a file. -/
def withScript (path text : String) (arguments : List String) (shell : Shell) : Shell :=
  { shell with
    arguments
    name := path
    origin := path
    source := .text (linesOf text)
    calls := [⟨"main", path, 0, false⟩] }

private def obeying (wish : Wish) (shell : Shell) : Shell :=
  let shell := wish.options.foldl (fun shell (name, on) => shell.setOption name on) shell
  wish.features.foldl (fun shell (name, on) => shell.setFeature name on) shell

/-- What a child becomes that is a shell with options and arguments. One that cannot begin
says why, and has ended. -/
def beginShell (path name : String) (isPlain : Bool) (words : List String) (child : Shell) :
    Shell :=
  let shell := { freshShell path name child with isPlain }
  match wishOf words with
  | .error (.badWord word) =>
    refuseStart 2 (name ++ ": " ++ word ++ ": invalid option\n" ++ usage name) shell
  | .error (.missing word) =>
    refuseStart 2 (name ++ ": " ++ word ++ ": option requires an argument\n") shell
  | .error (.badName text) => refuseStart 2 (text ++ "\n") shell
  | .ok wish =>
    let shell := obeying wish shell
    if wish.takesText then
      let text := wish.rest.headD ""
      { shell with
        name := (wish.rest.drop 1).headD name
        arguments := wish.rest.drop 2
        origin := "environment"
        scriptMark := "-c"
        manner := some 'c'
        source := .text (linesOf text) }
    else if wish.takesInput || wish.rest.isEmpty then
      { shell with arguments := wish.rest, origin := "main", manner := some 's', source := .input }
    else
      let scriptPath := wish.rest.headD ""
      match scriptAt shell name scriptPath with
      | .ok text => withScript scriptPath text (wish.rest.drop 1) shell
      | .error (status, text) => refuseStart status (text ++ "\n") shell

/-- A shell for a script that does not say by what it is to be run. -/
def continuedShell (path text : String) (words : List String) (child : Shell) : Shell :=
  withScript path text words (freshShell path path child)

end Provision.Shell
