import Provision.Shell.Builtin.Options
import Provision.Shell.Executable
import Provision.Shell.Format
import Provision.Shell.Quoting

/-! What names stand for: reserved words, functions, commands of the shell and programs. -/

namespace Provision.Shell.Builtin

/-- The names of all commands that the shell carries out itself. -/
def names : List String :=
  [".", ":", "[", "alias", "bg", "bind", "break", "builtin", "caller", "cd", "command", "compgen",
    "complete", "compopt", "continue", "declare", "dirs", "disown", "echo", "enable", "eval",
    "exec", "exit", "export", "false", "fc", "fg", "getopts", "hash", "help", "history", "jobs",
    "kill", "let", "local", "logout", "mapfile", "popd", "printf", "pushd", "pwd", "read",
    "readarray", "readonly", "return", "set", "shift", "shopt", "source", "suspend", "test",
    "times", "trap", "true", "type", "typeset", "ulimit", "umask", "unalias", "unset", "wait"]

private def keywords : List String :=
  ["!", "[[", "]]", "case", "coproc", "do", "done", "elif", "else", "esac", "fi", "for", "function",
    "if", "in", "select", "then", "time", "until", "while", "\x7b", "\x7d"]

/-- What a name can stand for. -/
private inductive Meaning where
  | alias_ (text : String)
  | keyword
  | function
  | builtin
  | program (path : String)

private def programsOf (shell : Shell) (name : String) : List String :=
  if name.toList.contains '/' then
    if (invoke shell.disk (Text.narrow name) name []).isOk then [name] else []
  else
    (programPaths shell.disk (Text.narrow (shell.textOf "PATH")) (Text.narrow name)).map Text.widen

private def meanings (shell : Shell) (functions : Bool) (name : String) : List Meaning :=
  let known := if shell.can "expand_aliases" then lookup? shell.aliases name else none
  (known.map Meaning.alias_).toList ++
    (if keywords.contains name then [.keyword] else []) ++
    (if functions && (shell.function? name).isSome then [.function] else []) ++
    (if names.contains name then [.builtin] else []) ++
    (programsOf shell name).map .program

private def Meaning.kind : Meaning → String
  | .alias_ _ => "alias"
  | .keyword => "keyword"
  | .function => "function"
  | .builtin => "builtin"
  | .program _ => "file"

private def Meaning.told (name : String) : Meaning → String
  | .alias_ text => name ++ " is aliased to \x60" ++ text ++ "\x27"
  | .keyword => name ++ " is a shell keyword"
  | .function => name ++ " is a function"
  | .builtin => name ++ " is a shell builtin"
  | .program path => name ++ " is " ++ path

private def Meaning.short (name : String) : Meaning → String
  | .alias_ text => "alias " ++ name ++ "=" ++ Quoting.single text
  | .program path => path
  | _ => name

private def programOnly : Meaning → Bool
  | .program _ => true
  | _ => false

private def tellEach (work : String → Act Bool) : List String → (all : Bool) → Act Nat
  | [], all => return if all then 0 else 1
  | name :: rest, all => do
    let found ← work name
    tellEach work rest (all && found)

def type_ (words : List String) : Act Nat := do
  let some (choices, words) ← takeOptions? "type" "[-afptP] name [name ...]" "afptP" words | return 2
  let shell ← get
  tellEach (fun name => do
    let found := meanings shell (!has choices 'f') name
    let found := if has choices 'P' then found.filter programOnly else found
    let found := if has choices 'a' then found else found.take 1
    if found.isEmpty then
      if ! ['t', 'p', 'P'].any (has choices) then complain ("type: " ++ name ++ ": not found")
      return false
    let lines :=
      if has choices 't' then found.map Meaning.kind
      else if has choices 'p' || has choices 'P' then
        (found.filter programOnly).map (Meaning.short name)
      else found.map (Meaning.told name)
    let _ ← print "type" (String.join (lines.map (· ++ "\n")))
    return true) words true

/-- Tell what names stand for, each in a line. -/
def tellNames (isLong : Bool) (words : List String) : Act Nat := do
  let shell ← get
  let found ← words.filterM fun name => do
    match (meanings shell true name).head? with
    | some meaning =>
      let line := if isLong then meaning.told name else meaning.short name
      let _ ← print "command" (line ++ "\n")
      return true
    | none =>
      if isLong then complain ("command: " ++ name ++ ": not found")
      return false
  return if found.isEmpty then 1 else 0

def hash (words : List String) : Act Nat := do
  let usage := "[-lr] [-p pathname] [-dt] [name ...]"
  let some (choices, words) ← takeOptions? "hash" usage "lrp:dt" words | return 2
  let shell ← get
  if words.isEmpty then
    if !has choices 'r' then
      let _ ← print "hash" "hash: hash table empty\n"
    return 0
  tellEach (fun name => do
    if has choices 't' || has choices 'd' then
      complain ("hash: " ++ name ++ ": not found")
      return false
    if names.contains name || (shell.function? name).isSome || name.toList.contains '/' ||
        !(programsOf shell name).isEmpty then
      return true
    complain ("hash: " ++ name ++ ": not found")
    return false) words true

/-! ## Aliases -/

private def aliasLine (entry : String × String) : String :=
  "alias " ++ entry.1 ++ "=" ++ Quoting.single entry.2 ++ "\n"

private def isAliasName (name : String) : Bool :=
  !name.isEmpty && !name.toList.any fun c => " \t\n/$\x60=\"\x27\\|&;()<>".toList.contains c

def alias_ (words : List String) : Act Nat := do
  let some (choices, words) ← takeOptions? "alias" "[-p] [name[=value] ... ]" "p" words | return 2
  let sorted := (← get).aliases.mergeSort fun a b => a.1 ≤ b.1
  let listed := String.join (sorted.map aliasLine)
  if words.isEmpty || has choices 'p' then
    let _ ← print "alias" listed
  tellEach (fun word => do
    let name := String.ofList (word.toList.takeWhile (· != '='))
    let shell ← get
    if name.length == word.length then
      match lookup? shell.aliases name with
      | some text =>
        let _ ← print "alias" (aliasLine (name, text))
        return true
      | none =>
        complain ("alias: " ++ name ++ ": not found")
        return false
    else if !isAliasName name then
      complain ("alias: \x60" ++ name ++ "\x27: invalid alias name")
      return false
    else
      let text := String.ofList (word.toList.drop (name.length + 1))
      let others := shell.aliases.filter fun entry => entry.1 != name
      set { shell with aliases := (name, text) :: others }
      return true) words true

def unalias (words : List String) : Act Nat := do
  let usage := "[-a] name [name ...]"
  let some (choices, words) ← takeOptions? "unalias" usage "a" words | return 2
  if has choices 'a' then
    modify fun shell => { shell with aliases := [] }
    return 0
  if words.isEmpty then
    showUsage "unalias" usage
    return 2
  tellEach (fun name => do
    let shell ← get
    if (lookup? shell.aliases name).isNone then
      complain ("unalias: " ++ name ++ ": not found")
      return false
    set { shell with aliases := shell.aliases.filter fun entry => entry.1 != name }
    return true) words true

/-! ## Surroundings -/

private def octalText (mask : Nat) : String :=
  let digits := Nat.toDigits 8 mask
  String.ofList (List.replicate (4 - digits.length) '0' ++ digits)

private def bitsText (bits : Nat) : String :=
  (if bits / 4 % 2 == 1 then "r" else "") ++ (if bits / 2 % 2 == 1 then "w" else "") ++
    if bits % 2 == 1 then "x" else ""

private def symbolicText (mask : Nat) : String :=
  let allowed (shift : Nat) : String := bitsText (7 - mask / shift % 8)
  "u=" ++ allowed 64 ++ ",g=" ++ allowed 8 ++ ",o=" ++ allowed 1

private def bitsOf? (letters : List Char) : Option Nat :=
  letters.foldlM (fun bits letter =>
    match letter with
    | 'r' => some (bits ||| 4)
    | 'w' => some (bits ||| 2)
    | 'x' => some (bits ||| 1)
    | _ => none) 0

/-- The permissions that clauses leave, or the character that makes no sense. -/
private def permitted (clauses : List String) (start : Nat) : Except Char Nat :=
  clauses.foldlM (fun allowed clause =>
    let who := clause.toList.takeWhile fun c => "ugoa".toList.contains c
    match clause.toList.drop who.length with
    | operator :: letters =>
      if !"+-=".toList.contains operator then .error operator
      else
        match bitsOf? letters with
        | none => .error (letters.headD ' ')
        | some bits =>
          let everyone := who.isEmpty || who.contains 'a'
          let shifts := [('u', 64), ('g', 8), ('o', 1)].filter fun entry =>
            everyone || who.contains entry.1
          .ok (shifts.foldl (fun allowed (_, shift) =>
            let before := allowed / shift % 8
            let after :=
              if operator == '+' then before ||| bits
              else if operator == '-' then before - (before &&& bits)
              else bits
            allowed - before * shift + after * shift) allowed)
    | [] => .error ' ') start

def umask (words : List String) : Act Nat := do
  let some (choices, words) ← takeOptions? "umask" "[-p] [-S] [mode]" "pS" words | return 2
  let shell ← get
  match words with
  | [] =>
    let text := if has choices 'S' then symbolicText shell.umask else octalText shell.umask
    let front := if has choices 'p' then "umask " ++ if has choices 'S' then "-S " else "" else ""
    print "umask" (front ++ text ++ "\n")
  | mode :: _ =>
    if mode.front.isDigit then
      let value := mode.toList.foldl (fun value c => value * 8 + (c.toNat - '0'.toNat)) 0
      if mode.toList.all (fun c => '0' ≤ c && c < '8') && value ≤ 0o777 then
        set { shell with umask := value }
        return 0
      fail 1 ("umask: " ++ mode ++ ": octal number out of range")
    else
      match permitted (mode.splitOn ",") (0o777 - shell.umask) with
      | .ok allowed =>
        set { shell with umask := 0o777 - allowed }
        return 0
      | .error c =>
        fail 1 ("umask: \x60" ++ String.singleton c ++ "\x27: invalid symbolic mode operator")

/-- Tell where the running function was called. -/
def caller (words : List String) : Act Nat := do
  let shell ← get
  let index := ((words.head?.bind integer?).getD 0).toNat
  match shell.calls[index]? with
  | none => return 1
  | some call =>
    let origin := match shell.calls[index + 1]? with
      | some outer => outer.origin
      | none => if words.isEmpty then "NULL" else call.origin
    match words, shell.calls[index + 1]? with
    | [], _ => print "caller" (toString call.line ++ " " ++ origin ++ "\n")
    | _, some outer => print "caller" (toString call.line ++ " " ++ outer.name ++ " " ++ origin ++ "\n")
    | _, none => return 1

def enable (words : List String) : Act Nat := do
  let some (choices, words) ← takeOptions? "enable" "[-a] [-dnps] [-f filename] [name ...]" "adnpsf:" words
    | return 2
  if words.isEmpty then
    if has choices 'n' then return 0
    return ← print "enable" (String.join (names.map fun name => "enable " ++ name ++ "\n"))
  tellEach (fun name => do
    if names.contains name then return true
    complain ("enable: " ++ name ++ ": not a shell builtin")
    return false) words true

end Provision.Shell.Builtin
