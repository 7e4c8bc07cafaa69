import Provision.Shell.Expansion
import Provision.Shell.Tool.Options

/-! Starting a program in a changed environment. -/

namespace Provision.Shell.Tool

private def withEntry (entries : List (String × String)) (name value : String) :
    List (String × String) :=
  if entries.any fun entry => entry.1 == name then
    entries.map fun entry => if entry.1 == name then (name, value) else entry
  else entries ++ [(name, value)]

private def withoutEntry (entries : List (String × String)) (name : String) :
    List (String × String) :=
  entries.filter fun entry => entry.1 != name

/-- The settings in front of a command, and the command. -/
private def withSettings :
    List (String × String) → List String → List (String × String) × List String
  | entries, [] => (entries, [])
  | entries, word :: rest =>
    let name := String.ofList (word.toList.takeWhile (· != '='))
    if name.length == word.length then (entries, word :: rest)
    else
      let value := String.ofList (word.toList.drop (name.length + 1))
      withSettings (withEntry entries name value) rest

private def split (text : String) : List String :=
  (text.splitOn " ").filter fun word => !word.isEmpty

private def unpacked : List String → List String
  | [] => []
  | "-S" :: text :: rest => split text ++ rest
  | word :: rest =>
    if "-S".toList.isPrefixOf word.toList then split (String.ofList (word.toList.drop 2)) ++ rest
    else if word.front == '-' then word :: unpacked rest
    else word :: rest

private def enter (name : String) (path : String) : Act Bool := do
  let shell ← get
  match shell.disk.lookup true (Text.narrow path) with
  | .ok (at_, .dir) =>
    set { shell with disk := { shell.disk with cwd := at_ } }
    return true
  | found =>
    let error := match found with
      | .error error => error
      | .ok _ => IoError.notDirectory
    warn name ("cannot change directory to " ++ quoted path ++ ": " ++ reason error)
    return false

/-- Carry on as a program, or print the environment if none is named. -/
def inEnvironment (run : Runner) (name : String) (words : List String) : Act Nat := do
  let grammar : Grammar :=
    { letters := "iu:C:0v", isMixed := false
      long := [("ignore-environment", 'i'), ("unset", 'u'), ("chdir", 'C')] }
  let some (choices, words) ← takeOptions? name grammar (unpacked words) | return 125
  let clears := has choices 'i' || words.head? == some "-"
  let words := if words.head? == some "-" then words.drop 1 else words
  let before := (← get).given
  let start := if clears then [] else before
  let removed := choices.filterMap fun choice => if choice.1 == 'u' then choice.2 else none
  let (given, command) := withSettings (removed.foldl withoutEntry start) words
  if let some path := argument? choices 'C' then
    if !(← enter name path) then return 125
  modify fun shell => { shell with given }
  match command with
  | [] => put name (String.join (given.map fun entry => entry.1 ++ "=" ++ entry.2 ++ "\n"))
  | program :: arguments =>
    let disk := (← get).disk
    let searchPath := Text.narrow ((lookup? given "PATH").getD "/bin:/usr/bin")
    let found := do
      let path ← findProgram disk searchPath (Text.narrow program)
      invoke disk path program arguments
    match found with
    | .ok invocation =>
      run (.program invocation)
      return (← get).status
    | .error error =>
      warn name (quoted program ++ ": " ++ reason error)
      return if error == .notFound then 127 else 126

end Provision.Shell.Tool
