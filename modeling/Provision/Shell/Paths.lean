import Provision.Shell.Pattern
import Provision.Shell.Splitting
import Provision.Shell.State

/-! Paths that match patterns. -/

namespace Provision.Shell.Paths

/-- How names are compared with patterns. -/
structure Habits where
  extended : Bool
  ignoreCase : Bool
  /-- Whether names with a dot in front match without one being written. -/
  hidden : Bool
  /-- Whether two stars stand for any number of directories. -/
  deep : Bool

def habitsOf (shell : Shell) : Habits :=
  { extended := shell.can "extglob"
    ignoreCase := shell.can "nocaseglob"
    hidden := shell.can "dotglob"
    deep := shell.can "globstar" }

private def namesIn (disk : Disk) (front : String) : List String :=
  match disk.lookup true (Text.narrow (if front.isEmpty then "." else front)) with
  | .ok (at_, .dir) => (disk.children at_).map Text.widen
  | _ => []

private def isPlainDirectory (disk : Disk) (path : String) : Bool :=
  match disk.lookup false (Text.narrow path) with
  | .ok (_, .dir) => true
  | _ => false

/-- The directories below one, that one first, each with a slash behind it. -/
private def directoriesBelow (disk : Disk) (habits : Habits) : Nat → String → List String
  | 0, front => [front]
  | depth + 1, front =>
    let names := (namesIn disk front).filter fun name =>
      (habits.hidden || name.front != '.') && isPlainDirectory disk (front ++ name)
    front :: names.flatMap fun name => directoriesBelow disk habits depth (front ++ name ++ "/")

/-- How deep directories are looked into. -/
private def maxDepth : Nat := 64

private def isDeepMark (field : Field) : Bool := field == [('*', true), ('*', true)]

private def literal (field : Field) : String := field.text

/-- The paths that match the pieces of a pattern, from a directory on. -/
private def pathsFrom (disk : Disk) (habits : Habits) (front : String) : List Field → List String
  | [] => [front]
  | field :: rest =>
    let pattern := Pattern.ofField habits.extended field
    let behind (name : String) : List String :=
      let path := front ++ name
      if rest.isEmpty then
        if name.isEmpty then (if disk.isDir (Text.narrow path) then [path] else [])
        else if (disk.lookup false (Text.narrow path)).isOk then [path]
        else []
      else pathsFrom disk habits (path ++ "/") rest
    if habits.deep && isDeepMark field then
      let directories := directoriesBelow disk habits maxDepth front
      if rest.isEmpty then
        directories.flatMap fun directory =>
          let names := (namesIn disk directory).filter fun name =>
            habits.hidden || name.front != '.'
          (if directory == front && !front.isEmpty then [front] else []) ++
            names.map (directory ++ ·)
      else directories.flatMap fun directory => pathsFrom disk habits directory rest
    else if pattern.isOpen then
      let showsHidden := habits.hidden || (field.head?.map Prod.fst) == some '.'
      let names := (namesIn disk front).filter fun name =>
        (showsHidden || name.front != '.') && pattern.accepts habits.ignoreCase name.toList
      names.flatMap behind
    else behind (literal field)

private def splitPath : Field → List Field
  | [] => [[]]
  | entry :: rest =>
    match splitPath rest with
    | first :: more => if entry.1 == '/' then [] :: first :: more else (entry :: first) :: more
    | [] => [[entry]]

/-- The paths that a field matches, sorted; nothing if it is no pattern. -/
def matching? (disk : Disk) (habits : Habits) (field : Field) : Option (List String) :=
  if (splitPath field).any fun piece => (Pattern.ofField habits.extended piece).isOpen then
    let found :=
      match splitPath field with
      | [] :: rest => pathsFrom disk habits "/" rest
      | pieces => pathsFrom disk habits "" pieces
    some (found.mergeSort fun a b => a ≤ b)
  else none

end Provision.Shell.Paths

/-! Home directories, for which a tilde stands. -/

namespace Provision.Shell.Homes

/-- The home directories of those whom every system knows. -/
private def known : List (String × String) :=
  [("root", "/root"), ("daemon", "/usr/sbin"), ("bin", "/bin"), ("sys", "/dev"),
    ("sync", "/bin"), ("games", "/usr/games"), ("man", "/var/cache/man"),
    ("lp", "/var/spool/lpd"), ("mail", "/var/mail"), ("news", "/var/spool/news"),
    ("uucp", "/var/spool/uucp"), ("proxy", "/bin"), ("www-data", "/var/www"),
    ("backup", "/var/backups"), ("list", "/var/list"), ("irc", "/run/ircd"),
    ("nobody", "/nonexistent")]

private def homeOf? (shell : Shell) (login : String) : Option String :=
  match login with
  | "" => some ((shell.text? "HOME").getD "/root")
  | "+" => shell.text? "PWD"
  | "-" => shell.text? "OLDPWD"
  | login => lookup? known login

/-- Where a tilde means something: nowhere, at the beginning alone, or behind colons too. -/
inductive Extent where
  | nowhere | front | parts
  deriving DecidableEq

private def fragmentsFrom (shell : Shell) (extent : Extent) (isLast : Bool) :
    Nat → (atStart : Bool) → List Char → List Fragment
  | 0, _, text => [.plain (String.ofList text)]
  | _, _, [] => []
  | fuel + 1, atStart, c :: rest =>
    let onward := fun (atStart : Bool) => fragmentsFrom shell extent isLast fuel atStart rest
    if atStart && c == '~' then
      let login := rest.takeWhile fun c => c != '/' && !(extent == .parts && c == ':')
      let behind := rest.drop login.length
      if behind.isEmpty && !isLast then .plain "~" :: onward false
      else
        match homeOf? shell (String.ofList login) with
        | some home => .solid home :: fragmentsFrom shell extent isLast fuel false behind
        | none => .plain "~" :: onward false
    else .plain (String.singleton c) :: onward (extent == .parts && c == ':')

/-- A text that is written freely, with home directories in place of tildes. A tilde at its
end is part of what follows, if anything does. -/
def fragmentsOf (shell : Shell) (extent : Extent) (atStart isLast : Bool) (text : String) :
    List Fragment :=
  if extent == .nowhere || !text.toList.contains '~' then [.plain text]
  else fragmentsFrom shell extent isLast (text.length + 1) atStart text.toList

/-- The front of a word that looks like an assignment, up to the equals sign, and what
stands behind it. -/
def assignmentFront? (text : String) : Option (String × String) :=
  let name := text.toList.takeWhile isNameChar
  match text.toList.drop name.length with
  | '=' :: value =>
    if isName (String.ofList name) then
      some (String.ofList (name ++ ['=']), String.ofList value)
    else none
  | _ => none

end Provision.Shell.Homes
