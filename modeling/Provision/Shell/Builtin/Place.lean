import Provision.Shell.Builtin.Options
import Provision.Shell.Store

/-! Where the shell is, and going elsewhere. -/

namespace Provision.Shell.Builtin

private def writtenPath (pieces : List String) : String :=
  if pieces.isEmpty then "/" else String.join (pieces.map ("/" ++ ·))

/-- Leave out dots and what two dots take back. Before that, every directory has to be
there. -/
private def reduced? (disk : Disk) : (done : List String) → List String → Option (List String)
  | done, [] => some done.reverse
  | done, piece :: rest =>
    if piece == "." then reduced? disk done rest
    else if piece == ".." then
      if disk.isDir (Text.narrow (writtenPath done.reverse)) then reduced? disk done.tail rest
      else none
    else reduced? disk (piece :: done) rest

/-- The path at which the shell is, as it got there. -/
def currentPath (shell : Shell) : String :=
  let here := Text.widen (Disk.pathOf shell.disk.cwd)
  match shell.text? "PWD" with
  | some path =>
    match shell.disk.lookup true (Text.narrow path) with
    | .ok (at_, .dir) => if at_ == shell.disk.cwd && PathText.isAbsolute path then path else here
    | _ => here
  | none => here

private def logicalPath? (shell : Shell) (target : String) : Option String :=
  let path := if PathText.isAbsolute target then target else currentPath shell ++ "/" ++ target
  (reduced? shell.disk [] (PathText.pieces path)).map writtenPath

/-- Go to a directory, and remember where that is. -/
private def enter (target : String) (physical : Bool) : Act (Except IoError String) := do
  let shell ← get
  let asked := if physical then target else (logicalPath? shell target).getD target
  let found :=
    match shell.disk.lookup true (Text.narrow asked) with
    | .error .notFound => shell.disk.lookup true (Text.narrow target)
    | found => found
  match found with
  | .ok (at_, .dir) =>
    let path := if physical then Text.widen (Disk.pathOf at_) else asked
    let path := if PathText.isAbsolute path then path else Text.widen (Disk.pathOf at_)
    let before := currentPath shell
    set { shell with disk := { shell.disk with cwd := at_ } }
    let _ ← assignText "OLDPWD" none before
    let _ ← assignText "PWD" none path
    return .ok path
  | .ok _ => return .error .notDirectory
  | .error error => return .error error

private def isDotted (path : String) : Bool :=
  match (PathText.pieces path).head? with
  | some "." | some ".." => true
  | _ => false

/-- The directory below one of the search path in which a relative path leads somewhere. -/
private def searched? (shell : Shell) (target : String) : Option String :=
  let path := (shell.text? "CDPATH").getD ""
  if path.isEmpty || PathText.isAbsolute target || isDotted target then none
  else
    ((path.splitOn ":").filter fun directory => !directory.isEmpty && directory != ".").findSome?
      fun directory =>
        let candidate := directory ++ "/" ++ target
        if shell.disk.isDir (Text.narrow candidate) then some candidate else none

private def cdUsage : String := "[-L|[-P [-e]] [-@]] [dir]"

def changeDirectory (words : List String) : Act Nat := do
  let some (choices, words) ← takeOptions? "cd" cdUsage "LPe@" words | return 2
  let shell ← get
  let last := (choices.map Prod.fst).reverse.find? fun letter => letter == 'L' || letter == 'P'
  let physical := (last.map (· == 'P')).getD (shell.has "physical")
  let go (target : String) (tells : Bool) : Act Nat := do
    match ← enter target physical with
    | .ok path => if tells then print "cd" (path ++ "\n") else return 0
    | .error error => fail 1 ("cd: " ++ target ++ ": " ++ reason error)
  match words with
  | [] =>
    match shell.text? "HOME" with
    | some home => if home.isEmpty then return 0 else go home false
    | none => fail 1 "cd: HOME not set"
  | ["-"] =>
    match shell.text? "OLDPWD" with
    | some path => go path true
    | none => fail 1 "cd: OLDPWD not set"
  | [target] =>
    if target.isEmpty then return 0
    match searched? shell target with
    | some path => go path true
    | none => go target false
  | _ => fail 1 "cd: too many arguments"

def workingDirectory (words : List String) : Act Nat := do
  let some (choices, _) ← takeOptions? "pwd" "[-LP]" "LP" words | return 2
  let shell ← get
  let last := (choices.map Prod.fst).getLast?
  let physical := (last.map (· == 'P')).getD (shell.has "physical")
  let path := if physical then Text.widen (Disk.pathOf shell.disk.cwd) else currentPath shell
  print "pwd" (path ++ "\n")

/-! ## Directories to come back to -/

private def shortened (shell : Shell) (path : String) : String :=
  let home := (shell.text? "HOME").getD ""
  if home.length ≤ 1 then path
  else if path == home then "~"
  else if (home ++ "/").toList.isPrefixOf path.toList then
    "~" ++ String.ofList (path.toList.drop home.length)
  else path

private def listAll : Act Nat := do
  let shell ← get
  let all := currentPath shell :: shell.directories
  print "dirs" (String.intercalate " " (all.map (shortened shell)) ++ "\n")

/-- The place in the list that a word with a sign means. -/
private def placeIn? (size : Nat) (word : String) : Option (Option Nat) :=
  match word.toList with
  | mark :: digits =>
    if (mark != '+' && mark != '-') || digits.isEmpty || !digits.all Char.isDigit then none
    else
      let count := Text.digitsValue digits
      if size ≤ count then some none
      else some (some (if mark == '+' then count else size - 1 - count))
  | [] => none

private def goTo (command path : String) : Act (Option Nat) := do
  match ← enter path false with
  | .ok _ => return none
  | .error error => return some (← fail 1 (command ++ ": " ++ path ++ ": " ++ reason error))

private def setDirectories (directories : List String) : Act Unit :=
  modify fun shell => { shell with directories }

def pushDirectory (words : List String) : Act Nat := do
  let stays := words.head? == some "-n"
  let words := if stays then words.tail else words
  let words := if words.head? == some "--" then words.tail else words
  let shell ← get
  let here := currentPath shell
  let all := here :: shell.directories
  match words with
  | [] =>
    match shell.directories with
    | [] => fail 1 "pushd: no other directory"
    | first :: rest =>
      if let some status ← goTo "pushd" first then return status
      setDirectories (here :: rest)
      listAll
  | word :: rest =>
    if !rest.isEmpty then return ← fail 1 "pushd: too many arguments"
    match placeIn? all.length word with
    | some none =>
      if shell.directories.isEmpty then fail 1 "pushd: directory stack empty"
      else fail 1 ("pushd: " ++ word ++ ": directory stack index out of range")
    | some (some place) =>
      let turned := all.drop place ++ all.take place
      if let some status ← goTo "pushd" (turned.headD here) then return status
      setDirectories turned.tail
      listAll
    | none =>
      if stays then
        setDirectories (word :: shell.directories)
        listAll
      else
        if let some status ← goTo "pushd" word then return status
        setDirectories all
        listAll

def popDirectory (words : List String) : Act Nat := do
  let shell ← get
  let all := currentPath shell :: shell.directories
  match words with
  | [] =>
    match shell.directories with
    | [] => fail 1 "popd: directory stack empty"
    | first :: rest =>
      if let some status ← goTo "popd" first then return status
      setDirectories rest
      listAll
  | word :: _ =>
    match placeIn? all.length word with
    | some (some 0) =>
      match shell.directories with
      | [] => fail 1 "popd: directory stack empty"
      | first :: rest =>
        if let some status ← goTo "popd" first then return status
        setDirectories rest
        listAll
    | some (some place) =>
      setDirectories (shell.directories.eraseIdx (place - 1))
      listAll
    | some none =>
      if shell.directories.isEmpty then fail 1 "popd: directory stack empty"
      else fail 1 ("popd: " ++ word ++ ": directory stack index out of range")
    | none =>
      let result ← fail 2 ("popd: " ++ word ++ ": invalid argument")
      showUsage "popd" "[-n] [+N | -N]"
      return result

def listDirectories (words : List String) : Act Nat := do
  let shell ← get
  let all := currentPath shell :: shell.directories
  let letters := (words.filter fun word => word.front == '-').flatMap fun word => word.toList.drop 1
  if letters.contains 'c' then
    setDirectories []
    return 0
  let shown := all.map fun path => if letters.contains 'l' then path else shortened shell path
  match words.findSome? (placeIn? all.length) with
  | some (some place) => print "dirs" (shown[place]?.getD "" ++ "\n")
  | some none =>
    fail 1 ("dirs: " ++ words.headD "" ++ ": directory stack index out of range")
  | none =>
    if letters.contains 'v' then
      print "dirs" (String.join (shown.zipIdx.map fun (path, i) =>
        (if i < 10 then " " else "") ++ toString i ++ "  " ++ path ++ "\n"))
    else if letters.contains 'p' then print "dirs" (String.join (shown.map (· ++ "\n")))
    else print "dirs" (String.intercalate " " shown ++ "\n")

end Provision.Shell.Builtin
