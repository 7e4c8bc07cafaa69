import Provision.Disk.Transfer
import Provision.Shell.Tool.Options

/-! Making, moving and removing files. -/

namespace Provision.Shell.Tool

private def lookup (follow : Bool) (path : String) (shell : Shell) :
    Except IoError (Location × Node) :=
  shell.disk.lookup follow (Text.narrow path)

/-- Ask something of the disk. If it is refused, say what could not be done. -/
private def request (name text : String) (work : Disk → Except IoError Disk) : Act Nat := do
  let shell ← get
  match work shell.disk with
  | .ok disk =>
    set { shell with disk }
    return 0
  | .error error =>
    warn name (text ++ ": " ++ reason error)
    return 1

private def join (directory name : String) : String :=
  if directory.toList.getLast? == some '/' then directory ++ name else directory ++ "/" ++ name

/-- The last piece of a path. -/
private def lastPiece (path : String) : String :=
  ((PathText.pieces (Text.narrow path)).getLast?.map Text.widen).getD "/"

private def refuse (name text : String) : Act Nat := do
  warn name text
  return 1

private def misuse (name text : String) : Act Nat := do
  misused name text
  return 1

/-! ## Directories -/

private def makeOne (name path : String) (tells : Bool) : Act Nat := do
  let status ← request name ("cannot create directory " ++ quoted path) fun disk =>
    disk.mkdir (Text.narrow path)
  if tells && status == 0 then return ← put name (name ++ ": created directory " ++ quoted path ++ "\n")
  return status

/-- The paths of the directories on the way to a path, outermost first. -/
private def fronts (path : String) : List String :=
  let pieces := PathText.pieces (Text.narrow path)
  let front := if PathText.isAbsolute path then "/" else ""
  (List.range pieces.length).map fun i =>
    Text.widen (front ++ String.intercalate "/" (pieces.take (i + 1)))

private def makeFronts (name : String) (tells : Bool) : List String → Act Nat
  | [] => return 0
  | path :: rest => do
    match lookup true path (← get) with
    | .ok (_, .dir) => makeFronts name tells rest
    | .ok _ =>
      let error := if rest.isEmpty then IoError.alreadyExists else .notDirectory
      refuse name ("cannot create directory " ++ quoted path ++ ": " ++ reason error)
    | .error _ =>
      let status ← makeOne name path tells
      if status == 0 then makeFronts name tells rest else return status

def makeDirectory (name : String) (words : List String) : Act Nat := do
  let grammar : Grammar :=
    { letters := "pvm:", long := [("parents", 'p'), ("verbose", 'v'), ("mode", 'm')] }
  let some (choices, paths) ← takeOptions? name grammar words | return 1
  if paths.isEmpty then return ← misuse name "missing operand"
  let tells := has choices 'v'
  forWords (fun path =>
    if has choices 'p' && !path.isEmpty then makeFronts name tells (fronts path)
    else makeOne name path tells) paths

private def removeEmpty (name : String) (choices : List Choice) (path : String) : Act Nat := do
  if has choices 'v' then
    let _ ← put name (name ++ ": removing directory, " ++ quoted path ++ "\n")
  let shell ← get
  match shell.disk.rmdir (Text.narrow path) with
  | .ok disk =>
    set { shell with disk }
    return 0
  | .error .notEmpty =>
    if has choices 'i' then return 0
    refuse name ("failed to remove " ++ quoted path ++ ": " ++ reason .notEmpty)
  | .error error => refuse name ("failed to remove " ++ quoted path ++ ": " ++ reason error)

private def untilRefused (work : String → Act Nat) : List String → Act Nat
  | [] => return 0
  | path :: rest => do
    let status ← work path
    if status == 0 then untilRefused work rest else return status

def removeDirectory (name : String) (words : List String) : Act Nat := do
  let grammar : Grammar :=
    { letters := "pvi"
      long := [("parents", 'p'), ("verbose", 'v'), ("ignore-fail-on-non-empty", 'i')] }
  let some (choices, paths) ← takeOptions? name grammar words | return 1
  if paths.isEmpty then return ← misuse name "missing operand"
  forWords (fun path =>
    if has choices 'p' then untilRefused (removeEmpty name choices) (path :: (fronts path).dropLast.reverse)
    else removeEmpty name choices path) paths

/-! ## Removing -/

private def tell (name : String) (tells : Bool) (text : String) : Act Nat :=
  if tells then put name (text ++ "\n") else return 0

private def removeFile (name path : String) (tells : Bool) : Act Nat := do
  let status ← request name ("cannot remove " ++ quoted path) fun disk =>
    disk.unlink (Text.narrow path)
  if status == 0 then tell name tells ("removed " ++ quoted path) else return status

private def removeTreeAt (name : String) (tells : Bool) : Nat → String → Act Nat
  | 0, _ => return 1
  | fuel + 1, path => do
    match lookup false path (← get) with
    | .ok (at_, .dir) =>
      let names := (((← get).disk.children at_).map Text.widen).mergeSort fun a b => a ≤ b
      let status ← forWords (fun child => removeTreeAt name tells fuel (join path child)) names
      let own ← request name ("cannot remove " ++ quoted path) fun disk =>
        disk.rmdir (Text.narrow path)
      let _ ← if own == 0 then tell name tells ("removed directory " ++ quoted path) else pure 0
      return max status own
    | _ => removeFile name path tells

private def removeOne (name : String) (choices : List Choice) (path : String) : Act Nat := do
  let forced := lastOf choices ['f', 'i'] == some 'f'
  let tells := has choices 'v'
  let deep := has choices 'r' || has choices 'R'
  let last := lastPiece path
  if deep && (last == "." || last == "..") then
    return ← refuse name
      ("refusing to remove \x27.\x27 or \x27..\x27 directory: skipping " ++ quoted path)
  match lookup false path (← get) with
  | .error error =>
    if forced && (error == .notFound || error == .notDirectory) then return 0
    refuse name ("cannot remove " ++ quoted path ++ ": " ++ reason error)
  | .ok ([], _) =>
    if !deep then return ← refuse name ("cannot remove " ++ quoted path ++ ": Is a directory")
    warn name "it is dangerous to operate recursively on \x27/\x27"
    refuse name "use --no-preserve-root to override this failsafe"
  | .ok (_, .dir) =>
    if deep then removeTreeAt name tells ((← get).disk.entries.length + 1) path
    else if has choices 'd' then
      let status ← request name ("cannot remove " ++ quoted path) fun disk =>
        disk.rmdir (Text.narrow path)
      if status == 0 then tell name tells ("removed directory " ++ quoted path) else return status
    else refuse name ("cannot remove " ++ quoted path ++ ": Is a directory")
  | .ok _ => removeFile name path tells

def remove (name : String) (words : List String) : Act Nat := do
  let grammar : Grammar :=
    { letters := "rRfdviI"
      long := [("recursive", 'r'), ("force", 'f'), ("dir", 'd'), ("verbose", 'v')] }
  let some (choices, paths) ← takeOptions? name grammar words | return 1
  if paths.isEmpty && !has choices 'f' then return ← misuse name "missing operand"
  forWords (removeOne name choices) paths

/-! ## Targets -/

/-- What is done with sources and where they end up. -/
private inductive Errand where
  | pairs (pairs : List (String × String))
  | bad (status : Nat)

/-- Find out where the sources go: into a directory, or one in place of the target. -/
private def errandOf (name : String) (choices : List Choice) (paths : List String) : Act Errand := do
  let into (directory : String) (sources : List String) : Errand :=
    .pairs (sources.map fun source => (source, join directory (lastPiece source)))
  let refuseTarget (target : String) : Act Errand := do
    let error := match lookup true target (← get) with
      | .ok _ => IoError.notDirectory
      | .error error => error
    warn name ("target " ++ quoted target ++ ": " ++ reason error)
    return .bad 1
  let isDirectory (path : String) : Act Bool := do return (← get).disk.isDir (Text.narrow path)
  match argument? choices 't', paths with
  | _, [] =>
    misused name "missing file operand"
    return .bad 1
  | some directory, sources =>
    if ← isDirectory directory then return into directory sources else refuseTarget directory
  | none, [only] =>
    misused name ("missing destination file operand after " ++ quoted only)
    return .bad 1
  | none, [source, target] =>
    if !has choices 'T' && (← isDirectory target) then return into target [source]
    return .pairs [(source, target)]
  | none, paths =>
    let target := paths.getLast?.getD ""
    if has choices 'T' then
      misused name ("extra operand " ++ quoted (paths[2]?.getD ""))
      return .bad 1
    if ← isDirectory target then return into target paths.dropLast else refuseTarget target

/-- Carry out the work for every pair. What has just been made is not overwritten. -/
private def carryOut (name : String) (work : String → String → Act Nat) :
    List Location → List (String × String) → Act Nat
  | _, [] => return 0
  | made, (source, target) :: rest => do
    let place := ((← get).disk.locate false (Text.narrow target)).toOption
    if (lookup false source (← get)).isOk && place.any made.contains then
      warn name ("will not overwrite just-created " ++ quoted target ++ " with " ++ quoted source)
      return max 1 (← carryOut name work made rest)
    let status ← work source target
    let made := if status == 0 then place.toList ++ made else made
    return max status (← carryOut name work made rest)

private def cannotStat (name source : String) (error : IoError) : Act Nat :=
  refuse name ("cannot stat " ++ quoted source ++ ": " ++ reason error)

private def sameFile (name source target : String) : Act Nat :=
  refuse name (quoted source ++ " and " ++ quoted target ++ " are the same file")

private def noDirectoryOver (name source target : String) : Act Nat :=
  refuse name ("cannot overwrite non-directory " ++ quoted target ++ " with directory " ++ quoted source)

private def nothingOverDirectory (name target : String) : Act Nat :=
  refuse name ("cannot overwrite directory " ++ quoted target ++ " with non-directory")

/-! ## Copying -/

private def copyBytes (name : String) (choices : List Choice) (source target : String) : Act Nat := do
  let shell ← get
  match lookup false target shell, lookup true target shell with
  | .ok (_, .link _), .error _ =>
    refuse name ("not writing through dangling symlink " ++ quoted target)
  | before, _ =>
    let front := "cannot create regular file " ++ quoted target
    let target := Text.narrow target
    if Disk.hasSlash target && before.toOption.isNone then
      return ← refuse name (front ++ ": Not a directory")
    let status ← request name front fun disk => do
      if target.isEmpty then throw .notFound
      let bytes ← disk.read (Text.narrow source)
      let executable := match disk.lookup true (Text.narrow source) with
        | .ok (_, .file _ _ executable) => executable
        | _ => false
      let disk ← disk.write target bytes executable
      if has choices 'p' || has choices 'a' then disk.setExecutable target executable else .ok disk
    if status == 0 then
      tell name (has choices 'v') (quoted source ++ " -> " ++ quoted (Text.widen target))
    else return status

private def copyLink (name : String) (choices : List Choice) (source target link : String) : Act Nat := do
  let status ← request name ("cannot create symbolic link " ++ quoted target) fun disk =>
    match disk.lookup false (Text.narrow target) with
    | .ok (at_, _) => (disk.erase at_).symlink link (Text.narrow target)
    | .error _ => disk.symlink link (Text.narrow target)
  if status == 0 then tell name (has choices 'v') (quoted source ++ " -> " ++ quoted target)
  else return status

private def copyEntry (name : String) (choices : List Choice) (deep follow : Bool) :
    Nat → String → String → Act Nat
  | 0, _, _ => return 1
  | fuel + 1, source, target => do
    let shell ← get
    match lookup follow source shell with
    | .error error => cannotStat name source error
    | .ok (from_, node) =>
      let there := (lookup true target shell).toOption
      match node, there with
      | .dir, there =>
        if !deep then
          return ← refuse name ("-r not specified; omitting directory " ++ quoted source)
        match there with
        | some (_, .file ..) | some (_, .link _) => noDirectoryOver name source target
        | some (place, .dir) =>
          if place == from_ then return ← sameFile name source target
          copyChildren fuel source target from_
        | none =>
          let place := (shell.disk.locate false (Text.narrow target)).toOption.getD []
          let inner := from_.isPrefixOf place
          let status ← request name ("cannot create directory " ++ quoted target) fun disk =>
            disk.mkdir (Text.narrow target)
          if status != 0 then return status
          let _ ← tell name (has choices 'v') (quoted source ++ " -> " ++ quoted target)
          let status ← copyChildren fuel source target from_
          if inner then
            return ← refuse name ("cannot copy a directory, " ++ quoted source ++ ", into itself, " ++
              quoted target)
          return status
      | .link link, there =>
        match there with
        | some (_, .dir) =>
          if (lookup false target shell).toOption.any fun found => found.2 == .dir then
            nothingOverDirectory name target
          else copyLink name choices source target link
        | _ => copyLink name choices source target link
      | .file .., some (place, node) =>
        if node == .dir then nothingOverDirectory name target
        else if place == from_ then sameFile name source target
        else if has choices 'n' || has choices 'u' then return 0
        else copyBytes name choices source target
      | .file .., none => copyBytes name choices source target
where
  copyChildren (fuel : Nat) (source target : String) (from_ : Location) : Act Nat := do
    let disk := (← get).disk
    let place := (disk.locate true (Text.narrow target)).toOption
    let names := (disk.children from_).filter fun child => some (from_ ++ [child]) != place
    let names := (names.map Text.widen).mergeSort fun a b => a ≤ b
    forWords (fun child =>
      copyEntry name choices deep false fuel (join source child) (join target child)) names

def copy (name : String) (words : List String) : Act Nat := do
  let grammar : Grammar :=
    { letters := "rRafpnvut:TPLHdibslx"
      long := [("recursive", 'r'), ("archive", 'a'), ("force", 'f'), ("no-clobber", 'n'),
        ("verbose", 'v'), ("update", 'u'), ("target-directory", 't'),
        ("no-target-directory", 'T'), ("no-dereference", 'P'), ("dereference", 'L')] }
  let some (choices, paths) ← takeOptions? name grammar words | return 1
  let deep := ['r', 'R', 'a'].any (has choices)
  let follow := match lastOf choices ['L', 'P', 'd', 'a'] with
    | some letter => letter == 'L'
    | none => !deep
  match ← errandOf name choices paths with
  | .bad status => return status
  | .pairs pairs =>
    if has choices 'n' then
      warn name ("warning: behavior of -n is non-portable and may change in future; use " ++
        "--update=none instead")
    let size := (← get).disk.entries.length + 2
    carryOut name (copyEntry name choices deep follow size) [] pairs

/-! ## Moving -/

private def moveOne (name : String) (choices : List Choice) (source target : String) : Act Nat := do
  let shell ← get
  match lookup false source shell with
  | .error error => cannotStat name source error
  | .ok (from_, node) =>
    let there := (lookup false target shell).toOption
    let behind := (lookup true source shell).toOption.map Prod.fst
    let into := ((shell.disk.locate false (Text.narrow target)).toOption).any fun place =>
      from_.isPrefixOf place
    let isSame := there.any fun (place, _) => place == from_ || behind == some place
    if node == .dir && into then
      return ← refuse name ("cannot move " ++ quoted source ++ " to a subdirectory of itself, " ++
        quoted target)
    if isSame then return ← sameFile name source target
    if there.isSome && has choices 'n' then return ← refuse name ("not replacing " ++ quoted target)
    match node, there with
    | .dir, some (_, .file ..) | .dir, some (_, .link _) => noDirectoryOver name source target
    | .file .., some (_, .dir) | .link _, some (_, .dir) => nothingOverDirectory name target
    | _, _ =>
      if target.isEmpty then return ← nothingOverDirectory name target
      match shell.disk.rename (Text.narrow source) (Text.narrow target) with
      | .ok disk =>
        set { shell with disk }
        tell name (has choices 'v') ("renamed " ++ quoted source ++ " -> " ++ quoted target)
      | .error .notEmpty =>
        refuse name ("cannot overwrite " ++ quoted target ++ ": " ++ reason .notEmpty)
      | .error error =>
        refuse name ("cannot move " ++ quoted source ++ " to " ++ quoted target ++ ": " ++ reason error)

def move (name : String) (words : List String) : Act Nat := do
  let grammar : Grammar :=
    { letters := "fnivut:T"
      long := [("force", 'f'), ("no-clobber", 'n'), ("verbose", 'v'), ("update", 'u'),
        ("target-directory", 't'), ("no-target-directory", 'T')] }
  let some (choices, paths) ← takeOptions? name grammar words | return 1
  match ← errandOf name choices paths with
  | .bad status => return status
  | .pairs pairs => carryOut name (moveOne name choices) [] pairs

/-! ## Links -/

private def linkOne (name : String) (choices : List Choice) (source target : String) : Act Nat := do
  let shell ← get
  let soft := has choices 's'
  let kind := if soft then "symbolic link" else "hard link"
  let arrow := if soft then " -> " else " => "
  match lookup false source shell, soft with
  | .error error, false =>
    return ← refuse name ("failed to access " ++ quoted source ++ ": " ++ reason error)
  | .ok (_, .dir), false => return ← refuse name (shown source ++ ": hard link not allowed for directory")
  | _, _ => pure ()
  let node := ((lookup false source shell).toOption.map Prod.snd).getD .dir
  let text := if source.isEmpty then " -> \x27\x27" else ""
  let status ← request name ("failed to create " ++ kind ++ " " ++ quoted target ++ text) fun disk => do
    if source.isEmpty then throw .notFound
    let disk :=
      match disk.lookup false (Text.narrow target) with
      | .ok (at_, .file ..) | .ok (at_, .link _) => if has choices 'f' then disk.erase at_ else disk
      | _ => disk
    let linked ← disk.symlink (Text.narrow source) (Text.narrow target)
    if soft then return linked
    match linked.lookup false (Text.narrow target) with
    | .ok (at_, _) => return linked.put at_ node
    | .error error => throw error
  if status == 0 then tell name (has choices 'v') (quoted target ++ arrow ++ quoted source)
  else return status

def link (name : String) (words : List String) : Act Nat := do
  let grammar : Grammar :=
    { letters := "sfnvrit:TP"
      long := [("symbolic", 's'), ("force", 'f'), ("no-dereference", 'n'), ("verbose", 'v'),
        ("target-directory", 't'), ("no-target-directory", 'T')] }
  let some (choices, paths) ← takeOptions? name grammar words | return 1
  let target := paths.getLast?.getD ""
  let isLink := match lookup false target (← get) with
    | .ok (_, .link _) => true
    | _ => false
  let choices := if has choices 'n' && isLink then ('T', none) :: choices else choices
  match paths, argument? choices 't' with
  | [only], none => linkOne name choices only (join "." (lastPiece only))
  | paths, _ =>
    match ← errandOf name choices paths with
    | .bad status => return status
    | .pairs pairs => carryOut name (linkOne name choices) [] pairs

/-! ## Other changes -/

def touch (name : String) (words : List String) : Act Nat := do
  let grammar : Grammar :=
    { letters := "acmfhd:t:r:"
      long := [("no-create", 'c'), ("date", 'd'), ("reference", 'r')] }
  let some (choices, paths) ← takeOptions? name grammar words | return 1
  if paths.isEmpty then return ← misuse name "missing file operand"
  forWords (fun path => do
    match lookup true path (← get) with
    | .ok _ => return 0
    | .error error =>
      if has choices 'c' && error == .notFound then return 0
      if Disk.hasSlash path then
        return ← refuse name ("setting times of " ++ quoted path ++ ": " ++ reason error)
      request name ("cannot touch " ++ quoted path) fun disk =>
        (disk.openOrCreate (Text.narrow path)).map Prod.snd) paths

/-- A change of permissions: whether the owner may execute a file after it. -/
private def modeOf? (text : String) : Option (Bool → Bool) :=
  let chars := text.toList
  if !chars.isEmpty && chars.all Char.isDigit then
    if chars.length ≤ 4 && chars.all fun c => c < '8' then
      let value := chars.foldl (fun value c => value * 8 + (c.toNat - '0'.toNat)) 0
      some fun _ => value / 64 % 2 == 1
    else none
  else
    (text.splitOn ",").foldlM (fun change clause =>
      let who := clause.toList.takeWhile fun c => "ugoa".toList.contains c
      match clause.toList.drop who.length with
      | operator :: letters =>
        let isMeant := who.isEmpty || who.contains 'u' || who.contains 'a'
        if !"+-=".toList.contains operator || !letters.all fun c => "rwxXst".toList.contains c then none
        else
          let marks := letters.contains 'x'
          some fun before =>
            let before := change before
            if !isMeant then before
            else if operator == '+' then before || marks
            else if operator == '-' then before && !marks
            else marks
      | [] => none) (id : Bool → Bool)

private def changeMode (change : Bool → Bool) (deep : Bool) (at_ : Location) (disk : Disk) : Disk :=
  { disk with
    entries := disk.entries.map fun entry =>
      match entry with
      | (place, .file id bytes executable) =>
        if place == at_ || (deep && at_.isPrefixOf place) then
          (place, .file id bytes (change executable))
        else entry
      | entry => entry }

def changeModes (name : String) (words : List String) : Act Nat := do
  let isMode (word : String) : Bool := word.front == '-' && (modeOf? word).isSome
  let modes := words.filter isMode
  let grammar : Grammar :=
    { letters := "Rvcf", long := [("recursive", 'R'), ("verbose", 'v'), ("silent", 'f')] }
  let others := words.filter fun word => !isMode word
  let some (choices, others) ← takeOptions? name grammar others | return 1
  let words := modes ++ others
  match words with
  | [] => misuse name "missing operand"
  | mode :: paths =>
    match modeOf? mode with
    | none => misuse name ("invalid mode: " ++ quoted mode)
    | some change =>
      if paths.isEmpty then return ← misuse name ("missing operand after " ++ quoted mode)
      forWords (fun path => do
        let shell ← get
        match lookup true path shell, lookup false path shell with
        | .ok (at_, _), _ =>
          set { shell with disk := changeMode change (has choices 'R') at_ shell.disk }
          return 0
        | .error _, .ok _ => refuse name ("cannot operate on dangling symlink " ++ quoted path)
        | .error error, _ => refuse name ("cannot access " ++ quoted path ++ ": " ++ reason error)) paths

end Provision.Shell.Tool
