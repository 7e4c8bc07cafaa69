import Provision.Disk.Calls

/-! Work on files and directory trees made of several requests. An error is a list of
causes, and what was done before it stays done. -/

namespace Provision.Disk

abbrev Work (α : Type) := ExceptT (List String) (StateM Disk) α

/-- Make one request, with a text that says what it was for. -/
def attempt (context : String) (request : Disk → Except IoError Disk) : Work Unit := do
  match request (← get) with
  | .ok disk => set disk
  | .error error => throw [context, error.message]

/-- Ask for something without changing anything. -/
def inquire {α : Type} (context : String) (question : Disk → Except IoError α) : Work α := do
  match question (← get) with
  | .ok answer => return answer
  | .error error => throw [context, error.message]

/-- Make a directory and those above it; `depth` bounds how many those are. What was made
before something is in the way stays. -/
def mkdirsFrom (depth : Nat) (disk : Disk) (path : String) : Except IoError Unit × Disk :=
  if path.isEmpty then (.ok (), disk)
  else
    match disk.mkdir path with
    | .ok disk => (.ok (), disk)
    | .error error =>
      if error != .notFound then (if disk.isDir path then .ok () else .error error, disk)
      else
        match depth, PathText.parent? path with
        | depth + 1, some parent =>
          match mkdirsFrom depth disk parent with
          | (.error error, disk) => (.error error, disk)
          | (.ok (), disk) =>
            match disk.mkdir path with
            | .ok disk => (.ok (), disk)
            | .error error => (if disk.isDir path then .ok () else .error error, disk)
        | _, _ => (.error error, disk)

/-- Make a directory and every directory above it that is missing. Nothing is wrong
with one that is there already. -/
def mkdirs (disk : Disk) (path : String) : Except IoError Unit × Disk :=
  mkdirsFrom path.length disk path

def makeDirs (path : String) : Work Unit := do
  let (outcome, disk) := (← get).mkdirs path
  set disk
  match outcome with
  | .ok () => pure ()
  | .error error => throw ["cannot create directory " ++ path, error.message]

/-- Make the directory in which a path would be entered. -/
def ensureParent (path : String) : Work Unit := do
  match PathText.parent? path with
  | some parent =>
    if !parent.isEmpty && !(← get).contains parent then makeDirs parent
  | none => pure ()

def canonicalPath (path : String) : Work String :=
  inquire ("can't get the canonical path of " ++ path) fun disk => disk.canonical path

/-- Where something that is moved or copied ends up: a file given a directory goes into
it under its own name, a directory takes exactly the place it is given. -/
def landing (disk : Disk) (source target : String) : String :=
  match PathText.fileName? source with
  | some name =>
    if disk.isDir target && !disk.isDir source then PathText.join target name else target
  | none => target

/-- Remove a directory with everything in it. -/
def removeTree (disk : Disk) (path : String) : Except IoError Disk × Disk :=
  match disk.lookup false path with
  | .error error => (.error error, disk)
  | .ok (at_, _) =>
    let emptied := { disk with
      entries := disk.entries.filter fun entry => !(at_.isPrefixOf entry.1 && entry.1 != at_) }
    match emptied.rmdir path with
    | .ok disk => (.ok disk, disk)
    | .error error => (.error error, emptied)

/-- Delete a file or a directory tree. Nothing is wrong if there is none. -/
def delete (path : String) : Work Unit := do
  match (← get).lookup false path with
  | .error .notFound => pure ()
  | .error error => throw ["cannot stat " ++ path, error.message]
  | .ok (_, .dir) =>
    let (outcome, disk) := (← get).removeTree path
    set disk
    match outcome with
    | .ok _ => pure ()
    | .error error => throw ["cannot delete " ++ path, error.message]
  | .ok _ => attempt ("cannot delete " ++ path) fun disk => disk.unlink path

def copyOne (source target : String) : Work Unit :=
  attempt ("copy failed: " ++ source ++ " -> " ++ target) fun disk => disk.copyFile source target

/-- Copy what is at a place inside a tree: a directory is made and then its entries
are copied, anything else is copied as a file. -/
def copyEntry : (depth : Nat) → (source : String) → (at_ : Location) → (target : String) → Work Unit
  | 0, source, _, target => copyOne source target
  | depth + 1, source, at_, target => do
    if (← get).isDirAt at_ then
      makeDirs target
      for name in (← get).children at_ do
        copyEntry depth (PathText.join source name) (at_ ++ [name]) (PathText.join target name)
    else copyOne source target

/-- Copy a file or a directory tree and say where the copy is. The directory itself is
entered with an empty relative path, and if it is only a link to one it is
refused like any other thing that is no file. -/
def copy (source target : String) : Work String := do
  let place := (← get).landing source target
  ensureParent place
  if (← get).isDir source then
    let at_ ← inquire ("cannot walk " ++ source) fun disk => disk.locate false source
    copyEntry maxPath source at_ (PathText.join place "")
  else copyOne source place
  return place

/-- Move a file or a directory tree and say where it is now. What cannot simply be
renamed, as from one file system to another, is copied and then deleted. -/
def moveBy (rename : Disk → String → String → Except IoError Disk) (source target : String) :
    Work String := do
  if !(← get).contains source then throw ["cannot move " ++ source ++ ": no such file or directory"]
  let place := (← get).landing source target
  ensureParent place
  match rename (← get) source place with
  | .ok disk => set disk
  | .error _ =>
    let _ ← copy source place
    delete source
  return place

/-- All of a disk is one file system. -/
def move (source target : String) : Work String := moveBy rename source target

def makeExecutable (path : String) : Work Unit :=
  attempt ("chmod failed for " ++ path) fun disk => disk.setExecutable path true

end Provision.Disk
