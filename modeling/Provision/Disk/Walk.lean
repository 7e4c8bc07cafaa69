import Provision.Disk.PathText
import Provision.Disk.Tree

/-! Finding the location that a path names, by following symbolic links. -/

namespace Provision.Disk

/-- Longest name of an entry and longest path, in bytes. -/
def maxName : Nat := 255
def maxPath : Nat := 4095

/-- How many symbolic links one path may lead through. -/
def maxLinks : Nat := 40

/-- Follow the pieces from a directory. The last piece may be missing; it is followed
through links only if `follow` says so. Every other piece has to be a directory. -/
def walk (disk : Disk) (follow : Bool) (links : Nat) (here : Location) (pieces : List String) :
    Except IoError Location :=
  match pieces with
  | [] => .ok here
  | piece :: rest =>
    if piece == "." then walk disk follow links here rest
    else if piece == ".." then walk disk follow links here.dropLast rest
    else if maxName < piece.utf8ByteSize then .error .nameTooLong
    else
      match disk.get? (here ++ [piece]) with
      | none => if rest.isEmpty then .ok (here ++ [piece]) else .error .notFound
      | some .dir => walk disk follow links (here ++ [piece]) rest
      | some (.file ..) =>
        if rest.isEmpty then .ok (here ++ [piece]) else .error .notDirectory
      | some (.link target) =>
        if rest.isEmpty && !follow then .ok (here ++ [piece])
        else
          match links with
          | 0 => .error .linkLoop
          | links + 1 =>
            if target.isEmpty then .error .notFound
            else
              let start := if PathText.isAbsolute target then [] else here
              let tail := if target.toList.getLast? == some '/' then ["."] else []
              walk disk follow links start (PathText.pieces target ++ tail ++ rest)
termination_by (links, pieces.length)

/-- Refuse texts that are no paths at all. -/
def checkPath (path : String) : Except IoError Unit :=
  if path.toList.contains '\x00' then .error .nulInPath
  else if path.isEmpty then .error .notFound
  else if maxPath < path.utf8ByteSize then .error .nameTooLong
  else .ok ()

def startOf (disk : Disk) (path : String) : Location :=
  if PathText.isAbsolute path then [] else disk.cwd

def hasSlash (path : String) : Bool := path.toList.getLast? == some '/'

/-- Follow a path from where it starts. A slash at the end asks for a directory. -/
def traced (disk : Disk) (follow : Bool) (path : String) : Except IoError Location :=
  let tail := if hasSlash path then ["."] else []
  disk.walk follow maxLinks (disk.startOf path) (PathText.pieces path ++ tail)

/-- The location that a path names. -/
def locate (disk : Disk) (follow : Bool) (path : String) : Except IoError Location := do
  checkPath path
  traced disk follow path

/-- What a path names. -/
def lookup (disk : Disk) (follow : Bool) (path : String) : Except IoError (Location × Node) := do
  let at_ ← disk.locate follow path
  match disk.get? at_ with
  | some node => .ok (at_, node)
  | none => .error .notFound

/-- The directory and the name under which a path would be entered, its last piece not
being followed. Paths that end in dots name a directory and no entry. -/
def locateEntry (disk : Disk) (path : String) : Except IoError (Location × Option String) := do
  checkPath path
  let pieces := PathText.pieces path
  match pieces.getLast? with
  | none => .ok ([], none)
  | some last =>
    if last == "." || last == ".." then
      .ok (← disk.walk true maxLinks (disk.startOf path) pieces, none)
    else
      let parent ← disk.walk true maxLinks (disk.startOf path) (pieces.dropLast ++ ["."])
      if maxName < last.utf8ByteSize then .error .nameTooLong else .ok (parent, some last)

/-- Whether a path leads to something. -/
def contains (disk : Disk) (path : String) : Bool := (disk.lookup true path).isOk

def isDir (disk : Disk) (path : String) : Bool :=
  match disk.lookup true path with
  | .ok (_, .dir) => true
  | _ => false

/-- A location written as an absolute path. -/
def pathOf (at_ : Location) : String :=
  if at_.isEmpty then "/" else String.join (at_.map fun name => "/" ++ name)

/-- The absolute path without links that a path amounts to. The path is followed piece by
piece, so its own length does not matter. -/
def canonical (disk : Disk) (path : String) : Except IoError String := do
  if path.toList.contains '\x00' then throw .nulInPath
  if path.isEmpty then throw .notFound
  let at_ ← traced disk true path
  if (disk.get? at_).isSome then return pathOf at_ else throw .notFound

end Provision.Disk
