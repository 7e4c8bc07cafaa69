import Provision.Machine.Basic
import Provision.Text.Quoted

/-! Temporary files and directories under names that nobody else uses. -/

namespace Provision.Machine

/-- The characters that names are made unique with. -/
def alphabet : List Char :=
  "ABCDEFGHIJKLMNOPQRSTUVWXYZabcdefghijklmnopqrstuvwxyz0123456789".toList

/-- Six letters and digits that stand for a number. -/
def randomPart (number : Nat) : String :=
  String.ofList ((List.range 6).map fun place =>
    alphabet[(number / Nat.pow 62 place) % 62]?.getD 'A')

def temporaryDirectory (machine : Machine) : String := (machine.env? "TMPDIR").getD "/tmp"

/-- A path in the temporary directory. -/
def temporaryPath (machine : Machine) (leaf : String) : String :=
  PathText.join (PathText.join (Disk.pathOf machine.disk.cwd) machine.temporaryDirectory) leaf

/-- Try fresh names until one is free; no more than `tries` can be taken. -/
def enterFresh (make : Disk → String → Except IoError Disk) (front back : String) :
    (tries : Nat) → Work String
  | 0 => throw [IoError.alreadyExists.message]
  | tries + 1 => do
    let machine ← get
    let path := machine.temporaryPath (front ++ randomPart machine.names ++ back)
    set { machine with names := machine.names + 1 }
    match make machine.disk path with
    | .ok disk =>
      modify fun machine => { machine with disk }
      return path
    | .error .alreadyExists => enterFresh make front back tries
    | .error error => throw [error.message ++ " at path " ++ Text.quoted path]

/-- The same, with more tries than there are entries. -/
def enter (make : Disk → String → Except IoError Disk) (front back : String) :
    Work String := do
  enterFresh make front back ((← get).disk.entries.length + 1)

/-- A new empty file in the temporary directory. -/
def temporaryFile (front back : String) : Work String :=
  enter (fun disk path => disk.createNew path) front back

/-- A new empty directory in the temporary directory. -/
def temporaryDir (front : String) : Work String :=
  enter (fun disk path => disk.mkdir path) front ""

/-- A temporary file that is meant to stay. -/
def persistentFile (back : String) : Work String :=
  within "cannot create temporary file" (temporaryFile "recipe-" back)

/-- A temporary directory that is meant to stay. -/
def persistentDir (front : String) : Work String :=
  within "cannot create temporary directory" (temporaryDir front)

/-- Delete what may be there and ignore any trouble with that. -/
def discard (path : String) : Work Unit :=
  tryCatch (onDisk (Disk.delete path)) fun _ => pure ()

end Provision.Machine
