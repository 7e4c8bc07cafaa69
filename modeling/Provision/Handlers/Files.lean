import Provision.Archive.Extract
import Provision.Handlers.Basic

/-! Operations that move data between files and the stack. -/

namespace Provision.Handlers

/-- Carry what the parent's result names to the parameter path. -/
def carry (context : String) (transfer : String → String → Disk.Work String) :
    Handler Machine := fun task =>
  Handling.topValue.bind fun source =>
    (onMachine do
      let place ← Machine.within context (Machine.onDisk (transfer source task.parameter))
      settle place).bind fun path => .done (.ofValue path)

def move : Handler Machine := carry "problem while moving files" Disk.move

def copy : Handler Machine := carry "problem while copying recursive" Disk.copy

/-- TO_FILE writes the parameter to a temporary file that can be executed. -/
def toFile : Handler Machine := fun task =>
  (onMachine do
    let path ← Machine.within "can't create tmp file" (Machine.temporaryFile "recipe-w" "")
    Machine.orElseUndo
      (Machine.onDisk (Disk.attempt "can't write string to file" fun disk =>
        disk.write path (Text.encode task.parameter)))
      (Machine.discard path)
    Machine.onDisk (Disk.makeExecutable path)
    settle path).bind fun path => .done (ownedPath path)

/-- FROM_FILE leaves the text of a file behind. -/
def fromFile : Handler Machine := fun task =>
  (onMachine (Machine.onDisk (Disk.inquire ("can't read " ++ task.parameter) fun disk =>
    disk.readText task.parameter))).bind fun text => .done (.ofValue text)

end Provision.Handlers

/-! Operations that unpack archives or mount disk images. -/

namespace Provision.Handlers

/-- UNZIP unpacks an archive into a directory of its own, of which nothing stays when that
fails. -/
def unzip : Handler Machine := fun task =>
  (onMachine do
    let dir ← Machine.persistentDir "recipe-zip"
    let _ ← Machine.orElseUndo
      (Machine.within "exception while unzipping"
        (Machine.onDisk (Archive.extract task.parameter dir)))
      (Machine.discard dir)
    settle dir).bind fun path => .done (ownedPath path)

/-- Mount points are numbered, also across attempts that fail. -/
def nextMountPoint : Machine.Work String := do
  let machine ← get
  MonadStateOf.set { machine with mounts := machine.mounts + 1 }
  return "/Volumes/techmount" ++ toString machine.mounts

/-- DMG mounts a disk image at a mount point of its own. -/
def dmg : Handler Machine := fun task =>
  (onMachine do
    let place ← nextMountPoint
    let _ ← Machine.within "can't mount the dmg"
      (Machine.runCommand ["hdiutil", "attach", task.parameter, "-mountpoint", place,
        "-nobrowse", "-quiet"] none)
    return place).bind fun place =>
    .done ((Frame.ofValue place).withCleanup ⟨.unmount, place⟩)

/-- DMG_EULA converts an image that asks for consent into one that does not. The result
always has the same name. -/
def dmgEula : Handler Machine := fun task =>
  (onMachine do
    let image := PathText.join (← get).temporaryDirectory "tech.cdr"
    let _ ← Machine.within "error while converting dmg file"
      (Machine.runCommand ["hdiutil", "convert", task.parameter, "-format", "UDTO", "-o", image] none)
    return image).bind fun image => .done (ownedPath image)

end Provision.Handlers
