import Provision.Cli.Run
import Provision.Disk.Image
import Provision.Shell.Launch

/-! The command line as a program. It works on a disk that holds the files which its words
and variables name, and afterwards stores what has changed on that disk. -/

namespace Provision.CommandLine

/-- Variables that can matter to a run. -/
private def variableNames : List String :=
  ["PATH", "HOME", "TMPDIR", "LC_ALL", "XDG_CONFIG_HOME", "RECIPE_CONFIG",
    "RECIPE_SOFTWARE_MIRROR", "RECIPE_LOCAL_VMHOST", "RECIPE_HTTP_TIMEOUT",
    "RECIPE_DOWNLOAD_ATTEMPTS", "RECIPE_DOWNLOAD_NOT_BEFORE"]

private def readVariable (name : String) : IO (Option (String × String)) := do
  return (← IO.getEnv name).map (name, ·)

private def readEnvironment : IO (List (String × String)) := do
  return (← variableNames.mapM readVariable).filterMap id

/-- The identity of this process. -/
private def readIdentity : IO Nat := do
  try
    let text ← IO.FS.readFile "/proc/self/stat"
    return Text.digitsValue (text.toList.takeWhile Char.isDigit)
  catch _ => return 1

/-- Put a file on the disk if there is one at the path. -/
private def loadFile (disk : Disk) (path : String) : IO Disk := do
  try return disk.withFile path (← IO.FS.readBinFile path).toList false
  catch _ => return disk

private def store (change : Location × Disk.Change) : IO Unit := do
  let path := Disk.pathOf change.1
  match change.2 with
  | .removed =>
    try IO.FS.removeFile path
    catch _ => try IO.FS.removeDir path catch _ => return ()
  | .directory => IO.FS.createDirAll path
  | .file bytes executable =>
    IO.FS.writeBinFile path (ByteArray.mk bytes.toArray)
    if executable then
      IO.setAccessRights path ⟨⟨true, true, true⟩, ⟨true, false, true⟩, ⟨true, false, true⟩⟩

private def prepare (words : List String) : IO Machine := do
  let environment ← readEnvironment
  let here := (← IO.currentDir).toString
  let home := ((environment.lookup "HOME").toList ++ (environment.lookup "TMPDIR").toList)
  let disk := (["/bin", "/tmp", here] ++ home).foldl Disk.withDirectory {}
  let disk := { disk with cwd := PathText.pieces here }.withFile "/bin/bash" [] true
  let launcher := Shell.launcher
  let machine : Machine := { disk, environment, launcher, pid := ← readIdentity }
  let settings := (environment.lookup "RECIPE_CONFIG").toList ++ [Config.userPath machine]
  let disk ← (words ++ settings).foldlM loadFile disk
  return { machine with disk }

end Provision.CommandLine

open Provision CommandLine in
def main (words : List String) : IO UInt32 := do
  let before ← prepare words
  let (code, after) := Cli.run words before
  IO.print after.out
  IO.eprint after.err
  for change in Disk.changes before.disk after.disk do store change
  return code.toUInt32
