import Provision.Handlers.Basic
import Provision.Software

/-! MOVE_FF: put a file into a fresh Firefox profile. The profile is made by Firefox
itself and then declared in its ini files through inserted steps. -/

namespace Provision.Handlers

/-- Where Firefox and its profiles live on a family, and how lines end there. -/
structure ProfileLayout where
  program : String
  profiles : String
  newline : String

def profileLayout? : Family → Option ProfileLayout
  | .win => some {
      program := "\x7b\x7bPROGRAM_FILES_X86\x7d\x7dMozilla Firefox\\firefox.exe"
      profiles := "C:\\Users\\testbirds\\AppData\\Roaming\\Mozilla\\Firefox\\"
      newline := "\r\n" }
  | .mac => some {
      program := "/Applications/Firefox.app/Contents/MacOS/firefox"
      profiles := "/Users/testbirds/Library/Application Support/Firefox/"
      newline := "\n" }
  | _ => none

/-- The key under which an installation in the usual place is known. -/
def installationKey? : Family → Arch → Option String
  | .win, .x86 => some "E7CF176E110C211B"
  | .win, _ => some "308046B0AF4A39CB"
  | .mac, _ => some "2656FF1E876E9973"
  | _, _ => none

/-- From major version 67 on, profiles are tied to installations. -/
def installation? (family : Family) (version : Option String) (arch : Option Arch) :
    Option String := do
  let version ← version
  let arch ← arch
  if Version.major version < 67 then none else installationKey? family arch

/-- The directory of the profile below the directory of all profiles. -/
def profileDir : String :=
  "Profiles\x7b\x7bDELIMITER\x7d\x7dtestbirds.default\x7b\x7bDELIMITER\x7d\x7d"

/-- The window's size and place. -/
def windowState : String :=
  "\x7b\"chrome://browser/content/browser.xul\":\x7b\"main-window\":\x7b\"screenX\":\"4\"," ++
  "\"screenY\":\"4\",\"width\":\"1296\",\"height\":\"812\",\"sizemode\":\"maximized\"\x7d\x7d\x7d"

def profilesIni (newline : String) : String :=
  String.intercalate newline ["[General]", "StartWithLastProfile=1", "", "[Profile0]",
    "Name=default", "IsRelative=1", "Path=Profiles/testbirds.default", "Default=1", ""]

def installsIni (newline key : String) : String :=
  "[" ++ key ++ "]" ++ newline ++ "Default=Profiles/testbirds.default" ++ newline ++
    "Locked=1" ++ newline

/-- Write a text to a file and move that file into place. -/
def placeText (text target : String) : List Step :=
  [⟨.toFile, text⟩, ⟨.move, target⟩, .pop, .pop]

/-- Steps that make the profile and move what is on top of the stack into it. -/
def profileSteps (layout : ProfileLayout) (fileName : String) (installation : Option String)
    (maximized : Bool) : List Step :=
  Step.close <|
    [⟨.command, "\"" ++ layout.program ++ "\" -CreateProfile \"testbirds " ++ layout.profiles ++
        "Profiles\x7b\x7bDELIMITER\x7d\x7dtestbirds.default\""⟩, .pop] ++
    placeText (profilesIni layout.newline) (layout.profiles ++ "profiles.ini") ++
    [⟨.move, layout.profiles ++ profileDir ++ fileName⟩, .pop] ++
    (match installation with
    | some key => placeText (installsIni layout.newline key) (layout.profiles ++ "installs.ini")
    | none => []) ++
    (if maximized then
      placeText windowState (layout.profiles ++ profileDir ++ "xulstore.json")
    else [])

def moveFf : Handler Machine := fun task =>
  let family := task.facts.family
  match profileLayout? family with
  | none =>
    .failed (.say ("putting files into the firefox profile not implemented on " ++ family.keyword))
  | some layout =>
    let installation := installation? family task.software.version task.software.arch
    let steps := profileSteps layout task.parameter installation (family == .win)
    (Handling.insertAll steps).bind fun _ => .done (.ofValue layout.profiles)

end Provision.Handlers
