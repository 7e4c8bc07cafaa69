import Provision.Config.Basic
import Provision.Recipe.File
import Provision.Text.Quoted
import Provision.Toml.Value

/-! Settings come in layers: defaults, files, and variables of the environment. A layer
gives any part of the settings, and what a later one gives counts. -/

namespace Provision.Config

structure Layer where
  software : Option String := none
  vmhost : Option String := none
  attempts : Option Nat := none
  timeout : Option Nat := none
  notBefore : Option Nat := none
  machineId : Option Uuid := none
  family : Option Family := none
  arch : Option Arch := none
  deriving DecidableEq, Repr

namespace Layer

/-- Lay one layer over another. -/
def atop (upper lower : Layer) : Layer where
  software := upper.software <|> lower.software
  vmhost := upper.vmhost <|> lower.vmhost
  attempts := upper.attempts <|> lower.attempts
  timeout := upper.timeout <|> lower.timeout
  notBefore := upper.notBefore <|> lower.notBefore
  machineId := upper.machineId <|> lower.machineId
  family := upper.family <|> lower.family
  arch := upper.arch <|> lower.arch

/-- The settings that result when nothing else is given. -/
def apply (layer : Layer) (config : Config) : Config :=
  Config.normalized {
    mirror := ⟨layer.software.getD config.mirror.software, layer.vmhost.getD config.mirror.vmhost⟩
    attempts := layer.attempts.getD config.attempts
    timeout := layer.timeout.getD config.timeout
    notBefore := layer.notBefore <|> config.notBefore
    machineId := layer.machineId <|> config.machineId
    family := layer.family <|> config.family
    arch := layer.arch <|> config.arch }

def keys : List String :=
  ["software_mirror", "local_vmhost", "download_attempts", "http_timeout_secs",
    "download_not_before", "machine_id", "os_family", "arch"]

/-- The layer that a document describes; it may hold nothing else. -/
def ofToml? (members : Toml.Members) : Option Layer := do
  if !members.all (fun member => keys.contains member.1) then none
  let given := fun {α : Type} (key : String) (read : Toml → Option α) =>
    Toml.optional? read (members.get? key)
  let software ← given "software_mirror" Toml.text?
  let vmhost ← given "local_vmhost" Toml.text?
  let attempts ← given "download_attempts" (Toml.natBelow? 0x100000000)
  let timeout ← given "http_timeout_secs" (Toml.natBelow? 0x10000000000000000)
  let notBefore ← given "download_not_before" (Toml.natBelow? 0x10000000000000000)
  let machineId ← given "machine_id" Toml.uuid?
  let family ← given "os_family" fun value => (Toml.word? value).bind Family.ofKeyword?
  let arch ← given "arch" fun value => (Toml.word? value).bind Arch.ofKeyword?
  return { software, vmhost, attempts, timeout, notBefore, machineId, family, arch }

/-- A number given by a variable; blanks around it do not count. -/
def number (env : String → Option String) (bound : Nat) (key : String) :
    Except (List String) (Option Nat) :=
  match env key with
  | none => .ok none
  | some raw =>
    match Text.readNatBelow bound (Text.trim raw) with
    | .ok value => .ok (some value)
    | .error error => .error ["invalid " ++ key ++ "=" ++ Text.quoted raw ++ ": " ++ error.message]

/-- The layer that the environment's variables give. -/
def ofVariables (env : String → Option String) : Except (List String) Layer := do
  let attempts ← number env 0x100000000 "RECIPE_DOWNLOAD_ATTEMPTS"
  let timeout ← number env 0x10000000000000000 "RECIPE_HTTP_TIMEOUT"
  let notBefore ← number env 0x10000000000000000 "RECIPE_DOWNLOAD_NOT_BEFORE"
  return { software := env "RECIPE_SOFTWARE_MIRROR", vmhost := env "RECIPE_LOCAL_VMHOST"
           attempts, timeout, notBefore }

end Layer

end Provision.Config

/-! Finding and loading the settings of a machine. -/

namespace Provision.Config

/-- The layer that a file's text describes. -/
def parse (path text : String) : Except (List String) Layer :=
  match (Toml.parse? text).bind Layer.ofToml? with
  | some layer => .ok layer
  | none => .error ["Invalid TOML in " ++ path, Recipe.tomlDefect]

/-- The layer in a file. -/
def readLayer (path : String) : Machine.Work Layer := do
  let text ← Machine.onDisk (Disk.inquire ("Failed to read " ++ path) fun disk => disk.readText path)
  ExceptT.mk (pure (parse path text))

/-- Files one over the other, the first lowest. -/
def readLayers (below : Layer) : List String → Machine.Work Layer
  | [] => return below
  | path :: rest => do
    let layer ← readLayer path
    readLayers (layer.atop below) rest

/-- The settings that files and then variables give. Every file is read before the first
variable. -/
def loadFrom (files : List String) (env : String → Option String) : Machine.Work Config := do
  let layer ← readLayers {} files
  let upper ← ExceptT.mk (pure (Layer.ofVariables env))
  return (upper.atop layer).apply {}

/-- Where the user keeps settings: in the directory a variable names, blanks around its
value not counting, or else below the home directory. -/
def userPath (machine : Machine) : String :=
  let home := PathText.join machine.home ".config"
  let dir := match machine.env? "XDG_CONFIG_HOME" with
    | some raw => if (Text.trim raw).isEmpty then home else Text.trim raw
    | none => home
  PathText.join (PathText.join dir "recipe") "config.toml"

/-- The user's settings if there are any, then those of a file given by name, then those of
the environment. -/
def load (explicit : Option String) : Machine.Work Config := do
  let machine ← get
  let user := [userPath machine].filter machine.disk.contains
  loadFrom (user ++ explicit.toList) machine.env?

end Provision.Config
