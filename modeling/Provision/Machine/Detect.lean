import Provision.Config.Basic
import Provision.Machine.Process

/-! Finding out on which machine a run takes place. -/

namespace Provision.Machine

/-- What the file of the distribution's name says. -/
def familyOfRelease (release : String) : Family :=
  let line := (release.toList.splitOn '\n').findSome? fun line =>
    if "ID=".toList.isPrefixOf line then some (line.drop 3) else none
  match line.map fun name => Text.asciiLower (String.ofList (Text.trimBoth (· == '"') name)) with
  | some "ubuntu" => .ubuntu
  | some "debian" => .debian
  | some "fedora" => .fedora
  | _ => .linux

private def textOr (default : String) (path : String) (machine : Machine) : String :=
  (machine.disk.readText path).toOption.getD default

def detectFamily (machine : Machine) : Family :=
  familyOfRelease (textOr "" "/etc/os-release" machine)

/-- The identity that the machine keeps of itself, or else a new one. -/
def detectId (machine : Machine) : Uuid × Machine :=
  match Uuid.parse? (Text.trim (textOr "" "/etc/machine-id" machine)) with
  | some id => (id, machine)
  | none => (⟨BitVec.ofNat 128 (0x40008000000000000000 + machine.names)⟩,
      { machine with names := machine.names + 1 })

/-- The command that prints the version of the operating system. -/
def versionCommand : Family → List String
  | .win => ["cmd", "/C", "ver"]
  | .mac => ["sw_vers", "-productVersion"]
  | _ => ["uname", "-r"]

/-- The version of the operating system, empty if nobody tells. -/
def detectVersion (family : Family) (machine : Machine) : String × Machine :=
  match runCommand (versionCommand family) none machine with
  | (.ok out, machine) => (Text.trim out, machine)
  | (.error _, machine) => ("", machine)

/-- The facts of this machine, except for those that the settings give. -/
def detect (config : Config) (machine : Machine) : Facts × Machine :=
  let family := config.family.getD (detectFamily machine)
  let (id, machine) := match config.machineId with
    | some id => (id, machine)
    | none => detectId machine
  let (version, machine) := detectVersion family machine
  ({ family, arch := config.arch.getD .x86_64, version, id, here := true }, machine)

end Provision.Machine
