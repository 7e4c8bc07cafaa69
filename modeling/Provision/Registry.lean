import Provision.Config.Basic
import Provision.Handlers.Commands
import Provision.Handlers.Files
import Provision.Handlers.Profile
import Provision.Handlers.Transfers

/-! Which handler performs which operation. -/

namespace Provision

/-- Handlers by operation; the last one registered for an operation counts. -/
structure Registry (σ : Type) where
  entries : List (Operation × Handler σ) := []

namespace Registry

variable {σ : Type}

def register (registry : Registry σ) (operation : Operation) (handler : Handler σ) : Registry σ :=
  ⟨(operation, handler) :: registry.entries⟩

def get? (registry : Registry σ) (operation : Operation) : Option (Handler σ) :=
  (registry.entries.find? fun entry => entry.1 == operation).map Prod.snd

def contains (registry : Registry σ) (operation : Operation) : Bool :=
  (registry.get? operation).isSome

/-- Operations that have a handler, in the order of listings. -/
def operations (registry : Registry σ) : List Operation :=
  Operation.all.filter registry.contains

def render (registry : Registry σ) : String :=
  "HandlerRegistry \x7b operations: [" ++
    String.intercalate ", " (registry.operations.map Operation.title) ++ "] \x7d"

theorem get?_register (registry : Registry σ) (operation : Operation) (handler : Handler σ) :
    (registry.register operation handler).get? operation = some handler := by
  simp [register, get?]

/-- The built-in handler of an operation. What concerns other kinds of devices, and what
restarts or waits for a machine, is left to others. -/
def builtin? (config : Config) (quiet : Bool) (operation : Operation) : Option (Handler Machine) :=
  match operation with
  | .set => some Handlers.set
  | .equals => some Handlers.equals
  | .rebootNow => some Handlers.rebootNow
  | .command => some Handlers.command
  | .async => some Handlers.async
  | .pkg => some Handlers.pkg
  | .installCert => some Handlers.installCert
  | .download =>
    some (Handlers.download { mirror := config.mirror, attempts := config.attempts, quiet })
  | .upload => some (Handlers.upload config.mirror)
  | .move => some Handlers.move
  | .copy => some Handlers.copy
  | .toFile => some Handlers.toFile
  | .fromFile => some Handlers.fromFile
  | .unzip => some Handlers.unzip
  | .dmg => some Handlers.dmg
  | .dmgEula => some Handlers.dmgEula
  | .moveFf => some Handlers.moveFf
  | _ => none

/-- Every built-in handler. The time before which nothing is downloaded has to be one
that the clock can tell. -/
def standard (config : Config) (quiet : Bool := false) :
    Except ClockOverflow (Registry Machine) :=
  config.startTime.map fun _ =>
    ⟨Operation.all.filterMap fun operation =>
      (builtin? config quiet operation).map fun handler => (operation, handler)⟩

end Registry

end Provision
