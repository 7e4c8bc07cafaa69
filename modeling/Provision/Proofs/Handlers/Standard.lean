import Provision.Proofs.Engine.Scoping
import Provision.Registry

/-! Runs with the built-in handlers, whatever the recipe, the machine and the constants. -/

namespace Provision

/-- The handlers are the built-in ones, obligations are discharged on the machine, and of a step that
was carried out something may be printed. -/
structure Runtime.Standard (config : Config) (quiet : Bool) (runtime : Runtime Machine) : Prop where
  registered : ∃ registry, Registry.standard config quiet = .ok registry ∧
    runtime.handlers = registry.get?
  clean : runtime.clean = Handlers.clean
  announce : ∀ step frame machine, ∃ out err,
    runtime.announce step frame machine = { machine with out, err }

theorem Registry.get?_standard {config : Config} {quiet : Bool} {registry : Registry Machine}
    (standard : standard config quiet = .ok registry) (operation : Operation) :
    registry.get? operation = builtin? config quiet operation := by
  unfold Registry.standard at standard
  cases begins : config.startTime with
  | error overflow => rw [begins] at standard; cases standard
  | ok _ =>
    rw [begins] at standard
    cases standard
    cases operation <;> rfl

theorem Runtime.Standard.handlers_eq {config : Config} {quiet : Bool} {runtime : Runtime Machine}
    (standard : runtime.Standard config quiet) (operation : Operation) :
    runtime.handlers operation = Registry.builtin? config quiet operation := by
  obtain ⟨registry, registered, handlers⟩ := standard.registered
  rw [handlers, Registry.get?_standard registered]

namespace Runtime

/-- The built-in handlers under default settings. -/
def defaults : Registry Machine := (Registry.standard {} true).toOption.getD {}

/-- A run on a Mac, without announcements. -/
def onMac : Runtime Machine where
  handlers := defaults.get?
  constants := Constants.ofMachine { family := .mac, arch := .x86_64, id := ⟨0⟩ } {}
  facts := { family := .mac, arch := .x86_64, id := ⟨0⟩ }
  clean := Handlers.clean
  announce _ _ machine := machine

theorem standard_onMac : onMac.Standard {} true where
  registered := ⟨defaults, rfl, rfl⟩
  clean := rfl
  announce _ _ machine := ⟨machine.out, machine.err, rfl⟩

/-- A machine on which every program succeeds. -/
def obedient : Machine where
  disk := {}
  launcher _ disk := (.ok { status := .code 0, out := [], err := [], taken := 0 }, disk)

end Runtime

end Provision
