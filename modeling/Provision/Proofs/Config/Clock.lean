import Provision.Proofs.Config.Precedence
import Provision.Proofs.Toml.Range

/-! Which settings ask for a time that the clock cannot tell. A number in a file is one of a signed
word, and so is every second of the clock; a variable may hold any number of an unsigned word. -/

namespace Provision

namespace Config

/-- A variable holds back all downloads until after the last second that the clock can tell. -/
def Untold (env : String → Option String) : Prop :=
  ∃ raw value, env "RECIPE_DOWNLOAD_NOT_BEFORE" = some raw ∧
    Text.readNatBelow 0x10000000000000000 (Text.trim raw) = .ok value ∧ lastSecond < value

section Layers

variable {layer : Layer} {seconds : Nat}

theorem le_lastSecond_of_fits {value : Toml} {bound : Nat} (fits : value.Fits)
    (read : value.natBelow? bound = some seconds) : seconds ≤ lastSecond := by
  cases fits with
  | @integer number range =>
    rw [Toml.natBelow?] at read
    split at read
    · cases read
      rw [lastSecond]
      omega
    · cases read
  | string | float | bool | datetime | array | table | tables => cases read

theorem ofToml?_notBefore {members : Toml.Members} (fit : members.Fit)
    (holds : Layer.ofToml? members = some layer) (given : layer.notBefore = some seconds) :
    seconds ≤ lastSecond := by
  unfold Layer.ofToml? at holds
  dsimp only at holds
  split at holds
  · cases holds
  obtain ⟨software, -, holds⟩ := Option.bind_eq_some_iff.mp holds
  obtain ⟨vmhost, -, holds⟩ := Option.bind_eq_some_iff.mp holds
  obtain ⟨attempts, -, holds⟩ := Option.bind_eq_some_iff.mp holds
  obtain ⟨timeout, -, holds⟩ := Option.bind_eq_some_iff.mp holds
  obtain ⟨notBefore, number, holds⟩ := Option.bind_eq_some_iff.mp holds
  obtain ⟨machineId, -, holds⟩ := Option.bind_eq_some_iff.mp holds
  obtain ⟨family, -, holds⟩ := Option.bind_eq_some_iff.mp holds
  obtain ⟨arch, -, holds⟩ := Option.bind_eq_some_iff.mp holds
  cases holds
  rw [show notBefore = some seconds from given] at number
  cases found : members.get? "download_not_before" with
  | none =>
    rw [found] at number
    cases number
  | some value =>
    rw [found] at number
    obtain ⟨read, fits, same⟩ := Option.map_eq_some_iff.mp number
    cases same
    exact le_lastSecond_of_fits (fit.get? found) fits

/-- No file asks for such a time. -/
theorem Reading.notBefore {disk : Disk} {path : String} (reading : Reading disk path (.ok layer))
    (given : layer.notBefore = some seconds) : seconds ≤ lastSecond := by
  cases reading with
  | layer reads holds =>
    obtain ⟨members, parsed, holds⟩ := Option.bind_eq_some_iff.mp holds
    exact ofToml?_notBefore (Toml.fit_parse parsed) holds given

theorem Give.notBefore {disk : Disk} {files : List String} {layers : List Layer}
    (give : Give disk files layers) (within : layer ∈ layers)
    (given : layer.notBefore = some seconds) : seconds ≤ lastSecond := by
  induction give with
  | nil => cases within
  | cons reading rest ih =>
    rcases List.mem_cons.mp within with rfl | within
    · exact reading.notBefore given
    · exact ih within

end Layers

section Loading

variable {files : List String} {env : String → Option String} {config : Config}
  {machine after : Machine}

theorem startTime_of_told (told : ∀ seconds, config.notBefore = some seconds → seconds ≤ lastSecond) :
    config.startTime = .ok config.notBefore := by
  rw [startTime]
  cases begins : config.notBefore with
  | none => rfl
  | some seconds => exact if_pos (told seconds begins)

theorem startTime_of_beyond {seconds : Nat} (begins : config.notBefore = some seconds)
    (beyond : lastSecond < seconds) : config.startTime = .error .clockOverflow := by
  rw [startTime, begins]
  exact if_neg (Nat.not_le.mpr beyond)

/-- A start that the clock cannot tell comes from the variable. -/
theorem Loaded.startTime {disk : Disk} (loaded : Loaded disk env files [] (.ok config)) :
    (Untold env → config.startTime = .error .clockOverflow) ∧
      (¬ Untold env → config.startTime = .ok config.notBefore) := by
  cases loaded with
  | @settings layers upper _ give named prevails =>
    have begins := prevails.notBefore
    rw [List.nil_append, List.findSome?_cons] at begins
    cases named with
    | layer first second third =>
      cases third with
      | unset missing =>
        -- nothing but a file can have given the time then
        constructor
        · rintro ⟨raw, value, given, -⟩
          rw [missing] at given
          cases given
        · intro _
          refine startTime_of_told fun seconds given => ?_
          obtain ⟨layer, within, found⟩ := List.exists_of_findSome?_eq_some (begins.symm.trans given)
          exact give.notBefore (List.mem_reverse.mp within) found
      | @number raw value given parses =>
        constructor
        · rintro ⟨_, _, again, parsed, beyond⟩
          rw [given] at again
          cases again
          rw [parses] at parsed
          cases parsed
          exact startTime_of_beyond begins beyond
        · intro told
          refine startTime_of_told fun seconds same => ?_
          rw [begins] at same
          cases same
          exact Nat.not_lt.mp fun beyond => told ⟨raw, value, given, parses, beyond⟩

end Loading

end Config

namespace Cli

open Config

variable {files : List String} {env : String → Option String} {config : Config}
  {machine after : Machine}

/-- What building a runtime comes to: the machine is asked about itself before the handlers are built. -/
theorem runtime_eq (config : Config) (quiet : Bool) (announce : Step → Frame → Machine → Machine)
    (machine : Machine) :
    runtime config quiet announce machine =
      match Registry.standard config quiet with
      | .error overflow => (.error (.crashed overflow.message), (Machine.detect config machine).2)
      | .ok registry =>
        (.ok { handlers := registry.get?
               constants := Constants.ofMachine (Machine.detect config machine).1 config.mirror
               facts := (Machine.detect config machine).1
               clean := Handlers.clean
               announce }, (Machine.detect config machine).2) := by
  unfold runtime
  cases Registry.standard config quiet <;> rfl

/-- Settings that have been accepted can be the end of the program all the same, and the number in one
variable decides it: when it is past the last second that the clock can tell, then there is no start
time, there are no built-in handlers, and there is nothing to run recipes with. Otherwise there are all
of these, whatever the files say. -/
theorem overflows_of_loaded (loaded : loadFrom files env machine = (.ok config, after)) :
    (Untold env → config.startTime = .error .clockOverflow ∧
      (∀ quiet, Registry.standard config quiet = .error .clockOverflow) ∧
      ∀ quiet announce world, ∃ ended, runtime config quiet announce world =
        (.error (.crashed ClockOverflow.clockOverflow.message), ended)) ∧
    (¬ Untold env → config.startTime = .ok config.notBefore ∧
      (∀ quiet, ∃ registry, Registry.standard config quiet = .ok registry) ∧
      ∀ quiet announce world, ∃ built ended, runtime config quiet announce world = (.ok built, ended)) := by
  obtain ⟨-, sound⟩ := (ran_iff (exists_loaded _ _ _ _) (fun _ => loadFrom_of_loaded) _ _).mp loaded
  obtain ⟨beyond, told⟩ := sound.startTime
  constructor
  · intro untold
    have none := beyond untold
    have handlers : ∀ quiet, Registry.standard config quiet = .error .clockOverflow := by
      intro quiet
      rw [Registry.standard, none]
      rfl
    refine ⟨none, handlers, fun quiet announce world => ⟨(Machine.detect config world).2, ?_⟩⟩
    rw [runtime_eq, handlers quiet]
  · intro known
    have begins := told known
    have handlers : ∀ quiet, ∃ registry, Registry.standard config quiet = .ok registry := by
      intro quiet
      rw [Registry.standard, begins]
      exact ⟨_, rfl⟩
    refine ⟨begins, handlers, fun quiet announce world => ?_⟩
    obtain ⟨registry, built⟩ := handlers quiet
    rw [runtime_eq, built]
    exact ⟨_, _, rfl⟩

section Seconds

/-- A machine with nothing on it. -/
def bare : Machine where
  disk := {}
  launcher := fun _ disk => (.ok ⟨.code 0, [], [], 0⟩, disk)

/-- Only the start of downloads is given. -/
def holdingBack (second key : String) : Option String :=
  if key = "RECIPE_DOWNLOAD_NOT_BEFORE" then some second else none

/-- The last second of the clock is one that can be told. -/
theorem overflows_of_loaded_last :
    loadFrom [] (holdingBack "9223372036854775807") bare = (.ok { notBefore := some lastSecond }, bare) ∧
      ¬ Untold (holdingBack "9223372036854775807") ∧
      ({ notBefore := some lastSecond } : Config).startTime = .ok (some lastSecond) := by
  have known : ¬ Untold (holdingBack "9223372036854775807") := by
    rintro ⟨_, value, ⟨⟩, parses, beyond⟩
    have same : Except.ok lastSecond = Except.ok value := parses
    cases same
    exact absurd beyond (Nat.lt_irrefl _)
  have told := @overflows_of_loaded [] (holdingBack "9223372036854775807") _ bare bare rfl
  exact ⟨rfl, known, (told.2 known).1⟩

/-- The second behind it is accepted too, and is the end of the program. -/
theorem accepted_past_lastSecond :
    loadFrom [] (holdingBack "9223372036854775808") bare =
        (.ok { notBefore := some (lastSecond + 1) }, bare) ∧
      ({ notBefore := some (lastSecond + 1) } : Config).startTime = .error .clockOverflow ∧
      Registry.standard { notBefore := some (lastSecond + 1) } = .error .clockOverflow ∧
      ∃ ended, runtime { notBefore := some (lastSecond + 1) } false (fun _ _ machine => machine) bare =
        (.error (.crashed ClockOverflow.clockOverflow.message), ended) :=
  ⟨rfl, rfl, rfl, _, rfl⟩

end Seconds

end Cli

end Provision
