import Mathlib.Data.List.Forall2
import Provision.Cli.Run
import Provision.Proofs.Machine.Later

/-! Which settings are in force. Each is the one that the uppermost layer gives: the command line, the
variables, the files from the last to the first, and the defaults. A file or a variable that makes no
sense leaves no settings at all. -/

namespace Provision

namespace Config

/-- What a settings file comes to. -/
inductive Reading (disk : Disk) (path : String) : Except (List String) Layer → Prop where
  | unreadable {error : IoError} (fails : disk.readText path = .error error) :
    Reading disk path (.error ["Failed to read " ++ path, error.message])
  | invalid {text : String} (reads : disk.readText path = .ok text)
    (broken : (Toml.parse? text).bind Layer.ofToml? = none) :
    Reading disk path (.error ["Invalid TOML in " ++ path, Recipe.tomlDefect])
  | layer {text : String} {layer : Layer} (reads : disk.readText path = .ok text)
    (holds : (Toml.parse? text).bind Layer.ofToml? = some layer) : Reading disk path (.ok layer)

/-- What a variable that is to hold a number comes to. -/
inductive Numeric (env : String → Option String) (bound : Nat) (key : String) :
    Except (List String) (Option Nat) → Prop where
  | unset (missing : env key = none) : Numeric env bound key (.ok none)
  | number {raw : String} {value : Nat} (given : env key = some raw)
    (parses : Text.readNatBelow bound (Text.trim raw) = .ok value) :
    Numeric env bound key (.ok (some value))
  | garbled {raw : String} {error : Text.NumeralError} (given : env key = some raw)
    (fails : Text.readNatBelow bound (Text.trim raw) = .error error) :
    Numeric env bound key
      (.error ["invalid " ++ key ++ "=" ++ Text.quoted raw ++ ": " ++ error.message])

/-- What all variables together come to. The first number that is none is what is wrong. -/
inductive Variables (env : String → Option String) : Except (List String) Layer → Prop where
  | attempts {causes : List String}
    (bad : Numeric env 0x100000000 "RECIPE_DOWNLOAD_ATTEMPTS" (.error causes)) :
    Variables env (.error causes)
  | timeout {attempts : Option Nat} {causes : List String}
    (first : Numeric env 0x100000000 "RECIPE_DOWNLOAD_ATTEMPTS" (.ok attempts))
    (bad : Numeric env 0x10000000000000000 "RECIPE_HTTP_TIMEOUT" (.error causes)) :
    Variables env (.error causes)
  | notBefore {attempts timeout : Option Nat} {causes : List String}
    (first : Numeric env 0x100000000 "RECIPE_DOWNLOAD_ATTEMPTS" (.ok attempts))
    (second : Numeric env 0x10000000000000000 "RECIPE_HTTP_TIMEOUT" (.ok timeout))
    (bad : Numeric env 0x10000000000000000 "RECIPE_DOWNLOAD_NOT_BEFORE" (.error causes)) :
    Variables env (.error causes)
  | layer {attempts timeout notBefore : Option Nat}
    (first : Numeric env 0x100000000 "RECIPE_DOWNLOAD_ATTEMPTS" (.ok attempts))
    (second : Numeric env 0x10000000000000000 "RECIPE_HTTP_TIMEOUT" (.ok timeout))
    (third : Numeric env 0x10000000000000000 "RECIPE_DOWNLOAD_NOT_BEFORE" (.ok notBefore)) :
    Variables env (.ok { software := env "RECIPE_SOFTWARE_MIRROR", vmhost := env "RECIPE_LOCAL_VMHOST"
                         attempts, timeout, notBefore })

/-- Every setting is the one that the uppermost layer gives of those that give it, or else the
default. Two numbers are brought into their ranges. -/
structure Prevails (layers : List Layer) (config : Config) : Prop where
  software : config.mirror.software =
    (layers.findSome? Layer.software).getD "https://admin.testchameleon.com/media"
  vmhost : config.mirror.vmhost =
    (layers.findSome? Layer.vmhost).getD "http://vmhost-local.testchameleon.com"
  attempts : config.attempts = max 1 ((layers.findSome? Layer.attempts).getD 3)
  timeout : config.timeout = max 5 (min 300 ((layers.findSome? Layer.timeout).getD 30))
  notBefore : config.notBefore = layers.findSome? Layer.notBefore
  machineId : config.machineId = layers.findSome? Layer.machineId
  family : config.family = layers.findSome? Layer.family
  arch : config.arch = layers.findSome? Layer.arch

theorem Prevails.inRange {layers : List Layer} {config : Config} (prevails : Prevails layers config) :
    1 ≤ config.attempts ∧ 5 ≤ config.timeout ∧ config.timeout ≤ 300 := by
  rw [prevails.attempts, prevails.timeout]
  omega

/-- All files are in order, and give these layers. -/
def Give (disk : Disk) : List String → List Layer → Prop :=
  List.Forall₂ fun path layer => Reading disk path (.ok layer)

/-- What loading comes to: an error of the first file that has one, an error of the variables if all
files are in order, or else the settings that prevail. `above` holds what counts more than variables. -/
inductive Loaded (disk : Disk) (env : String → Option String) (files : List String)
    (above : List Layer) : Except (List String) Config → Prop where
  | file {before after : List String} {path : String} {layers : List Layer} {causes : List String}
    (place : files = before ++ path :: after)
    (earlier : Give disk before layers)
    (bad : Reading disk path (.error causes)) : Loaded disk env files above (.error causes)
  | garbled {layers : List Layer} {causes : List String}
    (read : Give disk files layers)
    (bad : Variables env (.error causes)) : Loaded disk env files above (.error causes)
  | settings {layers : List Layer} {upper : Layer} {config : Config}
    (read : Give disk files layers) (named : Variables env (.ok upper))
    (prevails : Prevails (above ++ upper :: layers.reverse) config) :
    Loaded disk env files above (.ok config)

variable {disk : Disk} {env : String → Option String} {files : List String} {above : List Layer}

theorem exists_reading (disk : Disk) (path : String) : ∃ outcome, Reading disk path outcome := by
  cases read : disk.readText path with
  | error error => exact ⟨_, .unreadable read⟩
  | ok text =>
    cases parsed : (Toml.parse? text).bind Layer.ofToml? with
    | none => exact ⟨_, .invalid read parsed⟩
    | some layer => exact ⟨_, .layer read parsed⟩

theorem exists_numeric (env : String → Option String) (bound : Nat) (key : String) :
    ∃ outcome, Numeric env bound key outcome := by
  cases given : env key with
  | none => exact ⟨_, .unset given⟩
  | some raw =>
    cases parsed : Text.readNatBelow bound (Text.trim raw) with
    | error error => exact ⟨_, .garbled given parsed⟩
    | ok value => exact ⟨_, .number given parsed⟩

theorem exists_variables (env : String → Option String) : ∃ outcome, Variables env outcome := by
  obtain ⟨causes | attempts, first⟩ := exists_numeric env 0x100000000 "RECIPE_DOWNLOAD_ATTEMPTS"
  · exact ⟨_, .attempts first⟩
  obtain ⟨causes | timeout, second⟩ := exists_numeric env 0x10000000000000000 "RECIPE_HTTP_TIMEOUT"
  · exact ⟨_, .timeout first second⟩
  obtain ⟨causes | notBefore, third⟩ :=
    exists_numeric env 0x10000000000000000 "RECIPE_DOWNLOAD_NOT_BEFORE"
  · exact ⟨_, .notBefore first second third⟩
  · exact ⟨_, .layer first second third⟩

/-- All files are in order, or there is a first one that is not. -/
theorem files_cases (disk : Disk) (files : List String) :
    (∃ layers, Give disk files layers) ∨
      ∃ before path after layers causes, files = before ++ path :: after ∧
        Give disk before layers ∧
        Reading disk path (.error causes) := by
  induction files with
  | nil => exact .inl ⟨[], .nil⟩
  | cons file rest ih =>
    obtain ⟨causes | layer, reading⟩ := exists_reading disk file
    · exact .inr ⟨[], file, rest, [], causes, rfl, .nil, reading⟩
    · rcases ih with ⟨layers, read⟩ | ⟨before, path, after, layers, causes, rfl, earlier, bad⟩
      · exact .inl ⟨layer :: layers, .cons reading read⟩
      · exact .inr ⟨file :: before, path, after, layer :: layers, causes, rfl, .cons reading earlier,
          bad⟩

/-- Lay each layer over those before it. -/
def pile (layers : List Layer) (below : Layer) : Layer :=
  layers.foldl (fun lower upper => upper.atop lower) below

section

variable {α : Type} (setting : Layer → Option α)

/-- Of layers that lie on one another the uppermost counts that gives the setting. -/
theorem setting_pile
    (each : ∀ upper lower : Layer, setting (upper.atop lower) = (setting upper <|> setting lower))
    (layers : List Layer) (below : Layer) :
    setting (pile layers below) = (layers.reverse ++ [below]).findSome? setting := by
  induction layers generalizing below with
  | nil => simp [pile]
  | cons layer rest ih =>
    have piled : pile (layer :: rest) below = pile rest (layer.atop below) := rfl
    rw [piled, ih, List.findSome?_append, List.reverse_cons, List.append_assoc,
      List.findSome?_append]
    congr 1
    simp only [List.findSome?_cons, List.findSome?_nil, List.singleton_append, each]
    cases setting layer <;> cases setting below <;> rfl

theorem setting_atop_pile
    (each : ∀ upper lower : Layer, setting (upper.atop lower) = (setting upper <|> setting lower))
    (nothing : setting {} = none) (upper : Layer) (layers : List Layer) :
    setting (upper.atop (pile layers {})) = (upper :: layers.reverse).findSome? setting := by
  rw [each, setting_pile setting each, List.findSome?_append, List.findSome?_cons]
  simp only [List.findSome?_cons, List.findSome?_nil, nothing, Option.or_none]
  cases setting upper <;> rfl

end

theorem prevails_apply (upper : Layer) (layers : List Layer) :
    Prevails (upper :: layers.reverse) ((upper.atop (pile layers {})).apply {}) where
  software := by
    rw [← setting_atop_pile Layer.software (fun _ _ => rfl) rfl]
    rfl
  vmhost := by
    rw [← setting_atop_pile Layer.vmhost (fun _ _ => rfl) rfl]
    rfl
  attempts := by
    rw [← setting_atop_pile Layer.attempts (fun _ _ => rfl) rfl]
    rfl
  timeout := by
    rw [← setting_atop_pile Layer.timeout (fun _ _ => rfl) rfl]
    rfl
  notBefore := by
    rw [← setting_atop_pile Layer.notBefore (fun _ _ => rfl) rfl]
    simp [Layer.apply, normalized]
  machineId := by
    rw [← setting_atop_pile Layer.machineId (fun _ _ => rfl) rfl]
    simp [Layer.apply, normalized]
  family := by
    rw [← setting_atop_pile Layer.family (fun _ _ => rfl) rfl]
    simp [Layer.apply, normalized]
  arch := by
    rw [← setting_atop_pile Layer.arch (fun _ _ => rfl) rfl]
    simp [Layer.apply, normalized]

open Working

variable {machine : Machine}

theorem readLayer_of_reading {path : String} {outcome : Except (List String) Layer}
    (reading : Reading machine.disk path outcome) : readLayer path machine = (outcome, machine) := by
  have asked := Machine.onDisk_eq
    (Disk.inquire ("Failed to read " ++ path) fun disk => disk.readText path) machine
  rw [Disk.inquire_eq] at asked
  cases reading with
  | unreadable fails =>
    rw [fails] at asked
    exact bind_error _ asked
  | invalid reads broken =>
    rw [reads] at asked
    rw [readLayer, bind_ok _ asked]
    simp only [parse, broken]
    rfl
  | layer reads holds =>
    rw [reads] at asked
    rw [readLayer, bind_ok _ asked]
    simp only [parse, holds]
    rfl

theorem readLayers_of_give {layers : List Layer} (give : Give machine.disk files layers)
    (below : Layer) : readLayers below files machine = (.ok (pile layers below), machine) := by
  induction give generalizing below with
  | nil => rfl
  | cons reading rest ih =>
    rw [readLayers, bind_ok _ (readLayer_of_reading reading)]
    exact ih _

theorem readLayers_of_bad {before after : List String} {path : String} {layers : List Layer}
    {causes : List String} (earlier : Give machine.disk before layers)
    (bad : Reading machine.disk path (.error causes)) (below : Layer) :
    readLayers below (before ++ path :: after) machine = (.error causes, machine) := by
  induction earlier generalizing below with
  | nil =>
    rw [List.nil_append, readLayers]
    exact bind_error _ (readLayer_of_reading bad)
  | cons reading rest ih =>
    rw [List.cons_append, readLayers, bind_ok _ (readLayer_of_reading reading)]
    exact ih _

theorem number_of_numeric {bound : Nat} {key : String} {outcome : Except (List String) (Option Nat)}
    (numeric : Numeric env bound key outcome) : Layer.number env bound key = outcome := by
  cases numeric with
  | unset missing => simp only [Layer.number, missing]
  | number given parses => simp only [Layer.number, given, parses]
  | garbled given fails => simp only [Layer.number, given, fails]

theorem ofVariables_of_variables {outcome : Except (List String) Layer}
    (named : Variables env outcome) : Layer.ofVariables env = outcome := by
  unfold Layer.ofVariables
  cases named with
  | attempts bad =>
    rw [number_of_numeric bad]
    rfl
  | timeout first bad =>
    rw [number_of_numeric first, number_of_numeric bad]
    rfl
  | notBefore first second bad =>
    rw [number_of_numeric first, number_of_numeric second, number_of_numeric bad]
    rfl
  | layer first second third =>
    rw [number_of_numeric first, number_of_numeric second, number_of_numeric third]
    rfl

/-- The layers leave no choice. -/
theorem Prevails.eq {layers : List Layer} {config other : Config} (prevails : Prevails layers config)
    (same : Prevails layers other) : config = other := by
  rcases config with ⟨⟨software, vmhost⟩, attempts, timeout, notBefore, machineId, family, arch⟩
  rcases other with ⟨⟨_, _⟩, _, _, _, _, _, _⟩
  cases prevails.software.trans same.software.symm
  cases prevails.vmhost.trans same.vmhost.symm
  cases prevails.attempts.trans same.attempts.symm
  cases prevails.timeout.trans same.timeout.symm
  cases prevails.notBefore.trans same.notBefore.symm
  cases prevails.machineId.trans same.machineId.symm
  cases prevails.family.trans same.family.symm
  cases prevails.arch.trans same.arch.symm
  rfl

theorem exists_prevails (layers : List Layer) : ∃ config, Prevails layers config :=
  ⟨{ mirror := ⟨_, _⟩, attempts := _, timeout := _, notBefore := _, machineId := _, family := _,
     arch := _ }, rfl, rfl, rfl, rfl, rfl, rfl, rfl, rfl⟩

theorem exists_loaded (disk : Disk) (env : String → Option String) (files : List String)
    (above : List Layer) : ∃ outcome, Loaded disk env files above outcome := by
  rcases files_cases disk files with
    ⟨layers, give⟩ | ⟨before, path, after, layers, causes, place, earlier, bad⟩
  · obtain ⟨causes | upper, named⟩ := exists_variables env
    · exact ⟨_, .garbled give named⟩
    · obtain ⟨config, prevails⟩ := exists_prevails (above ++ upper :: layers.reverse)
      exact ⟨_, .settings give named prevails⟩
  · exact ⟨_, .file place earlier bad⟩

theorem loadFrom_of_loaded {outcome : Except (List String) Config}
    (loaded : Loaded machine.disk env files [] outcome) :
    loadFrom files env machine = (outcome, machine) := by
  cases loaded with
  | file place earlier bad =>
    rw [place]
    exact bind_error _ (readLayers_of_bad earlier bad {})
  | garbled give bad =>
    rw [loadFrom, bind_ok _ (readLayers_of_give give {}), ofVariables_of_variables bad]
    rfl
  | settings give named prevails =>
    rw [loadFrom, bind_ok _ (readLayers_of_give give {}), ofVariables_of_variables named,
      prevails.eq (prevails_apply _ _)]
    rfl

/-- Work that does one thing is known by what comes of it. -/
theorem ran_iff {α : Type} {work : Machine.Work α} {comes : Except (List String) α → Prop}
    (total : ∃ outcome, comes outcome)
    (runs : ∀ outcome, comes outcome → work machine = (outcome, machine))
    (outcome : Except (List String) α) (after : Machine) :
    work machine = (outcome, after) ↔ after = machine ∧ comes outcome := by
  constructor
  · intro ran
    obtain ⟨other, sound⟩ := total
    cases ran.symm.trans (runs other sound)
    exact ⟨rfl, sound⟩
  · rintro ⟨rfl, sound⟩
    exact runs outcome sound

end Config

namespace Cli

open Config Working

/-- The layer of the command line. -/
def Override.layer (given : Override) : Layer where
  software := given.mirror
  machineId := given.machineId
  family := given.family
  arch := given.arch

theorem prevails_override {layers : List Layer} {config : Config} (given : Override)
    (prevails : Prevails layers config) :
    Prevails (given.layer :: layers) { config with
      mirror := { config.mirror with software := given.mirror.getD config.mirror.software }
      family := given.family <|> config.family
      arch := given.arch <|> config.arch
      machineId := given.machineId <|> config.machineId } where
  software := by
    rw [List.findSome?_cons, prevails.software]
    cases software : given.mirror <;> simp [Override.layer, software]
  vmhost := prevails.vmhost
  attempts := prevails.attempts
  timeout := prevails.timeout
  notBefore := prevails.notBefore
  machineId := by
    rw [List.findSome?_cons, prevails.machineId]
    cases machineId : given.machineId <;> simp [Override.layer, machineId]
  family := by
    rw [List.findSome?_cons, prevails.family]
    cases family : given.family <;> simp [Override.layer, family]
  arch := by
    rw [List.findSome?_cons, prevails.arch]
    cases arch : given.arch <;> simp [Override.layer, arch]

/-- The files in which settings are looked for: the user's own, if it is there, and then one that was
asked for. -/
def settingsFiles (given : Override) (machine : Machine) : List String :=
  [userPath machine].filter machine.disk.contains ++ given.config.toList

theorem settings_of_loaded {given : Override} {machine : Machine}
    {outcome : Except (List String) Config}
    (loaded : Loaded machine.disk machine.env? (settingsFiles given machine) [given.layer] outcome) :
    settings given machine = (outcome, machine) := by
  have same : load given.config machine =
      loadFrom (settingsFiles given machine) machine.env? machine := by
    rw [load, get_bind, settingsFiles]
  cases loaded with
  | file place earlier bad =>
    have failed := same.trans (loadFrom_of_loaded (.file place earlier bad))
    exact bind_error _ failed
  | garbled give bad =>
    have failed := same.trans (loadFrom_of_loaded (.garbled give bad))
    exact bind_error _ failed
  | @settings layers upper config give named prevails =>
    obtain ⟨base, lower⟩ := exists_prevails (upper :: layers.reverse)
    have went := same.trans (loadFrom_of_loaded (.settings give named lower))
    rw [settings, bind_ok _ went, prevails.eq (prevails_override given lower)]
    rfl

/-- Loading leaves the machine as it is. It fails with the first file that cannot be read or does not
hold settings, or else with the first variable that is not the number that it should be; and otherwise
each setting is the one that the uppermost layer gives, the command line first, then the variables, and
then the files from the last to the first. -/
theorem settings_prevail :
    (∀ files env machine outcome after, loadFrom files env machine = (outcome, after) ↔
      after = machine ∧ Loaded machine.disk env files [] outcome) ∧
    (∀ given machine outcome after, settings given machine = (outcome, after) ↔
      after = machine ∧
        Loaded machine.disk machine.env? (settingsFiles given machine) [given.layer] outcome) ∧
    ∀ disk env files above config, Loaded disk env files above (.ok config) →
      1 ≤ config.attempts ∧ 5 ≤ config.timeout ∧ config.timeout ≤ 300 := by
  refine ⟨fun files env machine => ?_, fun given machine => ?_, ?_⟩
  · exact ran_iff (exists_loaded _ _ _ _) fun outcome => loadFrom_of_loaded
  · exact ran_iff (exists_loaded _ _ _ _) fun outcome => settings_of_loaded
  · intro disk env files above config loaded
    cases loaded with
    | settings give named prevails => exact prevails.inRange

end Cli

end Provision
