import Provision.Cli.Run
import Provision.Proofs.Config.Clock
import Provision.Proofs.Handlers.Quiet
import Provision.Proofs.Lock.Contest
import Provision.Proofs.Text.Decoding
import Provision.Proofs.Recipe.Revision

/-! Runs of a recipe file from the command line, with a document of reports or with lines on the
terminal. -/

namespace Provision

variable {σ α β : Type}

/-- What carrying out a recipe from a world comes to, with all that happened on the way. Nothing has
happened when its parameter is refused. -/
inductive Runtime.Ran (runtime : Runtime σ) (software : Software) (world : σ) :
    Except Fault Unit → List Event → σ → Prop where
  | refused {fault : Fault} (refused : runtime.start software world = .error fault) :
    Ran runtime software world (.error fault) [] world
  | executed {session final : Session σ} {outcome : Except Fault Unit}
    (started : runtime.start software world = .ok session)
    (ran : runtime.execute software session = some (outcome, final)) :
    Ran runtime software world outcome final.history final.world

/-- The steps that were carried out, in order, each with the frame that it left on the stack. -/
def carriedOut (history : List Event) : List (Step × Frame) :=
  history.filterMap fun
    | .pushed (some step) frame => some (step, frame)
    | _ => none

theorem carriedOut_history (session : Session σ) :
    carriedOut session.history = session.pushes.filterMap fun pair => pair.1.map (·, pair.2) := by
  rw [carriedOut, Session.pushes, List.filterMap_filterMap]
  refine List.filterMap_congr fun event _ => ?_
  cases event with
  | pushed step frame => cases step <;> rfl
  | reported | popped | cleaned => rfl

theorem carriedOut_eq_reports {session : Session σ} {seed : String}
    (pushes : session.pushes =
      (none, .ofValue seed) :: session.reports.map fun pair => (some pair.1, pair.2)) :
    carriedOut session.history = session.reports := by
  rw [carriedOut_history, pushes, List.filterMap_cons_none rfl, List.filterMap_map]
  exact List.filterMap_some

theorem Runtime.Parallel.ran {related : σ → σ → Prop} {runtime runtime' : Runtime σ}
    {software : Software} {world world' : σ} (parallel : runtime.Parallel related runtime')
    (both : related world world')
    (total : ∀ session, ∃ outcome final, runtime.execute software session = some (outcome, final)) :
    ∃ outcome history after after', runtime.Ran software world outcome history after ∧
      runtime'.Ran software world' outcome history after' ∧ related after after' := by
  cases resolved : Placeholder.resolve runtime.constants [] software.parameter with
  | error fault =>
    have refused : runtime.start software world = .error fault := by
      rw [Runtime.start, resolved]
      rfl
    have refused' : runtime'.start software world' = .error fault := by
      rw [Runtime.start, parallel.constants, resolved]
      rfl
    exact ⟨_, _, _, _, .refused refused, .refused refused', both⟩
  | ok seed =>
    have started : runtime.start software world =
        .ok (Session.push ⟨software.steps, [], [], world⟩ none (.ofValue seed)) := by
      rw [Runtime.start, resolved]
      rfl
    have started' : runtime'.start software world' =
        .ok (Session.push ⟨software.steps, [], [], world'⟩ none (.ofValue seed)) := by
      rw [Runtime.start, parallel.constants, resolved]
      rfl
    have sessions : Session.Parallel related
        (Session.push ⟨software.steps, [], [], world⟩ none (.ofValue seed))
        (Session.push ⟨software.steps, [], [], world'⟩ none (.ofValue seed)) := ⟨rfl, rfl, rfl, both⟩
    have ends : Together related (runtime.execute software _) (runtime'.execute software _) :=
      parallel.execute sessions
    obtain ⟨outcome, final, ran⟩ :=
      total (Session.push ⟨software.steps, [], [], world⟩ none (.ofValue seed))
    rw [ran] at ends
    revert ends
    rcases ran' : runtime'.execute software
      (Session.push ⟨software.steps, [], [], world'⟩ none (.ofValue seed)) with _ | ⟨outcome', final'⟩
    · intro ends
      cases ends
    · intro ends
      cases ends with
      | some _ still =>
        have ended := Runtime.Ran.executed started' ran'
        rw [show final'.history = final.history by rw [Session.history, still.events]; rfl] at ended
        exact ⟨outcome, final.history, _, _, .executed started ran, ended, still.world⟩

namespace Cli

open Machine Working

theorem bind_ok {work : Work α} {before after : Machine} {value : α} (next : α → Work β)
    (went : work before = (.ok value, after)) : (work >>= next) before = next value after := by
  simp only [bind, ExceptT.bind, ExceptT.mk, StateT.bind, went]
  rfl

theorem ofMachine_ok {work : Machine.Work α} {before after : Machine} {value : α}
    (went : work before = (.ok value, after)) : ofMachine work before = (.ok value, after) := by
  simp only [ofMachine, ExceptT.adapt, ExceptT.mk, Functor.map, StateT.map, bind, went]
  rfl

theorem bind_error {work : Work α} {before after : Machine} {trouble : Trouble} (next : α → Work β)
    (failed : work before = (.error trouble, after)) : (work >>= next) before = (.error trouble, after) := by
  simp only [bind, ExceptT.bind, ExceptT.mk, StateT.bind, failed]
  rfl

theorem ofMachine_error {work : Machine.Work α} {before after : Machine} {causes : List String}
    (failed : work before = (.error causes, after)) :
    ofMachine work before = (.error (.failed causes), after) := by
  simp only [ofMachine, ExceptT.adapt, ExceptT.mk, Functor.map, StateT.map, bind, failed]
  rfl

/-- What is told of the end of a run. A run in which nothing has happened was not begun, and its failure
is not put down to the installation. -/
def verdict (software : Software) (outcome : Except Fault Unit) (history : List Event) :
    Except Trouble Unit :=
  outcome.mapError fun fault => .failed (if history.isEmpty then fault.causes
    else ("Failed to install " ++ software.label) :: fault.causes)

section Runtimes

variable {config : Config} {moment : Option Nat}

/-- With a start time that the clock can tell there is a runtime, with the built-in handlers. -/
theorem runtime_ok (quiet : Bool) (announce : Step → Frame → Machine → Machine)
    (begins : config.startTime = .ok moment)
    (spoken : ∀ step frame machine, ∃ out err, announce step frame machine = { machine with out, err })
    (machine : Machine) :
    ∃ built, runtime config quiet announce machine = (.ok built, (detect config machine).2) ∧
      built.Standard config quiet ∧ built.announce = announce ∧
      built.facts = (detect config machine).1 ∧
      built.constants = Constants.ofMachine (detect config machine).1 config.mirror := by
  obtain ⟨registry, registered⟩ : ∃ registry, Registry.standard config quiet = .ok registry := by
    rw [Registry.standard, begins]
    exact ⟨_, rfl⟩
  rw [runtime_eq, registered]
  exact ⟨_, rfl, ⟨⟨registry, registered, rfl⟩, rfl, spoken⟩, rfl, rfl, rfl⟩

end Runtimes

/-- Installing comes to what the run comes to. -/
theorem install_of_ran {runtime : Runtime Machine} {software : Software} {before after : Machine}
    {outcome : Except Fault Unit} {history : List Event} (tacit : runtime.Tacit)
    (ran : runtime.Ran software before outcome history after) :
    install runtime software before = (verdict software outcome history, carriedOut history, after) := by
  cases ran with
  | refused refused =>
    simp only [install, refused]
    rfl
  | @executed session final _ started ran =>
    obtain ⟨seed, pushes⟩ := Runtime.pushes_of_execute tacit started ran
    have happened : final.history.isEmpty = false := by
      cases happened : final.history with
      | nil => rw [Session.pushes, happened] at pushes; cases pushes
      | cons event later => rfl
    simp only [install, started, ran, carriedOut_eq_reports pushes, verdict, happened,
      Bool.false_eq_true, if_false]

/-- Nothing is said in a run of which a document is made. -/
def silently (_ : Step) (_ : Frame) (machine : Machine) : Machine := machine

/-- What a terminal shows of every step. -/
def aloud (tag : Option String) (step : Step) (frame : Frame) (machine : Machine) : Machine :=
  machine.print (Report.line tag (step, frame))

/-- The runtime that says nothing and the one that says all have the same to do, but for what is said. -/
theorem exists_runtimes {config : Config} {moment : Option Nat} (tag : Option String)
    (begins : config.startTime = .ok moment) (machine : Machine) :
    ∃ quiet loud, runtime config true silently machine = (.ok quiet, (detect config machine).2) ∧
      runtime config false (aloud tag) machine = (.ok loud, (detect config machine).2) ∧
      quiet.Standard config true ∧ loud.Standard config false ∧ quiet.announce = silently ∧
      quiet.Parallel (Hushed fun _ => True) loud := by
  obtain ⟨quiet, made, standard, announce, facts, constants⟩ := runtime_ok true silently begins
    (fun _ _ machine => ⟨machine.out, machine.err, rfl⟩) machine
  obtain ⟨loud, made', standard', announce', facts', constants'⟩ := runtime_ok false (aloud tag) begins
    (fun step frame machine => ⟨machine.out ++ Report.line tag (step, frame), machine.err, rfl⟩) machine
  refine ⟨quiet, loud, made, made', standard, standard', announce, ?_⟩
  refine standard.parallel standard' (fun _ _ _ _ => trivial) (constants'.trans constants.symm)
    (facts'.trans facts.symm) fun step frame machine machine' hushed => ?_
  rw [announce, announce']
  exact hushed_print_right _ (fun _ _ _ => trivial) hushed

theorem out_eq_of_ran {config : Config} {runtime : Runtime Machine} {software : Software}
    {before after : Machine} {outcome : Except Fault Unit} {history : List Event}
    (standard : runtime.Standard config true) (announce : runtime.announce = silently)
    (ran : runtime.Ran software before outcome history after) : after.out = before.out := by
  cases ran with
  | refused => rfl
  | executed started ran =>
    obtain ⟨seed, -, rfl⟩ := Runtime.start_ok started
    exact standard.out_eq (fun step frame machine => by rw [announce, silently]) ran

section Loaded

variable {config : Config} {software : Software} {tag : Option String} {loaded before after : Machine}
  {built : Runtime Machine} {ended : Except Trouble Unit} {reports : List (Step × Frame)}

theorem runLoaded_document (made : runtime config true silently loaded = (.ok built, before))
    (installed : install built software before = (ended, reports, after)) :
    runLoaded config software tag true loaded = (ended, after.print (Report.document reports)) := by
  refine (Cli.bind_ok _ made).trans ?_
  change ((install built software before).1, (install built software before).2.2.print
    (Report.document (install built software before).2.1)) = _
  rw [installed]

/-- On a terminal a line is added when all went well. -/
theorem runLoaded_console (made : runtime config false (aloud tag) loaded = (.ok built, before))
    (installed : install built software
        (before.print (Console.action ("Installing " ++ software.label))) = (ended, reports, after)) :
    ∃ closing, runLoaded config software tag false loaded = (ended, closing) ∧
      Hushed (fun _ => True) after closing := by
  have ran : runLoaded config software tag false loaded = (do
      set (install built software (before.print (Console.action ("Installing " ++ software.label)))).2.2
      ExceptT.mk (pure (install built software
        (before.print (Console.action ("Installing " ++ software.label)))).1)
      say (Console.success (software.label ++ " installed")) : Work Unit) before :=
    Cli.bind_ok _ made
  rw [installed] at ran
  rw [ran]
  cases ended with
  | error trouble => exact ⟨after, rfl, hushed_self trivial⟩
  | ok _ => exact ⟨_, rfl, hushed_print_right _ (fun _ _ _ => trivial) (hushed_self trivial)⟩

end Loaded

theorem settings_machine {given : Override} {machine ready : Machine} {outcome : Except (List String) Config}
    (settled : settings given machine = (outcome, ready)) : ready = machine :=
  ((Config.ran_iff (Config.exists_loaded _ _ _ _) (fun _ => settings_of_loaded) outcome ready).mp settled).1

section Silence

variable {machine after : Machine}

theorem acquire_out {recipe : String} {lock : RunLock}
    (locked : RunLock.acquire recipe machine = (.ok lock, after)) : after.out = machine.out := by
  rw [RunLock.acquire_eq] at locked
  split at locked
  · cases locked
  · split at locked
    · cases locked
    · cases locked
      rfl

theorem load_out {path : String} {software : Software}
    (found : Recipe.load path machine = (.ok software, after)) : after.out = machine.out := by
  refine out_eq_of_matches ?_ found
  refine (matches_lift _).bind fun format => (matches_onDisk _).bind fun text => ?_
  exact (matches_within _ (matches_lift _)).bind fun software => matches_pure _

theorem detect_out (config : Config) (machine : Machine) : (detect config machine).2.out = machine.out := by
  have version : ∀ family machine, (detectVersion family machine).2.out = machine.out := by
    intro family machine
    unfold detectVersion
    rcases ran : runCommand (versionCommand family) none machine with ⟨causes | out, after⟩
    · exact out_eq_of_matches (matches_runCommand _ _) ran
    · exact out_eq_of_matches (matches_runCommand _ _) ran
  have identity : ∀ machine, (detectId machine).2.out = machine.out := by
    intro machine
    unfold detectId
    split <;> rfl
  unfold detect
  dsimp only
  rw [version]
  split
  · rfl
  · exact identity machine

end Silence

section Locked

variable {given : Override} {file : String} {parameter tag : Option String} {json : Bool}
  {machine held loaded after : Machine} {config : Config} {lock : RunLock} {software : Software}
  {ended : Except Trouble Unit}

/-- A run that has the lock gives it back however it ends. -/
theorem perform_locked (settled : settings given machine = (.ok config, machine))
    (locked : RunLock.acquire file machine = (.ok lock, held))
    (ran : loadAndRun config file parameter tag json held = (ended, after)) :
    perform given (.run file parameter tag json) machine = (ended, lock.release after) := by
  refine (Cli.bind_ok _ (ofMachine_ok settled)).trans ?_
  refine (Cli.bind_ok _ (ofMachine_ok locked)).trans ?_
  change ((loadAndRun config file parameter tag json held).1,
    lock.release (loadAndRun config file parameter tag json held).2) = _
  rw [ran]

theorem perform_run (settled : settings given machine = (.ok config, machine))
    (locked : RunLock.acquire file machine = (.ok lock, held))
    (found : Recipe.load file held = (.ok software, loaded))
    (ran : runLoaded config { software with parameter := parameter.getD software.parameter } tag json
      loaded = (ended, after)) :
    perform given (.run file parameter tag json) machine = (ended, lock.release after) :=
  perform_locked settled locked ((Cli.bind_ok _ (ofMachine_ok found)).trans ran)

end Locked

section Staged

/-- A machine with one recipe on its disk that has nothing to do. -/
def staged : Machine where
  disk := ⟨[], [(["r.json"], .file 0 (Text.encode "{}") false)], 1, []⟩
  launcher := fun _ disk => (.ok ⟨.code 0, [], [], 0⟩, disk)

theorem pieces_user : PathText.pieces "/root/.config/recipe/config.toml" =
    ["root", ".config", "recipe", "config.toml"] := by
  simp [PathText.pieces]
  decide

theorem contains_user {disk : Disk} (free : disk.get? ["root"] = none) :
    disk.contains "/root/.config/recipe/config.toml" = false := by
  have size : "/root/.config/recipe/config.toml".utf8ByteSize = 32 := rfl
  have root : "root".utf8ByteSize = 4 := rfl
  simp [Disk.contains, Disk.lookup, Disk.locate, Disk.traced, Disk.checkPath, pieces_user, Disk.walk,
    Disk.startOf, PathText.isAbsolute, Disk.hasSlash, free, bind, Except.bind, Except.isOk, size, root,
    Disk.maxPath, Disk.maxName, Except.toBool]

/-- Where nothing is set the settings are the defaults. -/
theorem settings_of_free {machine : Machine} (unset : machine.environment = [])
    (free : machine.disk.get? ["root"] = none) : settings {} machine = (.ok {}, machine) := by
  have unknown : machine.env? = fun _ => none := by
    funext name
    simp [env?, unset]
  have user : Config.userPath machine = "/root/.config/recipe/config.toml" := by
    simp only [Config.userPath, home, unknown]
    rfl
  have went : Config.load none machine = (.ok {}, machine) := by
    rw [Config.load, get_bind, user, unknown]
    simp only [List.filter_cons, contains_user free, Bool.false_eq_true, if_false]
    rfl
  exact (Working.bind_ok _ went).trans rfl

theorem settings_staged : settings {} staged = (.ok {}, staged) :=
  settings_of_free rfl rfl

/-- The lock is on a new file. -/
def heldStaged : Machine :=
  { staged with disk := ⟨[], [(["r.json"], .file 0 (Text.encode "{}") false),
      (["r.json.lock"], .file 1 (Text.encode "1") false)], 2, [1]⟩ }

theorem acquire_staged : RunLock.acquire "r.json" staged = (.ok ⟨1, "r.json.lock"⟩, heldStaged) := by
  have pieces : PathText.pieces "r.json.lock" = ["r.json.lock"] := by
    simp [PathText.pieces]
    decide
  have size : "r.json.lock".utf8ByteSize = 11 := rfl
  have name : RunLock.pathFor "r.json" = "r.json.lock" := rfl
  have opened : staged.disk.openOrCreate "r.json.lock" =
      .ok (1, ⟨[], [(["r.json"], .file 0 (Text.encode "{}") false),
        (["r.json.lock"], .file 1 [] false)], 2, []⟩) := by
    simp [Disk.openOrCreate, Disk.openForWriting, Disk.locateEntry, Disk.locate, Disk.traced,
      Disk.checkPath, pieces, Disk.walk, Disk.startOf, PathText.isAbsolute, Disk.hasSlash, staged,
      Disk.get?, bind, Except.bind, pure, Except.pure, size, Disk.maxPath, Disk.maxName,
      Disk.addFile, Disk.put]
  rw [RunLock.acquire_eq, name, opened]
  rfl

theorem load_staged :
    Recipe.load "r.json" heldStaged = (.ok { name := some "r", steps := [] }, heldStaged) := by
  have pieces : PathText.pieces "r.json" = ["r.json"] := by
    simp [PathText.pieces]
    decide
  have size : "r.json".utf8ByteSize = 6 := rfl
  have found : heldStaged.disk.lookup true "r.json" =
      .ok (["r.json"], .file 0 (Text.encode "{}") false) := by
    simp [Disk.lookup, Disk.locate, Disk.traced, Disk.checkPath, pieces, Disk.walk, Disk.startOf,
      PathText.isAbsolute, Disk.hasSlash, heldStaged, Disk.get?, bind, Except.bind, size,
      Disk.maxPath, Disk.maxName]
  have read : heldStaged.disk.readText "r.json" = .ok "{}" := by
    rw [Disk.readText, Disk.read, found]
    simp only [bind, Except.bind, Text.decode?_encode]
    rfl
  have asked := onDisk_eq
    (Disk.inquire ("Failed to read " ++ "r.json") fun disk => disk.readText "r.json") heldStaged
  rw [Disk.inquire_eq, read] at asked
  have format : (ExceptT.mk (pure (Recipe.Format.ofPath "r.json")) : Machine.Work Recipe.Format)
      heldStaged = (.ok .json, heldStaged) := rfl
  rw [Recipe.load, Working.bind_ok _ format, Working.bind_ok _ asked]
  rfl

end Staged

end Cli

end Provision
