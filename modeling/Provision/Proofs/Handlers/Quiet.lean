import Provision.Proofs.Engine.Layers
import Provision.Proofs.Engine.Simulation
import Provision.Proofs.Handlers.Standard
import Provision.Proofs.Machine.Hushed

/-! The built-in handlers with and without something to say. What they print makes no difference to
anything else that they do, and of the steps that they insert none inserts steps again. -/

namespace Provision

open Machine Working

namespace Handling

variable {σ α β : Type} {related : σ → σ → Prop}

theorem Parallel.bind {work work' : Handling σ α} {next next' : α → Handling σ β}
    (parallel : work.Parallel related work') (rest : ∀ value, (next value).Parallel related (next' value)) :
    (work.bind next).Parallel related (work'.bind next') := by
  induction parallel with
  | done value => exact rest value
  | failed failure => exact .failed failure
  | observe _ ih => exact .observe ih
  | update both _ ih => exact .update both ih
  | look _ ih => exact .look ih
  | children _ ih => exact .children ih
  | insert steps _ ih => exact .insert steps ih
  | report step frame _ ih => exact .report step frame ih

theorem parallel_topValue : (topValue : Handling σ String).Parallel related topValue := by
  refine .look fun scene => ?_
  cases scene.stack.peek 0 with
  | error fault => exact .failed _
  | ok frame => exact .done _

theorem parallel_insertAll (steps : List Step) :
    (insertAll steps : Handling σ Unit).Parallel related (insertAll steps) := by
  refine .insert steps fun outcome => ?_
  cases outcome with
  | error fault => exact .failed _
  | ok _ => exact .done ()

end Handling

namespace Handlers

variable {α : Type} {said : String → Prop} {work work' : Machine.Work α}

theorem parallel_onMachine (matching : Matches (Hushed said) work work') :
    (onMachine work).Parallel (Hushed said) (onMachine work') := by
  refine .observe fun machine machine' hushed => ?_
  obtain ⟨outcome, after, after', ran, ran', still⟩ := matching.cases hushed
  simp only [handling, ran, ran']
  cases outcome with
  | error causes => exact .update still (.failed _)
  | ok value => exact .update still (.done _)

/-- Work on the machine whose result is put into a frame. -/
theorem parallel_framed (matching : Matches (Hushed said) work work') (frame : α → Frame) :
    ((onMachine work).bind fun value => .done (frame value)).Parallel (Hushed said)
      ((onMachine work').bind fun value => .done (frame value)) :=
  (parallel_onMachine matching).bind fun _ => .done _

theorem parallel_equals (task : Task) : (equals task).Parallel (Hushed said) (equals task) := by
  refine Handling.parallel_topValue.bind fun actual => ?_
  split
  · exact .done _
  · exact .failed _

theorem parallel_rebootNow (task : Task) : (rebootNow task).Parallel (Hushed said) (rebootNow task) := by
  refine parallel_framed ?_ _
  split
  · exact (matches_within _ (matches_runCommand _ _)).bind fun _ => matches_pure _
  · refine matches_modify ?_
    rintro machine _ ⟨out, fine, rfl⟩
    exact ⟨out, fine, rfl⟩

theorem parallel_command (task : Task) : (command task).Parallel (Hushed said) (command task) := by
  refine parallel_framed (matches_within _ ?_) _
  split
  · exact matches_runBatchScript _
  · exact matches_runProcess _ _

theorem parallel_async (task : Task) : (async task).Parallel (Hushed said) (async task) := by
  refine parallel_framed (matches_within _ ?_) _
  split
  · exact matches_startBatch _
  · exact matches_startBash _

theorem parallel_pkg (task : Task) : (pkg task).Parallel (Hushed said) (pkg task) :=
  parallel_framed (matches_within _ (matches_runProcess _ _)) _

theorem parallel_installCert (task : Task) :
    (installCert task).Parallel (Hushed said) (installCert task) := by
  unfold installCert
  split
  · exact .failed _
  · exact (Handling.parallel_insertAll _).bind fun _ => .done _

/-- A download says what it has fetched, or does not. -/
theorem parallel_download (mirror : Mirror) (attempts : Nat) {quiet : Bool}
    (more : quiet = false → ∀ out text, said out → said (out ++ text)) (task : Task) :
    (download { mirror, attempts, quiet := true } task).Parallel (Hushed said)
      (download { mirror, attempts, quiet } task) := by
  refine parallel_framed ?_ _
  refine (matches_persistentFile _).bind fun target => ?_
  refine (matches_orElseUndo ((matches_fetchRepeatedly _ _ _).tryCatch fun _ => matches_throw _)
    (matches_discard target)).bind fun count => ?_
  have marks : Matches (Hushed said) (onDisk (Disk.makeExecutable target))
      (onDisk (Disk.makeExecutable target)) :=
    matches_onDisk _
  have rest := marks.bind fun _ => matches_settle target
  cases quiet with
  | true => exact rest
  | false => exact fun machine machine' hushed => rest _ _ (hushed_print_right _ (more rfl) hushed)

theorem parallel_upload (mirror : Mirror) (task : Task) :
    (upload mirror task).Parallel (Hushed said) (upload mirror task) :=
  parallel_framed (matches_within _ (matches_post _ _)) _

theorem parallel_carry (context : String) (transfer : String → String → Disk.Work String) (task : Task) :
    (carry context transfer task).Parallel (Hushed said) (carry context transfer task) := by
  refine Handling.parallel_topValue.bind fun source => parallel_framed ?_ _
  exact (matches_within _ (matches_onDisk _)).bind fun place => matches_settle place

theorem parallel_toFile (task : Task) : (toFile task).Parallel (Hushed said) (toFile task) := by
  refine parallel_framed ?_ _
  refine (matches_within _ (matches_enter _ _ _)).bind fun path => ?_
  refine (matches_orElseUndo (matches_onDisk _) (matches_discard path)).bind fun _ => ?_
  exact (matches_onDisk _).bind fun _ => matches_settle path

theorem parallel_fromFile (task : Task) : (fromFile task).Parallel (Hushed said) (fromFile task) :=
  parallel_framed (matches_onDisk _) _

theorem parallel_unzip (task : Task) : (unzip task).Parallel (Hushed said) (unzip task) := by
  refine parallel_framed ?_ _
  refine (matches_persistentDir _).bind fun dir => ?_
  refine (matches_orElseUndo (matches_within _ (matches_onDisk _)) (matches_discard dir)).bind fun _ => ?_
  exact matches_settle dir

theorem parallel_dmg (task : Task) : (dmg task).Parallel (Hushed said) (dmg task) := by
  refine parallel_framed ?_ _
  refine matches_nextMountPoint.bind fun place => ?_
  exact (matches_within _ (matches_runCommand _ _)).bind fun _ => matches_pure place

theorem parallel_dmgEula (task : Task) : (dmgEula task).Parallel (Hushed said) (dmgEula task) := by
  refine parallel_framed ?_ _
  refine matches_get ?_
  rintro machine _ ⟨out, fine, rfl⟩
  have converts : Matches (Hushed said)
      (Machine.within "error while converting dmg file" (Machine.runCommand ["hdiutil", "convert",
        task.parameter, "-format", "UDTO", "-o",
        PathText.join machine.temporaryDirectory "tech.cdr"] none)) _ :=
    matches_within _ (matches_runCommand _ _)
  have named := converts.bind fun _ => matches_pure (PathText.join machine.temporaryDirectory "tech.cdr")
  exact named machine _ ⟨out, fine, rfl⟩

theorem parallel_moveFf (task : Task) : (moveFf task).Parallel (Hushed said) (moveFf task) := by
  unfold moveFf
  dsimp only
  split
  · exact .failed _
  · exact (Handling.parallel_insertAll _).bind fun _ => .done _

/-- INSTALL_CERT and MOVE_FF insert steps of others. -/
def layer : Operation → Nat
  | .installCert | .moveFf => 1
  | _ => 0

variable {allowed : Step → Prop}

theorem inserts_framed (work : Machine.Work α) (frame : α → Frame) :
    ((onMachine work).bind fun value => .done (frame value)).Inserts allowed :=
  (Handling.inserts_act _).bind fun _ => .done _

theorem inserts_equals (task : Task) : (equals task).Inserts allowed := by
  refine Handling.inserts_topValue.bind fun actual => ?_
  split
  · exact .done _
  · exact .failed _

theorem inserts_carry (context : String) (transfer : String → String → Disk.Work String) (task : Task) :
    (carry context transfer task).Inserts allowed :=
  Handling.inserts_topValue.bind fun _ => inserts_framed _ _

theorem forall_mem_close {steps : List Step} (each : ∀ step ∈ steps, allowed step) (pop : allowed .pop) :
    ∀ step ∈ Step.close steps, allowed step := by
  intro step member
  rcases List.mem_append.mp member with inside | behind
  · exact each step inside
  · exact List.eq_of_mem_replicate behind ▸ pop

theorem inserts_installCert (task : Task) :
    (installCert task).Inserts fun step => layer step.operation < 1 := by
  unfold installCert
  split
  · exact .failed _
  · refine (Handling.inserts_insertAll (forall_mem_close ?_ (by decide))).bind fun _ => .done _
    simp [layer]

theorem inserts_moveFf (task : Task) : (moveFf task).Inserts fun step => layer step.operation < 1 := by
  unfold moveFf
  dsimp only
  split
  · exact .failed _
  · refine (Handling.inserts_insertAll (forall_mem_close ?_ (by decide))).bind fun _ => .done _
    intro step member
    have placed : ∀ text target, ∀ step ∈ placeText text target, layer step.operation < 1 := by
      simp [placeText, layer, Step.pop]
    simp only [List.mem_append] at member
    rcases member with (((command | ini) | payload) | installs) | window
    · revert step
      simp [layer, Step.pop]
    · exact placed _ _ step ini
    · revert step
      simp [layer, Step.pop]
    · split at installs
      · exact placed _ _ step installs
      · cases installs
    · split at window
      · exact placed _ _ step window
      · cases window

end Handlers

namespace Registry

open Handlers

variable {config : Config} {quiet : Bool} {operation : Operation}

/-- A built-in handler inserts nothing, or steps whose handlers insert nothing. -/
theorem inserts_builtin {handler : Handler Machine} (found : builtin? config quiet operation = some handler)
    (task : Task) : (handler task).Inserts fun step => layer step.operation < layer operation := by
  cases operation <;> cases found
  case set => exact .done _
  case equals => exact inserts_equals task
  case installCert => exact inserts_installCert task
  case moveFf => exact inserts_moveFf task
  case move => exact inserts_carry _ _ task
  case copy => exact inserts_carry _ _ task
  all_goals exact inserts_framed _ _

/-- Whether there is something to say or not, the same operations have handlers, and the same ones. -/
theorem parallel_builtin (config : Config) {quiet : Bool} {said : String → Prop}
    (more : quiet = false → ∀ out text, said out → said (out ++ text)) (operation : Operation) :
    (builtin? config true operation = none ∧ builtin? config quiet operation = none) ∨
      ∃ handler handler', builtin? config true operation = some handler ∧
        builtin? config quiet operation = some handler' ∧
        ∀ task, (handler task).Parallel (Hushed said) (handler' task) := by
  cases operation
  case set => exact .inr ⟨_, _, rfl, rfl, fun _ => .done _⟩
  case equals => exact .inr ⟨_, _, rfl, rfl, parallel_equals⟩
  case rebootNow => exact .inr ⟨_, _, rfl, rfl, parallel_rebootNow⟩
  case command => exact .inr ⟨_, _, rfl, rfl, parallel_command⟩
  case async => exact .inr ⟨_, _, rfl, rfl, parallel_async⟩
  case pkg => exact .inr ⟨_, _, rfl, rfl, parallel_pkg⟩
  case installCert => exact .inr ⟨_, _, rfl, rfl, parallel_installCert⟩
  case download => exact .inr ⟨_, _, rfl, rfl, parallel_download _ _ more⟩
  case upload => exact .inr ⟨_, _, rfl, rfl, parallel_upload _⟩
  case move => exact .inr ⟨_, _, rfl, rfl, parallel_carry _ _⟩
  case copy => exact .inr ⟨_, _, rfl, rfl, parallel_carry _ _⟩
  case toFile => exact .inr ⟨_, _, rfl, rfl, parallel_toFile⟩
  case fromFile => exact .inr ⟨_, _, rfl, rfl, parallel_fromFile⟩
  case unzip => exact .inr ⟨_, _, rfl, rfl, parallel_unzip⟩
  case dmg => exact .inr ⟨_, _, rfl, rfl, parallel_dmg⟩
  case dmgEula => exact .inr ⟨_, _, rfl, rfl, parallel_dmgEula⟩
  case moveFf => exact .inr ⟨_, _, rfl, rfl, parallel_moveFf⟩
  all_goals exact .inl ⟨rfl, rfl⟩

end Registry

namespace Runtime

variable {config : Config} {quiet : Bool} {runtime runtime' : Runtime Machine}

theorem Standard.layered (standard : runtime.Standard config quiet) : runtime.Layered Handlers.layer := by
  intro operation handler found task
  rw [standard.handlers_eq] at found
  exact Registry.inserts_builtin found task

/-- A run that says nothing goes side by side with one that may. -/
theorem Standard.parallel {said : String → Prop} (standard : runtime.Standard config true)
    (standard' : runtime'.Standard config quiet)
    (more : quiet = false → ∀ out text, said out → said (out ++ text))
    (constants : runtime'.constants = runtime.constants) (facts : runtime'.facts = runtime.facts)
    (announce : ∀ step frame machine machine', Hushed said machine machine' →
      Hushed said (runtime.announce step frame machine) (runtime'.announce step frame machine')) :
    runtime.Parallel (Hushed said) runtime' where
  handlers operation := by
    rw [standard.handlers_eq, standard'.handlers_eq]
    exact Registry.parallel_builtin config more operation
  constants := constants
  facts := facts
  clean obligation machine machine' hushed := by
    rw [standard.clean, standard'.clean]
    exact Handlers.matches_discharge obligation machine machine' hushed
  announce := announce

/-- It says nothing: side by side with itself it finds what had been said when it began. -/
theorem Standard.out_eq (standard : runtime.Standard config true)
    (silent : ∀ step frame machine, runtime.announce step frame machine = machine) {software : Software}
    {session final : Session Machine} {outcome : Except Fault Unit}
    (ran : runtime.execute software session = some (outcome, final)) :
    final.world.out = session.world.out := by
  have alone : runtime.Parallel (Hushed (· = session.world.out)) runtime :=
    standard.parallel standard (by simp) rfl rfl fun step frame machine machine' hushed => by
      rw [silent, silent]
      exact hushed
  have same : session.Parallel (Hushed (· = session.world.out)) session := ⟨rfl, rfl, rfl, hushed_self rfl⟩
  have both : Together (Hushed (· = session.world.out)) (runtime.execute software session)
    (runtime.execute software session) := alone.execute same
  rw [ran] at both
  cases both with
  | some outcome both =>
    obtain ⟨out, fine, kept⟩ := both.world
    rw [kept]
    exact fine

/-- With the built-in handlers every recipe comes to an outcome. -/
theorem Standard.exists_execute (standard : runtime.Standard config quiet) (software : Software)
    (session : Session Machine) :
    ∃ outcome final, runtime.execute software session = some (outcome, final) :=
  Runtime.exists_execute standard.layered (fun operation => by cases operation <;> decide) session

end Runtime

end Provision
