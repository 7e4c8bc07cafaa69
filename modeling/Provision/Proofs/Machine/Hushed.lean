import Provision.Proofs.Machine.Later

/-! Work on two machines at once. What has been printed on a machine has no part in what becomes of any
work on it: on machines that differ in that alone, work comes to the same result and leaves machines
that differ in that alone. -/

namespace Provision

namespace Working

variable {τ α β : Type} {related : τ → τ → Prop} {work other : Working τ α} {state state' : τ}

/-- The same result, in related states. -/
def Paired (related : τ → τ → Prop) (ran ran' : Except (List String) α × τ) : Prop :=
  ran.1 = ran'.1 ∧ related ran.2 ran'.2

/-- From related states both pieces of work come to the same result, in related states. -/
def Matches (related : τ → τ → Prop) (work other : Working τ α) : Prop :=
  ∀ state state', related state state' → Paired related (work state) (other state')

theorem Matches.cases (matching : Matches related work other) (both : related state state') :
    ∃ outcome after after', work state = (outcome, after) ∧ other state' = (outcome, after') ∧
      related after after' := by
  obtain ⟨same, still⟩ := matching state state' both
  rcases ran : work state with ⟨outcome, after⟩
  rcases ran' : other state' with ⟨outcome', after'⟩
  rw [ran, ran'] at same still
  cases same
  exact ⟨outcome, after, after', rfl, rfl, still⟩

theorem matches_pure (value : α) : Matches related (pure value) (pure value) :=
  fun _ _ both => ⟨rfl, both⟩

theorem matches_throw (causes : List String) :
    Matches related (throw causes : Working τ α) (throw causes) := fun _ _ both => ⟨rfl, both⟩

/-- Two looks at the state. -/
theorem matches_get {next next' : τ → Working τ α}
    (rest : ∀ state state', related state state' →
      Paired related (next state state) (next' state' state')) :
    Matches related (get >>= next) (get >>= next') := rest

theorem matches_modify {change change' : τ → τ}
    (changes : ∀ state state', related state state' → related (change state) (change' state')) :
    Matches related (modify change : Working τ Unit) (modify change') :=
  fun state state' both => ⟨rfl, changes state state' both⟩

theorem Matches.bind {next next' : α → Working τ β} (first : Matches related work other)
    (rest : ∀ value, Matches related (next value) (next' value)) :
    Matches related (work >>= next) (other >>= next') := by
  intro state state' both
  obtain ⟨outcome, after, after', ran, ran', still⟩ := first.cases both
  cases outcome with
  | error causes =>
    rw [bind_error next ran, bind_error next' ran']
    exact ⟨rfl, still⟩
  | ok value =>
    rw [bind_ok next ran, bind_ok next' ran']
    exact rest value after after' still

theorem Matches.tryCatch {rescue rescue' : List String → Working τ α} (first : Matches related work other)
    (rest : ∀ causes, Matches related (rescue causes) (rescue' causes)) :
    Matches related (tryCatch work rescue) (tryCatch other rescue') := by
  intro state state' both
  obtain ⟨outcome, after, after', ran, ran', still⟩ := first.cases both
  cases outcome with
  | error causes =>
    rw [tryCatch_error rescue ran, tryCatch_error rescue' ran']
    exact rest causes after after' still
  | ok value =>
    rw [tryCatch_ok rescue ran, tryCatch_ok rescue' ran']
    exact ⟨rfl, still⟩

theorem matches_forIn {body body' : β → α → Working τ (ForInStep α)}
    (each : ∀ item value, Matches related (body item value) (body' item value)) (items : List β)
    (value : α) : Matches related (forIn items value body) (forIn items value body') := by
  induction items generalizing value with
  | nil => exact matches_pure value
  | cons item items ih =>
    rw [List.forIn_cons, List.forIn_cons]
    refine (each item value).bind fun step => ?_
    cases step with
    | done value => exact matches_pure value
    | yield value => exact ih value

/-- Work that is done only under some condition, in front of other work. -/
theorem Matches.when {first first' : Working τ PUnit} {next next' : PUnit → Working τ α}
    (matching : Matches related first first') (condition : Prop) [Decidable condition]
    (rest : ∀ value, Matches related (next value) (next' value)) :
    Matches related (if condition then first >>= next else next ⟨⟩)
      (if condition then first' >>= next' else next' ⟨⟩) := by
  split
  · exact matching.bind rest
  · exact rest _

end Working

namespace Machine

open Working

/-- The same machine, but for what has been printed on it. On the second machine that is one of the texts
that may have been said. -/
def Hushed (said : String → Prop) (machine machine' : Machine) : Prop :=
  ∃ out, said out ∧ machine' = { machine with out }

variable {α : Type} {said : String → Prop} {machine machine' : Machine}

theorem hushed_self (fine : said machine.out) : Hushed said machine machine := ⟨machine.out, fine, rfl⟩

theorem hushed_print_right (text : String) (more : ∀ out text, said out → said (out ++ text))
    (hushed : Hushed said machine machine') : Hushed said machine (machine'.print text) := by
  obtain ⟨out, fine, rfl⟩ := hushed
  exact ⟨_, more out text fine, rfl⟩

/-- Work that comes to the same whatever had been said says nothing itself. -/
theorem out_eq_of_matches {work : Work α} {outcome : Except (List String) α} {after : Machine}
    (matching : Matches (Hushed (· = machine.out)) work work) (ran : work machine = (outcome, after)) :
    after.out = machine.out := by
  obtain ⟨-, out, fine, kept⟩ := matching machine machine (hushed_self rfl)
  rw [ran] at kept
  have same : after.out = out := congrArg Machine.out kept
  exact same.trans fine

theorem matches_lift {related : Machine → Machine → Prop} (outcome : Except (List String) α) :
    Matches related (ExceptT.mk (pure outcome)) (ExceptT.mk (pure outcome)) :=
  fun _ _ both => ⟨rfl, both⟩

theorem matches_onDisk (work : Disk.Work α) : Matches (Hushed said) (onDisk work) (onDisk work) := by
  rintro machine _ ⟨out, fine, rfl⟩
  rw [onDisk_eq, onDisk_eq]
  exact ⟨rfl, out, fine, rfl⟩

theorem matches_within (context : String) {work other : Work α}
    (matching : Matches (Hushed said) work other) :
    Matches (Hushed said) (within context work) (within context other) :=
  matching.tryCatch fun _ => matches_throw _

theorem matches_orElseUndo {work other : Work α} {undo : Work Unit}
    (matching : Matches (Hushed said) work other)
    (undoing : Matches (Hushed said) undo undo) :
    Matches (Hushed said) (orElseUndo work undo) (orElseUndo other undo) :=
  matching.tryCatch fun _ => (undoing.tryCatch fun _ => matches_pure _).bind fun _ => matches_throw _

theorem matches_discard (path : String) : Matches (Hushed said) (discard path) (discard path) :=
  (matches_onDisk _).tryCatch fun _ => matches_pure _

/-- A program is told nothing of what has been printed. -/
theorem launch_hushed (program : String) (arguments : List String) (input : Bytes)
    (hushed : Hushed said machine machine') :
    ∃ outcome after after', launch program arguments input machine = (outcome, after) ∧
      launch program arguments input machine' = (outcome, after') ∧ Hushed said after after' := by
  obtain ⟨out, fine, rfl⟩ := hushed
  unfold launch
  split
  · exact ⟨_, _, _, rfl, rfl, out, fine, rfl⟩
  · exact ⟨_, _, _, rfl, rfl, out, fine, rfl⟩

theorem matches_runProcess (command : List String) (input : Option Bytes) :
    Matches (Hushed said) (runProcess command input) (runProcess command input) := by
  cases command with
  | nil => exact matches_throw _
  | cons program arguments =>
    refine matches_get fun machine machine' hushed => ?_
    obtain ⟨outcome, after, after', ran, ran', still⟩ :=
      launch_hushed program arguments (input.getD []) hushed
    simp only [ran, ran']
    cases outcome <;> exact ⟨rfl, still⟩

theorem matches_runCommand (command : List String) (input : Option Bytes) :
    Matches (Hushed said) (runCommand command input) (runCommand command input) := by
  refine (matches_runProcess command input).bind fun captured => ?_
  split
  · exact matches_pure _
  · exact matches_throw _

theorem matches_enterFresh (make : Disk → String → Except IoError Disk) (front back : String)
    (tries : Nat) :
    Matches (Hushed said) (enterFresh make front back tries) (enterFresh make front back tries) := by
  induction tries with
  | zero => exact matches_throw _
  | succ tries ih =>
    refine matches_get fun machine machine' hushed => ?_
    obtain ⟨out, fine, rfl⟩ := hushed
    have again := ih { machine with names := machine.names + 1 }
      { machine with names := machine.names + 1, out } ⟨out, fine, rfl⟩
    have path : temporaryPath { machine with out } (front ++ randomPart machine.names ++ back) =
      machine.temporaryPath (front ++ randomPart machine.names ++ back) := rfl
    dsimp only
    rw [path]
    rcases made : make machine.disk
        (machine.temporaryPath (front ++ randomPart machine.names ++ back)) with error | disk
    · by_cases taken : error = .alreadyExists
      · subst taken
        exact again
      · cases error <;> first
          | exact absurd rfl taken
          | exact ⟨rfl, out, fine, rfl⟩
    · exact ⟨rfl, out, fine, rfl⟩

theorem matches_enter (make : Disk → String → Except IoError Disk) (front back : String) :
    Matches (Hushed said) (enter make front back) (enter make front back) := by
  refine matches_get ?_
  rintro machine _ ⟨out, fine, rfl⟩
  exact matches_enterFresh make front back _ _ _ ⟨out, fine, rfl⟩

theorem matches_persistentFile (back : String) :
    Matches (Hushed said) (persistentFile back) (persistentFile back) :=
  matches_within _ (matches_enter _ _ _)

theorem matches_persistentDir (front : String) :
    Matches (Hushed said) (persistentDir front) (persistentDir front) :=
  matches_within _ (matches_enter _ _ _)

theorem matches_writeBatch (script : String) :
    Matches (Hushed said) (writeBatch script) (writeBatch script) := by
  refine (matches_within _ (matches_enter _ _ _)).bind fun path => ?_
  refine (matches_orElseUndo (matches_onDisk _) (matches_discard path)).bind fun _ => ?_
  exact matches_pure path

theorem matches_runBatchScript (script : String) :
    Matches (Hushed said) (runBatchScript script) (runBatchScript script) := by
  refine (matches_writeBatch script).bind fun path => ?_
  refine (matches_orElseUndo (matches_runProcess _ _) (matches_discard path)).bind fun captured => ?_
  exact (matches_discard path).bind fun _ => matches_pure captured

theorem matches_startBatch (script : String) :
    Matches (Hushed said) (startBatch script) (startBatch script) := by
  refine (matches_writeBatch script).bind fun path => matches_get fun machine machine' hushed => ?_
  obtain ⟨outcome, after, after', ran, ran', still⟩ :=
    launch_hushed "cmd" ["/C", "start", "/B", path] [] hushed
  simp only [ran, ran']
  cases outcome <;> exact ⟨rfl, still⟩

theorem matches_startBash (script : String) :
    Matches (Hushed said) (startBash script) (startBash script) := by
  refine matches_get fun machine machine' hushed => ?_
  obtain ⟨outcome, after, after', ran, ran', still⟩ :=
    launch_hushed "bash" ["-s", "-e"] (Text.encode script) hushed
  simp only [ran, ran']
  cases outcome <;> exact ⟨rfl, still⟩

end Machine

namespace Handlers

open Machine Working

variable {said : String → Prop}

theorem matches_settle (path : String) : Matches (Hushed said) (settle path) (settle path) := matches_onDisk _

theorem matches_nextMountPoint : Matches (Hushed said) nextMountPoint nextMountPoint := by
  refine matches_get ?_
  rintro machine _ ⟨out, fine, rfl⟩
  exact ⟨rfl, out, fine, rfl⟩

theorem matches_request (method address contentType : String) (body : Bytes) :
    Matches (Hushed said) (request method address contentType body)
      (request method address contentType body) := by
  refine matches_get ?_
  rintro machine _ ⟨out, fine, rfl⟩
  exact ⟨rfl, out, fine, rfl⟩

theorem matches_fetch (address target : String) :
    Matches (Hushed said) (fetch address target) (fetch address target) := by
  refine (matches_request _ _ _ _).bind fun answer => ?_
  cases answer with
  | error error => exact matches_throw _
  | ok response =>
    refine (matches_onDisk _).bind fun _ => ?_
    refine (matches_forIn (fun chunk _ => (matches_onDisk _).bind fun _ => matches_pure _) _ _).bind
      fun _ => ?_
    exact (matches_throw _).when _ fun _ => matches_pure _

theorem matches_fetchRepeatedly (address target : String) (more : Nat) :
    Matches (Hushed said) (fetchRepeatedly address target more) (fetchRepeatedly address target more) := by
  induction more with
  | zero => exact matches_fetch address target
  | succ more ih => exact (matches_fetch address target).tryCatch fun _ => ih

theorem matches_freshBoundary : Matches (Hushed said) freshBoundary freshBoundary := by
  refine matches_get ?_
  rintro machine _ ⟨out, fine, rfl⟩
  exact ⟨rfl, out, fine, rfl⟩

theorem matches_post (address path : String) :
    Matches (Hushed said) (post address path) (post address path) := by
  refine (matches_onDisk _).bind fun content => matches_freshBoundary.bind fun boundary => ?_
  refine (matches_request _ _ _ _).bind fun answer => ?_
  cases answer with
  | error error => exact matches_throw _
  | ok response => exact (matches_throw _).when _ fun _ => matches_pure _

theorem matches_discharge (obligation : Cleanup) :
    Matches (Hushed said) (discharge obligation) (discharge obligation) := by
  unfold discharge
  split
  · exact matches_onDisk _
  · exact (matches_runCommand _ _).bind fun _ => matches_pure _

end Handlers

end Provision
