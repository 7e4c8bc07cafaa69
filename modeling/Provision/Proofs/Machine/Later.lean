import Provision.Handlers.Commands
import Provision.Handlers.Files
import Provision.Handlers.Transfers
import Provision.Proofs.Disk.Growth

/-! Nothing that a handler does on a machine takes a number back that was handed out, for a name or
for a mount point, or touches the environment. Some work takes nothing away from the disk either. -/

namespace Provision.Machine

open Working

/-- The second machine may be the first at a later time. -/
structure Later (before after : Machine) : Prop where
  names : before.names ≤ after.names
  mounts : before.mounts ≤ after.mounts
  environment : after.environment = before.environment

instance : IsPreorder Machine Later where
  refl _ := ⟨Nat.le_refl _, Nat.le_refl _, rfl⟩
  trans _ _ _ first second := ⟨Nat.le_trans first.names second.names,
    Nat.le_trans first.mounts second.mounts, second.environment.trans first.environment⟩

/-- The second machine may be the first at a later time, with nothing taken away from its disk. -/
structure Grows (before after : Machine) : Prop extends Later before after where
  disk : before.disk.Grows after.disk

instance : IsPreorder Machine Grows where
  refl before := ⟨refl before, refl before.disk⟩
  trans _ _ _ first second :=
    ⟨Trans.trans first.toLater second.toLater, Trans.trans first.disk second.disk⟩

variable {α : Type} {before after : Machine}

theorem later_of_grows {work : Work α} (keeps : Keeps Grows work) : Keeps Later work :=
  fun before => (keeps before).toLater

theorem Later.temporaryDirectory (later : Later before after) :
    after.temporaryDirectory = before.temporaryDirectory := by
  rw [Machine.temporaryDirectory, env?, later.environment]
  rfl

theorem onDisk_eq (work : Disk.Work α) (machine : Machine) :
    onDisk work machine =
      ((work machine.disk).1, { machine with disk := (work machine.disk).2 }) := by
  rcases ran : work machine.disk with ⟨outcome, disk⟩
  unfold onDisk
  rw [get_bind]
  simp only [ran]
  cases outcome <;> rfl

theorem later_onDisk (work : Disk.Work α) : Keeps Later (onDisk work) := by
  intro before
  rw [onDisk_eq]
  exact ⟨Nat.le_refl _, Nat.le_refl _, rfl⟩

theorem grows_onDisk {work : Disk.Work α} (keeps : Keeps Disk.Grows work) :
    Keeps Grows (onDisk work) := by
  intro before
  refine ⟨later_onDisk work before, ?_⟩
  rw [onDisk_eq]
  exact keeps before.disk

theorem later_within (context : String) {work : Work α} (keeps : Keeps Later work) :
    Keeps Later (within context work) :=
  keeps.tryCatch fun _ => keeps_throw _

theorem later_orElseUndo {work : Work α} {undo : Work Unit} (keeps : Keeps Later work)
    (undoes : Keeps Later undo) : Keeps Later (orElseUndo work undo) :=
  keeps.tryCatch fun _ => (undoes.tryCatch fun _ => keeps_pure _).bind fun _ => keeps_throw _

theorem later_discard (path : String) : Keeps Later (discard path) :=
  (later_onDisk _).tryCatch fun _ => keeps_pure _

/-- A program changes the disk alone. -/
theorem later_launch (program : String) (arguments : List String) (input : Bytes)
    (before : Machine) : Later before (launch program arguments input before).2 := by
  unfold launch
  split
  · exact refl before
  · exact ⟨Nat.le_refl _, Nat.le_refl _, rfl⟩

theorem later_runProcess (command : List String) (input : Option Bytes) :
    Keeps Later (runProcess command input) := by
  intro before
  cases command with
  | nil => exact refl before
  | cons program arguments =>
    have launched := later_launch program arguments (input.getD []) before
    rcases ran : launch program arguments (input.getD []) before with ⟨outcome, after⟩
    rw [ran] at launched
    simp only [runProcess]
    rw [get_bind]
    simp only [ran]
    cases outcome <;> exact launched

theorem later_runCommand (command : List String) (input : Option Bytes) :
    Keeps Later (runCommand command input) := by
  refine (later_runProcess command input).bind fun captured => ?_
  split
  · exact keeps_pure _
  · exact keeps_throw _

/-- What becomes of an attempt to enter something under a name that nobody else uses: numbers are used
up, and the last of them is in the path. -/
inductive Entered (make : Disk → String → Except IoError Disk) (front back : String)
    (before : Machine) : Except (List String) String × Machine → Prop where
  | made {number : Nat} {disk : Disk} (unused : before.names ≤ number)
    (made : make before.disk (before.temporaryPath (front ++ randomPart number ++ back)) = .ok disk) :
    Entered make front back before
      (.ok (before.temporaryPath (front ++ randomPart number ++ back)),
        { before with names := number + 1, disk })
  | refused {names : Nat} (causes : List String) (used : before.names ≤ names) :
    Entered make front back before (.error causes, { before with names })

/-- Numbers that were passed over before make no difference. -/
theorem Entered.skip {make : Disk → String → Except IoError Disk} {front back : String}
    {before : Machine} {names : Nat} {result : Except (List String) String × Machine}
    (passed : before.names ≤ names)
    (entered : Entered make front back { before with names } result) :
    Entered make front back before result := by
  cases entered with
  | made unused made => exact .made (Nat.le_trans passed unused) made
  | refused causes used => exact .refused causes (Nat.le_trans passed used)

/-- A name that is taken costs a number, and the next try starts behind it. -/
theorem entered_enterFresh (make : Disk → String → Except IoError Disk) (front back : String)
    (tries : Nat) (before : Machine) :
    Entered make front back before (enterFresh make front back tries before) := by
  induction tries generalizing before with
  | zero => exact .refused _ (Nat.le_refl _)
  | succ tries ih =>
    unfold enterFresh
    rw [get_bind]
    rcases made : make before.disk
        (before.temporaryPath (front ++ randomPart before.names ++ back)) with error | disk
    · by_cases taken : error = .alreadyExists
      · subst taken
        have again := ih { before with names := before.names + 1 }
        exact again.skip (Nat.le_succ _)
      · cases error <;> first
          | exact absurd rfl taken
          | exact .refused _ (Nat.le_succ _)
    · exact .made (Nat.le_refl _) made

theorem entered_enter (make : Disk → String → Except IoError Disk) (front back : String)
    (before : Machine) : Entered make front back before (enter make front back before) :=
  entered_enterFresh make front back _ before

theorem Entered.later {make : Disk → String → Except IoError Disk} {front back : String}
    {before : Machine} {result : Except (List String) String × Machine}
    (entered : Entered make front back before result) : Later before result.2 := by
  cases entered with
  | made unused made => exact ⟨Nat.le_succ_of_le unused, Nat.le_refl _, rfl⟩
  | refused causes used => exact ⟨used, Nat.le_refl _, rfl⟩

theorem entered_temporaryFile (front back : String) (before : Machine) :
    Entered (fun disk path => disk.createNew path) front back before
      (temporaryFile front back before) := entered_enter _ front back before

theorem entered_temporaryDir (front : String) (before : Machine) :
    Entered (fun disk path => disk.mkdir path) front "" before (temporaryDir front before) :=
  entered_enter _ front "" before

theorem later_temporaryFile (front back : String) : Keeps Later (temporaryFile front back) :=
  fun before => (entered_temporaryFile front back before).later

theorem later_temporaryDir (front : String) : Keeps Later (temporaryDir front) :=
  fun before => (entered_temporaryDir front before).later

theorem later_writeBatch (script : String) : Keeps Later (writeBatch script) := by
  refine (later_within _ (later_temporaryFile _ _)).bind fun path => ?_
  refine (later_orElseUndo (later_onDisk _) (later_discard path)).bind fun _ => ?_
  exact keeps_pure path

theorem later_runBatchScript (script : String) : Keeps Later (runBatchScript script) := by
  refine (later_writeBatch script).bind fun path => ?_
  refine (later_orElseUndo (later_runProcess _ _) (later_discard path)).bind fun captured => ?_
  exact (later_discard path).bind fun _ => keeps_pure captured

theorem later_startBatch (script : String) : Keeps Later (startBatch script) := by
  refine (later_writeBatch script).bind fun path => keeps_get fun before => ?_
  have launched := later_launch "cmd" ["/C", "start", "/B", path] [] before
  rcases ran : launch "cmd" ["/C", "start", "/B", path] [] before with ⟨outcome, after⟩
  rw [ran] at launched
  cases outcome <;> exact launched

theorem later_startBash (script : String) : Keeps Later (startBash script) := by
  refine keeps_get fun before => ?_
  have launched := later_launch "bash" ["-s", "-e"] (Text.encode script) before
  rcases ran : launch "bash" ["-s", "-e"] (Text.encode script) before with ⟨outcome, after⟩
  rw [ran] at launched
  cases outcome <;> exact launched

end Provision.Machine

namespace Provision.Handlers

open Machine Working

theorem later_settle (path : String) : Keeps Later (settle path) := later_onDisk _

theorem later_nextMountPoint : Keeps Later nextMountPoint :=
  keeps_get fun _ => ⟨Nat.le_refl _, Nat.le_succ _, rfl⟩

theorem request_eq (method address contentType : String) (body : Bytes) (machine : Machine) :
    request method address contentType body machine =
      (.ok (machine.network.send method address contentType body).1,
        { machine with network := (machine.network.send method address contentType body).2 }) := rfl

theorem grows_request (method address contentType : String) (body : Bytes) :
    Keeps Grows (request method address contentType body) :=
  keeps_get fun state => ⟨⟨Nat.le_refl _, Nat.le_refl _, rfl⟩, refl state.disk⟩

/-- A download asks the network and fills one file, whether it succeeds or not. -/
theorem keeps_fetch {related : Machine → Machine → Prop} [IsPreorder Machine related]
    {address target : String} (asks : Keeps related (request "GET" address "" []))
    (empties : ∀ context, Keeps related
      (onDisk (Disk.attempt context fun disk => disk.write target [])))
    (fills : ∀ context chunk, Keeps related
      (onDisk (Disk.attempt context fun disk => disk.append target chunk))) :
    Keeps related (fetch address target) := by
  refine asks.bind fun answer => ?_
  cases answer with
  | error error => exact keeps_throw _
  | ok response =>
    refine (empties _).bind fun _ => ?_
    refine (keeps_forIn (fun chunk _ => (fills _ chunk).bind fun _ => keeps_pure _) _ _).bind
      fun _ => ?_
    exact (keeps_throw _).when _ fun _ => keeps_pure _

theorem keeps_fetchRepeatedly {related : Machine → Machine → Prop} [IsPreorder Machine related]
    {address target : String} (fetches : Keeps related (fetch address target)) (more : Nat) :
    Keeps related (fetchRepeatedly address target more) := by
  induction more with
  | zero => exact fetches
  | succ more ih => exact fetches.tryCatch fun _ => ih

theorem grows_fetchRepeatedly (address target : String) (more : Nat) :
    Keeps Grows (fetchRepeatedly address target more) :=
  keeps_fetchRepeatedly (keeps_fetch (grows_request _ _ _ _)
    (fun _ => grows_onDisk (Disk.keeps_attempt _ fun _ _ => Disk.grows_write))
    fun _ _ => grows_onDisk (Disk.keeps_attempt _ fun _ _ => Disk.grows_append)) more

theorem later_freshBoundary : Keeps Later freshBoundary :=
  keeps_get fun _ => ⟨Nat.le_succ _, Nat.le_refl _, rfl⟩

theorem later_post (address path : String) : Keeps Later (post address path) := by
  refine (later_onDisk _).bind fun content => later_freshBoundary.bind fun boundary => ?_
  refine (later_of_grows (grows_request _ _ _ _)).bind fun answer => ?_
  cases answer with
  | error error => exact keeps_throw _
  | ok response => exact (keeps_throw _).when _ fun _ => keeps_pure _

end Provision.Handlers
