import Mathlib.Tactic.ByContra
import Provision.Proofs.Disk.Draft
import Provision.Proofs.Disk.Spelling
import Provision.Proofs.Machine.Temporary

/-! Work that makes something temporary for itself. What was made can be deleted again until the work is
done, and then the disk is what it was before the work began; if it is not deleted, something is left. -/

namespace Provision.Machine

open Working Disk

variable {α : Type} {before middle after : Machine} {disk : Disk} {work : Work α}
  {front back context path name : String} {parent : Location} {causes : List String}
  {make : Disk → String → Except IoError Disk}

/-- A path under a temporary name whose number was handed out between the two moments. -/
def Temporary (before after : Machine) (path : String) : Prop :=
  ∃ front number back, '/' ∉ front.toList ∧ '/' ∉ back.toList ∧ before.names ≤ number ∧
    number < after.names ∧ path = before.temporaryPath (front ++ randomPart number ++ back)

theorem Temporary.later (temporary : Temporary before middle path) (later : middle.Later after) :
    Temporary before after path := by
  obtain ⟨front, number, back, ahead, behind, unused, used, spelled⟩ := temporary
  exact ⟨front, number, back, ahead, behind, unused, Nat.lt_of_lt_of_le used later.names, spelled⟩

theorem Temporary.of_names_eq (temporary : Temporary before middle path)
    (names : after.names = middle.names) : Temporary before after path := by
  rwa [Temporary, names]

theorem Temporary.bare (temporary : Temporary before after path) : hasSlash path = false := by
  obtain ⟨front, number, back, ahead, behind, -, -, rfl⟩ := temporary
  exact hasSlash_join (plain_temporary ahead behind number) _

namespace Entered

theorem temporary (ahead : '/' ∉ front.toList) (behind : '/' ∉ back.toList)
    (entered : Entered make front back before (.ok path, after)) : Temporary before after path := by
  cases entered with
  | made unused _ => exact ⟨front, _, back, ahead, behind, unused, Nat.lt_succ_self _, rfl⟩

theorem disk_eq (entered : Entered make front back before (.error causes, after)) :
    after.disk = before.disk := by
  cases entered
  rfl

theorem launcher_eq {outcome : Except (List String) String}
    (entered : Entered make front back before (outcome, after)) :
    after.launcher = before.launcher := by
  cases entered <;> rfl

theorem bare (ahead : '/' ∉ front.toList) (behind : '/' ∉ back.toList)
    (entered : Entered make front back before (.ok path, after)) :
    hasSlash path = false ∧ make before.disk path = .ok after.disk := by
  cases entered with
  | made _ made => exact ⟨hasSlash_join (plain_temporary ahead behind _) _, made⟩

theorem draft (ahead : '/' ∉ front.toList) (behind : '/' ∉ back.toList)
    (entered : Entered (fun disk path => disk.createNew path) front back before (.ok path, after)) :
    ∃ parent name, Draft before.disk path parent name after.disk := by
  obtain ⟨bare, made⟩ := entered.bare ahead behind
  exact draft_createNew bare made

theorem nest (tree : Tree before.disk) (ahead : '/' ∉ front.toList) (behind : '/' ∉ back.toList)
    (entered : Entered (fun disk path => disk.mkdir path) front back before (.ok path, after)) :
    ∃ parent name, Nest before.disk path parent name after.disk := by
  obtain ⟨bare, made⟩ := entered.bare ahead behind
  exact nest_mkdir tree bare made

end Entered

/-- The first name that is tried is taken if it can be. -/
theorem enter_of_ok
    (made : make before.disk (before.temporaryPath (front ++ randomPart before.names ++ back)) =
      .ok disk) :
    enter make front back before =
      (.ok (before.temporaryPath (front ++ randomPart before.names ++ back)),
        { before with names := before.names + 1, disk }) := by
  rw [enter, get_bind, enterFresh, get_bind]
  simp only [made]
  rfl

theorem within_of_ok {value : α} (context : String) (went : work before = (.ok value, after)) :
    within context work before = (.ok value, after) := tryCatch_ok _ went

theorem within_of_error (context : String) (failed : work before = (.error causes, after)) :
    within context work before = (.error (context :: causes), after) := tryCatch_error _ failed

theorem orElseUndo_of_ok {value : α} (undo : Work Unit) (went : work before = (.ok value, after)) :
    orElseUndo work undo before = (.ok value, after) := tryCatch_ok _ went

/-- Whatever comes of the undoing, the failure is that of the work. -/
theorem orElseUndo_of_error (undo : Work Unit) (failed : work before = (.error causes, middle)) :
    orElseUndo work undo before = (.error causes, (undo middle).2) := by
  have undone : (tryCatch undo fun _ => pure () : Work Unit) middle = (.ok (), (undo middle).2) := by
    rcases ran : undo middle with ⟨_ | _, later⟩
    · exact tryCatch_error _ ran
    · exact tryCatch_ok _ ran
  rw [orElseUndo, tryCatch_error _ failed, bind_ok _ undone]
  rfl

theorem orElseUndo_error {undo : Work Unit}
    (failed : orElseUndo work undo before = (.error causes, after)) :
    ∃ middle, work before = (.error causes, middle) ∧ after = (undo middle).2 := by
  obtain ⟨others, middle, first, _⟩ := of_tryCatch_error failed
  rw [orElseUndo_of_error undo first] at failed
  cases failed
  exact ⟨middle, first, rfl⟩

theorem onDisk_attempt {request : Disk → Except IoError Disk} (context : String)
    (went : request middle.disk = .ok disk) :
    onDisk (attempt context request) middle = (.ok (), { middle with disk }) := by
  rw [onDisk_eq, attempt_ok context went]

theorem settle_eq {resolved : String} (found : middle.disk.canonical path = .ok resolved) :
    Handlers.settle path middle = (.ok resolved, middle) := by
  rw [Handlers.settle, onDisk_eq, canonicalPath, inquire_eq, found]
  rfl

theorem discard_eq (path : String) (machine : Machine) :
    discard path machine =
      (.ok (), { machine with disk := (Disk.delete path machine.disk).2 }) := by
  have deletes := onDisk_eq (Disk.delete path) machine
  rcases outcome : (Disk.delete path machine.disk).1 with causes | _
  · exact tryCatch_error _ (outcome ▸ deletes)
  · exact tryCatch_ok _ (outcome ▸ deletes)

theorem restored_discard (deleted : ∃ gone, Disk.delete path middle.disk = (.ok (), gone) ∧
    Restored disk gone) : Restored disk (discard path middle).2.disk := by
  obtain ⟨gone, deleted, restored⟩ := deleted
  rwa [discard_eq, deleted]

end Provision.Machine

namespace Provision.Machine

open Working Disk

variable {before after : Machine} {path name : String} {parent : Location}

/-- Under a temporary name that was handed out in between there was nothing, and now there is something. -/
def Leftover (before after : Machine) (path : String) : Prop :=
  Temporary before after path ∧ ∃ parent name,
    before.disk.locateEntry path = .ok (parent, some name) ∧
    before.disk.get? (parent ++ [name]) = none ∧ (after.disk.get? (parent ++ [name])).isSome = true

theorem Leftover.names_lt (leftover : Leftover before after path) : before.names < after.names := by
  obtain ⟨⟨_, number, _, _, _, unused, used, _⟩, _⟩ := leftover
  exact Nat.lt_of_le_of_lt unused used

theorem Leftover.not_restored (leftover : Leftover before after path) :
    ¬ Restored before.disk after.disk := by
  intro restored
  obtain ⟨-, parent, name, -, free, stands⟩ := leftover
  have same : after.disk.get? (parent ++ [name]) = before.disk.get? (parent ++ [name]) := by
    rw [restored]
    rfl
  rw [same, free] at stands
  cases stands

theorem leftover_of_draft (temporary : Temporary before after path)
    (draft : Draft before.disk path parent name after.disk) : Leftover before after path := by
  obtain ⟨id, bytes, executable, file⟩ := draft.file
  refine ⟨temporary, parent, name, locateEntry_eq_ok_iff.mpr draft.enters, draft.free _ rfl, ?_⟩
  rw [file]
  rfl

/-- What is entered under temporary names is entered in one directory. -/
theorem parent_eq_of_temporary {other entered : String} {elsewhere : Location}
    (first : Temporary before after path) (second : Temporary before after other)
    (enters : before.disk.EntersAt path parent name)
    (others : before.disk.EntersAt other elsewhere entered) : elsewhere = parent := by
  let base := PathText.join (pathOf before.disk.cwd) before.temporaryDirectory
  have ways : ∀ {path parent name}, Temporary before after path →
      before.disk.EntersAt path parent name →
        ∃ left, before.disk.Through maxLinks (before.disk.startOf base) (PathText.pieces base) left
          parent := by
    rintro path parent name ⟨front, number, back, ahead, behind, -, -, rfl⟩ enters
    have plain := plain_temporary ahead behind number
    have relative : PathText.isAbsolute (front ++ randomPart number ++ back) = false := by
      rw [PathText.isAbsolute, beq_eq_false_iff_ne]
      exact fun slash => plain.single (List.mem_of_mem_head? slash)
    have nonempty : base ≠ "" := join_ne_empty (pathOf_ne_empty _)
    have joined := PathText.pieces_join nonempty relative
    obtain ⟨-, -, way, left, pieces, through⟩ := enters
    have start : before.disk.startOf (before.temporaryPath (front ++ randomPart number ++ back)) =
        before.disk.startOf base := by
      rw [startOf, startOf, temporaryPath, joined.2]
    rw [temporaryPath, joined.1, pieces_single plain.nonempty plain.single] at pieces
    obtain ⟨same, -⟩ := List.append_inj' pieces rfl
    exact ⟨left, start ▸ same ▸ through⟩
  obtain ⟨_, one⟩ := ways first enters
  obtain ⟨_, two⟩ := ways second others
  exact two.there_eq one

/-- All that was made in between is what this absolute path leads to, and what it holds. -/
inductive Owned (before after : Machine) : String → Prop where
  | made {places : Location → Prop} {path name : String} {parent : Location} {node : Node}
    (temporary : Temporary before after path)
    (added : Added places before.disk path parent name after.disk)
    (narrow : ∀ other, places (parent ++ [other]) → other = name)
    (stands : after.disk.get? (parent ++ [name]) = some node)
    (plain : ∀ target, node ≠ .link target) : Owned before after (pathOf (parent ++ [name]))

/-- Whatever new thing a temporary name leads to is owned. -/
theorem Owned.canonical_eq {resolved : String} (owned : Owned before after resolved)
    (leftover : Leftover before after path) : after.disk.canonical path = .ok resolved := by
  obtain @⟨places, own, name, parent, node, temporary, added, narrow, stands, plain⟩ := owned
  obtain ⟨handed, elsewhere, entered, located, free, new⟩ := leftover
  have enters := locateEntry_eq_ok_iff.mp located
  obtain rfl := parent_eq_of_temporary temporary handed added.enters enters
  have inside : places (elsewhere ++ [entered]) := by
    by_contra outside
    rw [added.changed.get?_eq outside, free] at new
    cases new
  obtain rfl := narrow entered inside
  exact ((added.changed.grows added.free).entersAt enters).canonical handed.bare stands plain

/-- Work that gives the disk back when it fails, and otherwise names what it leaves behind. -/
def Tidy (work : Work String) (before : Machine) : Prop :=
  (∃ causes after, work before = (.error causes, after) ∧ Restored before.disk after.disk) ∨
    ∃ resolved after, work before = (.ok resolved, after) ∧ Owned before after resolved

theorem tidy_of_refused {work : Work String} {causes : List String}
    (failed : work before = (.error causes, after)) (same : after.disk = before.disk) :
    Tidy work before := .inl ⟨causes, after, failed, restored_of_eq same⟩

theorem Tidy.restored {work : Work String} {causes : List String} (tidy : Tidy work before)
    (failed : work before = (.error causes, after)) : Restored before.disk after.disk := by
  rcases tidy with ⟨_, _, same, restored⟩ | ⟨_, _, went, -⟩
  · rw [failed] at same
    cases same
    exact restored
  · rw [failed] at went
    cases went

end Provision.Machine
