import Provision.Disk.Calls

/-! What a path leads to depends on the shape of a disk alone: which files, directories and links
there are, not what the files contain. -/

namespace Provision

/-- A node without what a file contains. -/
def Node.shape : Node → Node
  | .file id _ executable => .file id [] executable
  | other => other

namespace Disk

/-- The shape of what stands at a location. -/
def shapeAt (disk : Disk) (at_ : Location) : Option Node := (disk.get? at_).map Node.shape

/-- Disks that differ at most in what their files contain and in who has locks. -/
structure Alike (first second : Disk) : Prop where
  cwd : first.cwd = second.cwd
  fresh : first.fresh = second.fresh
  shapes : ∀ at_, first.shapeAt at_ = second.shapeAt at_

variable {first second third : Disk}

theorem Alike.refl (disk : Disk) : Alike disk disk := ⟨rfl, rfl, fun _ => rfl⟩

theorem Alike.symm (alike : Alike first second) : Alike second first :=
  ⟨alike.cwd.symm, alike.fresh.symm, fun at_ => (alike.shapes at_).symm⟩

theorem Alike.trans (before : Alike first second) (after : Alike second third) :
    Alike first third :=
  ⟨before.cwd.trans after.cwd, before.fresh.trans after.fresh,
    fun at_ => (before.shapes at_).trans (after.shapes at_)⟩

theorem Alike.get?_none (alike : Alike first second) {at_ : Location}
    (missing : first.get? at_ = none) : second.get? at_ = none := by
  have same := alike.shapes at_
  simpa [shapeAt, missing] using same.symm

theorem Alike.get?_dir (alike : Alike first second) {at_ : Location}
    (found : first.get? at_ = some .dir) : second.get? at_ = some .dir := by
  have same := alike.shapes at_
  cases other : second.get? at_ with
  | none => simp [shapeAt, found, other] at same
  | some node => cases node <;> simp_all [shapeAt, Node.shape]

theorem Alike.get?_link (alike : Alike first second) {at_ : Location} {target : String}
    (found : first.get? at_ = some (.link target)) : second.get? at_ = some (.link target) := by
  have same := alike.shapes at_
  cases other : second.get? at_ with
  | none => simp [shapeAt, found, other] at same
  | some node => cases node <;> simp_all [shapeAt, Node.shape]

theorem Alike.get?_file (alike : Alike first second) {at_ : Location} {id : Nat} {bytes : Bytes}
    {executable : Bool} (found : first.get? at_ = some (.file id bytes executable)) :
    ∃ others, second.get? at_ = some (.file id others executable) := by
  have same := alike.shapes at_
  cases other : second.get? at_ with
  | none => simp [shapeAt, found, other] at same
  | some node => cases node <;> simp_all [shapeAt, Node.shape]

/-- A walk looks at no contents. -/
theorem Alike.walk (alike : Alike first second) (follow : Bool) (links : Nat) (here : Location)
    (pieces : List String) :
    first.walk follow links here pieces = second.walk follow links here pieces := by
  fun_induction Disk.walk first follow links here pieces with
  | case1 => rw [Disk.walk]
  | case2 links here piece rest dot ih => rw [ih, Disk.walk.eq_2, if_pos dot]
  | case3 links here piece rest plain up ih =>
    rw [ih, Disk.walk.eq_2, if_neg plain, if_pos up]
  | case4 links here piece rest plain down long =>
    rw [Disk.walk, if_neg plain, if_neg down, if_pos long]
  | case5 links here piece rest plain down fits missing last =>
    rw [Disk.walk, if_neg plain, if_neg down, if_neg fits, alike.get?_none missing]
    exact (if_pos last).symm
  | case6 links here piece rest plain down fits missing last =>
    rw [Disk.walk, if_neg plain, if_neg down, if_neg fits, alike.get?_none missing]
    exact (if_neg last).symm
  | case7 links here piece rest plain down fits found ih =>
    rw [ih, Disk.walk.eq_2 _ _ _ _ piece, if_neg plain, if_neg down, if_neg fits,
      alike.get?_dir found]
  | case8 links here piece rest plain down fits id bytes executable found last =>
    obtain ⟨others, same⟩ := alike.get?_file found
    rw [Disk.walk, if_neg plain, if_neg down, if_neg fits, same]
    exact (if_pos last).symm
  | case9 links here piece rest plain down fits id bytes executable found last =>
    obtain ⟨others, same⟩ := alike.get?_file found
    rw [Disk.walk, if_neg plain, if_neg down, if_neg fits, same]
    exact (if_neg last).symm
  | case10 links here piece rest plain down fits target found kept =>
    rw [Disk.walk, if_neg plain, if_neg down, if_neg fits, alike.get?_link found]
    exact (if_pos kept).symm
  | case11 here piece rest plain down fits target found followed =>
    rw [Disk.walk, if_neg plain, if_neg down, if_neg fits, alike.get?_link found]
    exact (if_neg followed).symm
  | case12 here piece rest plain down fits target found followed links empty =>
    rw [Disk.walk, if_neg plain, if_neg down, if_neg fits, alike.get?_link found]
    simp only [followed, empty]
    rfl
  | case13 here piece rest plain down fits target found followed links full start tail ih =>
    rw [ih, Disk.walk.eq_2 _ _ _ _ piece, if_neg plain, if_neg down, if_neg fits,
      alike.get?_link found]
    simp only [followed, full]
    rfl

theorem Alike.startOf (alike : Alike first second) (path : String) :
    first.startOf path = second.startOf path := by
  unfold Disk.startOf
  rw [alike.cwd]

theorem Alike.locate (alike : Alike first second) (follow : Bool) (path : String) :
    first.locate follow path = second.locate follow path := by
  unfold Disk.locate Disk.traced
  simp only [alike.startOf, alike.walk]

theorem Alike.locateEntry (alike : Alike first second) (path : String) :
    first.locateEntry path = second.locateEntry path := by
  unfold Disk.locateEntry
  simp only [alike.startOf, alike.walk]

/-- Where a path would be opened for writing, and which file is there. -/
def target (disk : Disk) (path : String) : Except IoError (Location × Option Nat) :=
  (disk.openForWriting path).map fun found => (found.1, found.2.map Prod.fst)

theorem target_eq (disk : Disk) (path : String) :
    disk.target path =
      match disk.locateEntry path with
      | .error error => .error error
      | .ok (_, name) =>
        if name.isNone || hasSlash path then .error .isDirectory
        else
          match disk.locate true path with
          | .error error => .error error
          | .ok at_ =>
            match disk.shapeAt at_ with
            | none => .ok (at_, none)
            | some (.file id _ _) => .ok (at_, some id)
            | some _ => .error .isDirectory := by
  unfold target openForWriting
  rcases disk.locateEntry path with error | ⟨parent, name⟩
  · rfl
  · cases closed : name.isNone || hasSlash path with
    | true => simp only [bind, Except.bind, closed]; rfl
    | false =>
      simp only [bind, Except.bind, closed]
      rcases disk.locate true path with error | at_
      · rfl
      · rcases found : disk.get? at_ with _ | ⟨id, bytes, executable⟩ | _ | link <;>
          simp [shapeAt, found, Node.shape, Except.map, pure, Except.pure, throw, throwThe,
            MonadExceptOf.throw]

theorem Alike.target (alike : Alike first second) (path : String) :
    first.target path = second.target path := by
  simp only [target_eq, alike.locateEntry path, alike.locate true path, alike.shapes]

/-- The file that a path leads to. -/
def leads (disk : Disk) (path : String) : Option Nat :=
  match disk.target path with
  | .ok (_, file) => file
  | .error _ => none

theorem Alike.leads (alike : Alike first second) (path : String) :
    first.leads path = second.leads path := by
  unfold Disk.leads
  rw [alike.target]

theorem openOrCreate_eq (disk : Disk) (path : String) :
    disk.openOrCreate path =
      match disk.target path with
      | .error error => .error error
      | .ok (_, some id) => .ok (id, disk)
      | .ok (at_, none) => .ok (disk.fresh, disk.addFile at_ [] false) := by
  unfold openOrCreate target
  rcases disk.openForWriting path with error | ⟨at_, _ | ⟨id, bytes, executable⟩⟩ <;> rfl

/-- A file that is opened by name is the one that the name leads to, and nothing changes, or else it
is a new one. -/
theorem openOrCreate_cases {disk after : Disk} {path : String} {file : Nat}
    (opened : disk.openOrCreate path = .ok (file, after)) :
    (disk.leads path = some file ∧ after = disk) ∨
      (disk.leads path = none ∧ after.locked = disk.locked) := by
  rw [openOrCreate_eq] at opened
  unfold leads
  rcases aimed : disk.target path with error | ⟨at_, _ | id⟩
  · rw [aimed] at opened
    cases opened
  · rw [aimed] at opened
    cases opened
    right
    refine ⟨rfl, ?_⟩
    unfold addFile put
    split <;> rfl
  · rw [aimed] at opened
    cases opened
    exact .inl ⟨rfl, rfl⟩

theorem openOrCreate_locked {disk after : Disk} {path : String} {file : Nat}
    (opened : disk.openOrCreate path = .ok (file, after)) : after.locked = disk.locked := by
  rcases openOrCreate_cases opened with ⟨-, rfl⟩ | ⟨-, kept⟩
  · rfl
  · exact kept

theorem Alike.openOrCreate (alike : Alike first second) {path : String} {file : Nat} {after : Disk}
    (opened : first.openOrCreate path = .ok (file, after)) :
    ∃ other, second.openOrCreate path = .ok (file, other) := by
  rw [openOrCreate_eq, alike.target, alike.fresh] at opened
  rw [openOrCreate_eq]
  rcases aimed : second.target path with error | ⟨at_, _ | id⟩
  · rw [aimed] at opened
    cases opened
  · rw [aimed] at opened
    cases opened
    exact ⟨_, rfl⟩
  · rw [aimed] at opened
    cases opened
    exact ⟨_, rfl⟩

theorem unlink_locked {disk after : Disk} {path : String}
    (removed : disk.unlink path = .ok after) : after.locked = disk.locked := by
  unfold unlink at removed
  simp only [bind, Except.bind] at removed
  split at removed
  · cases removed
  · split at removed
    · cases removed
    · split at removed
      · cases removed
      · cases removed
      · split at removed
        · cases removed
        · cases removed
          rfl

theorem alike_locked (disk : Disk) (locked : List Nat) : Alike { disk with locked } disk :=
  ⟨rfl, rfl, fun _ => rfl⟩

theorem alike_tryLock {disk after : Disk} {file : Nat} (taken : disk.tryLock file = some after) :
    Alike after disk := by
  unfold tryLock at taken
  split at taken
  · cases taken
  · cases taken
    exact alike_locked disk _

theorem shape_rewritten (node : Node) (file : Nat) (bytes : Bytes) :
    (node.rewritten file bytes).shape = node.shape := by
  cases node <;> rfl

/-- Writing to a file changes no shape. -/
theorem alike_rewrite (disk : Disk) (file : Nat) (bytes : Bytes) :
    Alike (disk.rewrite file bytes) disk := by
  refine ⟨rfl, rfl, ?_⟩
  intro at_
  unfold shapeAt get?
  cases at_.isEmpty with
  | true => rfl
  | false =>
    have shapes : (fun entry : Location × Node => (entry.2.rewritten file bytes).shape) =
        fun entry => entry.2.shape :=
      funext fun entry => shape_rewritten entry.2 file bytes
    simp only [rewrite, List.find?_map, Option.map_map, Bool.false_eq_true, if_false,
      Function.comp_def, shapes]

end Disk

end Provision
