import Mathlib.Order.Defs.Unbundled
import Provision.Archive.Extract
import Provision.FileName
import Provision.Proofs.Machine.Work

/-! Requests that take nothing away from a disk. What was there stays what it is, a file, a directory
or a link to the same place, so that a path goes on leading where it led. -/

namespace Provision

/-- What a node is, whatever a file contains. -/
def Node.outline : Node → Node
  | .file .. => .file 0 [] false
  | other => other

theorem Node.outline_eq_dir {node : Node} (same : node.outline = Node.dir.outline) :
    node = .dir := by
  cases node <;> simp_all [Node.outline]

theorem Node.outline_eq_link {node : Node} {target : String}
    (same : node.outline = (Node.link target).outline) : node = .link target := by
  cases node <;> simp_all [Node.outline]

namespace Disk

/-- Whatever was on the first disk is on the second. -/
structure Grows (before after : Disk) : Prop where
  cwd : after.cwd = before.cwd
  kept : ∀ at_ node, before.get? at_ = some node →
    ∃ later, after.get? at_ = some later ∧ later.outline = node.outline

variable {before after disk : Disk} {at_ other : Location} {node : Node} {path : String}

instance : IsPreorder Disk Grows where
  refl _ := ⟨rfl, fun _ node found => ⟨node, found, rfl⟩⟩
  trans _ _ _ one two := by
    refine ⟨two.cwd.trans one.cwd, fun at_ node found => ?_⟩
    obtain ⟨between, middle, same⟩ := one.kept at_ node found
    obtain ⟨later, last, again⟩ := two.kept at_ between middle
    exact ⟨later, last, again.trans same⟩

theorem Grows.get?_dir (grows : Grows before after) (found : before.get? at_ = some .dir) :
    after.get? at_ = some .dir := by
  obtain ⟨later, last, same⟩ := grows.kept at_ _ found
  rw [last, Node.outline_eq_dir same]

theorem Grows.get?_link {target : String} (grows : Grows before after)
    (found : before.get? at_ = some (.link target)) : after.get? at_ = some (.link target) := by
  obtain ⟨later, last, same⟩ := grows.kept at_ _ found
  rw [last, Node.outline_eq_link same]

/-- A location that is not to be followed any further. -/
def Settled (disk : Disk) (at_ : Location) : Prop :=
  ∃ node, disk.get? at_ = some node ∧ ∀ target, node ≠ .link target

theorem Grows.settled (grows : Grows before after) (settled : before.Settled at_) :
    after.Settled at_ := by
  obtain ⟨node, found, plain⟩ := settled
  obtain ⟨later, last, same⟩ := grows.kept at_ node found
  refine ⟨later, last, ?_⟩
  rintro target rfl
  exact plain target (Node.outline_eq_link same.symm)

theorem get?_inside (inside : at_ ≠ []) (disk : Disk) :
    disk.get? at_ = (disk.entries.find? fun entry => entry.1 == at_).map Prod.snd := by
  rw [get?, if_neg]
  simpa using inside

theorem find?_replaced (entries : List (Location × Node)) (at_ key : Location) (node : Node) :
    (entries.map fun entry => if entry.1 == at_ then (at_, node) else entry).find?
        (fun entry => entry.1 == key) =
      (entries.find? fun entry => entry.1 == key).map
        fun entry => if entry.1 == at_ then (at_, node) else entry := by
  have keys : ∀ entry : Location × Node,
      (if entry.1 == at_ then (at_, node) else entry).1 = entry.1 := by
    intro entry
    split
    · rename_i same
      exact (eq_of_beq same).symm
    · rfl
  simp only [List.find?_map, Function.comp_def, keys]

theorem get?_put_self (inside : at_ ≠ []) : (disk.put at_ node).get? at_ = some node := by
  rw [get?_inside inside, put]
  split
  · rename_i present
    obtain ⟨entry, found⟩ := Option.isSome_iff_exists.mp (List.find?_isSome.mpr
      (List.any_eq_true.mp present))
    have key := List.find?_some found
    simp only [find?_replaced, found, Option.map_some, if_pos key]
  · rename_i absent
    have missing : (disk.entries.find? fun entry => entry.1 == at_) = none := by
      rw [List.find?_eq_none]
      intro entry member same
      exact absent (List.any_eq_true.mpr ⟨entry, member, same⟩)
    simp [List.find?_append, missing]

theorem get?_put_other (different : other ≠ at_) :
    (disk.put at_ node).get? other = disk.get? other := by
  by_cases inside : other = []
  · rw [inside]
    rfl
  rw [get?_inside inside, get?_inside inside, put]
  split
  · simp only [find?_replaced]
    cases found : disk.entries.find? fun entry => entry.1 == other with
    | none => rfl
    | some entry =>
      have key := List.find?_some found
      have kept : ¬ (entry.1 == at_) = true := by simpa [eq_of_beq key] using different
      simp only [Option.map_some, if_neg kept]
  · have elsewhere : (at_ == other) = false := by simpa using different.symm
    simp [List.find?_append, elsewhere]

theorem ne_nil_of_free (free : disk.get? at_ = none) : at_ ≠ [] := by
  rintro rfl
  cases free

theorem ne_nil_of_file {id : Nat} {bytes : Bytes} {executable : Bool}
    (found : disk.get? at_ = some (.file id bytes executable)) : at_ ≠ [] := by
  rintro rfl
  cases found

/-- A node may take the place of one of its kind, or an empty place. -/
theorem grows_put (allowed : ∀ old, disk.get? at_ = some old → node.outline = old.outline) :
    Grows disk (disk.put at_ node) where
  cwd := by
    unfold put
    split <;> rfl
  kept other old found := by
    by_cases same : other = at_
    · subst same
      by_cases inside : other = []
      · subst inside
        exact ⟨old, found, rfl⟩
      · exact ⟨node, get?_put_self inside, allowed old found⟩
    · exact ⟨old, (get?_put_other same).trans found, rfl⟩

theorem grows_put_new (free : disk.get? at_ = none) : Grows disk (disk.put at_ node) :=
  grows_put fun old found => by rw [free] at found; cases found

theorem grows_put_file {id other : Nat} {bytes others : Bytes} {executable permission : Bool}
    (found : disk.get? at_ = some (.file id bytes executable)) :
    Grows disk (disk.put at_ (.file other others permission)) := by
  apply grows_put
  intro old same
  rw [found] at same
  cases same
  rfl

theorem grows_addFile (free : disk.get? at_ = none) (bytes : Bytes) (executable : Bool) :
    Grows disk (disk.addFile at_ bytes executable) :=
  ⟨(grows_put_new free).cwd, (grows_put_new free).kept⟩

/-- Where a file is opened for writing there is nothing, or a file. -/
theorem openForWriting_cases {file : Option (Nat × Bytes × Bool)}
    (opened : disk.openForWriting path = .ok (at_, file)) :
    disk.get? at_ = file.map fun (id, bytes, executable) => .file id bytes executable := by
  unfold openForWriting at opened
  simp only [bind, Except.bind] at opened
  split at opened
  · cases opened
  · split at opened
    · cases opened
    · split at opened
      · cases opened
      · split at opened
        · rename_i free
          cases opened
          exact free
        · rename_i found
          cases opened
          exact found
        · cases opened

theorem grows_write {bytes : Bytes} {executable : Bool}
    (wrote : before.write path bytes executable = .ok after) : Grows before after := by
  unfold write at wrote
  rcases opened : before.openForWriting path with error | ⟨at_, _ | ⟨id, old, kept⟩⟩
  · rw [opened] at wrote
    cases wrote
  · rw [opened] at wrote
    cases wrote
    exact grows_addFile (openForWriting_cases opened) _ _
  · rw [opened] at wrote
    cases wrote
    exact grows_put_file (openForWriting_cases opened)

theorem grows_append {bytes : Bytes} (wrote : before.append path bytes = .ok after) :
    Grows before after := by
  unfold append at wrote
  rcases opened : before.openForWriting path with error | ⟨at_, _ | ⟨id, old, kept⟩⟩
  · rw [opened] at wrote
    cases wrote
  · rw [opened] at wrote
    cases wrote
    exact grows_addFile (openForWriting_cases opened) _ _
  · rw [opened] at wrote
    cases wrote
    exact grows_put_file (openForWriting_cases opened)

theorem locate_of_lookup {follow : Bool} (found : disk.lookup follow path = .ok (at_, node)) :
    disk.locate follow path = .ok at_ := by
  unfold lookup at found
  cases located : disk.locate follow path with
  | error error =>
    rw [located] at found
    cases found
  | ok there =>
    rw [located] at found
    simp only [bind, Except.bind] at found
    split at found
    · cases found
      rfl
    · cases found

theorem get?_of_lookup {follow : Bool} (found : disk.lookup follow path = .ok (at_, node)) :
    disk.get? at_ = some node := by
  have located := locate_of_lookup found
  unfold lookup at found
  rw [located] at found
  simp only [bind, Except.bind] at found
  split at found
  · rename_i there
    cases found
    exact there
  · cases found

/-- What a path names is where following its pieces ends. -/
theorem locate_eq_ok_iff {follow : Bool} :
    disk.locate follow path = .ok at_ ↔ checkPath path = .ok () ∧
      disk.walk follow maxLinks (disk.startOf path)
        (PathText.pieces path ++ if hasSlash path then ["."] else []) = .ok at_ := by
  unfold locate traced
  cases checkPath path with
  | error error => exact ⟨nofun, fun located => nomatch located.1⟩
  | ok done => exact ⟨fun walked => ⟨rfl, walked⟩, fun located => located.2⟩

theorem lookup_eq_ok_iff {follow : Bool} :
    disk.lookup follow path = .ok (at_, node) ↔
      disk.locate follow path = .ok at_ ∧ disk.get? at_ = some node := by
  refine ⟨fun found => ⟨locate_of_lookup found, get?_of_lookup found⟩, fun ⟨located, stands⟩ => ?_⟩
  simp only [lookup, located, bind, Except.bind, stands]

theorem grows_setExecutable {executable : Bool}
    (set : before.setExecutable path executable = .ok after) : Grows before after := by
  unfold setExecutable at set
  rcases found : before.lookup true path with error | ⟨at_, ⟨id, bytes, old⟩ | _ | target⟩
  · rw [found] at set
    cases set
  · rw [found] at set
    cases set
    exact grows_put_file (get?_of_lookup found)
  · rw [found] at set
    cases set
    exact refl before
  · rw [found] at set
    cases set
    exact refl before

/-- What is entered is new, and stands where the path says. -/
theorem mkdir_ok (made : before.mkdir path = .ok after) :
    ∃ parent name, before.locateEntry path = .ok (parent, some name) ∧
      before.get? (parent ++ [name]) = none ∧ after = before.put (parent ++ [name]) .dir := by
  unfold mkdir at made
  rcases entry : before.locateEntry path with error | ⟨parent, _ | name⟩
  · rw [entry] at made
    cases made
  · rw [entry] at made
    cases made
  · rw [entry] at made
    simp only [bind, Except.bind] at made
    split at made
    · cases made
    · rename_i free
      cases made
      exact ⟨parent, name, rfl, free, rfl⟩

theorem createNew_ok (made : before.createNew path = .ok after) :
    ∃ parent name, before.locateEntry path = .ok (parent, some name) ∧
      before.get? (parent ++ [name]) = none ∧
      after = before.addFile (parent ++ [name]) [] false := by
  unfold createNew at made
  rcases entry : before.locateEntry path with error | ⟨parent, _ | name⟩
  · rw [entry] at made
    cases made
  · rw [entry] at made
    cases made
  · rw [entry] at made
    simp only [bind, Except.bind] at made
    split at made
    · cases made
    · split at made
      · cases made
      · rename_i free
        cases made
        exact ⟨parent, name, rfl, free, rfl⟩

theorem grows_mkdir (made : before.mkdir path = .ok after) : Grows before after := by
  obtain ⟨parent, name, -, free, rfl⟩ := mkdir_ok made
  exact grows_put_new free

/-- Making directories makes one after the other, each for the path or for a path above it. -/
theorem mkdirsFrom_induction {related : Disk → Disk → Prop} [IsPreorder Disk related]
    {along : String → Prop}
    (up : ∀ {path parent}, along path → PathText.parent? path = some parent → along parent)
    (makes : ∀ {before after path}, along path → before.mkdir path = .ok after → related before after)
    (depth : Nat) (starts : along path) : related before (mkdirsFrom depth before path).2 := by
  fun_induction mkdirsFrom depth before path with
  | case1 => exact refl _
  | case2 depth path named after made => exact makes starts made
  | case3 => exact refl _
  | case4 path named error made missing depth parent is failure middle above ih =>
    rw [above] at ih
    exact ih (up starts is)
  | case5 path named error made missing depth parent is middle above after last ih =>
    rw [above] at ih
    exact Trans.trans (ih (up starts is)) (makes starts last)
  | case6 path named error made missing depth parent is middle above failure last ih =>
    rw [above] at ih
    exact ih (up starts is)
  | case7 => exact refl _

theorem grows_mkdirs (before : Disk) (path : String) : Grows before (before.mkdirs path).2 :=
  mkdirsFrom_induction (fun _ _ => trivial) (fun _ => grows_mkdir) _ (trivial : (fun _ => True) path)

open Working

theorem attempt_ok {request : Disk → Except IoError Disk} (context : String)
    (went : request before = .ok after) : attempt context request before = (.ok (), after) := by
  rw [attempt, get_bind, went]
  rfl

theorem keeps_attempt {related : Disk → Disk → Prop} [Std.Refl related]
    {request : Disk → Except IoError Disk} (context : String)
    (went : ∀ before after, request before = .ok after → related before after) :
    Keeps related (attempt context request) := by
  refine keeps_get fun before => ?_
  rcases outcome : request before with error | after
  · exact refl before
  · exact went before after outcome

theorem inquire_eq {α : Type} (context : String) (question : Disk → Except IoError α)
    (disk : Disk) :
    inquire context question disk =
      ((question disk).mapError fun error => [context, error.message], disk) := by
  unfold inquire
  rw [get_bind]
  rcases question disk with error | answer <;> rfl

/-- What was made before something is in the way stays. -/
theorem makeDirs_eq (path : String) (disk : Disk) :
    makeDirs path disk = ((disk.mkdirs path).1.mapError fun error =>
      ["cannot create directory " ++ path, error.message], (disk.mkdirs path).2) := by
  unfold makeDirs
  rw [get_bind]
  rcases disk.mkdirs path with ⟨error | done, after⟩ <;> rfl

theorem makeDirs_after {outcome : Except (List String) Unit}
    (made : makeDirs path before = (outcome, after)) : (before.mkdirs path).2 = after := by
  rw [makeDirs_eq] at made
  exact congrArg Prod.snd made

theorem keeps_makeDirs {related : Disk → Disk → Prop}
    (makes : ∀ before, related before (before.mkdirs path).2) : Keeps related (makeDirs path) := by
  intro before
  rw [makeDirs_eq]
  exact makes before

theorem keeps_inquire {related : Disk → Disk → Prop} [Std.Refl related] {α : Type} (context : String)
    (question : Disk → Except IoError α) : Keeps related (inquire context question) := by
  intro before
  rw [inquire_eq]
  exact refl before

end Disk

namespace Archive

open Disk Working

variable {related : Disk → Disk → Prop} {data : ByteArray} {target : String}

theorem keeps_writeFile [IsPreorder Disk related] {path : String}
    (writes : ∀ {before after} bytes, before.write path bytes = .ok after → related before after)
    (sets : ∀ {before after} executable, before.setExecutable path executable = .ok after →
      related before after)
    (bytes : Bytes) (flaw : Option Flaw) (executable : Option Bool) :
    Keeps related (writeFile path bytes flaw executable) := by
  refine Keeps.bind (keeps_attempt _ fun _ _ => writes bytes) fun _ => ?_
  cases flaw with
  | some flaw => exact keeps_throw _
  | none =>
    cases executable with
    | none => exact keeps_pure _
    | some executable =>
      refine keeps_get fun before => ?_
      rcases set : before.setExecutable path executable with error | after
      · exact refl before
      · exact sets executable set

/-- Only an entry with an enclosed name makes any request, for the path of the entry or the parent of
that. -/
theorem keeps_extractEntry [IsPreorder Disk related] {entry : Entry}
    (makes : isEnclosed entry.name = true → ∀ path, (path = PathText.join target entry.name ∨
      PathText.parent? (PathText.join target entry.name) = some path) → Keeps related (makeDirs path))
    (writes : isEnclosed entry.name = true → ∀ bytes flaw executable,
      Keeps related (writeFile (PathText.join target entry.name) bytes flaw executable)) :
    Keeps related (extractEntry data target entry) := by
  unfold extractEntry
  split
  · exact keeps_throw _
  · rename_i contents _
    cases enclosed : isEnclosed entry.name with
    | false => exact keeps_throw _
    | true =>
      have along := makes enclosed
      have fills := writes enclosed (contents ()).1 (contents ()).2 entry.executable
      simp only [Bool.not_true, Bool.false_eq_true, if_false]
      split
      · exact (along _ (.inl rfl)).bind fun _ => keeps_pure 0
      · split
        · rename_i parent above
          exact (along parent (.inr above)).bind fun _ => fills.bind fun _ => keeps_pure 1
        · exact fills.bind fun _ => keeps_pure 1

theorem keeps_extractAll [IsPreorder Disk related] {entries : List Entry}
    (each : ∀ entry ∈ entries, Keeps related (extractEntry data target entry)) :
    Keeps related (extractAll data target entries) := by
  induction entries with
  | nil => exact keeps_pure 0
  | cons entry rest ih =>
    have others := ih fun other member => each other (List.mem_cons_of_mem entry member)
    exact (each entry List.mem_cons_self).bind fun _ => others.bind fun _ => keeps_pure _

theorem grows_extractEntry (data : ByteArray) (target : String) (entry : Entry) :
    Keeps Grows (extractEntry data target entry) :=
  keeps_extractEntry (fun _ _ _ => keeps_makeDirs fun _ => grows_mkdirs _ _)
    fun _ => keeps_writeFile (fun _ => grows_write) fun _ => grows_setExecutable

theorem grows_extract (archive target : String) : Keeps Grows (extract archive target) := by
  have asked : Keeps Grows (inquire ("cannot open " ++ archive) (readArchive archive)) :=
    keeps_inquire _ _
  refine asked.bind fun data => ?_
  split
  · exact keeps_throw _
  · exact keeps_extractAll fun entry _ => grows_extractEntry data target entry

end Archive

end Provision
