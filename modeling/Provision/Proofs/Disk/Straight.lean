import Provision.Proofs.Disk.Draft
import Provision.Proofs.Disk.Finding

/-! Disks without symbolic links. There a path leads where its text says, so directories that are made for a
path that never goes back up stand above it. What a path leads to, and what becomes of directories that are
made, does not depend on the order in which entries are listed. -/

namespace Provision.Disk

variable {disk before middle after : Disk} {here there at_ : Location} {node : Node}
  {path source target name base place : String}

open Working

theorem isDir_of_mkdir (made : before.mkdir path = .ok after) : after.isDir path = true := by
  have grows := grows_mkdir made
  obtain ⟨parent, name, located, free, rfl⟩ := mkdir_ok made
  have enters := grows.entersAt (locateEntry_eq_ok_iff.mp located)
  exact isDir_iff.mpr ⟨_, enters.lookup_dir (get?_put_self (by simp))⟩

/-- Where directories were made without an error there is one. -/
theorem isDir_of_mkdirs (nonempty : path ≠ "") (made : (before.mkdirs path).1 = .ok ()) :
    (before.mkdirs path).2.isDir path = true := by
  have named : ¬ path.isEmpty = true := by simpa using nonempty
  have settled : ∀ {disk : Disk} {error : IoError},
      (if disk.isDir path = true then Except.ok () else .error error) = .ok () →
        disk.isDir path = true := by
    intro disk error went
    by_contra other
    rw [if_neg other] at went
    cases went
  unfold mkdirs mkdirsFrom at made ⊢
  rw [if_neg named] at made ⊢
  rcases first : before.mkdir path with error | after
  · rw [first] at made
    dsimp only at made ⊢
    split at made
    · rename_i other
      rw [if_pos other]
      exact settled made
    · rename_i missing
      rw [if_neg missing]
      split at made
      · rename_i depth parent deep above
        rcases higher : mkdirsFrom depth before parent with ⟨failure | done, middle⟩
        · rw [higher] at made
          cases made
        · rw [higher] at made
          dsimp only at made ⊢
          rcases again : middle.mkdir path with failure | after
          · rw [again] at made
            exact settled made
          · exact isDir_of_mkdir again
      · cases made
  · exact isDir_of_mkdir first

/-- Only the directory itself has to be made where the one above is there. -/
theorem EntersAt.mkdirs_eq {parent : Location} (enters : before.EntersAt path parent name) :
    before.mkdirs path = match before.get? (parent ++ [name]) with
      | none => (.ok (), before.put (parent ++ [name]) .dir)
      | some .dir => (.ok (), before)
      | some _ => (if before.isDir path then .ok () else .error .alreadyExists, before) := by
  have named : ¬ path.isEmpty = true := by
    intro empty
    rw [String.isEmpty_iff] at empty
    rw [empty] at enters
    cases enters.valid
  unfold mkdirs mkdirsFrom
  rw [if_neg named]
  rcases found : before.get? (parent ++ [name]) with _ | node
  · rw [enters.mkdir found]
  · have taken : before.mkdir path = .error .alreadyExists := by
      simp only [Disk.mkdir, locateEntry_eq_ok_iff.mpr enters, bind, Except.bind, found]
      rfl
    rw [taken]
    dsimp only
    rw [if_pos (by decide)]
    cases node with
    | dir => rw [if_pos (isDir_iff.mpr ⟨_, enters.lookup_dir found⟩)]
    | file id bytes executable => rfl
    | link target => rfl

theorem checkPath_of_mkdirs (nonempty : path ≠ "") (made : (before.mkdirs path).1 = .ok ()) :
    checkPath path = .ok () := by
  obtain ⟨at_, found⟩ := isDir_iff.mp (isDir_of_mkdirs nonempty made)
  exact (locate_eq_ok_iff.mp (locate_of_lookup found)).1

/-- There are no symbolic links. -/
def Unlinked (disk : Disk) : Prop := ∀ at_ target, disk.get? at_ ≠ some (.link target)

theorem unlinked_of_entries (each : ∀ entry ∈ disk.entries, ∀ target, entry.2 ≠ .link target) :
    disk.Unlinked := by
  intro at_ target found
  by_cases root : at_ = []
  · rw [root] at found
    cases found
  · exact each _ (mem_of_get? root found) target rfl

namespace Leads

variable {place : Location} (leads : disk.Leads base place)
include leads

theorem directory (formed : disk.WellFormed) : disk.get? place = some .dir := by
  obtain ⟨left, through⟩ := leads.way
  exact through.directory formed.tree (formed.toRooted.start base)

theorem grows (grows : Grows disk after) : after.Leads base place := by
  obtain ⟨left, through⟩ := leads.way
  have start : after.startOf base = disk.startOf base := by
    unfold startOf
    rw [grows.cwd]
  exact ⟨leads.nonempty, left, start ▸ grows.through through⟩

/-- How a path goes on from the directory. -/
theorem goesOn (plain : Plain name) :
    disk.startOf (PathText.join base name) = disk.startOf base ∧
      PathText.pieces (PathText.join base name) = PathText.pieces base ++ [name] := by
  obtain ⟨spelled, start⟩ := PathText.pieces_join leads.nonempty (isAbsolute_of_plain plain)
  rw [pieces_single plain.nonempty plain.single] at spelled
  exact ⟨by rw [startOf, startOf, start], spelled⟩

theorem enters (plain : Plain name) (proper : Proper name)
    (valid : checkPath (PathText.join base name) = .ok ()) :
    disk.EntersAt (PathText.join base name) place name := by
  obtain ⟨start, spelled⟩ := leads.goesOn plain
  obtain ⟨left, through⟩ := leads.way
  exact ⟨valid, proper, _, left, spelled, start ▸ through⟩

theorem inside (plain : Plain name) (proper : Proper name)
    (found : disk.get? (place ++ [name]) = some .dir) :
    disk.Leads (PathText.join base name) (place ++ [name]) := by
  obtain ⟨start, spelled⟩ := leads.goesOn plain
  obtain ⟨left, through⟩ := leads.way
  refine ⟨join_ne_empty leads.nonempty, left, ?_⟩
  rw [start, spelled]
  exact through.trans (.dir proper found .stop)

/-- Without links a path that goes on from the directory ends in it. -/
theorem locate_eq (unlinked : disk.Unlinked) (plain : Plain name) (proper : Proper name)
    (located : disk.locate true (PathText.join base name) = .ok at_) : at_ = place ++ [name] := by
  obtain ⟨-, walked⟩ := locate_eq_ok_iff.mp located
  obtain ⟨start, spelled⟩ := leads.goesOn plain
  obtain ⟨left, through⟩ := leads.way
  rw [hasSlash_join plain, start, spelled, List.append_assoc, through.walk_append (.inr rfl)] at walked
  obtain ⟨-, ⟨-, same, -⟩ | ⟨-, later⟩ | ⟨target, -, linked, -⟩⟩ :=
    walk_cases proper.further proper.down walked
  · exact same
  · have ends : disk.walk true left (place ++ [name]) [] = .ok (place ++ [name]) := by rw [walk]
    exact Except.ok.inj (later.symm.trans ends)
  · exact absurd linked (unlinked _ target)

end Leads

theorem Leads.lookup (leads : disk.Leads path there) (formed : disk.WellFormed)
    (valid : checkPath path = .ok ()) : disk.lookup true path = .ok (there, .dir) := by
  obtain ⟨left, through⟩ := leads.way
  refine lookup_eq_ok_iff.mpr ⟨locate_eq_ok_iff.mpr ⟨valid, ?_⟩, leads.directory formed⟩
  rw [through.walk_append (.inr rfl), walk_tail]

/-- A slash at the end changes nothing about where a path leads. -/
theorem slashed (nonempty : path ≠ "") :
    PathText.isAbsolute (PathText.join path "") = PathText.isAbsolute path ∧
      PathText.pieces (PathText.join path "") = PathText.pieces path := by
  obtain ⟨spelled, start⟩ := PathText.pieces_join nonempty (by decide : PathText.isAbsolute "" = false)
  exact ⟨start, spelled.trans (List.append_nil _)⟩

/-- Where one piece of a path leads from a place, by its text. -/
def goTo (here : Location) (piece : String) : Location :=
  if piece == "." then here else if piece == ".." then here.dropLast else here ++ [piece]

/-- Where the text of a path leads. -/
def spot (disk : Disk) (path : String) : Location :=
  (PathText.pieces path).foldl goTo (disk.startOf path)

/-- A path that goes up first if at all, as one in its normal form. -/
structure Straight (path : String) : Prop where
  nonempty : path ≠ ""
  onward : ∃ ups names, PathText.pieces path = ups ++ names ∧ (∀ up ∈ ups, up = "..") ∧ ".." ∉ names

theorem goTo_proper (proper : Proper name) (here : Location) : goTo here name = here ++ [name] := by
  rw [goTo, if_neg proper.further, if_neg proper.down]

theorem foldl_goTo {names : List String} (onward : ".." ∉ names) (here : Location) :
    names.foldl goTo here = here ++ names.filter (· != ".") := by
  induction names generalizing here with
  | nil => exact (List.append_nil _).symm
  | cons piece rest ih =>
    rw [List.mem_cons, not_or] at onward
    obtain ⟨down, others⟩ := onward
    rw [List.foldl_cons, ih others, goTo]
    by_cases further : (piece == ".") = true
    · rw [if_pos further, eq_of_beq further]
      rfl
    · rw [if_neg further, if_neg (by simpa using Ne.symm down), List.append_assoc,
        List.filter_cons_of_pos (by simpa using further)]
      rfl

theorem walk_spot {follow : Bool} {links : Nat} {pieces : List String} (unlinked : disk.Unlinked)
    (walked : disk.walk follow links here pieces = .ok there) : there = pieces.foldl goTo here := by
  induction pieces generalizing here with
  | nil =>
    rw [walk] at walked
    cases walked
    rfl
  | cons piece rest ih =>
    rw [List.foldl_cons]
    by_cases further : (piece == ".") = true
    · rw [eq_of_beq further, walk_stay] at walked
      rw [goTo, if_pos further]
      exact ih walked
    by_cases down : (piece == "..") = true
    · rw [eq_of_beq down, walk_up] at walked
      rw [goTo, if_neg further, if_pos down]
      exact ih walked
    obtain ⟨proper, ⟨rfl, rfl, -⟩ | ⟨-, later⟩ | ⟨target, -, linked, -⟩⟩ := walk_cases further down walked
    · exact (goTo_proper proper here).symm
    · rw [goTo_proper proper]
      exact ih later
    · exact absurd linked (unlinked _ target)

theorem locate_spot {follow : Bool} (unlinked : disk.Unlinked)
    (located : disk.locate follow path = .ok at_) : at_ = disk.spot path := by
  obtain ⟨-, walked⟩ := locate_eq_ok_iff.mp located
  rw [walk_spot unlinked walked, List.foldl_append, spot]
  split <;> rfl

theorem lookup_spot (unlinked : disk.Unlinked) (directory : disk.isDir path = true) :
    disk.lookup true path = .ok (disk.spot path, .dir) := by
  obtain ⟨at_, found⟩ := isDir_iff.mp directory
  rwa [← locate_spot unlinked (locate_of_lookup found)]

theorem EntersAt.spot {parent : Location} (enters : disk.EntersAt path parent name)
    (unlinked : disk.Unlinked) : parent ++ [name] = disk.spot path := by
  obtain ⟨-, proper, front, left, pieces, through⟩ := enters
  rw [Disk.spot, pieces, List.foldl_append, ← walk_spot unlinked through.walk_eq]
  exact (goTo_proper proper parent).symm

/-- A path that enters something on the way to the place leads to where the place is, or above. -/
theorem Straight.spot_prefix {parent : Location} (straight : Straight place)
    (enters : disk.EntersAt path parent name) (start : disk.startOf path = disk.startOf place)
    (front : PathText.pieces path <+: PathText.pieces place) : disk.spot path <+: disk.spot place := by
  obtain ⟨ups, names, spelled, up, onward⟩ := straight.onward
  rw [spelled] at front
  rcases List.prefix_or_prefix_of_prefix front (List.prefix_append ups names) with shorter | ⟨more, longer⟩
  · obtain ⟨above, last⟩ := enters.pieces_eq
    have same := up name (shorter.mem (by rw [last]; simp))
    exact absurd (beq_iff_eq.mpr same) enters.proper.down
  · rw [← longer, List.prefix_append_right_inj] at front
    rw [spot, spot, start, spelled, ← longer, List.foldl_append, List.foldl_append,
      foldl_goTo fun inside => onward (front.mem inside), foldl_goTo onward, List.prefix_append_right_inj]
    exact front.filter _

theorem Extends.unlinked (extends_ : Extends before after) (unlinked : before.Unlinked) :
    after.Unlinked := by
  intro at_ target linked
  rcases extends_.added at_ _ linked with there | same
  · exact unlinked at_ target there
  · cases same

theorem Extends.spot (extends_ : Extends before after) (path : String) : after.spot path = before.spot path := by
  rw [Disk.spot, Disk.spot, startOf, startOf, extends_.cwd]

/-- At most directories on the way to the place were made. -/
def Raises (place : String) (before after : Disk) : Prop :=
  before.Unlinked → Extends before after ∧
    ∀ at_, ¬ at_ <+: before.spot place → after.get? at_ = before.get? at_

instance (place : String) : IsPreorder Disk (Raises place) where
  refl before _ := ⟨refl before, fun _ _ => rfl⟩
  trans _ _ _ first second unlinked := by
    obtain ⟨one, kept⟩ := first unlinked
    obtain ⟨two, still⟩ := second (one.unlinked unlinked)
    rw [one.spot] at still
    exact ⟨Trans.trans one two, fun at_ other => (still at_ other).trans (kept at_ other)⟩

theorem raises_mkdir (straight : Straight place) (along : Descends place [] path)
    (made : before.mkdir path = .ok after) : Raises place before after := by
  intro unlinked
  refine ⟨extends_mkdir made, fun at_ other => ?_⟩
  obtain ⟨parent, name, located, free, rfl⟩ := mkdir_ok made
  have enters := locateEntry_eq_ok_iff.mp located
  have nonempty : path ≠ "" := by
    rintro rfl
    cases enters.valid
  obtain ⟨-, front⟩ := along.resolve_left nonempty
  rw [List.append_nil] at front
  have within := straight.spot_prefix enters (along.startOf_eq nonempty) front
  refine get?_put_other ?_
  rintro rfl
  rw [enters.spot unlinked] at other
  exact other within

theorem raises_mkdirs (straight : Straight place) (along : Descends place [] path)
    (before : Disk) : Raises place before (before.mkdirs path).2 :=
  mkdirsFrom_induction (fun along above => along.parent above) (raises_mkdir straight) _ along

theorem ensureParent_raises {outcome : Except (List String) Unit} (straight : Straight place)
    (made : ensureParent place before = (outcome, after)) : Raises place before after := by
  unfold ensureParent at made
  cases above : PathText.parent? place with
  | none =>
    simp only [above] at made
    cases made
    exact refl (r := Raises place) _
  | some parent =>
    simp only [above, get_bind] at made
    split at made
    · rw [← makeDirs_after made]
      have along : Descends place [] place := .inr ⟨rfl, List.prefix_append _ []⟩
      exact raises_mkdirs straight (along.parent above) before
    · cases made
      exact refl (r := Raises place) _

/-- The place is the target, or in it under the name of the source. -/
theorem straight_landing (straight : Straight target) : Straight (disk.landing source target) := by
  unfold landing
  split
  · rename_i name last
    split
    · have plain := plain_of_fileName? last
      obtain ⟨ups, names, spelled, up, onward⟩ := straight.onward
      refine ⟨join_ne_empty straight.nonempty, ups, names ++ [name], ?_, up, ?_⟩
      · rw [(PathText.pieces_join straight.nonempty (isAbsolute_of_plain plain)).1, spelled,
          pieces_single plain.nonempty plain.single, List.append_assoc]
      · rw [List.mem_append, not_or, List.mem_singleton]
        exact ⟨onward, fun same => plain.notUp (beq_iff_eq.mpr same.symm)⟩
    · exact straight
  · exact straight

/-- The same disk, with its entries listed in any order. -/
structure Reordered (first second : Disk) : Prop where
  cwd : second.cwd = first.cwd
  fresh : second.fresh = first.fresh
  get? : ∀ at_, second.get? at_ = first.get? at_

namespace Reordered

variable {first second : Disk} (reordered : Reordered first second)
include reordered

theorem alike : Alike first second :=
  ⟨reordered.cwd.symm, reordered.fresh.symm, fun at_ => by rw [shapeAt, shapeAt, reordered.get?]⟩

theorem grows : Grows first second :=
  ⟨reordered.cwd, fun at_ node found => ⟨node, (reordered.get? at_).trans found, rfl⟩⟩

theorem formed (formed : first.WellFormed) : second.WellFormed where
  toRooted := reordered.alike.rooted formed.toRooted
  legible at_ node found := formed.legible at_ node ((reordered.get? at_).symm.trans found)

theorem unlinked (unlinked : first.Unlinked) : second.Unlinked := fun at_ target linked =>
  unlinked at_ target ((reordered.get? at_).symm.trans linked)

theorem spot (path : String) : second.spot path = first.spot path := by
  rw [Disk.spot, Disk.spot, startOf, startOf, reordered.cwd]

theorem lookup (follow : Bool) (path : String) : second.lookup follow path = first.lookup follow path := by
  unfold Disk.lookup
  rw [reordered.alike.locate]
  rcases second.locate follow path with error | at_
  · rfl
  · simp only [bind, Except.bind, reordered.get?]

theorem isDir (path : String) : second.isDir path = first.isDir path := by
  rw [Disk.isDir, Disk.isDir, reordered.lookup]

theorem landing (source target : String) : second.landing source target = first.landing source target := by
  rw [Disk.landing, Disk.landing, reordered.isDir, reordered.isDir]

theorem put (at_ : Location) (node : Node) : Reordered (first.put at_ node) (second.put at_ node) where
  cwd := by
    unfold Disk.put
    split <;> split <;> exact reordered.cwd
  fresh := by
    unfold Disk.put
    split <;> split <;> exact reordered.fresh
  get? other := by
    by_cases root : other = []
    · rw [root]
      rfl
    · by_cases same : other = at_
      · subst same
        rw [get?_put_self root, get?_put_self root]
      · rw [get?_put_other same, get?_put_other same, reordered.get?]

theorem mkdir (path : String) : (∃ error, first.mkdir path = .error error ∧ second.mkdir path = .error error) ∨
    ∃ one two, first.mkdir path = .ok one ∧ second.mkdir path = .ok two ∧ Reordered one two := by
  unfold Disk.mkdir
  rw [reordered.alike.locateEntry]
  rcases second.locateEntry path with error | ⟨parent, _ | name⟩
  · exact .inl ⟨error, rfl, rfl⟩
  · exact .inl ⟨_, rfl, rfl⟩
  · simp only [bind, Except.bind, reordered.get?]
    rcases first.get? (parent ++ [name]) with _ | node
    · exact .inr ⟨_, _, rfl, rfl, reordered.put _ _⟩
    · exact .inl ⟨_, rfl, rfl⟩

end Reordered

/-- Making directories does not depend on the order of the entries. Induction on how many there may be. -/
theorem Reordered.mkdirsFrom {first second : Disk} (reordered : Reordered first second) (depth : Nat)
    (path : String) : (Disk.mkdirsFrom depth second path).1 = (Disk.mkdirsFrom depth first path).1 ∧
      Reordered (Disk.mkdirsFrom depth first path).2 (Disk.mkdirsFrom depth second path).2 := by
  induction depth generalizing first second path with
  | zero =>
    unfold Disk.mkdirsFrom
    split
    · exact ⟨rfl, reordered⟩
    rcases reordered.mkdir path with ⟨error, one, two⟩ | ⟨one, two, made, again, later⟩
    · rw [one, two]
      dsimp only
      split
      · exact ⟨by rw [reordered.isDir], reordered⟩
      · exact ⟨rfl, reordered⟩
    · rw [made, again]
      exact ⟨rfl, later⟩
  | succ depth ih =>
    unfold Disk.mkdirsFrom
    split
    · exact ⟨rfl, reordered⟩
    rcases reordered.mkdir path with ⟨error, one, two⟩ | ⟨one, two, made, again, later⟩
    · rw [one, two]
      dsimp only
      split
      · exact ⟨by rw [reordered.isDir], reordered⟩
      rcases PathText.parent? path with _ | parent
      · exact ⟨rfl, reordered⟩
      obtain ⟨same, higher⟩ := ih reordered parent
      dsimp only
      rcases above : Disk.mkdirsFrom depth first parent with ⟨failure | done, middle⟩
      all_goals
        rcases other : Disk.mkdirsFrom depth second parent with ⟨result, late⟩
        rw [above, other] at same higher
        obtain rfl : result = _ := same
      · exact ⟨rfl, higher⟩
      · dsimp only
        rcases higher.mkdir path with ⟨error, one, two⟩ | ⟨one, two, made, again, later⟩
        · rw [one, two]
          exact ⟨by rw [higher.isDir], higher⟩
        · rw [made, again]
          exact ⟨rfl, later⟩
    · rw [made, again]
      exact ⟨rfl, later⟩

theorem Reordered.mkdirs {first second : Disk} (reordered : Reordered first second) (path : String) :
    (second.mkdirs path).1 = (first.mkdirs path).1 ∧
      Reordered (first.mkdirs path).2 (second.mkdirs path).2 := reordered.mkdirsFrom path.length path

theorem Reordered.ensureParent {first second ready : Disk} (reordered : Reordered first second)
    (made : ensureParent place first = (.ok (), ready)) :
    ∃ other, Disk.ensureParent place second = (.ok (), other) ∧ Reordered ready other := by
  unfold Disk.ensureParent at made ⊢
  cases above : PathText.parent? place with
  | none =>
    simp only [above] at made
    cases made
    exact ⟨second, rfl, reordered⟩
  | some parent =>
    have same : second.contains parent = first.contains parent := by
      rw [Disk.contains, Disk.contains, reordered.lookup]
    simp only [above, get_bind] at made ⊢
    rw [same]
    split at made
    · rename_i missing
      rw [if_pos missing]
      rw [makeDirs_eq] at made ⊢
      obtain ⟨outcome, later⟩ := reordered.mkdirs parent
      rcases result : (first.mkdirs parent).1 with error | done
      · rw [result] at made
        cases made
      · rw [result] at made
        cases made
        exact ⟨_, by rw [outcome, result]; rfl, later⟩
    · rename_i there
      rw [if_neg there]
      cases made
      exact ⟨second, rfl, reordered⟩

theorem Reordered.openForWriting {first second : Disk} (reordered : Reordered first second) (path : String) :
    second.openForWriting path = first.openForWriting path := by
  unfold Disk.openForWriting
  rw [reordered.alike.locateEntry, reordered.alike.locate]
  simp only [reordered.get?]

end Provision.Disk
