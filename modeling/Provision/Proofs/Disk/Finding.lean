import Provision.Proofs.Disk.Ending

/-! What a path finds goes on being found under it as long as a disk only grows. What is written under it goes
to one file, and leaves everything else as it is. Files and directories that are made on a well-formed disk
leave it well formed. -/

namespace Provision.PathText

open Disk

variable {base name : String} {names : Location}

/-- The path of what stands under these names from there. -/
def under (base : String) (names : Location) : String := names.foldl join base

/-- The names are what is added to the pieces. -/
theorem pieces_under (nonempty : base ≠ "") (plain : ∀ name ∈ names, Plain name) :
    under base names ≠ "" ∧ isAbsolute (under base names) = isAbsolute base ∧
      pieces (under base names) = pieces base ++ names := by
  induction names generalizing base with
  | nil => exact ⟨nonempty, rfl, (List.append_nil _).symm⟩
  | cons name names ih =>
    have first := plain name (.head _)
    obtain ⟨pieces_eq, start⟩ := pieces_join nonempty (isAbsolute_of_plain first)
    rw [pieces_single first.nonempty first.single] at pieces_eq
    obtain ⟨inside, absolute, spelled⟩ :=
      @ih (join base name) (join_ne_empty nonempty) fun other member => plain other (.tail _ member)
    refine ⟨inside, absolute.trans start, spelled.trans ?_⟩
    rw [pieces_eq, List.append_assoc]
    rfl

theorem under_injective {others : Location} (nonempty : base ≠ "") (plain : ∀ name ∈ names, Plain name)
    (other : ∀ name ∈ others, Plain name) (same : under base names = under base others) :
    names = others := by
  have first := (pieces_under nonempty plain).2.2
  rw [same, (pieces_under nonempty other).2.2] at first
  exact (List.append_cancel_left first).symm

/-- A directory may be written with a slash behind it. -/
theorem under_slash {base : String} {names : Location} (inside : names ≠ [])
    (plain : ∀ name ∈ names, Plain name) : under (join base "") names = under base names := by
  obtain ⟨name, rest, rfl⟩ := List.exists_cons_of_ne_nil inside
  have relative := isAbsolute_of_plain (plain name (.head _))
  have same : join (join base "") name = join base name := by
    by_cases empty : base = ""
    · rw [empty]
      rfl
    have first : join base "" = if base.toList.getLast? == some '/' then base else base ++ "/" := by
      unfold join
      rw [if_neg (by decide), if_neg (by simpa using empty)]
      split <;> simp
    rw [first]
    split
    · rfl
    · rename_i slash
      unfold join
      simp [relative, empty, slash]
  rw [under, List.foldl_cons, same]
  rfl

end Provision.PathText

namespace Provision.Disk

variable {disk before middle after : Disk} {follow : Bool} {links : Nat}
  {here there at_ origin place : Location} {node : Node} {pieces : List String}
  {path source target : String}

theorem Grows.get?_file (grows : Grows before after) {id : Nat} {bytes : Bytes} {executable : Bool}
    (found : before.get? at_ = some (.file id bytes executable)) :
    ∃ own content permission, after.get? at_ = some (.file own content permission) := by
  obtain ⟨later, last, same⟩ := grows.kept at_ _ found
  cases later with
  | file own content permission => exact ⟨own, content, permission, last⟩
  | dir => cases same
  | link target => cases same

/-- A walk goes on ending where it ended, unless something is in the way that is no file. -/
theorem Grows.walk_eq (grows : Grows before after)
    (filable : before.get? there = none → after.Filable there)
    (walked : before.walk follow links here pieces = .ok there) :
    after.walk follow links here pieces = .ok there := by
  fun_induction before.walk follow links here pieces with
  | case1 =>
    rw [walk]
    exact walked
  | case2 links here piece rest dot ih =>
    rw [walk, if_pos dot]
    exact ih walked
  | case3 links here piece rest plain up ih =>
    rw [walk, if_neg plain, if_pos up]
    exact ih walked
  | case4 => cases walked
  | case5 links here piece rest plain down fits missing last =>
    cases walked
    rw [walk, if_neg plain, if_neg down, if_neg fits]
    obtain ⟨single, unlinked⟩ := filable missing
    rcases stands : after.get? (here ++ [piece]) with _ | ⟨own, content, permission⟩ | _ | target
    · exact if_pos last
    · exact if_pos last
    · exact absurd stands single
    · exact absurd stands (unlinked target)
  | case6 => cases walked
  | case7 links here piece rest plain down fits found ih =>
    rw [walk, if_neg plain, if_neg down, if_neg fits, grows.get?_dir found]
    exact ih walked
  | case8 links here piece rest plain down fits id bytes executable found last =>
    cases walked
    obtain ⟨own, content, permission, stands⟩ := grows.get?_file found
    rw [walk, if_neg plain, if_neg down, if_neg fits, stands]
    exact if_pos last
  | case9 => cases walked
  | case10 links here piece rest plain down fits target found kept =>
    cases walked
    rw [walk, if_neg plain, if_neg down, if_neg fits, grows.get?_link found]
    exact if_pos kept
  | case11 => cases walked
  | case12 => cases walked
  | case13 here piece rest plain down fits target found followed links full start tail ih =>
    rw [walk, if_neg plain, if_neg down, if_neg fits, grows.get?_link found]
    simp only [followed, full]
    exact ih walked

/-- Where a walk ends that comes to something, something stands without its last link being followed
too. -/
theorem walk_stands (walked : disk.walk true links here pieces = .ok there)
    (stands : (disk.get? there).isSome = true) :
    ∃ entry, disk.walk false links here pieces = .ok entry ∧ (disk.get? entry).isSome = true := by
  fun_induction disk.walk true links here pieces with
  | case1 =>
    cases walked
    exact ⟨_, by rw [walk], stands⟩
  | case2 links here piece rest dot ih =>
    rw [walk, if_pos dot]
    exact ih walked
  | case3 links here piece rest plain up ih =>
    rw [walk, if_neg plain, if_pos up]
    exact ih walked
  | case4 => cases walked
  | case5 links here piece rest plain down fits missing last =>
    cases walked
    rw [missing] at stands
    cases stands
  | case6 => cases walked
  | case7 links here piece rest plain down fits found ih =>
    rw [walk, if_neg plain, if_neg down, if_neg fits, found]
    exact ih walked
  | case8 links here piece rest plain down fits id bytes executable found last =>
    cases walked
    rw [walk, if_neg plain, if_neg down, if_neg fits, found]
    exact ⟨_, if_pos last, stands⟩
  | case9 => cases walked
  | case10 links here piece rest plain down fits target found kept =>
    rw [Bool.not_true, Bool.and_false] at kept
    cases kept
  | case11 => cases walked
  | case12 => cases walked
  | case13 here piece rest plain down fits target found followed links full start tail ih =>
    rw [walk, if_neg plain, if_neg down, if_neg fits, found]
    cases last : rest.isEmpty with
    | true => exact ⟨here ++ [piece], rfl, by rw [found]; rfl⟩
    | false =>
      simp only [Bool.false_and, Bool.false_eq_true, if_false, full]
      exact ih walked

theorem lookup_stands (found : disk.lookup true path = .ok (at_, node)) :
    ∃ entry other, disk.lookup false path = .ok (entry, other) := by
  obtain ⟨located, stands⟩ := lookup_eq_ok_iff.mp found
  obtain ⟨valid, walked⟩ := locate_eq_ok_iff.mp located
  obtain ⟨entry, ends, there⟩ := walk_stands walked (by rw [stands]; rfl)
  obtain ⟨other, same⟩ := Option.isSome_iff_exists.mp there
  exact ⟨entry, other, lookup_eq_ok_iff.mpr ⟨locate_eq_ok_iff.mpr ⟨valid, ends⟩, same⟩⟩

/-- A walk ends where it would end without its last link being followed, unless that is a link. -/
theorem walk_follows (walked : disk.walk false links here pieces = .ok there)
    (plain : ∀ target, disk.get? there ≠ some (.link target)) :
    disk.walk true links here pieces = .ok there := by
  fun_induction disk.walk false links here pieces with
  | case1 =>
    rw [walk]
    exact walked
  | case2 links here piece rest dot ih =>
    rw [walk, if_pos dot]
    exact ih walked
  | case3 links here piece rest plain up ih =>
    rw [walk, if_neg plain, if_pos up]
    exact ih walked
  | case4 => cases walked
  | case5 links here piece rest plain down fits missing last =>
    rw [walk, if_neg plain, if_neg down, if_neg fits, missing]
    exact (if_pos last).trans walked
  | case6 => cases walked
  | case7 links here piece rest plain down fits found ih =>
    rw [walk, if_neg plain, if_neg down, if_neg fits, found]
    exact ih walked
  | case8 links here piece rest plain down fits id bytes executable found last =>
    rw [walk, if_neg plain, if_neg down, if_neg fits, found]
    exact (if_pos last).trans walked
  | case9 => cases walked
  | case10 links here piece rest _ _ _ target found kept =>
    cases walked
    exact absurd found (plain target)
  | case11 => cases walked
  | case12 => cases walked
  | case13 here piece rest plain down fits target found followed links full start tail ih =>
    rw [walk, if_neg plain, if_neg down, if_neg fits, found]
    cases last : rest.isEmpty with
    | true =>
      rw [last] at followed
      cases followed rfl
    | false =>
      simp only [Bool.false_and, Bool.false_eq_true, if_false, full]
      exact ih walked

theorem lookup_follows (found : disk.lookup false path = .ok (at_, node))
    (plain : ∀ target, node ≠ .link target) : disk.lookup true path = .ok (at_, node) := by
  obtain ⟨located, stands⟩ := lookup_eq_ok_iff.mp found
  obtain ⟨valid, walked⟩ := locate_eq_ok_iff.mp located
  have ends := walk_follows walked fun target linked => plain target (Option.some.inj (stands.symm.trans linked))
  exact lookup_eq_ok_iff.mpr ⟨locate_eq_ok_iff.mpr ⟨valid, ends⟩, stands⟩

theorem Grows.locate_eq (grows : Grows before after)
    (filable : before.get? there = none → after.Filable there)
    (located : before.locate follow path = .ok there) : after.locate follow path = .ok there := by
  have start : after.startOf path = before.startOf path := by
    unfold startOf
    rw [grows.cwd]
  obtain ⟨valid, walked⟩ := locate_eq_ok_iff.mp located
  refine locate_eq_ok_iff.mpr ⟨valid, ?_⟩
  rw [start]
  exact grows.walk_eq filable walked

/-- What a path leads to it goes on leading to. -/
theorem Grows.lookup_eq (grows : Grows before after)
    (found : before.lookup follow path = .ok (at_, node)) :
    ∃ later, after.lookup follow path = .ok (at_, later) ∧ later.outline = node.outline := by
  obtain ⟨located, stands⟩ := lookup_eq_ok_iff.mp found
  obtain ⟨later, last, same⟩ := grows.kept at_ node stands
  have again := grows.locate_eq (fun free => by rw [free] at stands; cases stands) located
  exact ⟨later, lookup_eq_ok_iff.mpr ⟨again, last⟩, same⟩

/-- Following the path leads there. -/
def Finds (disk : Disk) (path : String) (at_ : Location) : Prop :=
  ∃ node, disk.lookup true path = .ok (at_, node)

theorem Grows.finds (grows : Grows before after) (finds : before.Finds path at_) :
    after.Finds path at_ := by
  obtain ⟨node, found⟩ := finds
  obtain ⟨later, last, -⟩ := grows.lookup_eq found
  exact ⟨later, last⟩

theorem Finds.unique (first : disk.Finds path origin) (second : disk.Finds path place) :
    origin = place := by
  obtain ⟨_, found⟩ := first
  obtain ⟨_, again⟩ := second
  exact congrArg Prod.fst (Except.ok.inj (found.symm.trans again))

theorem isDir_iff : disk.isDir path = true ↔ ∃ at_, disk.lookup true path = .ok (at_, .dir) := by
  unfold isDir
  constructor
  · intro directory
    split at directory
    · rename_i at_ found
      exact ⟨at_, found⟩
    · cases directory
  · rintro ⟨at_, found⟩
    rw [found]

theorem ne_dir_of_isDir (alone : disk.isDir path = false) (found : disk.lookup true path = .ok (at_, node)) :
    node ≠ .dir := by
  rintro rfl
  rw [isDir_iff.mpr ⟨at_, found⟩] at alone
  cases alone

theorem Grows.isDir (grows : Grows before after) (directory : before.isDir path = true) :
    after.isDir path = true := by
  obtain ⟨at_, found⟩ := isDir_iff.mp directory
  obtain ⟨later, last, same⟩ := grows.lookup_eq found
  exact isDir_iff.mpr ⟨at_, Node.outline_eq_dir same ▸ last⟩

/-- What leads to something that is no directory goes on doing so. -/
theorem Grows.not_isDir (grows : Grows before after) (alone : before.isDir path = false)
    (finds : before.Finds path at_) : after.isDir path = false := by
  obtain ⟨node, found⟩ := finds
  obtain ⟨later, last, same⟩ := grows.lookup_eq found
  rw [← Bool.not_eq_true, isDir_iff]
  rintro ⟨other, directory⟩
  cases last.symm.trans directory
  exact ne_dir_of_isDir alone found (Node.outline_eq_dir same.symm)

theorem isSome_of_isDir (directory : disk.isDir path = true)
    (located : disk.locate false path = .ok at_) : (disk.get? at_).isSome = true := by
  obtain ⟨place, found⟩ := isDir_iff.mp directory
  obtain ⟨entry, other, last⟩ := lookup_stands found
  cases located.symm.trans (locate_of_lookup last)
  rw [get?_of_lookup last]
  rfl

section Entries

variable {above parent names : Location} {name last : String}

theorem EntersAt.unique (first : disk.EntersAt path above name) (second : disk.EntersAt path parent last) :
    above = parent ∧ name = last := by
  have same := (locateEntry_eq_ok_iff.mpr first).symm.trans (locateEntry_eq_ok_iff.mpr second)
  cases same
  exact ⟨rfl, rfl⟩

/-- What a path names that enters an entry is there, and the path leads to it unless it is a link. -/
theorem EntersAt.entry (enters : disk.EntersAt path parent name)
    (found : disk.lookup follow path = .ok (at_, node)) :
    (∃ target, disk.get? (parent ++ [name]) = some (.link target)) ∨
      (disk.get? (parent ++ [name]) = some node ∧ at_ = parent ++ [name]) := by
  obtain ⟨located, stands⟩ := lookup_eq_ok_iff.mp found
  obtain ⟨-, walked⟩ := locate_eq_ok_iff.mp located
  obtain ⟨valid, proper, front, left, pieces, through⟩ := enters
  rw [pieces, List.append_assoc, through.walk_append (.inl (by simp))] at walked
  obtain ⟨-, ⟨-, same, -⟩ | ⟨directory, later⟩ | ⟨target, -, linked, -⟩⟩ :=
    walk_cases proper.further proper.down walked
  · exact .inr ⟨same ▸ stands, same⟩
  · cases later.symm.trans (walk_tail disk follow left (parent ++ [name]) (hasSlash path))
    exact .inr ⟨stands, rfl⟩
  · exact .inl ⟨target, linked⟩

/-- A directory is found with a slash behind it too. -/
theorem EntersAt.lookup_dir (enters : disk.EntersAt path parent name)
    (directory : disk.get? (parent ++ [name]) = some .dir) :
    disk.lookup follow path = .ok (parent ++ [name], .dir) := by
  cases slash : hasSlash path with
  | false => exact enters.lookup slash directory fun _ => by simp
  | true =>
    obtain ⟨valid, proper, front, left, pieces, through⟩ := enters
    refine lookup_eq_ok_iff.mpr ⟨locate_eq_ok_iff.mpr ⟨valid, ?_⟩, directory⟩
    rw [slash, pieces, if_pos rfl, List.append_assoc, List.singleton_append,
      through.walk_append (.inl (List.cons_ne_nil _ _)), walk_dir proper directory, walk_stay, walk]

/-- What stands below the entry of a path is found under the path with its names. -/
theorem EntersAt.lookup_under (enters : disk.EntersAt path parent name) (legible : Legible names)
    (stands : disk.get? (parent ++ [name] ++ names) = some node)
    (directories : ∀ front, front <+: names → front ≠ names →
      disk.get? (parent ++ [name] ++ front) = some .dir)
    (plain : ∀ target, node ≠ .link target) (bare : names = [] → hasSlash path = false)
    (valid : checkPath (PathText.under path names) = .ok ()) :
    disk.lookup true (PathText.under path names) = .ok (parent ++ [name] ++ names, node) := by
  obtain rfl | ⟨front, last, rfl⟩ := List.eq_nil_or_concat names
  · rw [List.append_nil] at stands ⊢
    exact enters.lookup (bare rfl) stands fun _ => plain
  rw [List.concat_eq_append] at *
  obtain ⟨nonempty, single⟩ : Plain last ∧ Proper last := legible last (by simp)
  have started : path ≠ "" := by
    rintro rfl
    cases enters.valid
  obtain ⟨-, proper, other, left, pieces, through⟩ := enters
  obtain ⟨-, start, spelled⟩ := PathText.pieces_under started fun other member => (legible other member).1
  have begins : disk.startOf (PathText.under path (front ++ [last])) = disk.startOf path := by
    rw [startOf, startOf, start]
  have entry := directories [] List.nil_prefix (by simp)
  rw [List.append_nil] at entry
  have down : disk.Through left (parent ++ [name]) front left (parent ++ [name] ++ front) :=
    through_names (fun other member => (legible other (List.mem_append_left _ member)).2)
      fun shorter above => directories shorter (above.trans (List.prefix_append front [last])) (by
        rintro rfl
        exact absurd above.length_le (by simp))
  rw [pieces, ← List.append_assoc] at spelled
  rw [← List.append_assoc] at stands ⊢
  have further : disk.EntersAt (PathText.under path (front ++ [last])) (parent ++ [name] ++ front) last :=
    ⟨valid, single, _, left, spelled, begins ▸ (through.trans (.dir proper entry .stop)).trans down⟩
  have slashless : hasSlash (PathText.under path (front ++ [last])) = false := by
    rw [PathText.under, List.foldl_append]
    exact hasSlash_join nonempty _
  exact further.lookup slashless stands fun _ => plain

end Entries

/-- Whatever was on the first disk is on the second, just as it was, and all that is new is directories. -/
structure Extends (before after : Disk) : Prop where
  cwd : after.cwd = before.cwd
  kept : ∀ at_ node, before.get? at_ = some node → after.get? at_ = some node
  added : ∀ at_ node, after.get? at_ = some node → before.get? at_ = some node ∨ node = .dir

instance : IsPreorder Disk Extends where
  refl _ := ⟨rfl, fun _ _ found => found, fun _ _ found => .inl found⟩
  trans _ _ _ one two := ⟨two.cwd.trans one.cwd, fun at_ node found =>
    two.kept at_ node (one.kept at_ node found), fun at_ node found =>
    (two.added at_ node found).elim (one.added at_ node) .inr⟩

theorem Extends.grows (extends_ : Extends before after) : Grows before after :=
  ⟨extends_.cwd, fun at_ node found => ⟨node, extends_.kept at_ node found, rfl⟩⟩

theorem extends_mkdir (made : before.mkdir path = .ok after) : Extends before after := by
  obtain ⟨parent, name, -, free, rfl⟩ := mkdir_ok made
  refine ⟨(grows_put_new free).cwd, fun at_ node found => ?_, fun at_ node found => ?_⟩
  · have other : at_ ≠ parent ++ [name] := by
      rintro rfl
      rw [free] at found
      cases found
    rw [get?_put_other other, found]
  · by_cases same : at_ = parent ++ [name]
    · rw [same, get?_put_self (by simp)] at found
      exact .inr (Option.some.inj found).symm
    · rw [get?_put_other same] at found
      exact .inl found

theorem extends_mkdirs (before : Disk) (path : String) : Extends before (before.mkdirs path).2 :=
  mkdirsFrom_induction (fun _ _ => trivial) (fun _ => extends_mkdir) _ (trivial : (fun _ => True) path)

section Files

/-- The bytes were written to the file that the path leads to. -/
structure Wrote (before : Disk) (path : String) (at_ : Location) (own : Nat) (bytes : Bytes)
    (executable : Bool) (after : Disk) : Prop where
  opened : ∃ file, before.openForWriting path = .ok (at_, file)
  same : ∀ node, before.get? at_ = some node → ∃ old permission, node = .file own old permission
  stands : after.get? at_ = some (.file own bytes executable)
  elsewhere : ∀ other, other ≠ at_ → after.get? other = before.get? other
  grows : Grows before after

variable {own : Nat} {bytes content : Bytes} {executable permission : Bool}

namespace Wrote

section

variable (wrote : Wrote before path at_ own bytes executable after)
include wrote

theorem located : before.locate true path = .ok at_ := by
  obtain ⟨file, opened⟩ := wrote.opened
  exact openForWriting_locate opened

theorem found : after.lookup true path = .ok (at_, .file own bytes executable) := by
  have located := wrote.grows.locate_eq (fun _ => filable_of_file wrote.stands) wrote.located
  exact lookup_eq_ok_iff.mpr ⟨located, wrote.stands⟩

/-- Something else is put into the same file. -/
theorem put (content : Bytes) (permission : Bool) :
    Wrote before path at_ own content permission (after.put at_ (.file own content permission)) where
  opened := wrote.opened
  same := wrote.same
  stands := get?_put_self (ne_nil_of_file wrote.stands)
  elsewhere other apart := (get?_put_other apart).trans (wrote.elsewhere other apart)
  grows := Trans.trans wrote.grows (grows_put_file wrote.stands)

/-- What is written next under the same path goes to the same file. -/
theorem again {next : Nat} (second : Wrote after path place next content permission middle) :
    Wrote before path at_ own content permission middle := by
  obtain rfl := Except.ok.inj ((locate_of_lookup wrote.found).symm.trans second.located)
  obtain ⟨old, kept, same⟩ := second.same _ wrote.stands
  cases same
  exact ⟨wrote.opened, wrote.same, second.stands, fun other apart =>
    (second.elsewhere other apart).trans (wrote.elsewhere other apart),
    Trans.trans wrote.grows second.grows⟩

/-- The owner may execute the same file then. -/
theorem setExecutable (set : after.setExecutable path permission = .ok middle) :
    Wrote before path at_ own bytes permission middle := by
  unfold Disk.setExecutable at set
  rw [wrote.found] at set
  cases set
  exact wrote.put bytes permission

end

end Wrote

theorem write_ok (wrote : before.write path bytes executable = .ok after) :
    ∃ at_ own kept, Wrote before path at_ own bytes kept after := by
  unfold write at wrote
  rcases opened : before.openForWriting path with error | ⟨at_, _ | ⟨id, old, kept⟩⟩
  · rw [opened] at wrote
    cases wrote
  · rw [opened] at wrote
    cases wrote
    have free : before.get? at_ = none := openForWriting_cases opened
    refine ⟨at_, before.fresh, executable, ⟨_, opened⟩, ?_, get?_put_self (ne_nil_of_free free),
      fun _ other => get?_put_other other, grows_addFile free bytes executable⟩
    intro node found
    rw [free] at found
    cases found
  · rw [opened] at wrote
    cases wrote
    have found : before.get? at_ = some (.file id old kept) := openForWriting_cases opened
    refine ⟨at_, id, kept, ⟨_, opened⟩, ?_, get?_put_self (ne_nil_of_file found),
      fun _ other => get?_put_other other, grows_put_file found⟩
    intro node again
    rw [found] at again
    exact ⟨old, kept, (Option.some.inj again).symm⟩

/-- The file that the one path leads to is copied to where the other one leads. Nothing is left to be read
if both lead to the same place. -/
theorem copyFile_ok (copied : before.copyFile source target = .ok after) :
    ∃ origin place id own bytes executable,
      before.lookup true source = .ok (origin, .file id bytes executable) ∧
      Wrote before target place own (if place = origin then [] else bytes) executable after := by
  unfold copyFile at copied
  simp only [bind, Except.bind] at copied
  split at copied
  · cases copied
  · rename_i found
    split at copied
    · rename_i origin id bytes executable
      split at copied
      · cases copied
      · rename_i emptied opened
        obtain ⟨place, own, kept, first⟩ := write_ok opened
        split at copied
        · rename_i same left permission stands
          split at copied
          · cases copied
          · rename_i filled wrote
            obtain ⟨_, _, _, second⟩ := write_ok wrote
            have whole := (first.again second).setExecutable copied
            refine ⟨origin, place, id, own, bytes, executable, found, ?_⟩
            have read : left = if place = origin then [] else bytes := by
              split
              · rename_i onto
                rw [← onto, first.stands] at stands
                cases stands
                rfl
              · rename_i apart
                rw [first.elsewhere origin (Ne.symm apart), get?_of_lookup found] at stands
                cases stands
                rfl
            rw [← read]
            exact whole
        · cases copied
    · cases copied

end Files

section Forming

variable {parent : Location} {name : String}

/-- Whatever stands somewhere stands in a directory, under names that a path can spell. -/
structure WellFormed (disk : Disk) : Prop extends Rooted disk where
  legible : ∀ at_ node, disk.get? at_ = some node → Legible at_

/-- All that has to be looked at is what is stored. -/
theorem wellFormed_of_entries (cwd : disk.get? disk.cwd = some .dir)
    (each : ∀ entry ∈ disk.entries, disk.get? entry.1.dropLast = some .dir ∧ Legible entry.1) :
    disk.WellFormed where
  tree above name stands := by
    obtain ⟨node, found⟩ := Option.isSome_iff_exists.mp stands
    have within := (each _ (mem_of_get? (by simp) found)).1
    rwa [List.dropLast_concat] at within
  cwd := cwd
  legible at_ node found := by
    by_cases root : at_ = []
    · rw [root]
      exact fun _ inside => by cases inside
    · exact (each _ (mem_of_get? root found)).2

theorem WellFormed.start_legible (formed : disk.WellFormed) (path : String) :
    Legible (disk.startOf path) := by
  unfold startOf
  split
  · exact fun _ => nofun
  · exact formed.legible _ _ formed.cwd

/-- What may be entered under a path is legible, in a directory. -/
theorem WellFormed.enters (formed : disk.WellFormed) (enters : disk.EntersAt path parent name) :
    disk.get? parent = some .dir ∧ Legible (parent ++ [name]) := by
  obtain ⟨-, proper, front, left, pieces, through⟩ := enters
  have segments : ∀ piece ∈ front ++ [name], piece ≠ "" ∧ '/' ∉ piece.toList := by
    rw [← pieces, ← String.ofList_toList (s := path)]
    exact PathText.segment_of_mem_pieces _
  have above := through.legible (fun piece member => segments piece (List.mem_append_left _ member))
    (formed.start_legible path)
  obtain ⟨nonempty, single⟩ := segments name (by simp)
  exact ⟨through.directory formed.tree (formed.toRooted.start path),
    above.concat ⟨nonempty, single, proper.further, proper.down⟩ proper⟩

/-- The end of a path is legible. -/
theorem Ends.legible {other : Nat} (ends : disk.Ends other here name there) (starts : Legible here)
    (segment : name ≠ "" ∧ '/' ∉ name.toList) : Legible there := by
  induction ends with
  | stop proper filable =>
    exact starts.concat ⟨segment.1, segment.2, proper.further, proper.down⟩ proper
  | @link _ _ here _ _ _ last target front proper found full pieces way later ih =>
    have segments : ∀ piece ∈ front ++ [last], piece ≠ "" ∧ '/' ∉ piece.toList := by
      rw [← pieces]
      exact fun piece => segment_of_mem_linkPieces
    have begins : Legible (linkStart target here) := by
      unfold linkStart
      split
      · exact fun _ => nofun
      · exact starts
    exact ih (way.legible (fun piece member => segments piece (List.mem_append_left _ member)) begins)
      (segments last (by simp))

/-- A disk stays well formed if nothing is new but one legible entry in a directory. -/
theorem WellFormed.entered (formed : before.WellFormed) (grows : Grows before after)
    (within : before.get? parent = some .dir) (legible : Legible (parent ++ [name]))
    (elsewhere : ∀ other, other ≠ parent ++ [name] → after.get? other = before.get? other) :
    after.WellFormed where
  tree above last stands := by
    by_cases same : above ++ [last] = parent ++ [name]
    · rw [(List.append_inj' same rfl).1]
      exact grows.get?_dir within
    · rw [elsewhere _ same] at stands
      exact grows.get?_dir (formed.tree above last stands)
  cwd := by
    rw [grows.cwd]
    exact grows.get?_dir formed.cwd
  legible other node stands := by
    by_cases same : other = parent ++ [name]
    · rwa [same]
    · rw [elsewhere other same] at stands
      exact formed.legible other node stands

theorem WellFormed.mkdir (formed : before.WellFormed) (made : before.mkdir path = .ok after) :
    after.WellFormed := by
  obtain ⟨parent, name, entry, free, rfl⟩ := mkdir_ok made
  obtain ⟨within, legible⟩ := formed.enters (locateEntry_eq_ok_iff.mp entry)
  exact formed.entered (grows_put_new free) within legible fun _ => get?_put_other

theorem WellFormed.mkdirs (formed : disk.WellFormed) (path : String) :
    (disk.mkdirs path).2.WellFormed := by
  have kept : Working.Preserving WellFormed disk (disk.mkdirs path).2 :=
    @mkdirsFrom_induction _ _ (Working.Preserving WellFormed) inferInstance (fun _ => True)
      (fun _ _ => trivial) (fun _ made formed => WellFormed.mkdir formed made) _ trivial
  exact kept formed

theorem WellFormed.wrote {own : Nat} {bytes : Bytes} {executable : Bool} (formed : before.WellFormed)
    (wrote : Wrote before path at_ own bytes executable after) : after.WellFormed := by
  have elsewhere := wrote.elsewhere
  cases stands : before.get? at_ with
  | some node =>
    obtain ⟨_, _, rfl⟩ := wrote.same node stands
    have legible := formed.legible at_ _ stands
    obtain ⟨parent, name, rfl⟩ := (List.eq_nil_or_concat at_).resolve_left (ne_nil_of_file stands)
    rw [List.concat_eq_append] at *
    exact formed.entered wrote.grows (formed.tree parent name (by rw [stands]; rfl)) legible elsewhere
  | none =>
    obtain ⟨file, opened⟩ := wrote.opened
    obtain ⟨above, last, aims⟩ := aims_of_openForWriting formed.toRooted opened
    obtain ⟨parent, name, rfl, within⟩ := aims.within formed.toRooted
    obtain ⟨front, left, pieces, through, ends⟩ := aims.way
    have segments : ∀ piece ∈ front ++ [last], piece ≠ "" ∧ '/' ∉ piece.toList := by
      rw [← pieces, ← String.ofList_toList (s := path)]
      exact PathText.segment_of_mem_pieces _
    have legible := ends.legible (through.legible
      (fun piece member => segments piece (List.mem_append_left _ member)) (formed.start_legible path))
      (segments last (by simp))
    exact formed.entered wrote.grows within legible elsewhere

/-- Only a directory is found under a path with a slash at the end. -/
theorem bare_of_lookup (rooted : disk.Rooted) (found : disk.lookup follow path = .ok (at_, node))
    (single : node ≠ .dir) : hasSlash path = false := by
  rw [← Bool.not_eq_true]
  intro slash
  obtain ⟨located, stands⟩ := lookup_eq_ok_iff.mp found
  obtain ⟨-, walked⟩ := locate_eq_ok_iff.mp located
  obtain ⟨left, between, through, ends⟩ := through_of_walk (by simp [slash]) walked
  cases (walk_tail disk follow left between (hasSlash path)).symm.trans ends
  have directory := through.directory rooted.tree (rooted.start path)
  exact single (Option.some.inj (stands.symm.trans directory))

/-- The path of something that is no directory ends in a name. -/
theorem fileName?_of_lookup (formed : disk.WellFormed) (found : disk.lookup true path = .ok (at_, node))
    (single : node ≠ .dir) : ∃ name, PathText.fileName? path = some name := by
  obtain ⟨located, stands⟩ := lookup_eq_ok_iff.mp found
  obtain ⟨-, walked⟩ := locate_eq_ok_iff.mp located
  have begins := formed.toRooted.start path
  have bare : ¬ hasSlash path = true := by simp [bare_of_lookup formed.toRooted found single]
  rw [if_neg bare, List.append_nil] at walked
  obtain pieces | ⟨front, last, pieces⟩ := List.eq_nil_or_concat (PathText.pieces path)
  · rw [pieces, walk] at walked
    cases walked
    exact absurd (Option.some.inj (stands.symm.trans begins)) single
  rw [List.concat_eq_append] at pieces
  rw [pieces] at walked
  obtain ⟨left, between, through, ends⟩ := through_of_walk (List.cons_ne_nil _ _) walked
  have directory := through.directory formed.tree begins
  have further : ¬ (last == ".") = true := by
    intro dot
    rw [eq_of_beq dot, walk_stay, walk] at ends
    cases ends
    exact single (Option.some.inj (stands.symm.trans directory))
  have down : ¬ (last == "..") = true := by
    intro dots
    rw [eq_of_beq dots, walk_up, walk] at ends
    cases ends
    exact single (Option.some.inj (stands.symm.trans (formed.tree.up directory)))
  refine ⟨last, ?_⟩
  have ends : ∃ before, PathText.components path = before ++ [.name last] := by
    unfold PathText.components
    rw [pieces, List.filterMap_append]
    simp only [List.filterMap_cons, List.filterMap_nil, further, down, Bool.false_eq_true, if_false]
    split
    · exact ⟨_, (List.cons_append ..).symm⟩
    · split
      · exact ⟨_, (List.cons_append ..).symm⟩
      · exact ⟨_, rfl⟩
  obtain ⟨before, ends⟩ := ends
  rw [PathText.fileName?, ends, List.getLast?_concat]

end Forming

end Provision.Disk
