import Provision.Proofs.Disk.Shape
import Provision.Proofs.Disk.Shelter

/-! Where a path ends whose last piece is followed: at a file, or where a file could be made. Making
files and writing to them takes no such path away, and neither does removing the entry of one; what
another path led to is lost then only if both led to the same place. -/

namespace Provision.Disk

variable {disk before after : Disk} {links left other : Nat} {here there elsewhere at_ : Location}
  {name path : String} {pieces : List String}

/-- If anything stands there, then a file. -/
def Filable (disk : Disk) (at_ : Location) : Prop :=
  disk.get? at_ ≠ some .dir ∧ ∀ target, disk.get? at_ ≠ some (.link target)

theorem filable_of_free (free : disk.get? at_ = none) : disk.Filable at_ := by
  simp [Filable, free]

theorem filable_of_file {id : Nat} {bytes : Bytes} {executable : Bool}
    (found : disk.get? at_ = some (.file id bytes executable)) : disk.Filable at_ := by
  simp [Filable, found]

/-- The last piece of a path comes to such a place, through so many links at most. -/
inductive Ends (disk : Disk) : (links : Nat) → (here : Location) → (name : String) →
    (there : Location) → Prop where
  | stop {links : Nat} {here : Location} {name : String} (proper : Proper name)
    (filable : disk.Filable (here ++ [name])) : Ends disk links here name (here ++ [name])
  | link {links left : Nat} {here between there : Location} {name last target : String}
    {front : List String} (proper : Proper name)
    (found : disk.get? (here ++ [name]) = some (.link target)) (full : ¬ target.isEmpty = true)
    (pieces : linkPieces target = front ++ [last])
    (way : disk.Through links (linkStart target here) front left between)
    (later : Ends disk left between last there) : Ends disk (links + 1) here name there

theorem Through.left_le (through : disk.Through links here pieces left there) : left ≤ links := by
  induction through with
  | stop => exact Nat.le_refl _
  | stay later ih => exact ih
  | up later ih => exact ih
  | dir proper found later ih => exact ih
  | link proper found full way later first second => omega

theorem Through.of_stay {rest : List String} (through : disk.Through links here ("." :: rest) left there) :
    disk.Through links here rest left there := by
  generalize whole : "." :: rest = pieces at through
  cases through with
  | stop => cases whole
  | stay later =>
    cases whole
    exact later
  | up => exact absurd (List.cons.inj whole).1 (by decide)
  | dir proper =>
    cases whole
    exact absurd (by decide) proper.further
  | link proper =>
    cases whole
    exact absurd (by decide) proper.further

theorem Through.of_up {rest : List String} (through : disk.Through links here (".." :: rest) left there) :
    disk.Through links here.dropLast rest left there := by
  generalize whole : ".." :: rest = pieces at through
  cases through with
  | stop => cases whole
  | stay => exact absurd (List.cons.inj whole).1 (by decide)
  | up later =>
    cases whole
    exact later
  | dir proper =>
    cases whole
    exact absurd (by decide) proper.down
  | link proper =>
    cases whole
    exact absurd (by decide) proper.down

/-- Where pieces lead is no matter of how many links may be followed. -/
theorem Through.unique {more : Nat} (first : disk.Through links here pieces left there)
    (second : disk.Through more here pieces other elsewhere) : there = elsewhere := by
  induction first generalizing more other elsewhere with
  | stop =>
    cases second
    rfl
  | stay later ih => exact ih second.of_stay
  | up later ih => exact ih second.of_up
  | dir proper found later ih =>
    cases second with
    | stay => exact absurd (by decide) proper.further
    | up => exact absurd (by decide) proper.down
    | dir _ _ again => exact ih again
    | link _ linked =>
      rw [found] at linked
      cases linked
  | link proper found full way later ihWay ihLater =>
    cases second with
    | stay => exact absurd (by decide) proper.further
    | up => exact absurd (by decide) proper.down
    | dir _ directory =>
      rw [found] at directory
      cases directory
    | link _ linked _ again further =>
      rw [found] at linked
      cases linked
      cases ihWay again
      exact ihLater further

theorem Tree.up (tree : Tree disk) (directory : disk.get? at_ = some .dir) :
    disk.get? at_.dropLast = some .dir := by
  rcases List.eq_nil_or_concat at_ with rfl | ⟨front, last, rfl⟩
  · exact directory
  · rw [List.concat_eq_append] at directory ⊢
    rw [List.dropLast_concat]
    exact tree front last (by rw [directory]; rfl)

theorem Tree.linkStart (tree : Tree disk) {target : String}
    (stands : disk.get? (here ++ [name]) = some (.link target)) :
    disk.get? (linkStart target here) = some .dir := by
  unfold Disk.linkStart
  split
  · rfl
  · exact tree here name (by rw [stands]; rfl)

/-- From a directory pieces lead to directories. -/
theorem Through.directory (tree : Tree disk) (through : disk.Through links here pieces left there)
    (starts : disk.get? here = some .dir) : disk.get? there = some .dir := by
  induction through with
  | stop => exact starts
  | stay later ih => exact ih starts
  | up later ih => exact ih (tree.up starts)
  | dir proper found later ih => exact ih found
  | link proper found full way later first second => exact second (first (tree.linkStart found))

/-- What stands below a place in a tree stands in directories all the way down. -/
theorem Tree.within (tree : Tree disk) {names front : Location}
    (stands : (disk.get? (at_ ++ names)).isSome = true) (above : front <+: names)
    (further : front ≠ names) : disk.get? (at_ ++ front) = some .dir := by
  obtain ⟨_ | ⟨name, rest⟩, rfl⟩ := above
  · exact absurd (List.append_nil front).symm further
  exact tree (at_ ++ front) name (tree.isSome_above stands ⟨rest, by simp⟩)

theorem Tree.eq_nil_of_single (tree : Tree disk) {names : Location} (single : disk.get? at_ ≠ some .dir)
    (stands : (disk.get? (at_ ++ names)).isSome = true) : names = [] := by
  by_contra further
  have directory := tree.within stands List.nil_prefix (Ne.symm further)
  rw [List.append_nil] at directory
  exact single directory

/-- Names that can be followed lead down through directories. -/
theorem through_names {names : Location} (proper : ∀ name ∈ names, Proper name)
    (directories : ∀ front, front <+: names → disk.get? (at_ ++ front) = some .dir) :
    disk.Through links at_ names links (at_ ++ names) := by
  induction names using List.reverseRecOn with
  | nil =>
    rw [List.append_nil]
    exact .stop
  | append_singleton front name ih =>
    have above := ih (fun other member => proper other (List.mem_append_left _ member))
      fun other shorter => directories other (shorter.trans (List.prefix_append front [name]))
    have last := directories (front ++ [name]) List.prefix_rfl
    rw [← List.append_assoc] at last ⊢
    exact above.trans (.dir (proper name (by simp)) last .stop)

/-- What was entered under an absolute path is entered under the path without links too. -/
theorem EntersAt.resolved (tree : Tree disk) (enters : disk.EntersAt path parent name)
    (absolute : PathText.isAbsolute path = true)
    (valid : checkPath (pathOf (parent ++ [name])) = .ok ()) :
    hasSlash (pathOf (parent ++ [name])) = false ∧
      disk.EntersAt (pathOf (parent ++ [name])) parent name := by
  obtain ⟨-, proper, front, left, pieces, through⟩ := enters
  have segments : ∀ piece ∈ front ++ [name], piece ≠ "" ∧ '/' ∉ piece.toList := by
    rw [← pieces, ← String.ofList_toList (s := path)]
    exact PathText.segment_of_mem_pieces _
  have root : disk.startOf path = [] := if_pos absolute
  rw [root] at through
  have legible : Legible parent := through.legible
    (fun piece member => segments piece (List.mem_append_left _ member)) fun _ => nofun
  obtain ⟨nonempty, single⟩ := segments name (by simp)
  have plain : Plain name := ⟨nonempty, single, proper.further, proper.down⟩
  refine ⟨hasSlash_pathOf plain parent, valid, proper, parent, maxLinks,
    pieces_pathOf (legible.concat plain proper), ?_⟩
  rw [startOf, if_pos (pathOf_absolute _)]
  have directory := through.directory tree rfl
  refine through_names (fun other member => (legible other member).2) fun front above => ?_
  by_cases whole : front = parent
  · rwa [whole]
  · exact @Tree.within disk [] tree parent front (by rw [List.nil_append, directory]; rfl) above whole

namespace Ends

theorem proper (ends : disk.Ends links here name there) : Proper name := by
  cases ends <;> assumption

theorem filable (ends : disk.Ends links here name there) : disk.Filable there := by
  induction ends with
  | stop proper filable => exact filable
  | link proper found full pieces way later ih => exact ih

theorem entry (ends : disk.Ends links here name there) : disk.get? (here ++ [name]) ≠ some .dir := by
  cases ends with
  | stop proper filable => exact filable.1
  | link proper found =>
    rw [found]
    exact fun same => by cases same

theorem walk_eq (ends : disk.Ends links here name there) :
    disk.walk true links here [name] = .ok there := by
  induction ends with
  | @stop links here name proper filable =>
    rw [walk, if_neg proper.further, if_neg proper.down, if_neg proper.fits]
    rcases stands : disk.get? (here ++ [name]) with _ | ⟨id, bytes, executable⟩ | _ | target
    · rfl
    · rfl
    · exact absurd stands filable.1
    · exact absurd stands (filable.2 target)
  | link proper found full pieces way later ih =>
    rw [walk_link proper found full (.inr rfl), List.append_nil, pieces, way.walk_append (.inr rfl), ih]

theorem unique {more : Nat} (first : disk.Ends links here name there)
    (second : disk.Ends more here name elsewhere) : there = elsewhere := by
  induction first generalizing more elsewhere with
  | stop proper filable =>
    cases second with
    | stop => rfl
    | link _ found => exact absurd found (filable.2 _)
  | link proper found full pieces way later ih =>
    cases second with
    | stop _ filable => exact absurd found (filable.2 _)
    | link _ again _ split along further =>
      rw [found] at again
      cases again
      obtain ⟨rfl, same⟩ := List.append_inj' (pieces.symm.trans split) rfl
      cases same
      cases way.unique along
      exact ih further

/-- What comes to a file is not on the way to anything else. -/
theorem not_through {more : Nat} (ends : disk.Ends links here name there)
    (through : disk.Through more here [name] left elsewhere) : False := by
  induction ends generalizing more left elsewhere with
  | stop proper filable =>
    cases through with
    | stay => exact proper.further (by decide)
    | up => exact proper.down (by decide)
    | dir _ found => exact filable.1 found
    | link _ found => exact filable.2 _ found
  | link proper found full pieces way later ih =>
    cases through with
    | stay => exact proper.further (by decide)
    | up => exact proper.down (by decide)
    | dir _ directory =>
      rw [found] at directory
      cases directory
    | link _ again _ along _ =>
      rw [found] at again
      cases again
      rw [pieces] at along
      obtain ⟨middle, between, front, last⟩ := along.split
      cases way.unique front
      exact ih last

/-- The place is in a directory. -/
theorem within (tree : Tree disk) (ends : disk.Ends links here name there)
    (starts : disk.get? here = some .dir) :
    ∃ parent last, there = parent ++ [last] ∧ disk.get? parent = some .dir := by
  induction ends with
  | @stop _ here name => exact ⟨here, name, rfl, starts⟩
  | link proper found full pieces way later ih => exact ih (way.directory tree (tree.linkStart found))

end Ends

/-- A walk that does not come to a directory ends in this way. Induction on the links that may be
followed. -/
theorem ends_of_walk (tree : Tree disk) (starts : disk.get? here = some .dir) (proper : Proper name)
    (walked : disk.walk true links here [name] = .ok there) (single : disk.get? there ≠ some .dir) :
    disk.Ends links here name there := by
  induction links using Nat.strongRecOn generalizing here name with
  | ind links along =>
    obtain ⟨-, ⟨-, rfl, -, unlinked⟩ | ⟨found, later⟩ | ⟨target, fewer, found, full, rfl, -, later⟩⟩ :=
      walk_cases proper.further proper.down walked
    · exact .stop proper ⟨single, fun target linked => by cases unlinked target linked⟩
    · rw [walk] at later
      cases later
      exact absurd found single
    · rw [List.append_nil] at later
      have begins := tree.linkStart found
      rcases List.eq_nil_or_concat (linkPieces target) with none | ⟨front, last, pieces⟩
      · rw [none, walk] at later
        cases later
        exact absurd begins single
      · rw [List.concat_eq_append] at pieces
        rw [pieces] at later
        obtain ⟨left, between, way, ends⟩ := through_of_walk (List.cons_ne_nil last []) later
        have directory := way.directory tree begins
        have few := way.left_le
        by_cases further : (last == ".") = true
        · rw [eq_of_beq further, walk_stay, walk] at ends
          cases ends
          exact absurd directory single
        by_cases down : (last == "..") = true
        · rw [eq_of_beq down, walk_up, walk] at ends
          cases ends
          exact absurd (tree.up directory) single
        have fits : Proper last := (walk_cases further down ends).1
        exact .link proper found full pieces way (along left (by omega) directory fits ends)

section Filling

/-- Files were made or written to, and nothing else happened. -/
structure Fills (before after : Disk) : Prop extends Grows before after where
  filable : ∀ at_, before.Filable at_ → after.Filable at_

theorem Fills.trans {middle : Disk} (first : Fills before middle) (second : Fills middle after) :
    Fills before after :=
  ⟨Trans.trans first.toGrows second.toGrows, fun at_ free => second.filable at_ (first.filable at_ free)⟩

theorem Fills.ends (fills : Fills before after) (ends : before.Ends links here name there) :
    after.Ends links here name there := by
  induction ends with
  | stop proper filable => exact .stop proper (fills.filable _ filable)
  | link proper found full pieces way later ih =>
    exact .link proper (fills.get?_link found) full pieces (fills.through way) ih

theorem fills_addFile (free : disk.get? at_ = none) (bytes : Bytes) (executable : Bool) :
    Fills disk (disk.addFile at_ bytes executable) := by
  refine ⟨grows_addFile free bytes executable, fun place filable => ?_⟩
  have inside := ne_nil_of_free free
  by_cases same : place = at_
  · rw [same]
    exact filable_of_file (get?_put_self inside)
  · have stands : (disk.addFile at_ bytes executable).get? place = disk.get? place :=
      get?_put_other same
    rwa [Filable, stands]

theorem mem_addFile {entry : Location × Node} {bytes : Bytes} {executable : Bool}
    (free : disk.get? at_ = none) (member : entry ∈ (disk.addFile at_ bytes executable).entries) :
    entry ∈ disk.entries ∨ entry = (at_, .file disk.fresh bytes executable) := by
  have absent : ¬ (disk.entries.any fun entry => entry.1 == at_) = true := by
    intro present
    obtain ⟨other, stood, same⟩ := List.any_eq_true.mp present
    have stands := isSome_get?_of_mem stood
    rw [eq_of_beq same, free] at stands
    cases stands
  simp only [addFile, put, if_neg absent] at member
  rcases List.mem_append.mp member with stood | new
  · exact .inl stood
  · exact .inr (List.mem_singleton.mp new)

/-- A file has the new contents after it was written to, and every other one those that it had. -/
theorem mem_rewrite {file id : Nat} {bytes content : Bytes} {executable : Bool}
    (member : (at_, Node.file id bytes executable) ∈ (disk.rewrite file content).entries) :
    ∃ earlier, (at_, Node.file id earlier executable) ∈ disk.entries ∧
      bytes = if id == file then content else earlier := by
  obtain ⟨⟨place, node⟩, stood, same⟩ := List.mem_map.mp member
  cases node with
  | file other earlier permission =>
    cases same
    exact ⟨earlier, stood, rfl⟩
  | dir => cases same
  | link target => cases same

/-- What files contain and who has locks is no matter. -/
theorem Alike.fills (alike : Alike before after) : Fills before after := by
  refine ⟨⟨alike.cwd.symm, fun at_ node found => ?_⟩,
    fun at_ filable => ⟨fun found => ?_, fun target found => ?_⟩⟩
  · cases node with
    | file id bytes executable =>
      obtain ⟨others, same⟩ := alike.get?_file found
      exact ⟨_, same, rfl⟩
    | dir => exact ⟨_, alike.get?_dir found, rfl⟩
    | link target => exact ⟨_, alike.get?_link found, rfl⟩
  · exact filable.1 (alike.symm.get?_dir found)
  · exact filable.2 target (alike.symm.get?_link found)

end Filling

section Removal

theorem get?_erase_self (inside : at_ ≠ []) (disk : Disk) : (disk.erase at_).get? at_ = none :=
  get?_filter_none (· != at_) inside (by simp) disk

theorem get?_erase_other {place : Location} (different : place ≠ at_) (disk : Disk) :
    (disk.erase at_).get? place = disk.get? place :=
  get?_filter (· != at_) (by simpa using different) disk

theorem get?_of_erase {place : Location} {node : Node} (found : (disk.erase at_).get? place = some node) :
    disk.get? place = some node := by
  by_cases same : place = at_
  · by_cases inside : at_ = []
    · rw [same, inside] at found ⊢
      exact found
    · rw [same, get?_erase_self inside] at found
      cases found
  · rwa [get?_erase_other same] at found

variable {parent : Location} {more : Nat}

/-- The entry of a path that comes to a file is on no other way. -/
theorem Ends.through_erase {reached : Location} (ends : disk.Ends links here name there)
    (through : disk.Through more parent pieces left reached) :
    (disk.erase (here ++ [name])).Through more parent pieces left reached := by
  induction through with
  | stop => exact .stop
  | stay later ih => exact .stay ih
  | up later ih => exact .up ih
  | dir proper found later ih =>
    refine .dir proper ?_ ih
    rw [get?_erase_other, found]
    intro same
    exact ends.entry (same ▸ found)
  | @link _ _ _ from_ between _ piece target _ proper found full way later first second =>
    refine .link proper ?_ full first second
    rw [get?_erase_other, found]
    intro same
    obtain ⟨rfl, alone⟩ := List.append_inj' same rfl
    cases alone
    exact ends.not_through (.link proper found full way .stop)

/-- The end of another path stays where it was, unless it is the same: then that path leads to the place
of the entry that is removed. -/
theorem Ends.erase {reached : Location} {last : String} (ends : disk.Ends links here name there)
    (others : disk.Ends more parent last reached) :
    ((disk.erase (here ++ [name])).Ends more parent last reached ∧ reached ≠ here ++ [name]) ∨
      (reached = there ∧ (disk.erase (here ++ [name])).Ends more parent last (here ++ [name])) := by
  have free : (disk.erase (here ++ [name])).Filable (here ++ [name]) :=
    filable_of_free (get?_erase_self (by simp) disk)
  induction others with
  | @stop more parent last proper filable =>
    by_cases same : parent ++ [last] = here ++ [name]
    · obtain ⟨rfl, alone⟩ := List.append_inj' same rfl
      cases alone
      exact .inr ⟨(Ends.stop proper filable : disk.Ends more _ _ _).unique ends, .stop proper free⟩
    · refine .inl ⟨.stop proper ?_, same⟩
      rwa [Filable, get?_erase_other same]
  | @link fewer _ parent between reached last _ target front proper found full pieces way later ih =>
    by_cases same : parent ++ [last] = here ++ [name]
    · obtain ⟨rfl, alone⟩ := List.append_inj' same rfl
      cases alone
      exact .inr ⟨(Ends.link proper found full pieces way later).unique ends, .stop proper free⟩
    · have stands : (disk.erase (here ++ [name])).get? (parent ++ [last]) = some (.link target) := by
        rw [get?_erase_other same, found]
      have along := ends.through_erase way
      rcases ih with ⟨kept, apart⟩ | ⟨met, moved⟩
      · exact .inl ⟨.link proper stands full pieces along kept, apart⟩
      · exact .inr ⟨met, .link proper stands full pieces along moved⟩

end Removal

/-- The path can be opened for writing. Its last piece is this name in the parent directory, and what is
written would be there. -/
structure Aims (disk : Disk) (path : String) (parent : Location) (name : String) (there : Location) :
    Prop where
  valid : checkPath path = .ok ()
  bare : hasSlash path = false
  way : ∃ front left, PathText.pieces path = front ++ [name] ∧
    disk.Through maxLinks (disk.startOf path) front left parent ∧ disk.Ends left parent name there

/-- Every path starts from a directory, and whatever stands somewhere stands in one. -/
structure Rooted (disk : Disk) : Prop where
  tree : disk.Tree
  cwd : disk.get? disk.cwd = some .dir

theorem Rooted.start (rooted : disk.Rooted) (path : String) :
    disk.get? (disk.startOf path) = some .dir := by
  unfold startOf
  split
  · rfl
  · exact rooted.cwd

theorem Alike.rooted (alike : Alike before after) (rooted : before.Rooted) : after.Rooted where
  tree parent name stands := by
    refine alike.get?_dir (rooted.tree parent name ?_)
    have same := congrArg Option.isSome (alike.shapes (parent ++ [name]))
    simp only [shapeAt, Option.isSome_map] at same
    rwa [same]
  cwd := by
    rw [← alike.cwd]
    exact alike.get?_dir rooted.cwd

theorem Rooted.addFile {above : Location} {last : String} (rooted : disk.Rooted)
    (free : disk.get? (above ++ [last]) = none) (within : disk.get? above = some .dir)
    (bytes : Bytes) (executable : Bool) : (disk.addFile (above ++ [last]) bytes executable).Rooted where
  tree parent name stands := by
    have grows := grows_addFile free bytes executable
    by_cases same : parent ++ [name] = above ++ [last]
    · rw [(List.append_inj' same rfl).1]
      exact grows.get?_dir within
    · have stood : (disk.addFile (above ++ [last]) bytes executable).get? (parent ++ [name]) =
          disk.get? (parent ++ [name]) := get?_put_other same
      rw [stood] at stands
      exact grows.get?_dir (rooted.tree parent name stands)
  cwd := by
    have grows := grows_addFile free bytes executable
    rw [grows.cwd]
    exact grows.get?_dir rooted.cwd

theorem Rooted.erase (rooted : disk.Rooted) (single : disk.get? at_ ≠ some .dir) :
    (disk.erase at_).Rooted where
  tree parent name stands := by
    obtain ⟨node, found⟩ := Option.isSome_iff_exists.mp stands
    have directory := rooted.tree parent name (by rw [get?_of_erase found]; rfl)
    rw [get?_erase_other, directory]
    exact fun same => single (same ▸ directory)
  cwd := by
    have apart : disk.cwd ≠ at_ := fun same => single (same ▸ rooted.cwd)
    exact (get?_erase_other apart disk).trans rooted.cwd

namespace Aims

variable {parent : Location}

section

variable (aims : disk.Aims path parent name there)
include aims

theorem entersAt : disk.EntersAt path parent name := by
  obtain ⟨front, left, pieces, through, ends⟩ := aims.way
  exact ⟨aims.valid, ends.proper, front, left, pieces, through⟩

theorem filable : disk.Filable there := by
  obtain ⟨_, _, -, -, ends⟩ := aims.way
  exact ends.filable

theorem entry : disk.get? (parent ++ [name]) ≠ some .dir := by
  obtain ⟨_, _, -, -, ends⟩ := aims.way
  exact ends.entry

theorem locate_eq : disk.locate true path = .ok there := by
  obtain ⟨front, left, pieces, through, ends⟩ := aims.way
  have whole : disk.walk true maxLinks (disk.startOf path) (front ++ [name]) = .ok there := by
    rw [through.walk_append (.inr rfl), ends.walk_eq]
  simp only [locate, traced, aims.valid, aims.bare, bind, Except.bind, pieces, Bool.false_eq_true,
    if_false, List.append_nil, whole]

theorem target_free (free : disk.get? there = none) : disk.target path = .ok (there, none) := by
  simp [target_eq, locateEntry_eq_ok_iff.mpr aims.entersAt, aims.bare, aims.locate_eq, shapeAt, free]

theorem target_file {id : Nat} {bytes : Bytes} {executable : Bool}
    (found : disk.get? there = some (.file id bytes executable)) :
    disk.target path = .ok (there, some id) := by
  simp [target_eq, locateEntry_eq_ok_iff.mpr aims.entersAt, aims.bare, aims.locate_eq, shapeAt, found,
    Node.shape]

theorem leads_free (free : disk.get? there = none) : disk.leads path = none := by
  rw [leads, aims.target_free free]

theorem leads_file {id : Nat} {bytes : Bytes} {executable : Bool}
    (found : disk.get? there = some (.file id bytes executable)) : disk.leads path = some id := by
  rw [leads, aims.target_file found]

theorem read_eq {id : Nat} {bytes : Bytes} {executable : Bool}
    (found : disk.get? there = some (.file id bytes executable)) : disk.read path = .ok bytes := by
  simp only [read, lookup, aims.locate_eq, bind, Except.bind, found]

/-- There is nothing yet, or a file. -/
theorem cases : disk.get? there = none ∨
    ∃ id bytes executable, disk.get? there = some (.file id bytes executable) := by
  rcases stands : disk.get? there with _ | ⟨id, bytes, executable⟩ | _ | target
  · exact .inl rfl
  · exact .inr ⟨id, bytes, executable, rfl⟩
  · exact absurd stands aims.filable.1
  · exact absurd stands (aims.filable.2 target)

theorem within (rooted : disk.Rooted) :
    ∃ above last, there = above ++ [last] ∧ disk.get? above = some .dir := by
  obtain ⟨front, left, pieces, through, ends⟩ := aims.way
  exact ends.within rooted.tree (through.directory rooted.tree (rooted.start path))

theorem fills (fills : Fills disk after) : after.Aims path parent name there := by
  obtain ⟨front, left, pieces, through, ends⟩ := aims.way
  have start : after.startOf path = disk.startOf path := by
    unfold startOf
    rw [fills.cwd]
  exact ⟨aims.valid, aims.bare, front, left, pieces, start ▸ fills.through through, fills.ends ends⟩

/-- What another path comes to when the entry of this one is removed. -/
theorem erase {second last : String} {directory reached : Location}
    (others : disk.Aims second directory last reached) :
    ((disk.erase (parent ++ [name])).Aims second directory last reached ∧ reached ≠ parent ++ [name]) ∨
      (reached = there ∧ (disk.erase (parent ++ [name])).Aims second directory last (parent ++ [name])) := by
  obtain ⟨_, _, -, -, ends⟩ := aims.way
  obtain ⟨front, left, pieces, through, others_end⟩ := others.way
  have along := ends.through_erase through
  rcases ends.erase others_end with ⟨kept, apart⟩ | ⟨met, moved⟩
  · exact .inl ⟨⟨others.valid, others.bare, front, left, pieces, along, kept⟩, apart⟩
  · exact .inr ⟨met, others.valid, others.bare, front, left, pieces, along, moved⟩

end

/-- There is an entry of the name if there is a file at the end. -/
theorem exists_entry {id : Nat} {bytes : Bytes} {executable : Bool}
    (aims : disk.Aims path parent name there)
    (found : disk.get? there = some (.file id bytes executable)) :
    ∃ node, disk.get? (parent ++ [name]) = some node := by
  obtain ⟨_, _, -, -, ends⟩ := aims.way
  cases ends with
  | stop => exact ⟨_, found⟩
  | link proper linked => exact ⟨_, linked⟩

/-- The path ends at its entry if there is none. -/
theorem eq_of_free (aims : disk.Aims path parent name there)
    (free : disk.get? (parent ++ [name]) = none) : there = parent ++ [name] := by
  obtain ⟨_, _, -, -, ends⟩ := aims.way
  cases ends with
  | stop => rfl
  | link proper found =>
    rw [free] at found
    cases found

end Aims

/-- A path that can be opened for writing ends in a name. -/
theorem entersAt_of_openForWriting {file : Option (Nat × Bytes × Bool)}
    (opened : disk.openForWriting path = .ok (there, file)) :
    hasSlash path = false ∧ ∃ parent name, disk.EntersAt path parent name := by
  unfold openForWriting at opened
  rcases entry : disk.locateEntry path with error | ⟨parent, _ | name⟩
  · rw [entry] at opened
    cases opened
  · rw [entry] at opened
    cases opened
  · rw [entry] at opened
    simp only [bind, Except.bind, Option.isNone_some, Bool.false_or] at opened
    refine ⟨?_, parent, name, locateEntry_eq_ok_iff.mp entry⟩
    split at opened
    · cases opened
    · rename_i slash
      cases ends : hasSlash path with
      | false => rfl
      | true => simp [ends] at slash

theorem aims_of_openForWriting {file : Option (Nat × Bytes × Bool)} (rooted : disk.Rooted)
    (opened : disk.openForWriting path = .ok (there, file)) :
    ∃ parent name, disk.Aims path parent name there := by
  obtain ⟨bare, parent, name, valid, proper, front, left, pieces, through⟩ :=
    entersAt_of_openForWriting opened
  have single : disk.get? there ≠ some .dir := by
    rw [openForWriting_cases opened]
    cases file <;> simp
  have located := openForWriting_locate opened
  simp only [locate, traced, valid, bare, bind, Except.bind, pieces, Bool.false_eq_true, if_false,
    List.append_nil] at located
  rw [through.walk_append (.inr rfl)] at located
  exact ⟨parent, name, valid, bare, front, left, pieces, through,
    ends_of_walk rooted.tree (through.directory rooted.tree (rooted.start path)) proper located single⟩

section Unlinking

variable {parent : Location}

theorem unlink_ok (removed : disk.unlink path = .ok after) :
    ∃ parent name node, disk.EntersAt path parent name ∧
      disk.lookup false path = .ok (parent ++ [name], node) ∧ after = disk.erase (parent ++ [name]) := by
  unfold unlink at removed
  rcases entry : disk.locateEntry path with error | ⟨parent, _ | name⟩
  · rw [entry] at removed
    cases removed
  · rw [entry] at removed
    cases removed
  · rw [entry] at removed
    simp only [bind, Except.bind] at removed
    split at removed
    · cases removed
    · cases removed
    · rename_i node _ stands
      split at removed
      · cases removed
      · rename_i bare
        cases removed
        have enters := locateEntry_eq_ok_iff.mp entry
        exact ⟨parent, name, node, enters, enters.lookup (by simpa using bare) stands nofun, rfl⟩

theorem EntersAt.unlink_eq {node : Node} (enters : disk.EntersAt path parent name)
    (bare : hasSlash path = false) (found : disk.get? (parent ++ [name]) = some node)
    (single : node ≠ .dir) : disk.unlink path = .ok (disk.erase (parent ++ [name])) := by
  simp only [unlink, locateEntry_eq_ok_iff.mpr enters, bind, Except.bind, found, bare,
    Bool.false_eq_true, if_false]
  cases node with
  | dir => exact absurd rfl single
  | file id bytes executable => rfl
  | link target => rfl

theorem grows_erased (disk : Disk) (at_ : Location) : Grows (disk.erase at_) disk :=
  ⟨rfl, fun _ node found => ⟨node, get?_of_erase found, rfl⟩⟩

theorem lookup_locked (disk : Disk) (locked : List Nat) (follow : Bool) (path : String) :
    ({ disk with locked } : Disk).lookup follow path = disk.lookup follow path := by
  unfold lookup
  rw [(alike_locked disk locked).locate]
  rfl

end Unlinking

end Provision.Disk
