import Mathlib.Data.List.Induction
import Provision.Proofs.Disk.Ways

/-! Changes that keep to a part of a disk. If nothing stood there before and nothing stands there
afterwards, the disk is what it was, down to the order of its entries. -/

namespace Provision.Disk

variable {disk before after : Disk} {at_ place : Location} {places others : Location → Prop}
  {node : Node} {path name : String} {parent : Location}

/-- Neither place is at, above or inside the other. -/
structure Apart (here there : Location) : Prop where
  inside : ¬ here <+: there
  above : ¬ there <+: here

theorem Apart.ne {here there : Location} (apart : Apart here there) (names more : Location) :
    here ++ names ≠ there ++ more := by
  intro same
  have first : here <+: there ++ more := same ▸ List.prefix_append here names
  rcases List.prefix_or_prefix_of_prefix first (List.prefix_append there more) with within | beyond
  · exact apart.inside within
  · exact apart.above beyond

theorem Apart.concat {here there : Location} (apart : Apart here there) (name : String) :
    Apart (here ++ [name]) (there ++ [name]) where
  inside within := apart.ne [name] [name] <| by
    rcases List.prefix_concat_iff.mp within with same | shorter
    · exact same
    · exact absurd ((List.prefix_append here [name]).trans shorter) apart.inside
  above within := apart.ne [name] [name] <| by
    rcases List.prefix_concat_iff.mp within with same | shorter
    · exact same.symm
    · exact absurd ((List.prefix_append there [name]).trans shorter) apart.above

/-- The second disk differs from the first at such places only. -/
structure ChangedWithin (places : Location → Prop) (before after : Disk) : Prop where
  cwd : after.cwd = before.cwd
  locked : after.locked = before.locked
  elsewhere : ∀ keep : Location → Bool, (∀ at_, places at_ → keep at_ = false) →
    after.entries.filter (fun entry => keep entry.1) = before.entries.filter fun entry => keep entry.1

instance : IsPreorder Disk (ChangedWithin places) where
  refl _ := ⟨rfl, rfl, fun _ _ => rfl⟩
  trans _ _ _ first second := ⟨second.cwd.trans first.cwd, second.locked.trans first.locked,
    fun keep outside => (second.elsewhere keep outside).trans (first.elsewhere keep outside)⟩

theorem ChangedWithin.mono (changed : ChangedWithin places before after)
    (wider : ∀ at_, places at_ → others at_) : ChangedWithin others before after :=
  ⟨changed.cwd, changed.locked, fun keep outside =>
    changed.elsewhere keep fun at_ inside => outside at_ (wider at_ inside)⟩

theorem get?_eq_head? (inside : at_ ≠ []) (disk : Disk) :
    disk.get? at_ = (disk.entries.filter fun entry => entry.1 == at_).head?.map Prod.snd := by
  rw [get?_inside inside, List.head?_filter]

/-- Outside of the places a path finds what it found. -/
theorem ChangedWithin.get?_eq (changed : ChangedWithin places before after) (outside : ¬ places at_) :
    after.get? at_ = before.get? at_ := by
  by_cases inside : at_ = []
  · rw [inside]
    rfl
  · have other : ∀ place, places place → (place == at_) = false := by
      intro place there
      exact beq_eq_false_iff_ne.mpr fun same => outside (same ▸ there)
    rw [get?_eq_head? inside, get?_eq_head? inside, changed.elsewhere (· == at_) other]

theorem changedWithin_put (inside : places at_) (node : Node) :
    ChangedWithin places disk (disk.put at_ node) := by
  have listed : ∀ keep : Location → Bool, (∀ at_, places at_ → keep at_ = false) →
      (disk.put at_ node).entries.filter (fun entry => keep entry.1) =
        disk.entries.filter fun entry => keep entry.1 := by
    intro keep outside
    have gone : keep at_ = false := outside at_ inside
    unfold put
    split
    · have keys : ∀ entry : Location × Node,
          keep (if entry.1 == at_ then (at_, node) else entry).1 = keep entry.1 := by
        intro entry
        split
        · rename_i same
          rw [eq_of_beq same]
        · rfl
      simp only [List.filter_map, Function.comp_def, keys]
      refine (List.map_congr_left fun entry member => if_neg fun same => ?_).trans (List.map_id _)
      have kept := (List.mem_filter.mp member).2
      simp only [eq_of_beq same, gone] at kept
      cases kept
    · simp [List.filter_append, gone]
  refine ⟨?_, ?_, listed⟩
  · unfold put
    split <;> rfl
  · unfold put
    split <;> rfl

theorem changedWithin_addFile (inside : places at_) (bytes : Bytes) (executable : Bool) :
    ChangedWithin places disk (disk.addFile at_ bytes executable) :=
  ⟨(changedWithin_put inside _).cwd, (changedWithin_put inside _).locked,
    (changedWithin_put inside _).elsewhere⟩

/-- Entries that are dropped stood at such places. -/
theorem changedWithin_filter (keep : Location → Bool) (within : ∀ at_, keep at_ = false → places at_) :
    ChangedWithin places disk
      { disk with entries := disk.entries.filter fun entry => keep entry.1 } := by
  refine ⟨rfl, rfl, fun other outside => ?_⟩
  rw [List.filter_filter]
  refine List.filter_congr fun entry _ => ?_
  cases kept : keep entry.1 with
  | true => exact Bool.and_true _
  | false => rw [outside _ (within _ kept), Bool.false_and]

theorem get?_filter (keep : Location → Bool) (kept : keep at_ = true) (disk : Disk) :
    ({ disk with entries := disk.entries.filter fun entry => keep entry.1 } : Disk).get? at_ =
      disk.get? at_ := by
  by_cases inside : at_ = []
  · rw [inside]
    rfl
  · rw [get?_eq_head? inside, get?_eq_head? inside, List.filter_filter]
    congr 2
    refine List.filter_congr fun entry _ => ?_
    cases same : entry.1 == at_ with
    | true => rw [eq_of_beq same, kept]; rfl
    | false => rfl

theorem isSome_get?_of_mem {entry : Location × Node} (member : entry ∈ disk.entries) :
    (disk.get? entry.1).isSome = true := by
  by_cases inside : entry.1 = []
  · rw [inside]
    rfl
  · rw [get?_inside inside, Option.isSome_map, List.find?_isSome]
    exact ⟨entry, member, beq_self_eq_true entry.1⟩

theorem mem_of_get? (inside : at_ ≠ []) (found : disk.get? at_ = some node) :
    (at_, node) ∈ disk.entries := by
  rw [get?_inside inside] at found
  obtain ⟨entry, first, rfl⟩ := Option.map_eq_some_iff.mp found
  have key := List.find?_some first
  exact eq_of_beq key ▸ List.mem_of_find?_eq_some first

/-- The same disk, except for identities that were used up. -/
def Restored (before after : Disk) : Prop := after = { before with fresh := after.fresh }

theorem restored_of_eq (same : after = before) : Restored before after := by
  subst same
  rfl

theorem Restored.grows (restored : Restored before after) : Grows before after where
  cwd := by rw [restored]
  kept at_ node found := by
    rw [restored]
    exact ⟨node, found, rfl⟩

theorem ChangedWithin.restored (changed : ChangedWithin places before after)
    (free : ∀ at_, places at_ → before.get? at_ = none)
    (cleared : ∀ at_, places at_ → after.get? at_ = none) : Restored before after := by
  classical
  let keep : Location → Bool := fun at_ => !decide (places at_)
  have whole : ∀ disk : Disk, (∀ at_, places at_ → disk.get? at_ = none) →
      disk.entries.filter (fun entry => keep entry.1) = disk.entries := by
    intro disk none
    refine List.filter_eq_self.mpr fun entry member => ?_
    have present := isSome_get?_of_mem member
    have outside : ¬ places entry.1 := fun inside => by simp [none _ inside] at present
    simpa [keep] using outside
  have entries : after.entries = before.entries := by
    rw [← whole after cleared, ← whole before free]
    exact changed.elsewhere keep fun at_ inside => by simpa [keep] using inside
  have cwd := changed.cwd
  have locked := changed.locked
  rcases after with ⟨_, _, fresh, _⟩
  cases entries
  cases cwd
  cases locked
  rfl

/-- What stands elsewhere is not taken away. -/
theorem ChangedWithin.grows (changed : ChangedWithin places before after)
    (free : ∀ at_, places at_ → before.get? at_ = none) : Grows before after where
  cwd := changed.cwd
  kept at_ node found := by
    have outside : ¬ places at_ := fun inside => by
      rw [free at_ inside] at found
      cases found
    exact ⟨node, (changed.get?_eq outside).trans found, rfl⟩

/-- Whatever stands somewhere stands in a directory. -/
def Tree (disk : Disk) : Prop :=
  ∀ parent name, (disk.get? (parent ++ [name])).isSome = true → disk.get? parent = some .dir

/-- Whatever stands directly under the root. -/
theorem tree_of_flat (flat : ∀ entry ∈ disk.entries, ∃ name, entry.1 = [name]) : Tree disk := by
  intro parent name stands
  obtain ⟨node, found⟩ := Option.isSome_iff_exists.mp stands
  obtain ⟨only, same⟩ := flat _ (mem_of_get? (by simp) found)
  have root : parent = [] := (List.append_inj' (show parent ++ [name] = [] ++ [only] from same) rfl).1
  rw [root, get?_root]

/-- Nothing stands below a place where nothing stands. -/
theorem Tree.none_below (tree : Tree disk) (free : disk.get? at_ = none) (below : at_ <+: place) :
    disk.get? place = none := by
  obtain ⟨rest, rfl⟩ := below
  induction rest using List.reverseRecOn with
  | nil => rwa [List.append_nil]
  | append_singleton rest name ih =>
    rw [← List.append_assoc, ← Option.not_isSome_iff_eq_none]
    intro stands
    rw [tree _ _ stands] at ih
    cases ih

/-- Whatever is above something stands too. -/
theorem Tree.isSome_above (tree : Tree disk) (stands : (disk.get? place).isSome = true)
    (above : at_ <+: place) : (disk.get? at_).isSome = true := by
  rw [← Option.ne_none_iff_isSome]
  intro free
  rw [tree.none_below free above] at stands
  cases stands

theorem get?_filter_none (keep : Location → Bool) (inside : at_ ≠ []) (dropped : keep at_ = false)
    (disk : Disk) :
    ({ disk with entries := disk.entries.filter fun entry => keep entry.1 } : Disk).get? at_ = none := by
  rw [get?_eq_head? inside, List.filter_filter]
  have nothing : (disk.entries.filter fun entry => entry.1 == at_ && keep entry.1) = [] := by
    refine List.filter_eq_nil_iff.mpr fun entry _ both => ?_
    obtain ⟨same, kept⟩ := Bool.and_eq_true_iff.mp both
    rw [eq_of_beq same, dropped] at kept
    cases kept
  rw [nothing]
  rfl

/-- Since the first disk changes have kept to such places, where nothing stood. The path leads to one of
them. -/
structure Added (places : Location → Prop) (before : Disk) (path : String) (parent : Location)
    (name : String) (after : Disk) : Prop where
  enters : before.EntersAt path parent name
  bare : hasSlash path = false
  inside : places (parent ++ [name])
  free : ∀ at_, places at_ → before.get? at_ = none
  changed : ChangedWithin places before after

namespace Added

variable (added : Added places before path parent name after)
include added

theorem further {later : Disk} (changed : ChangedWithin places after later) :
    Added places before path parent name later :=
  { added with changed := Trans.trans added.changed changed }

theorem entersAt : after.EntersAt path parent name :=
  (added.changed.grows added.free).entersAt added.enters

/-- What stands there is found under the path. -/
theorem lookup {follow : Bool} (stands : after.get? (parent ++ [name]) = some node)
    (plain : ∀ target, node ≠ .link target) :
    after.lookup follow path = .ok (parent ++ [name], node) :=
  added.entersAt.lookup added.bare stands fun _ => plain

theorem canonical (stands : after.get? (parent ++ [name]) = some node)
    (plain : ∀ target, node ≠ .link target) :
    after.canonical path = .ok (pathOf (parent ++ [name])) :=
  added.entersAt.canonical added.bare stands plain

/-- A file is deleted without a trace if it is all that was added. -/
theorem delete_file (only : ∀ at_, places at_ → at_ = parent ++ [name]) {id : Nat} {bytes : Bytes}
    {executable : Bool} (file : after.get? (parent ++ [name]) = some (.file id bytes executable)) :
    ∃ gone, delete path after = (.ok (), gone) ∧ Restored before gone := by
  have unlinked : after.unlink path = .ok (after.erase (parent ++ [name])) := by
    simp only [unlink, locateEntry_eq_ok_iff.mpr added.entersAt, bind, Except.bind, file, added.bare,
      Bool.false_eq_true, if_false]
    rfl
  refine ⟨after.erase (parent ++ [name]), ?_, ?_⟩
  · rw [delete, Working.get_bind, added.lookup file (by simp)]
    exact attempt_ok _ unlinked
  · have erased : ChangedWithin places after (after.erase (parent ++ [name])) :=
      changedWithin_filter (· != parent ++ [name]) fun at_ dropped => by
        rw [show at_ = parent ++ [name] by simpa using dropped]
        exact added.inside
    refine ChangedWithin.restored (added.further erased).changed added.free fun at_ inside => ?_
    rw [only at_ inside]
    exact get?_filter_none (· != parent ++ [name]) (by simp) (by simp) after

end Added

/-- The disk with nothing left below a place. -/
def emptied (disk : Disk) (place : Location) : Disk :=
  { disk with
    entries := disk.entries.filter fun entry => !(place.isPrefixOf entry.1 && entry.1 != place) }

theorem changedWithin_emptied (disk : Disk) (place : Location) :
    ChangedWithin (place <+: ·) disk (disk.emptied place) := by
  refine changedWithin_filter (fun at_ => !(place.isPrefixOf at_ && at_ != place)) ?_
  intro at_ dropped
  have both : (place.isPrefixOf at_ && at_ != place) = true := by simpa using dropped
  exact List.isPrefixOf_iff_prefix.mp (Bool.and_eq_true_iff.mp both).1

theorem get?_emptied (disk : Disk) (place : Location) :
    (disk.emptied place).get? place = disk.get? place :=
  get?_filter (fun at_ => !(place.isPrefixOf at_ && at_ != place)) (by simp) disk

theorem children_emptied (disk : Disk) (place : Location) :
    (disk.emptied place).children place = [] := by
  refine List.filterMap_eq_nil_iff.mpr fun entry member => ?_
  have kept := (List.mem_filter.mp member).2
  split
  · rename_i name last
    refine if_neg fun same => ?_
    have below : place.isPrefixOf (place ++ [name]) = true :=
      List.isPrefixOf_iff_prefix.mpr (List.prefix_append place [name])
    rw [eq_of_beq same, below] at kept
    simp at kept
  · rfl

/-- Once the place itself is erased too, nothing is left at or below it. -/
theorem get?_removed (inside : place ≠ []) (below : place <+: at_) (disk : Disk) :
    ((disk.emptied place).erase place).get? at_ = none := by
  by_cases same : at_ = place
  · rw [same]
    exact get?_filter_none (· != place) inside (by simp) _
  · have kept : (fun other => other != place) at_ = true := by simpa using same
    refine (get?_filter (· != place) kept _).trans ?_
    refine get?_filter_none (fun at_ => !(place.isPrefixOf at_ && at_ != place)) ?_ ?_ disk
    · rintro rfl
      exact inside (List.prefix_nil.mp below)
    · have under : place.isPrefixOf at_ = true := List.isPrefixOf_iff_prefix.mpr below
      simpa [same] using under

theorem get?_removed_other (outside : ¬ place <+: at_) (disk : Disk) :
    ((disk.emptied place).erase place).get? at_ = disk.get? at_ := by
  have other : (fun other => other != place) at_ = true := by
    rw [bne_iff_ne]
    rintro rfl
    exact outside List.prefix_rfl
  refine (get?_filter (· != place) other _).trans ?_
  refine get?_filter (fun at_ => !(place.isPrefixOf at_ && at_ != place)) ?_ disk
  rw [Bool.not_eq_true', Bool.and_eq_false_iff, Bool.eq_false_iff, ne_eq, List.isPrefixOf_iff_prefix]
  exact .inl outside

theorem grows_emptied (disk : Disk) (place : Location) : Grows (disk.emptied place) disk := by
  refine ⟨rfl, fun at_ node found => ⟨node, ?_, rfl⟩⟩
  let keep := fun at_ : Location => !(place.isPrefixOf at_ && at_ != place)
  by_cases root : at_ = []
  · rw [root] at found ⊢
    exact found
  cases kept : keep at_ with
  | true => exact (get?_filter keep kept disk).symm.trans found
  | false => cases (get?_filter_none keep root kept disk).symm.trans found

/-- A directory is deleted without a trace if all that was added is at or below it. -/
theorem Added.delete_dir (added : Added (parent ++ [name] <+: ·) before path parent name after)
    (directory : after.get? (parent ++ [name]) = some .dir) :
    ∃ gone, delete path after = (.ok (), gone) ∧ Restored before gone := by
  let place := parent ++ [name]
  have found : after.lookup false path = .ok (place, .dir) := added.lookup directory (by simp)
  have emptied := added.further (changedWithin_emptied after place)
  have removed : (after.emptied place).rmdir path = .ok ((after.emptied place).erase place) := by
    have stands : (after.emptied place).get? (parent ++ [name]) = some .dir :=
      (get?_emptied after place).trans directory
    have childless : (after.emptied place).children (parent ++ [name]) = [] :=
      children_emptied after place
    simp only [rmdir, locateEntry_eq_ok_iff.mpr emptied.entersAt, bind, Except.bind, stands, childless]
    rfl
  refine ⟨(after.emptied place).erase place, ?_, ?_⟩
  · have whole : after.removeTree path =
        (.ok ((after.emptied place).erase place), (after.emptied place).erase place) := by
      unfold Disk.emptied at removed
      simp only [removeTree, found, removed]
      rfl
    rw [delete, Working.get_bind, found]
    simp only [Working.get_bind, whole]
    rfl
  · have erased : ChangedWithin (place <+: ·) (after.emptied place)
        ((after.emptied place).erase place) :=
      changedWithin_filter (· != place) fun at_ dropped => by
        have same : at_ = place := by simpa using dropped
        exact same ▸ List.prefix_rfl
    exact ChangedWithin.restored (emptied.further erased).changed added.free fun at_ below =>
      get?_removed (by simp) below after

end Provision.Disk
