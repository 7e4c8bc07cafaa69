import Provision.Proofs.Disk.Copying

/-! Moving. An entry that can be renamed is taken to its new place as a whole. Otherwise it is copied there
file by file and then deleted, and both have to agree on where that place is. -/

namespace Provision.Disk

variable {disk before middle after : Disk} {entry landed at_ here there old new : Location}
  {node moved : Node} {path source target place name : String} {links left : Nat}
  {front rest : List String}

section Renaming

/-- All that stood at and below the one place stands at and below the other one. -/
structure Relocated (old new : Location) (before after : Disk) : Prop where
  cwd : after.cwd = before.cwd
  taken : ∀ names, after.get? (new ++ names) = before.get? (old ++ names)
  gone : ∀ names, after.get? (old ++ names) = none
  elsewhere : ∀ at_, ¬ old <+: at_ → ¬ new <+: at_ → after.get? at_ = before.get? at_

/-- Where something is then. -/
def rebased (old new at_ : Location) : Location :=
  if old.isPrefixOf at_ then new ++ at_.drop old.length else at_

theorem rebased_inside (names : Location) : rebased old new (old ++ names) = new ++ names := by
  rw [rebased, if_pos (List.isPrefixOf_iff_prefix.mpr (List.prefix_append old names)), List.drop_left]

theorem rebased_outside (outside : ¬ old <+: at_) : rebased old new at_ = at_ :=
  if_neg (List.isPrefixOf_iff_prefix.not.mpr outside)

theorem entries_relocate (disk : Disk) (old new : Location) :
    (disk.relocate old new).entries =
      disk.entries.map fun entry => (rebased old new entry.1, entry.2) := by
  refine List.map_congr_left fun entry _ => ?_
  unfold rebased
  split <;> rfl

/-- What stands somewhere then stood where its entry comes from. -/
theorem get?_relocate (inside : at_ ≠ []) (root : here ≠ [])
    (comes : ∀ entry ∈ disk.entries, rebased old new entry.1 = at_ ↔ entry.1 = here) :
    (disk.relocate old new).get? at_ = disk.get? here := by
  have same : disk.entries.filter (fun entry => rebased old new entry.1 == at_) =
      disk.entries.filter fun entry => entry.1 == here := by
    refine List.filter_congr fun entry member => ?_
    rw [Bool.eq_iff_iff, beq_iff_eq, beq_iff_eq]
    exact comes entry member
  rw [get?_eq_head? inside, get?_eq_head? root, entries_relocate, List.filter_map, Function.comp_def, same,
    List.head?_map, Option.map_map]
  rfl

theorem relocated_relocate (apart : Apart old new) (free : ∀ names, disk.get? (new ++ names) = none) :
    Relocated old new disk (disk.relocate old new) := by
  have unused : ∀ entry ∈ disk.entries, ¬ new <+: entry.1 := by
    rintro entry member ⟨names, same⟩
    have stands := isSome_get?_of_mem member
    rw [← same, free names] at stands
    cases stands
  have first : old ≠ [] := fun root => apart.inside (root ▸ List.nil_prefix)
  have second : new ≠ [] := fun root => apart.above (root ▸ List.nil_prefix)
  refine ⟨rfl, fun names => ?_, fun names => ?_, fun at_ one two => ?_⟩
  · refine get?_relocate (by simp [second]) (by simp [first]) fun entry member => ⟨fun same => ?_, ?_⟩
    · by_cases inside : old <+: entry.1
      · obtain ⟨others, whole⟩ := inside
        rw [← whole, rebased_inside] at same
        rw [← whole, List.append_cancel_left same]
      · rw [rebased_outside inside] at same
        exact absurd (same ▸ List.prefix_append new names) (unused entry member)
    · rintro same
      rw [same, rebased_inside]
  · rw [← Option.not_isSome_iff_eq_none]
    intro stands
    obtain ⟨node, found⟩ := Option.isSome_iff_exists.mp stands
    have listed := mem_of_get? (by simp [first]) found
    rw [entries_relocate] at listed
    obtain ⟨entry, -, same⟩ := List.mem_map.mp listed
    have same : rebased old new entry.1 = old ++ names := congrArg Prod.fst same
    by_cases inside : old <+: entry.1
    · obtain ⟨others, whole⟩ := inside
      rw [← whole, rebased_inside] at same
      exact apart.ne names others same.symm
    · rw [rebased_outside inside] at same
      exact inside (same ▸ List.prefix_append old names)
  · by_cases root : at_ = []
    · rw [root]
      rfl
    refine get?_relocate root root fun entry _ => ?_
    by_cases inside : old <+: entry.1
    · refine iff_of_false (fun same => two ?_) fun same => one (same ▸ inside)
      obtain ⟨others, whole⟩ := inside
      rw [← whole, rebased_inside] at same
      exact same ▸ List.prefix_append new others
    · rw [rebased_outside inside]

/-- The entry was renamed. At most an entry of the same kind gave way to it, with nothing in it. -/
structure Renamed (before : Disk) (old new : Location) (moved : Node) (after : Disk) : Prop extends
    Relocated old new before after where
  apart : Apart old new
  stands : before.get? old = some moved
  kind : ∀ node, before.get? new = some node → (node = .dir ↔ moved = .dir)
  empty : ∀ names, names ≠ [] → before.get? (new ++ names) = none

theorem Relocated.of_erase (relocated : Relocated old new (before.erase new) after) (apart : Apart old new) :
    Relocated old new before after where
  cwd := relocated.cwd
  taken names := by
    rw [relocated.taken, get?_erase_other fun same => ?_]
    exact apart.ne names [] (same.trans (List.append_nil new).symm)
  gone := relocated.gone
  elsewhere at_ one two := by
    rw [relocated.elsewhere at_ one two, get?_erase_other fun same => ?_]
    exact two (same ▸ List.prefix_rfl)

theorem renamed_of_free (tree : before.Tree) (further : ¬ old <+: new) (stands : before.get? old = some moved)
    (free : before.get? new = none) : Renamed before old new moved (before.relocate old new) := by
  have apart : Apart old new := by
    refine ⟨further, fun above => ?_⟩
    rw [tree.none_below free above] at stands
    cases stands
  have nothing : ∀ names, before.get? (new ++ names) = none := fun names =>
    tree.none_below free (List.prefix_append new names)
  refine ⟨relocated_relocate apart nothing, apart, stands, fun node taken => ?_, fun names _ => nothing names⟩
  rw [free] at taken
  cases taken

theorem renamed_of_taken (further : ¬ old <+: new) (stands : before.get? old = some moved)
    (taken : before.get? new = some node) (same : node = .dir ↔ moved = .dir) (root : new ≠ [])
    (empty : ∀ names, names ≠ [] → before.get? (new ++ names) = none) :
    Renamed before old new moved ((before.erase new).relocate old new) := by
  have apart : Apart old new := by
    refine ⟨further, fun ⟨names, whole⟩ => ?_⟩
    have more : names ≠ [] := by
      rintro rfl
      exact further (whole ▸ (List.append_nil new).symm ▸ List.prefix_rfl)
    rw [← whole, empty names more] at stands
    cases stands
  have nothing : ∀ names, (before.erase new).get? (new ++ names) = none := by
    intro names
    by_cases more : names = []
    · rw [more, List.append_nil, get?_erase_self root]
    · rw [get?_erase_other (by simp [more]), empty names more]
  refine ⟨(relocated_relocate apart nothing).of_erase apart, apart, stands, fun other found => ?_, empty⟩
  rw [taken] at found
  cases found
  exact same

/-- Nothing stands below what has nothing in it. -/
theorem Tree.none_of_childless {names : Location} (tree : disk.Tree) (childless : disk.children at_ = [])
    (more : names ≠ []) : disk.get? (at_ ++ names) = none := by
  obtain ⟨first, rest, rfl⟩ := List.exists_cons_of_ne_nil more
  have nothing : disk.get? (at_ ++ [first]) = none := by
    rw [← Option.not_isSome_iff_eq_none, ← mem_children_iff, childless]
    exact List.not_mem_nil
  exact tree.none_below nothing ⟨rest, by simp⟩

/-- All that a renaming that goes well can have done. -/
theorem rename_ok (tree : before.Tree) (went : before.rename source target = .ok after) :
    ∃ parent name above last moved, before.EntersAt source parent name ∧
      before.EntersAt target above last ∧ before.get? (parent ++ [name]) = some moved ∧
      (moved ≠ .dir → hasSlash source = false) ∧
      ((parent ++ [name] = above ++ [last] ∧ after = before) ∨
        Renamed before (parent ++ [name]) (above ++ [last]) moved after) := by
  unfold rename at went
  rcases one : before.locateEntry source with error | ⟨parent, name⟩
  · rw [one] at went
    cases went
  rcases two : before.locateEntry target with error | ⟨above, last⟩
  · rw [one, two] at went
    cases went
  rw [one, two] at went
  rcases name with _ | name
  · cases went
  rcases last with _ | last
  · cases went
  have root : above ++ [last] ≠ [] := by simp
  simp only [bind, Except.bind] at went
  rcases stands : before.get? (parent ++ [name]) with _ | moved
  · rw [stands] at went
    cases went
  rw [stands] at went
  dsimp only at went
  refine ⟨parent, name, above, last, moved, locateEntry_eq_ok_iff.mp one, locateEntry_eq_ok_iff.mp two,
    stands, fun single => ?_, ?_⟩
  · split at went
    · cases went
    · rename_i bare
      have both : hasSlash source = false ∧ hasSlash target = false := by simpa [single] using bare
      exact both.1
  generalize parent ++ [name] = old at *
  generalize above ++ [last] = new at *
  split at went
  · cases went
  split at went
  · rename_i same
    cases went
    exact .inl ⟨eq_of_beq same, rfl⟩
  split at went
  · cases went
  rename_i below
  have further : ¬ old <+: new := List.isPrefixOf_iff_prefix.not.mp below
  right
  split at went
  · rename_i free
    cases went
    exact renamed_of_free tree further stands free
  · rename_i taken
    split at went
    · cases went
    rename_i directory
    have directory : moved = .dir := by simpa using directory
    split at went
    · cases went
    rename_i childless
    have childless : before.children new = [] := by simpa using childless
    cases went
    exact renamed_of_taken further stands taken (iff_of_true rfl directory) root fun names =>
      tree.none_of_childless childless
  · rename_i node other taken
    split at went
    · cases went
    rename_i single
    have single : moved ≠ .dir := by simpa using single
    cases went
    refine renamed_of_taken further stands taken (iff_of_false other single) root fun names more => ?_
    rw [← Option.not_isSome_iff_eq_none]
    exact fun there => more (tree.eq_nil_of_single (by simpa [taken] using other) there)

/-- The entry that a path names is found under it without its last link being followed. -/
theorem EntersAt.entry_eq {parent : Location} (enters : disk.EntersAt path parent name)
    (stands : disk.get? (parent ++ [name]) = some moved) (bare : moved ≠ .dir → hasSlash path = false)
    (found : disk.lookup false path = .ok (entry, node)) : parent ++ [name] = entry ∧ moved = node := by
  have again : disk.lookup false path = .ok (parent ++ [name], moved) := by
    by_cases directory : moved = .dir
    · subst directory
      exact enters.lookup_dir stands
    · exact enters.lookup (bare directory) stands fun follows => by cases follows
  cases again.symm.trans found
  exact ⟨rfl, rfl⟩

/-- A walk goes on going the same way as long as its directories and links are there, or nothing is there that
could be followed. Induction on the way. -/
theorem Through.kept (through : before.Through links here front left there) (more : rest ≠ [])
    (kept : ∀ at_ node, before.get? at_ = some node → after.get? at_ = some node ∨ after.Filable at_)
    (walked : after.walk true links here (front ++ rest) = .ok at_) :
    after.Through links here front left there := by
  induction through generalizing rest with
  | stop => exact .stop
  | stay later ih =>
    rw [List.cons_append, walk_stay] at walked
    exact .stay (ih more walked)
  | up later ih =>
    rw [List.cons_append, walk_up] at walked
    exact .up (ih more walked)
  | @dir _ _ here _ piece _ proper found later ih =>
    obtain ⟨-, ⟨last, -⟩ | ⟨same, further⟩ | ⟨target, _, linked, -⟩⟩ :=
      walk_cases proper.further proper.down walked
    · exact absurd last (List.append_ne_nil_of_right_ne_nil _ more)
    · exact .dir proper same (ih more further)
    · rcases kept _ _ found with same | filable
      · cases same.symm.trans linked
      · exact absurd linked (filable.2 target)
  | @link _ _ _ here _ _ piece target _ proper found full way later first second =>
    obtain ⟨-, ⟨last, -⟩ | ⟨directory, -⟩ | ⟨other, fewer, linked, -, same, -, further⟩⟩ :=
      walk_cases proper.further proper.down walked
    · exact absurd last (List.append_ne_nil_of_right_ne_nil _ more)
    · rcases kept _ _ found with same | filable
      · cases same.symm.trans directory
      · exact absurd directory filable.1
    · rcases kept _ _ found with stays | filable
      · cases stays.symm.trans linked
        cases same
        have along := first (List.append_ne_nil_of_right_ne_nil _ more) further
        rw [along.walk_append (.inr rfl)] at further
        exact .link proper stays full along (second more further)
      · exact absurd linked (filable.2 other)

namespace Renamed

variable (renamed : Renamed before old new moved after)
include renamed

theorem arrived : after.get? new = some moved := by
  have taken := renamed.taken []
  rwa [List.append_nil, List.append_nil, renamed.stands] at taken

/-- No way leads on where a directory or a link was before. -/
theorem kept (plain : ∀ target, moved ≠ .link target) (at_ : Location) (node : Node)
    (found : before.get? at_ = some node) : after.get? at_ = some node ∨ after.Filable at_ := by
  by_cases inside : old <+: at_
  · obtain ⟨names, rfl⟩ := inside
    exact .inr (filable_of_free (renamed.gone names))
  by_cases below : new <+: at_
  · obtain ⟨names, rfl⟩ := below
    by_cases more : names = []
    · rw [more, List.append_nil] at found ⊢
      have kind := renamed.kind node found
      have arrived := renamed.arrived
      cases moved with
      | dir => exact .inl (kind.mpr rfl ▸ arrived)
      | file id bytes executable => exact .inr (filable_of_file arrived)
      | link target => exact absurd rfl (plain target)
    · rw [renamed.empty names more] at found
      cases found
  · exact .inl ((renamed.elsewhere at_ inside below).trans found)

/-- If the path still leads anywhere, it leads to what came there. -/
theorem finds_eq {above : Location} {last : String} (plain : ∀ target, moved ≠ .link target)
    (enters : before.EntersAt place above last) (same : above ++ [last] = new)
    (finds : after.Finds place at_) : at_ = new := by
  subst same
  obtain ⟨node, found⟩ := finds
  obtain ⟨valid, proper, front, left, pieces, through⟩ := enters
  obtain ⟨-, walked⟩ := locate_eq_ok_iff.mp (locate_of_lookup found)
  have start : after.startOf place = before.startOf place := by rw [startOf, startOf, renamed.cwd]
  rw [start, pieces, List.append_assoc] at walked
  have goesOn := through.kept (by simp) (renamed.kept plain) walked
  have still : after.EntersAt place above last := ⟨valid, proper, front, left, pieces, start ▸ goesOn⟩
  rcases still.entry found with ⟨target, linked⟩ | ⟨-, ends⟩
  · exact absurd (Option.some.inj (renamed.arrived.symm.trans linked)) (plain target)
  · exact ends

end Renamed

end Renaming

section Deleting

open Working

/-- What the path names was deleted, with all that was in it. -/
structure Deleted (path : String) (entry : Location) (before after : Disk) : Prop where
  named : ∃ parent name, before.EntersAt path parent name ∧ parent ++ [name] = entry
  cwd : after.cwd = before.cwd
  gone : ∀ names, after.get? (entry ++ names) = none
  elsewhere : ∀ at_, ¬ entry <+: at_ → after.get? at_ = before.get? at_

theorem Deleted.grows (deleted : Deleted path entry before after) : Grows after before := by
  refine ⟨deleted.cwd.symm, fun at_ node found => ⟨node, ?_, rfl⟩⟩
  rw [← deleted.elsewhere at_, found]
  rintro ⟨names, rfl⟩
  rw [deleted.gone names] at found
  cases found

theorem rmdir_ok (went : before.rmdir path = .ok after) : ∃ parent name,
    before.EntersAt path parent name ∧ before.get? (parent ++ [name]) = some .dir ∧
      after = before.erase (parent ++ [name]) := by
  unfold rmdir at went
  rcases entry : before.locateEntry path with error | ⟨parent, _ | name⟩
  · rw [entry] at went
    cases went
  · rw [entry] at went
    simp only [bind, Except.bind] at went
    split at went <;> cases went
  · rw [entry] at went
    simp only [bind, Except.bind] at went
    split at went
    · cases went
    · rename_i stands
      split at went
      · cases went
        exact ⟨parent, name, locateEntry_eq_ok_iff.mp entry, stands, rfl⟩
      · cases went
    · cases went

theorem removeTree_ok (went : before.removeTree path = (.ok middle, after))
    (found : before.lookup false path = .ok (entry, .dir)) : Deleted path entry before after := by
  unfold removeTree at went
  rw [found] at went
  dsimp only at went
  rcases removed : (before.emptied entry).rmdir path with error | last
  · unfold emptied at removed
    rw [removed] at went
    cases went
  · have ends : last = after := by
      unfold emptied at removed
      rw [removed] at went
      exact congrArg Prod.snd went
    subst ends
    obtain ⟨parent, name, enters, stands, rfl⟩ := rmdir_ok removed
    have grows := grows_emptied before entry
    have enters := grows.entersAt enters
    obtain ⟨same, -⟩ := enters.entry_eq (grows.get?_dir stands) (fun single => absurd rfl single) found
    have root : entry ≠ [] := by simp [← same]
    rw [same]
    exact ⟨⟨parent, name, enters, same⟩, rfl, fun names =>
      get?_removed root (List.prefix_append entry names) before, fun at_ outside =>
      get?_removed_other outside before⟩

theorem delete_ok (tree : before.Tree) (found : before.lookup false path = .ok (entry, node))
    (went : delete path before = (.ok (), after)) : Deleted path entry before after := by
  rw [delete, get_bind, found] at went
  have single : ∀ {context : String}, attempt context (fun disk => disk.unlink path) before = (.ok (), after) →
      node ≠ .dir → Deleted path entry before after := by
    intro context went other
    rw [attempt, get_bind] at went
    rcases removed : before.unlink path with error | last
    · rw [removed] at went
      cases went
    · rw [removed] at went
      cases went
      obtain ⟨parent, name, _, enters, again, rfl⟩ := unlink_ok removed
      cases again.symm.trans found
      refine ⟨⟨parent, name, enters, rfl⟩, rfl, fun names => ?_, fun at_ outside => ?_⟩
      · by_cases more : names = []
        · rw [more, List.append_nil, get?_erase_self (by simp)]
        · rw [get?_erase_other (by simp [more]), ← Option.not_isSome_iff_eq_none]
          exact fun there => more (tree.eq_nil_of_single (by simp [get?_of_lookup found, other]) there)
      · refine get?_erase_other (fun same => outside ?_) before
        exact same ▸ List.prefix_rfl
  cases node with
  | file id bytes executable => exact single went (by simp)
  | link target => exact single went (by simp)
  | dir =>
    rcases removed : before.removeTree path with ⟨error | gone, last⟩
    · simp only [get_bind, removed] at went
      cases went
    · simp only [get_bind, removed] at went
      cases went
      exact removeTree_ok removed found

end Deleting

section Fallback

variable {names tail : Location} {jobs : List Job} {job whole : Job} {depth : Nat}

/-- Names that meet no link lead where they say. -/
theorem walk_names (plain : ∀ name ∈ names, Plain name)
    (unlinked : ∀ front target, front ≠ [] → disk.get? (here ++ front) ≠ some (.link target))
    (stays : ∃ slash : Bool, tail = if slash then ["."] else [])
    (walked : disk.walk true links here (names ++ tail) = .ok there) : there = here ++ names := by
  induction names generalizing here with
  | nil =>
    obtain ⟨slash, rfl⟩ := stays
    rw [List.nil_append, walk_tail] at walked
    rw [List.append_nil]
    exact (Except.ok.inj walked).symm
  | cons name rest ih =>
    have first := plain name (.head _)
    have others : ∀ other ∈ rest, Plain other := fun other member => plain other (.tail _ member)
    obtain ⟨-, ⟨last, ends, -⟩ | ⟨-, later⟩ | ⟨target, -, linked, -⟩⟩ :=
      walk_cases first.notHere first.notUp walked
    · rw [(List.append_eq_nil_iff.mp last).1, ends]
    · rw [ih others (fun front target more => ?_) later, List.append_assoc]
      · rfl
      · rw [List.append_assoc]
        exact unlinked _ target (by simp)
    · exact absurd linked (unlinked [name] target (by simp))

/-- Without links below, what a path leads to that goes on is below what the path leads to. -/
theorem Finds.under (finds : disk.Finds path here) (more : names ≠ []) (plain : ∀ name ∈ names, Plain name)
    (unlinked : ∀ front target, front ≠ [] → disk.get? (here ++ front) ≠ some (.link target))
    (located : disk.locate true (PathText.under path names) = .ok at_) : at_ = here ++ names := by
  obtain ⟨node, found⟩ := finds
  obtain ⟨valid, first⟩ := locate_eq_ok_iff.mp (locate_of_lookup found)
  have nonempty : path ≠ "" := by
    rintro rfl
    cases valid
  obtain ⟨-, start, spelled⟩ := PathText.pieces_under nonempty plain
  obtain ⟨-, walked⟩ := locate_eq_ok_iff.mp located
  rw [startOf, start, spelled, List.append_assoc] at walked
  obtain ⟨left, between, through, ends⟩ := through_of_walk (List.append_ne_nil_of_left_ne_nil more _) walked
  rw [startOf, through.walk_append (.inr rfl), walk_tail] at first
  cases first
  exact walk_names plain unlinked ⟨_, rfl⟩ ends

theorem length_lt_of_checkPath (nonempty : path ≠ "") (plain : ∀ name ∈ names, Plain name)
    (valid : checkPath (PathText.under path names) = .ok ()) : names.length < maxPath := by
  have longer : ∀ {path : String}, path ≠ "" →
      path.utf8ByteSize + names.length ≤ (PathText.under path names).utf8ByteSize := by
    clear valid
    induction names with
    | nil => exact fun _ => Nat.le_refl _
    | cons name rest ih =>
      intro path nonempty
      have first := utf8ByteSize_join nonempty (plain name (.head _))
      have later := ih (fun other member => plain other (.tail _ member)) (@join_ne_empty path name nonempty)
      rw [List.length_cons]
      rw [PathText.under, List.foldl_cons]
      rw [PathText.under] at later
      omega
  have some : path.utf8ByteSize ≠ 0 := String.utf8ByteSize_eq_zero_iff.not.mpr nonempty
  have whole := longer nonempty
  have short := size_of_checkPath valid
  omega

/-- What is no directory is part of the whole, unless it is too deep. Induction on its names. -/
theorem exists_part (tree : disk.Tree) (stands : disk.get? (whole.at_ ++ names) = some node)
    (single : node ≠ .dir) : ∃ front, front <+: names ∧ (front = names ∨ front.length = depth) ∧
      disk.Part depth whole ⟨PathText.under whole.source front, whole.at_ ++ front,
        PathText.under whole.target front⟩ := by
  induction names generalizing depth whole with
  | nil =>
    rw [List.append_nil] at stands
    have itself : whole = ⟨PathText.under whole.source [], whole.at_ ++ [], PathText.under whole.target []⟩ := by
      simp [PathText.under]
    refine ⟨[], List.nil_prefix, .inl rfl, ?_⟩
    rw [← itself]
    cases depth with
    | zero => exact .bottom whole
    | succ depth =>
      refine .single ?_
      rw [isDirAt, stands, beq_eq_false_iff_ne]
      exact fun same => single (Option.some.inj same)
  | cons name rest ih =>
    cases depth with
    | zero =>
      refine ⟨[], List.nil_prefix, .inr rfl, ?_⟩
      simpa [PathText.under] using Part.bottom whole
    | succ depth =>
      have there : (disk.get? (whole.at_ ++ name :: rest)).isSome = true := by rw [stands]; rfl
      have directory := tree.within there List.nil_prefix (List.cons_ne_nil _ _).symm
      rw [List.append_nil] at directory
      have listed : (disk.get? (whole.at_ ++ [name])).isSome = true :=
        tree.isSome_above there ⟨rest, by simp⟩
      rw [List.append_cons] at stands
      obtain ⟨front, above, ends, part⟩ := @ih (whole.inside name) depth stands
      refine ⟨name :: front, List.prefix_cons_inj name |>.mpr above, ?_, ?_⟩
      · exact ends.imp (fun same => by rw [same]) fun deep => by rw [List.length_cons, deep]
      · have within := Part.inside (isDirAt_iff.mpr directory) (mem_children_iff.mpr listed) part
        simpa [Job.inside, PathText.under] using within

/-- Links are never copied. -/
theorem Course.link (course : Course jobs before after) (found : after.get? at_ = some (.link target)) :
    before.get? at_ = some (.link target) := by
  induction course with
  | done disk => exact found
  | @made _ before _ path later ih =>
    exact ((extends_mkdirs before path).added at_ _ (ih found)).resolve_right (by simp)
  | copied went later ih =>
    obtain ⟨_, place, _, _, _, _, -, wrote⟩ := copyFile_ok went
    have stands := ih found
    by_cases onto : at_ = place
    · rw [onto, wrote.stands] at stands
      cases stands
    · rwa [wrote.elsewhere at_ onto] at stands

/-- The job copies what stands under these names in the source, and is no directory, to the same names at
the place. -/
structure Carries (source : String) (entry landed : Location) (disk : Disk) (job : Job) (names : Location) :
    Prop where
  stands : ∃ node, disk.get? (entry ++ names) = some node ∧ node ≠ .dir
  source : job.source = PathText.under source names
  lands : ∀ at_, disk.Finds job.target at_ → at_ = landed ++ names

theorem Carries.plain (carries : Carries source entry landed disk job names) (formed : disk.WellFormed) :
    ∀ name ∈ names, Plain name := by
  obtain ⟨node, stands, -⟩ := carries.stands
  exact fun name member => (formed.legible _ node stands name (List.mem_append_right _ member)).1

/-- What the copies that are made in the source copy is no deeper than what was there before, and none of that
is copied into the source. Induction on how deep it is, from below. -/
theorem Course.born (course : Course jobs before after) (formed : after.WellFormed) (nonempty : source ≠ "")
    (carries : ∀ job ∈ jobs, ∃ names, Carries source entry landed after job names)
    (outer : ¬ entry <+: landed)
    (outside : ∀ names node, before.get? (entry ++ names) = some node → node ≠ .dir →
      ¬ entry <+: landed ++ names)
    (found : after.get? (entry ++ names) = some node) (single : node ≠ .dir) :
    ∃ first, before.get? (entry ++ names) = some first ∧ first ≠ .dir := by
  induction above : maxPath - names.length using Nat.strongRecOn generalizing names node with
  | ind height ih =>
    refine (course.origin found single).resolve_right ?_
    rintro ⟨job, member, finds⟩
    obtain ⟨others, carries⟩ := carries job member
    obtain ⟨_, _, _, _, read⟩ := (course.finds member).1
    have valid := (locate_eq_ok_iff.mp (locate_of_lookup read)).1
    rw [carries.source] at valid
    have short := length_lt_of_checkPath nonempty (carries.plain formed) valid
    obtain ⟨other, stands, alone⟩ := carries.stands
    have same : entry ++ names = landed ++ others := carries.lands _ finds
    have inside : entry <+: landed ++ others := same ▸ List.prefix_append entry names
    obtain ⟨more, rfl⟩ := (List.prefix_or_prefix_of_prefix inside (List.prefix_append landed others)).resolve_left
      outer
    rw [List.append_assoc, List.append_cancel_left_eq] at same
    have deeper : 0 < more.length := by
      rw [List.length_pos_iff]
      rintro rfl
      exact outer (by simp)
    have longer : others.length = more.length + names.length := by rw [← same, List.length_append]
    obtain ⟨first, there, kind⟩ := ih _ (by omega) stands alone rfl
    exact outside others first there kind inside

/-- What was in the one place is in the other, and no other file is gone but what gave way to something
from there. -/
structure Moved (entry landed : Location) (before after : Disk) : Prop where
  arrived : ∀ names id bytes executable, before.get? (entry ++ names) = some (.file id bytes executable) →
    ∃ own permission, after.get? (landed ++ names) = some (.file own bytes permission)
  kept : ∀ at_ id bytes executable, before.get? at_ = some (.file id bytes executable) → ¬ entry <+: at_ →
    (∀ names node, at_ = landed ++ names → before.get? (entry ++ names) = some node → node = .dir) →
    after.get? at_ = some (.file id bytes executable)

/-- All files of the source were copied, and then the source was deleted. -/
theorem Course.carried (course : Course jobs before middle) (formed : middle.WellFormed)
    (carries : ∀ job ∈ jobs, ∃ names, Carries source entry landed middle job names)
    (all : ∀ names id bytes executable, before.get? (entry ++ names) = some (.file id bytes executable) →
      ∃ job ∈ jobs, Carries source entry landed middle job names)
    (reads : ∀ names node, middle.get? (entry ++ names) = some node → node ≠ .dir →
      (∀ target, node ≠ .link target) → checkPath (PathText.under source names) = .ok () →
      middle.Finds (PathText.under source names) (entry ++ names))
    (deleted : Deleted source entry middle after) (outer : ¬ entry <+: landed)
    (outside : ∀ names node, before.get? (entry ++ names) = some node → node ≠ .dir →
      ¬ entry <+: landed ++ names) :
    Moved entry landed before after := by
  have nonempty : source ≠ "" := by
    rintro rfl
    obtain ⟨_, _, enters, -⟩ := deleted.named
    cases enters.valid
  have born : ∀ {names node}, middle.get? (entry ++ names) = some node → node ≠ .dir →
      ∃ first, before.get? (entry ++ names) = some first ∧ first ≠ .dir :=
    course.born formed nonempty carries outer outside
  refine ⟨fun names id bytes executable file => ?_, fun at_ id bytes executable file far free => ?_⟩
  · have beyond : ¬ entry <+: landed ++ names := outside names _ file (by simp)
    have spared : ∀ job ∈ jobs, ¬ middle.Finds job.target (entry ++ names) := by
      intro job member finds
      obtain ⟨others, carries⟩ := carries job member
      obtain ⟨node, stands, single⟩ := carries.stands
      obtain ⟨first, there, kind⟩ := born stands single
      exact outside others first there kind (carries.lands _ finds ▸ List.prefix_append entry names)
    obtain ⟨job, member, own⟩ := all names id bytes executable file
    obtain ⟨place, finds⟩ := (course.finds member).2
    have reached : ∃ job ∈ jobs, middle.Finds job.target (landed ++ names) :=
      ⟨job, member, own.lands place finds ▸ finds⟩
    have sole : ∀ job ∈ jobs, middle.Finds job.target (landed ++ names) →
        middle.Finds job.source (entry ++ names) := by
      intro other member finds
      obtain ⟨others, carries⟩ := carries other member
      obtain rfl := List.append_cancel_left (carries.lands _ finds)
      obtain ⟨_, _, _, _, read⟩ := (course.finds member).1
      have valid := (locate_eq_ok_iff.mp (locate_of_lookup read)).1
      rw [carries.source] at valid ⊢
      exact reads names _ (course.spares file spared) (by simp) (by simp) valid
    obtain ⟨own, permission, arrived⟩ := course.fills file spared sole (.inl reached)
    exact ⟨own, permission, (deleted.elsewhere _ beyond).trans arrived⟩
  · rw [deleted.elsewhere at_ far]
    refine course.spares file fun job member finds => ?_
    obtain ⟨names, carries⟩ := carries job member
    obtain ⟨node, stands, single⟩ := carries.stands
    obtain ⟨first, there, kind⟩ := born stands single
    exact kind (free names first (carries.lands _ finds) there)

theorem landing_eq (alike : disk.isDir target = true → disk.isDir source = true) :
    disk.landing source target = target := by
  unfold landing
  split
  · rw [if_neg]
    intro into
    obtain ⟨one, two⟩ := Bool.and_eq_true_iff.mp into
    rw [alike one] at two
    cases two
  · rfl

/-- What stands below the entry of a path is found under the path with its names. -/
theorem EntersAt.lookup_below {parent : Location} (enters : disk.EntersAt path parent name)
    (formed : disk.WellFormed) (bare : names = [] → hasSlash path = false)
    (stands : disk.get? (parent ++ [name] ++ names) = some node) (plain : ∀ target, node ≠ .link target)
    (valid : checkPath (PathText.under path names) = .ok ()) :
    disk.lookup true (PathText.under path names) = .ok (parent ++ [name] ++ names, node) := by
  have legible : Legible names := fun other member =>
    formed.legible _ node stands other (List.mem_append_right _ member)
  exact enters.lookup_under legible stands
    (fun front above further => formed.tree.within (by rw [stands]; rfl) above further) plain bare valid

/-- Copying all of a source and deleting it comes to the same as renaming it: the copies come to where the
path leads, no link leads them astray, and none of them is deleted with the source. -/
structure Clear (source place : String) (entry landed : Location) (before after : Disk) : Prop where
  kind : after.isDir place = true → before.isDir source = true
  unlinked : ∀ names target, names ≠ [] → before.get? (landed ++ names) ≠ some (.link target)
  outside : ∀ names node, before.get? (entry ++ names) = some node → node ≠ .dir →
    ¬ entry <+: landed ++ names

/-- All of the source was copied to the place, and then it was deleted. -/
structure Transferred (source place : String) (entry landed : Location) (jobs : List Job)
    (before copied after : Disk) : Prop where
  formed : before.WellFormed
  known : ∃ node, before.lookup false source = .ok (entry, node)
  course : Course jobs before copied
  belongs : ∀ job ∈ jobs, copied.Copies source place job
  all : ∀ job, before.Copies source place job → job ∈ jobs
  deleted : Deleted source entry copied after
  finds : after.Finds place landed
  clear : Clear source place entry landed before after

namespace Transferred

variable {copied : Disk} (transferred : Transferred source place entry landed jobs before copied after)
include transferred

theorem settled : copied.WellFormed := transferred.course.wellFormed transferred.formed

theorem leads : copied.Finds place landed := transferred.deleted.grows.finds transferred.finds

theorem found : ∃ node, copied.lookup false source = .ok (entry, node) := by
  obtain ⟨node, known⟩ := transferred.known
  obtain ⟨later, found, -⟩ := transferred.course.grows.lookup_eq known
  exact ⟨later, found⟩

theorem nonempty : source ≠ "" := by
  rintro rfl
  obtain ⟨_, _, enters, -⟩ := transferred.deleted.named
  cases enters.valid

theorem outer : ¬ entry <+: landed := by
  rintro ⟨names, rfl⟩
  obtain ⟨node, ends⟩ := transferred.finds
  cases (transferred.deleted.gone names).symm.trans (get?_of_lookup ends)

/-- What stands in the source is found under its names. -/
theorem reads (stands : copied.get? (entry ++ names) = some node) (further : names = [] → node ≠ .dir)
    (plain : ∀ target, node ≠ .link target) (valid : checkPath (PathText.under source names) = .ok ()) :
    copied.lookup true (PathText.under source names) = .ok (entry ++ names, node) := by
  obtain ⟨_, found⟩ := transferred.found
  obtain ⟨parent, name, enters, rfl⟩ := transferred.deleted.named
  refine enters.lookup_below transferred.settled (fun empty => ?_) stands plain valid
  rw [empty, List.append_nil, get?_of_lookup found] at stands
  exact bare_of_lookup transferred.settled.toRooted found (Option.some.inj stands ▸ further empty)

theorem carries_of_file (alone : copied.isDir source = false) (member : job ∈ jobs) :
    Carries source entry landed copied job [] := by
  obtain ⟨node, found⟩ := transferred.found
  have copies := transferred.belongs job member
  cases copies with
  | file _ from_ =>
    refine ⟨⟨node, by rw [List.append_nil, get?_of_lookup found], ?_⟩, rfl, fun at_ ends => ?_⟩
    · rintro rfl
      exact ne_dir_of_isDir alone (lookup_follows found (by simp)) rfl
    · rw [List.append_nil, ends.unique transferred.leads]
  | tree directory =>
    rw [directory] at alone
    cases alone

theorem carries_of_tree (directory : copied.isDir source = true) (member : job ∈ jobs) :
    ∃ names, Carries source entry landed copied job names := by
  obtain ⟨_, _, _, _, read⟩ := (transferred.course.finds member).1
  obtain ⟨_, found⟩ := transferred.found
  have copies := transferred.belongs job member
  cases copies with
  | file alone =>
    rw [directory] at alone
    cases alone
  | tree _ located within =>
    have stands := isSome_of_isDir directory located
    cases located.symm.trans (locate_of_lookup found)
    obtain ⟨listed, names, rfl⟩ := within.named stands
    obtain ⟨node, stands⟩ := Option.isSome_iff_exists.mp listed
    have more : names ≠ [] := by
      rintro rfl
      obtain ⟨_, again⟩ := isDir_iff.mp directory
      cases read.symm.trans again
    have legible : ∀ other ∈ names, Plain other := fun other member =>
      (transferred.settled.legible _ node stands other (List.mem_append_right _ member)).1
    refine ⟨names, ⟨node, stands, ?_⟩, rfl, ?_⟩
    · rintro rfl
      have valid := (locate_eq_ok_iff.mp (locate_of_lookup read)).1
      have again := transferred.reads stands (fun empty => absurd empty more) (by simp) valid
      cases read.symm.trans again
    · rintro at_ ⟨_, ends⟩
      rw [PathText.under_slash more legible] at ends
      refine transferred.leads.under more legible (fun front target some linked => ?_) (locate_of_lookup ends)
      exact transferred.clear.unlinked front target some (transferred.course.link linked)

theorem moved_of_carries (carries : ∀ job ∈ jobs, ∃ names, Carries source entry landed copied job names)
    (all : ∀ names id bytes executable, before.get? (entry ++ names) = some (.file id bytes executable) →
      ∃ job ∈ jobs, Carries source entry landed copied job names) : Moved entry landed before after := by
  refine transferred.course.carried transferred.settled carries all ?_ transferred.deleted transferred.outer
    transferred.clear.outside
  exact fun names node stands single plain valid =>
    ⟨node, transferred.reads stands (fun _ => single) plain valid⟩

theorem moved_of_file (alone : before.isDir source = false) (stands : before.contains source = true) :
    Moved entry landed before after := by
  obtain ⟨node, known⟩ := transferred.known
  have still : copied.isDir source = false := by
    rcases read : before.lookup true source with error | ⟨at_, kind⟩
    · rw [contains, read] at stands
      cases stands
    · exact transferred.course.grows.not_isDir alone ⟨kind, read⟩
  refine transferred.moved_of_carries (fun job member => ⟨[], transferred.carries_of_file still member⟩) ?_
  intro names id bytes executable file
  have single : before.get? entry ≠ some .dir := by
    rw [get?_of_lookup known]
    intro same
    cases same
    exact ne_dir_of_isDir alone (lookup_follows known (by simp)) rfl
  obtain rfl := transferred.formed.tree.eq_nil_of_single single (by rw [file]; rfl)
  rw [List.append_nil, get?_of_lookup known] at file
  cases file
  have copies : before.Copies source place ⟨source, entry, place⟩ :=
    .file alone ⟨_, lookup_follows known (by simp)⟩
  exact ⟨_, transferred.all _ copies, transferred.carries_of_file still (transferred.all _ copies)⟩

theorem moved_of_tree (directory : before.isDir source = true) : Moved entry landed before after := by
  obtain ⟨node, known⟩ := transferred.known
  have still := transferred.course.grows.isDir directory
  have each : ∀ job ∈ jobs, ∃ names, Carries source entry landed copied job names := fun job member =>
    transferred.carries_of_tree still member
  refine transferred.moved_of_carries each fun names id bytes executable file => ?_
  obtain ⟨front, above, ends, part⟩ :=
    @exists_part _ _ _ ⟨source, entry, PathText.join place ""⟩ maxPath transferred.formed.tree file (by simp)
  have member := transferred.all _ (.tree directory (locate_of_lookup known) part)
  obtain ⟨others, carries⟩ := each _ member
  obtain ⟨_, _, _, _, first⟩ := (transferred.course.finds member).1
  have valid := (locate_eq_ok_iff.mp (locate_of_lookup first)).1
  have legible : ∀ other ∈ names, Plain other := fun other member =>
    (transferred.formed.legible _ _ file other (List.mem_append_right _ member)).1
  have short := length_lt_of_checkPath transferred.nonempty
    (fun other member => legible other (above.mem member)) valid
  obtain rfl := ends.resolve_right (by omega)
  obtain rfl := PathText.under_injective transferred.nonempty legible (carries.plain transferred.settled)
    carries.source
  exact ⟨_, member, carries⟩

end Transferred

end Fallback

section Whole

open Working

/-- Both paths name the same entry. -/
def SameEntry (disk : Disk) (first second : String) : Prop :=
  ∃ parent name, disk.EntersAt first parent name ∧ disk.EntersAt second parent name

variable {rename : Disk → String → String → Except IoError Disk} {ready copied : Disk} {somewhere : String}

section Copied

variable (formed : before.WellFormed) (known : before.lookup false source = .ok (entry, node))
  (readied : Course [] before ready) (went : copy source place ready = (.ok somewhere, copied))
  (removed : delete source copied = (.ok (), after))
include formed known readied went removed

theorem deleted_of_copied : Deleted source entry copied after := by
  obtain ⟨jobs, course, -⟩ := copy_course went
  have whole := readied.append course
  obtain ⟨later, found, -⟩ := whole.grows.lookup_eq known
  exact delete_ok (whole.wellFormed formed).tree found removed

theorem moved_of_copied (stands : before.contains source = true) (finds : after.Finds place landed)
    (clear : Clear source place entry landed before after) : Moved entry landed before after := by
  have deleted := deleted_of_copied formed known readied went removed
  obtain ⟨jobs, course, belongs, all⟩ := copy_course went
  obtain ⟨-, all⟩ := all somewhere rfl
  have place_eq : ready.landing source place = place := landing_eq fun into => by
    obtain ⟨at_, first⟩ := isDir_iff.mp (course.grows.isDir into)
    obtain ⟨other, ends⟩ := finds
    obtain ⟨later, last, same⟩ := deleted.grows.lookup_eq ends
    cases last.symm.trans first
    exact readied.grows.isDir (clear.kind (isDir_iff.mpr ⟨_, Node.outline_eq_dir same.symm ▸ ends⟩))
  rw [place_eq] at belongs all
  have transferred : Transferred source place entry landed jobs before copied after :=
    ⟨formed, ⟨node, known⟩, readied.append course, belongs, fun job copies => all job
      (copies.grows readied.grows), deleted, finds, clear⟩
  cases directory : before.isDir source with
  | true => exact transferred.moved_of_tree directory
  | false => exact transferred.moved_of_file directory stands

end Copied

/-- The entry was renamed to the one that the path names then, and is found there if the path still leads
anywhere. -/
theorem moved_of_renamed (known : before.lookup false source = .ok (entry, node))
    (extends_ : Extends before ready) (tree : ready.Tree) (went : ready.rename source place = .ok after) :
    ((∀ names, after.get? (entry ++ names) = none) ∨ after = ready ∧ ready.SameEntry source place) ∧
      ∃ above last, ready.EntersAt place above last ∧ Moved entry (above ++ [last]) before after ∧
        ((∀ target, node ≠ .link target) → ∀ landed, after.Finds place landed → landed = above ++ [last]) := by
  obtain ⟨parent, name, above, last, moved, first, second, stands, bare, result⟩ := rename_ok tree went
  obtain ⟨later, found, -⟩ := extends_.grows.lookup_eq known
  obtain rfl := Option.some.inj ((extends_.kept _ _ (get?_of_lookup known)).symm.trans (get?_of_lookup found))
  obtain ⟨rfl, rfl⟩ := first.entry_eq stands bare found
  rcases result with ⟨same, rfl⟩ | renamed
  · refine ⟨.inr ⟨rfl, parent, name, first, ?_⟩, above, last, second, ?_, ?_⟩
    · obtain ⟨rfl, last_eq⟩ := List.append_inj' same rfl
      rwa [List.cons.inj last_eq |>.1]
    · rw [← same]
      exact ⟨fun names id bytes executable file => ⟨id, executable, extends_.kept _ _ file⟩,
        fun at_ id bytes executable file _ _ => extends_.kept _ _ file⟩
    · rintro plain landed ⟨other, ends⟩
      rcases second.entry ends with ⟨target, linked⟩ | ⟨-, ends⟩
      · rw [← same, stands] at linked
        exact absurd (Option.some.inj linked) (plain target)
      · exact ends
  · refine ⟨.inl renamed.gone, above, last, second, ⟨fun names id bytes executable file => ?_,
      fun at_ id bytes executable file far free => ?_⟩, fun plain landed finds =>
      renamed.finds_eq plain second rfl finds⟩
    · exact ⟨id, executable, (renamed.taken names).trans (extends_.kept _ _ file)⟩
    · have stays := extends_.kept _ _ file
      rw [renamed.elsewhere at_ far, stays]
      rintro ⟨names, rfl⟩
      by_cases more : names = []
      · subst more
        rw [List.append_nil] at stays
        have single : moved ≠ .dir := fun directory => by cases (renamed.kind _ stays).mpr directory
        refine single (free [] moved rfl ?_)
        rw [List.append_nil]
        exact get?_of_lookup known
      · rw [renamed.empty names more] at stays
        cases stays

/-- All that a move that goes well can have done. -/
theorem moveBy_ok (ran : moveBy rename source target before = (.ok place, after)) :
    before.contains source = true ∧ place = before.landing source target ∧
      ∃ ready, ensureParent place before = (.ok (), ready) ∧
        (rename ready source place = .ok after ∨ (∃ error, rename ready source place = .error error) ∧
          ∃ somewhere copied, copy source place ready = (.ok somewhere, copied) ∧
            delete source copied = (.ok (), after)) := by
  rw [moveBy, get_bind] at ran
  split at ran
  · cases ran
  rename_i stands
  have stands : before.contains source = true := by simpa using stands
  dsimp only at ran
  rw [get_bind] at ran
  rcases made : ensureParent (before.landing source target) before with ⟨causes | done, ready⟩
  · rw [bind_error _ made] at ran
    cases ran
  rw [bind_ok _ made, get_bind] at ran
  rcases went : rename ready source (before.landing source target) with error | renamed
  · rw [went] at ran
    dsimp only at ran
    rcases copied : copy source (before.landing source target) ready with ⟨causes | somewhere, middle⟩
    · rw [bind_error _ copied] at ran
      cases ran
    rw [bind_ok _ copied] at ran
    rcases removed : delete source middle with ⟨causes | done, last⟩
    · rw [bind_error _ removed] at ran
      cases ran
    rw [bind_ok _ removed] at ran
    cases ran
    exact ⟨stands, rfl, ready, made, .inr ⟨⟨error, went⟩, somewhere, middle, copied, removed⟩⟩
  · rw [went] at ran
    cases ran
    exact ⟨stands, rfl, ready, made, .inl went⟩

/-- There is a file, and a directory in which its name is taken by another one. -/
def occupied : Disk where
  entries := [(["f"], .file 0 [100, 97, 116, 97] false), (["d"], .dir), (["d", "f"], .dir)]
  fresh := 1

theorem wellFormed_occupied : occupied.WellFormed := by
  have legible : ∀ name ∈ ["f", "d"], Plain name ∧ Proper name := by
    intro name member
    simp only [List.mem_cons, List.not_mem_nil, or_false] at member
    rcases member with rfl | rfl
    all_goals exact ⟨⟨by decide, by decide, by decide, by decide⟩, ⟨by decide, by decide, by decide⟩⟩
  refine wellFormed_of_entries rfl fun entry member => ?_
  simp only [occupied, List.mem_cons, List.not_mem_nil, or_false] at member
  rcases member with rfl | rfl | rfl
  all_goals exact ⟨by decide, fun name inside => legible name (by revert name; decide)⟩

/-- What becomes of it when the file is moved to the directory. -/
def strayed : Disk where
  entries := [(["d"], .dir), (["d", "f"], .dir), (["d", "f", "f"], .file 1 [100, 97, 116, 97] false)]
  fresh := 2

end Whole

end Provision.Disk
