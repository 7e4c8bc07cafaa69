import Provision.Proofs.Disk.Copying
import Provision.Proofs.Disk.Straight

/-! What a copy is on a disk without links. Every entry of the source stands at the place of the copy again,
and nothing else has changed but for directories above. Whether that comes about depends on the entries and
not on the order in which they are listed: each has its own room at the place of the copy, which copying the
others neither takes nor gives. -/

namespace Provision

/-- A node without what tells a file from others. -/
def Node.content : Node → Node
  | .file _ bytes executable => .file 0 bytes executable
  | other => other

theorem Node.outline_of_content {first second : Node} (same : first.content = second.content) :
    first.outline = second.outline := by
  cases first <;> cases second <;> simp_all [Node.content, Node.outline]

theorem Node.eq_dir_of_content {node : Node} (same : node.content = .dir) : node = .dir := by
  cases node <;> simp_all [Node.content]

namespace Disk

/-- What stands at a location, whichever file it is. -/
def contentAt (disk : Disk) (at_ : Location) : Option Node := (disk.get? at_).map Node.content

variable {disk before middle after : Disk} {here there at_ : Location} {node : Node}
  {path source target name base : String} {among others : Location → Prop}

open Working

/-- Entries of the one place were copied to the other, and nothing else was done. -/
structure Copied (among : Location → Prop) (here there : Location) (before after : Disk) : Prop where
  grows : Grows before after
  copied : ∀ names node, among names → before.get? (here ++ names) = some node →
    after.contentAt (there ++ names) = some node.content
  elsewhere : ∀ at_, (∀ names, among names → at_ = there ++ names → before.get? (here ++ names) = none) →
    after.get? at_ = before.get? at_

namespace Copied

variable (copied : Copied among here there before after)
include copied

theorem original (apart : Apart here there) (names : Location) :
    after.get? (here ++ names) = before.get? (here ++ names) :=
  copied.elsewhere _ fun more _ same => absurd same (apart.ne names more)

/-- A copy does not depend on where the entries come from that are not there. -/
theorem congr (same : ∀ names, (before.get? (here ++ names)).isSome = true →
    (among names ↔ others names)) : Copied others here there before after where
  grows := copied.grows
  copied names node within found :=
    copied.copied names node ((same names (by rw [found]; rfl)).mpr within) found
  elsewhere at_ free := by
    refine copied.elsewhere at_ fun names within equal => ?_
    rw [← Option.not_isSome_iff_eq_none]
    intro stands
    rw [free names ((same names stands).mp within) equal] at stands
    cases stands

theorem trans (apart : Apart here there) (second : Copied others here there after middle) :
    Copied (fun names => among names ∨ others names) here there before middle where
  grows := Trans.trans copied.grows second.grows
  copied names node either found := by
    have stands := (copied.original apart names).trans found
    by_cases later : others names
    · exact second.copied names node later stands
    · have done := copied.copied names node (either.resolve_right later) found
      have kept : middle.get? (there ++ names) = after.get? (there ++ names) := by
        refine second.elsewhere _ fun more within same => ?_
        exact absurd (List.append_cancel_left same ▸ within) later
      rw [contentAt, kept]
      exact done
  elsewhere at_ free := by
    have last := second.elsewhere at_ fun names within same =>
      (copied.original apart names).trans (free names (.inr within) same)
    exact last.trans (copied.elsewhere at_ fun names within => free names (.inl within))

theorem unlinked (free : before.Unlinked) : after.Unlinked := by
  intro at_ target linked
  by_cases corresponds : ∃ names, among names ∧ at_ = there ++ names ∧
      (before.get? (here ++ names)).isSome = true
  · obtain ⟨names, within, rfl, stands⟩ := corresponds
    obtain ⟨node, found⟩ := Option.isSome_iff_exists.mp stands
    have same := copied.copied names node within found
    rw [contentAt, linked] at same
    cases node with
    | link other => exact free _ _ found
    | _ => cases same
  · rw [copied.elsewhere at_ fun names within same => ?_] at linked
    · exact free at_ target linked
    · rw [← Option.not_isSome_iff_eq_none]
      exact fun stands => corresponds ⟨names, within, same, stands⟩

end Copied

theorem copied_none (here there : Location) (disk : Disk) : Copied (fun _ => False) here there disk disk where
  grows := refl disk
  copied _ _ none := none.elim
  elsewhere _ _ := rfl

/-- What is copied inside of a directory is copied below its name. -/
theorem Copied.below (copied : Copied among (here ++ [name]) (there ++ [name]) before after) :
    Copied (fun names => ∃ rest, names = name :: rest ∧ among rest) here there before after where
  grows := copied.grows
  copied := by
    rintro _ node ⟨rest, rfl, within⟩ found
    rw [List.append_cons] at found ⊢
    exact copied.copied rest node within found
  elsewhere at_ free := by
    refine copied.elsewhere at_ fun rest within same => ?_
    rw [← List.append_cons] at same ⊢
    exact free (name :: rest) ⟨rest, rfl, within⟩ same

/-- What stands somewhere has room at the place of its copy: the paths are no longer than allowed, and nothing
of another kind is in the way. -/
structure Room (disk : Disk) (source target : String) (node : Node) (there : Location) : Prop where
  source : node ≠ .dir → checkPath source = .ok ()
  target : checkPath target = .ok ()
  kind : ∀ other, disk.get? there = some other → other.outline = node.outline

/-- All these entries have room. -/
def Fits (among : Location → Prop) (disk : Disk) (source target : String) (here there : Location) : Prop :=
  ∀ names node, among names → disk.get? (here ++ names) = some node →
    Room disk (PathText.under source names) (PathText.under target names) node (there ++ names)

theorem fits_or : Fits (fun names => among names ∨ others names) disk source target here there ↔
    Fits among disk source target here there ∧ Fits others disk source target here there where
  mp fits := ⟨fun names node within => fits names node (.inl within),
    fun names node within => fits names node (.inr within)⟩
  mpr both names node either := either.elim (both.1 names node) (both.2 names node)

theorem fits_congr (same : ∀ names, (disk.get? (here ++ names)).isSome = true →
    (among names ↔ others names)) :
    Fits among disk source target here there ↔ Fits others disk source target here there where
  mp fits names node within found := fits names node ((same names (by rw [found]; rfl)).mpr within) found
  mpr fits names node within found := fits names node ((same names (by rw [found]; rfl)).mp within) found

/-- Copying some entries neither takes room from others nor makes any. -/
theorem Copied.fits_iff (apart : Apart here there) (copied : Copied among here there before after) :
    Fits others after source target here there ↔ Fits others before source target here there := by
  constructor
  · intro fits names node within found
    obtain ⟨readable, valid, kind⟩ := fits names node within ((copied.original apart names).trans found)
    refine ⟨readable, valid, fun other stands => ?_⟩
    obtain ⟨later, last, same⟩ := copied.grows.kept _ other stands
    exact same.symm.trans (kind later last)
  · intro fits names node within found
    rw [copied.original apart] at found
    obtain ⟨readable, valid, kind⟩ := fits names node within found
    refine ⟨readable, valid, fun other stands => ?_⟩
    by_cases taken : among names
    · have same := copied.copied names node taken found
      rw [contentAt, stands] at same
      exact Node.outline_of_content (Option.some.inj same)
    · refine kind other ?_
      rw [← copied.elsewhere _ fun more within same => ?_, stands]
      exact absurd (List.append_cancel_left same ▸ within) taken

/-- A directory whose entries are to be copied, and the directory to which. -/
structure Stage (disk : Disk) (source target : String) (here there : Location) : Prop where
  formed : disk.WellFormed
  unlinked : disk.Unlinked
  apart : Apart here there
  origin : disk.Leads source here
  place : disk.Leads target there

namespace Stage

variable (stage : Stage disk source target here there)
include stage

theorem later (grows : Grows disk after) (formed : after.WellFormed) (unlinked : after.Unlinked) :
    Stage after source target here there :=
  ⟨formed, unlinked, stage.apart, stage.origin.grows grows, stage.place.grows grows⟩

theorem legible (stands : disk.get? (here ++ [name]) = some node) : Plain name ∧ Proper name :=
  stage.formed.legible _ node stands name (by simp)

theorem inside (first : disk.get? (here ++ [name]) = some .dir)
    (second : disk.get? (there ++ [name]) = some .dir) :
    Stage disk (PathText.join source name) (PathText.join target name) (here ++ [name])
      (there ++ [name]) := by
  obtain ⟨plain, proper⟩ := stage.legible first
  exact ⟨stage.formed, stage.unlinked, stage.apart.concat name,
    stage.origin.inside plain proper first, stage.place.inside plain proper second⟩

end Stage

/-- A file can be copied to where a file can be opened, and is not itself. -/
theorem exists_copyFile {id : Nat} {bytes : Bytes} {executable : Bool}
    {file : Option (Nat × Bytes × Bool)}
    (read : before.lookup true source = .ok (here, .file id bytes executable))
    (opened : before.openForWriting target = .ok (there, file)) (other : here ≠ there) :
    ∃ after, before.copyFile source target = .ok after := by
  obtain ⟨emptied, wrote⟩ : ∃ emptied, before.write target [] = .ok emptied := by
    unfold write
    rw [opened]
    rcases file with _ | ⟨own, old, kept⟩ <;> exact ⟨_, rfl⟩
  obtain ⟨place, own, kept, first⟩ := write_ok wrote
  obtain rfl := Except.ok.inj ((openForWriting_locate opened).symm.trans first.located)
  have stands : emptied.get? here = some (.file id bytes executable) :=
    (first.elsewhere here other).trans (get?_of_lookup read)
  obtain ⟨bare, parent, name, enters⟩ := entersAt_of_openForWriting opened
  have again : emptied.openForWriting target = .ok (there, some (own, [], kept)) :=
    (first.grows.entersAt enters).openForWriting bare (locate_of_lookup first.found) first.stands
  obtain ⟨filled, whole⟩ : ∃ filled, emptied.write target bytes = .ok filled := by
    unfold write
    rw [again]
    exact ⟨_, rfl⟩
  obtain ⟨last, same, old, second⟩ := write_ok whole
  refine ⟨filled.put last (.file same bytes executable), ?_⟩
  simp only [copyFile, read, wrote, stands, whole, bind, Except.bind, Disk.setExecutable, second.found]
  rfl

/-- A file is all of its tree. -/
theorem Wrote.copied {id own : Nat} {bytes : Bytes} {executable : Bool} (tree : before.Tree)
    (wrote : Wrote before path there own bytes executable after)
    (found : before.get? here = some (.file id bytes executable)) :
    Copied (fun _ => True) here there before after where
  grows := wrote.grows
  copied names node _ stands := by
    have single : before.get? here ≠ some .dir := by simp [found]
    obtain rfl := tree.eq_nil_of_single single (by rw [stands]; rfl)
    rw [List.append_nil] at stands ⊢
    cases found.symm.trans stands
    rw [contentAt, wrote.stands]
    rfl
  elsewhere at_ free := by
    refine wrote.elsewhere at_ ?_
    rintro rfl
    have none := free [] trivial (List.append_nil at_).symm
    rw [List.append_nil, found] at none
    cases none

namespace Stage

variable (stage : Stage disk source target here there)
include stage

section File

variable {id : Nat} {bytes : Bytes} {executable : Bool}
  (stands : disk.get? (here ++ [name]) = some (.file id bytes executable))
include stands

theorem copied_file
    (went : disk.copyFile (PathText.join source name) (PathText.join target name) = .ok after) :
    Room disk (PathText.join source name) (PathText.join target name) (.file id bytes executable)
        (there ++ [name]) ∧
      Copied (fun _ => True) (here ++ [name]) (there ++ [name]) disk after ∧
      Stage after source target here there := by
  obtain ⟨plain, proper⟩ := stage.legible stands
  obtain ⟨origin, place, _, own, _, _, read, wrote⟩ := copyFile_ok went
  have from_ := stage.origin.locate_eq stage.unlinked plain proper (locate_of_lookup read)
  have onto := stage.place.locate_eq stage.unlinked plain proper wrote.located
  subst from_ onto
  cases stands.symm.trans (get?_of_lookup read)
  have other : ¬ there ++ [name] = here ++ [name] := fun same => stage.apart.ne [name] [name] same.symm
  rw [if_neg other] at wrote
  have copied := wrote.copied stage.formed.tree stands
  refine ⟨⟨fun _ => ?_, ?_, fun node there => ?_⟩, copied,
    stage.later wrote.grows (stage.formed.wrote wrote) (copied.unlinked stage.unlinked)⟩
  · exact (locate_eq_ok_iff.mp (locate_of_lookup read)).1
  · exact (locate_eq_ok_iff.mp wrote.located).1
  · obtain ⟨_, _, rfl⟩ := wrote.same node there
    rfl

theorem exists_copied
    (room : Room disk (PathText.join source name) (PathText.join target name)
      (.file id bytes executable) (there ++ [name])) :
    ∃ after, disk.copyFile (PathText.join source name) (PathText.join target name) = .ok after := by
  obtain ⟨plain, proper⟩ := stage.legible stands
  have from_ := stage.origin.enters plain proper (room.source (by simp))
  have onto := stage.place.enters plain proper room.target
  have read : disk.lookup true (PathText.join source name) = .ok (here ++ [name], _) :=
    from_.lookup (hasSlash_join plain source) stands (by simp)
  have other := stage.apart.ne [name] [name]
  have bare := hasSlash_join plain target
  rcases taken : disk.get? (there ++ [name]) with _ | node
  · have opened : disk.openForWriting (PathText.join target name) = .ok (there ++ [name], none) :=
      onto.openForWriting bare (onto.locate_free bare taken) taken
    exact exists_copyFile read opened other
  · obtain ⟨own, old, kept, rfl⟩ : ∃ own old kept, node = .file own old kept := by
      have same := room.kind node taken
      cases node <;> simp_all [Node.outline]
    have found : disk.lookup true (PathText.join target name) = .ok (there ++ [name], _) :=
      onto.lookup bare taken (by simp)
    have opened : disk.openForWriting (PathText.join target name) =
        .ok (there ++ [name], some (own, old, kept)) :=
      onto.openForWriting bare (locate_of_lookup found) taken
    exact exists_copyFile read opened other

end File

end Stage

namespace Stage

variable (stage : Stage disk source target here there)
include stage

/-- A directory was made at the place of its copy. -/
theorem entered (stands : disk.get? (here ++ [name]) = some .dir) (formed : after.WellFormed)
    (grows : Grows disk after) (made : after.get? (there ++ [name]) = some .dir)
    (elsewhere : ∀ at_, at_ ≠ there ++ [name] → after.get? at_ = disk.get? at_) :
    Copied (· = [name]) here there disk after ∧
      Stage after (PathText.join source name) (PathText.join target name) (here ++ [name])
        (there ++ [name]) := by
  have copied : Copied (· = [name]) here there disk after := by
    refine ⟨grows, ?_, fun at_ free => elsewhere at_ ?_⟩
    · rintro _ node rfl found
      cases stands.symm.trans found
      rw [contentAt, made]
      rfl
    · rintro rfl
      rw [free [name] rfl rfl] at stands
      cases stands
  exact ⟨copied, (stage.later grows formed (copied.unlinked stage.unlinked)).inside
    (grows.get?_dir stands) made⟩

/-- A directory is made at the place of its copy if there is room for it. -/
theorem mkdirs_spec (stands : disk.get? (here ++ [name]) = some .dir) :
    ((disk.mkdirs (PathText.join target name)).1 = .ok () ↔
      Room disk (PathText.join source name) (PathText.join target name) .dir (there ++ [name])) ∧
    ((disk.mkdirs (PathText.join target name)).1 = .ok () →
      Copied (· = [name]) here there disk (disk.mkdirs (PathText.join target name)).2 ∧
        Stage (disk.mkdirs (PathText.join target name)).2 (PathText.join source name)
          (PathText.join target name) (here ++ [name]) (there ++ [name])) := by
  obtain ⟨plain, proper⟩ := stage.legible stands
  have formed := stage.formed.mkdirs (PathText.join target name)
  have grows := (extends_mkdirs disk (PathText.join target name)).grows
  by_cases valid : checkPath (PathText.join target name) = .ok ()
  · have made := (stage.place.enters plain proper valid).mkdirs_eq
    have room : (∀ node, disk.get? (there ++ [name]) = some node → node = .dir) →
        Room disk (PathText.join source name) (PathText.join target name) .dir (there ++ [name]) :=
      fun only => ⟨fun other => absurd rfl other, valid, fun node taken => by rw [only node taken]⟩
    rcases taken : disk.get? (there ++ [name]) with _ | node
    · rw [taken] at made
      rw [made] at formed grows ⊢
      refine ⟨iff_of_true rfl (room fun _ found => by rw [taken] at found; cases found), fun _ => ?_⟩
      exact stage.entered stands formed grows (get?_put_self (by simp)) fun _ => get?_put_other
    · rw [taken] at made
      cases node with
      | dir =>
        rw [made] at formed grows ⊢
        refine ⟨iff_of_true rfl (room fun node found => ?_), fun _ => ?_⟩
        · exact Option.some.inj (found.symm.trans taken)
        · exact stage.entered stands formed grows taken fun _ _ => rfl
      | file id bytes executable =>
        have single : ¬ disk.isDir (PathText.join target name) = true := by
          intro directory
          obtain ⟨at_, found⟩ := isDir_iff.mp directory
          obtain rfl := stage.place.locate_eq stage.unlinked plain proper (locate_of_lookup found)
          cases taken.symm.trans (get?_of_lookup found)
        simp only [if_neg single] at made
        have failed : (disk.mkdirs (PathText.join target name)).1 ≠ .ok () := by
          rw [made]
          exact fun went => by cases went
        refine ⟨iff_of_false failed fun room => ?_, fun went => absurd went failed⟩
        cases room.kind _ taken
      | link linked => exact absurd taken (stage.unlinked _ linked)
  · have failed : (disk.mkdirs (PathText.join target name)).1 ≠ .ok () := fun made =>
      valid (checkPath_of_mkdirs (join_ne_empty stage.place.nonempty) made)
    exact ⟨iff_of_false failed fun room => valid room.target, fun made => absurd made failed⟩

end Stage

section Entries

variable {depth : Nat} {outcome : Except (List String) Unit}

/-- The entry under this name was copied, if all that is in it has room. -/
def Replicated (source target : String) (here there : Location) (name : String) (before after : Disk)
    (outcome : Except (List String) Unit) : Prop :=
  (outcome = .ok () ↔ Fits (fun names => [name] <+: names) before source target here there) ∧
    (outcome = .ok () → Copied (fun names => [name] <+: names) here there before after ∧
      Stage after source target here there)

/-- Copying these entries of a directory one after the other. -/
def copyInside (depth : Nat) (source target : String) (here : Location) (names : List String) :
    Work PUnit :=
  forIn names PUnit.unit fun name _ => do
    copyEntry depth (PathText.join source name) (here ++ [name]) (PathText.join target name)
    pure (ForInStep.yield PUnit.unit)

/-- The entries of a directory are copied one after the other, if all of them have room. Induction on the
names. -/
theorem copyNames_spec {names : List String} {outcome : Except (List String) PUnit}
    (stage : Stage before source target here there)
    (each : ∀ {name before outcome after}, Stage before source target here there →
      (before.get? (here ++ [name])).isSome = true →
      copyEntry depth (PathText.join source name) (here ++ [name]) (PathText.join target name) before =
        (outcome, after) → Replicated source target here there name before after outcome)
    (listed : ∀ name ∈ names, (before.get? (here ++ [name])).isSome = true)
    (ran : copyInside depth source target here names before = (outcome, after)) :
    (outcome = .ok () ↔
      Fits (fun more => ∃ name ∈ names, [name] <+: more) before source target here there) ∧
    (outcome = .ok () → Copied (fun more => ∃ name ∈ names, [name] <+: more) here there before after ∧
      Stage after source target here there) := by
  induction names generalizing before with
  | nil =>
    cases ran
    refine ⟨iff_of_true rfl ?_, fun _ => ?_⟩
    · rintro _ _ ⟨_, member, -⟩
      cases member
    · exact ⟨(copied_none here there after).congr fun _ _ => by simp, stage⟩
  | cons name names ih =>
    rw [copyInside, List.forIn_cons] at ran
    have among : ∀ more, (∃ other ∈ name :: names, [other] <+: more) ↔
        [name] <+: more ∨ ∃ other ∈ names, [other] <+: more := by simp
    have both : Fits (fun more => ∃ other ∈ name :: names, [other] <+: more) before source target here there ↔
        Fits (fun more => [name] <+: more) before source target here there ∧
          Fits (fun more => ∃ other ∈ names, [other] <+: more) before source target here there :=
      (fits_congr fun more _ => among more).trans fits_or
    rcases first : copyEntry depth (PathText.join source name) (here ++ [name]) (PathText.join target name)
      before with ⟨result, middle⟩
    obtain ⟨fits, copies⟩ := each stage (listed name (.head _)) first
    cases result with
    | error causes =>
      rw [bind_error _ (bind_error _ first)] at ran
      cases ran
      have failed : ¬ Fits (fun more => [name] <+: more) before source target here there := fun room => by
        cases fits.mpr room
      refine ⟨iff_of_false (fun went => by cases went) fun all => failed (both.mp all).1, fun went => ?_⟩
      cases went
    | ok done =>
      obtain ⟨copied, later⟩ := copies rfl
      have yields : (do
          copyEntry depth (PathText.join source name) (here ++ [name]) (PathText.join target name)
          pure (ForInStep.yield PUnit.unit) : Work (ForInStep PUnit)) before =
            (.ok (.yield PUnit.unit), middle) := bind_ok _ first
      rw [bind_ok _ yields] at ran
      have still : ∀ other ∈ names, (middle.get? (here ++ [other])).isSome = true := by
        intro other member
        rw [copied.original stage.apart]
        exact listed other (.tail _ member)
      obtain ⟨rest, last⟩ := ih later still ran
      rw [copied.fits_iff stage.apart] at rest
      refine ⟨?_, fun went => ?_⟩
      · rw [both, rest]
        exact ⟨fun others => ⟨fits.mp rfl, others⟩, fun all => all.2⟩
      · obtain ⟨others, ends⟩ := last went
        exact ⟨(copied.trans stage.apart others).congr fun more _ => (among more).symm, ends⟩

theorem shifted (among : Location → Prop) :
    Fits among disk (PathText.join source name) (PathText.join target name) (here ++ [name])
      (there ++ [name]) ↔
      Fits (fun names => ∃ rest, names = name :: rest ∧ among rest) disk source target here there where
  mp fits := by
    rintro _ node ⟨rest, rfl, within⟩ found
    rw [List.append_cons] at found ⊢
    exact fits rest node within found
  mpr fits rest node within found := by
    rw [← List.append_cons] at found ⊢
    exact fits (name :: rest) node ⟨rest, rfl, within⟩ found

theorem prefix_singleton {names : Location} : (∃ rest, names = name :: rest ∧ True) ↔ [name] <+: names := by
  constructor
  · rintro ⟨rest, rfl, -⟩
    exact List.prefix_append [name] rest
  · rintro ⟨rest, rfl⟩
    exact ⟨rest, rfl, trivial⟩

theorem fits_single (found : disk.get? (here ++ [name]) = some node) :
    Fits (· = [name]) disk source target here there ↔
      Room disk (PathText.join source name) (PathText.join target name) node (there ++ [name]) where
  mp fits := fits [name] node rfl found
  mpr room := by
    rintro _ other rfl again
    cases found.symm.trans again
    exact room

/-- The entry itself, or what is in it under one of its names. -/
theorem within_iff {names : Location} (tree : before.Tree)
    (stands : (before.get? (here ++ names)).isSome = true)
    (same : ∀ more, after.get? (here ++ more) = before.get? (here ++ more)) :
    [name] <+: names ↔ names = [name] ∨ ∃ rest, names = name :: rest ∧
      ∃ inner ∈ after.children (here ++ [name]), [inner] <+: rest := by
  constructor
  · rintro ⟨_ | ⟨inner, rest⟩, rfl⟩
    · exact .inl rfl
    · refine .inr ⟨inner :: rest, rfl, inner, mem_children_iff.mpr ?_, List.prefix_append [inner] rest⟩
      rw [List.append_assoc, same]
      exact tree.isSome_above stands ⟨rest, by simp⟩
  · rintro (rfl | ⟨rest, rfl, -⟩)
    · exact List.prefix_rfl
    · exact List.prefix_append [name] rest

theorem copyOne_spec {id : Nat} {bytes : Bytes} {executable : Bool}
    (stage : Stage before source target here there)
    (found : before.get? (here ++ [name]) = some (.file id bytes executable))
    (ran : copyOne (PathText.join source name) (PathText.join target name) before = (outcome, after)) :
    Replicated source target here there name before after outcome := by
  have all : Fits (fun names => [name] <+: names) before source target here there ↔
      Room before (PathText.join source name) (PathText.join target name)
        (.file id bytes executable) (there ++ [name]) := by
    rw [← fits_single found]
    refine fits_congr fun names stands => ⟨?_, fun same => same ▸ List.prefix_rfl⟩
    rintro ⟨rest, rfl⟩
    rw [← List.append_assoc] at stands
    have single : before.get? (here ++ [name]) ≠ some .dir := by simp [found]
    rw [stage.formed.tree.eq_nil_of_single single stands, List.append_nil]
  obtain ⟨causes, rfl, rfl⟩ | ⟨rfl, went⟩ := copyOne_cases ran
  · refine ⟨iff_of_false (fun went => by cases went) fun fits => ?_, fun went => by cases went⟩
    obtain ⟨later, went⟩ := stage.exists_copied found (all.mp fits)
    have ends : copyOne (PathText.join source name) (PathText.join target name) after =
        (.ok (), later) := attempt_ok _ went
    cases ran.symm.trans ends
  · obtain ⟨room, copied, later⟩ := stage.copied_file found went
    exact ⟨iff_of_true rfl (all.mpr room), fun _ =>
      ⟨copied.below.congr fun _ _ => prefix_singleton, later⟩⟩

/-- Nothing is copied to a path that is too long, and it has no room there. -/
theorem copyOne_long (found : before.get? (here ++ [name]) = some node)
    (long : ¬ checkPath (PathText.join target name) = .ok ())
    (ran : copyOne (PathText.join source name) (PathText.join target name) before = (outcome, after)) :
    Replicated source target here there name before after outcome := by
  have failed : outcome ≠ .ok () := by
    rcases copyOne_cases ran with ⟨causes, rfl, -⟩ | ⟨rfl, went⟩
    · exact fun went => by cases went
    · obtain ⟨_, _, _, _, _, _, -, wrote⟩ := copyFile_ok went
      exact absurd (locate_eq_ok_iff.mp wrote.located).1 long
  refine ⟨iff_of_false failed fun fits => long ?_, fun went => absurd went failed⟩
  exact (fits [name] node List.prefix_rfl found).target

/-- An entry is copied if all that is in it has room. Induction on how deep the tree may be. -/
theorem copyEntry_spec (stage : Stage before source target here there)
    (stands : (before.get? (here ++ [name])).isSome = true)
    (deep : maxPath < (PathText.join target name).utf8ByteSize + depth)
    (ran : copyEntry depth (PathText.join source name) (here ++ [name]) (PathText.join target name) before =
      (outcome, after)) :
    Replicated source target here there name before after outcome := by
  obtain ⟨node, found⟩ := Option.isSome_iff_exists.mp stands
  induction depth generalizing source target here there name before node outcome after with
  | zero =>
    refine copyOne_long found (fun valid => ?_) ran
    have short := size_of_checkPath valid
    omega
  | succ depth ih =>
    rw [copyEntry, get_bind] at ran
    cases node with
    | link linked => exact absurd found (stage.unlinked _ linked)
    | file id bytes executable =>
      have single : ¬ before.isDirAt (here ++ [name]) = true := by
        rw [isDirAt_iff, found]
        exact fun same => by cases same
      rw [if_neg single] at ran
      exact copyOne_spec stage found ran
    | dir =>
      rw [if_pos (isDirAt_iff.mpr found)] at ran
      obtain ⟨room, enters⟩ := stage.mkdirs_spec found
      have made := makeDirs_eq (PathText.join target name) before
      rcases result : (before.mkdirs (PathText.join target name)).1 with error | done
      · rw [result] at made
        rw [bind_error _ made] at ran
        cases ran
        have none : ¬ Fits (fun names => [name] <+: names) before source target here there := fun fits => by
          rw [room.mpr (fits [name] .dir List.prefix_rfl found)] at result
          cases result
        exact ⟨iff_of_false (fun went => by cases went) none, fun went => by cases went⟩
      rw [result] at made
      rw [bind_ok _ made, get_bind] at ran
      obtain ⟨copied, inner⟩ := enters result
      have same := copied.original stage.apart
      generalize (before.mkdirs (PathText.join target name)).2 = middle at *
      rw [show (fun _ => pure ()) = (pure : PUnit → Work PUnit) from rfl, bind_pure] at ran
      have each : ∀ {other disk outcome after}, Stage disk (PathText.join source name)
          (PathText.join target name) (here ++ [name]) (there ++ [name]) →
          (disk.get? (here ++ [name] ++ [other])).isSome = true →
          copyEntry depth (PathText.join (PathText.join source name) other) (here ++ [name] ++ [other])
            (PathText.join (PathText.join target name) other) disk = (outcome, after) →
          Replicated (PathText.join source name) (PathText.join target name) (here ++ [name])
            (there ++ [name]) other disk after outcome := by
        intro other disk outcome after stage stands ran
        obtain ⟨node, there⟩ := Option.isSome_iff_exists.mp stands
        have longer := utf8ByteSize_join stage.place.nonempty (stage.legible there).1
        exact ih stage stands (by omega) ran node there
      obtain ⟨fits, copies⟩ := copyNames_spec inner each (fun other => mem_children_iff.mp) ran
      have split := fun names stands => @within_iff _ _ here name names stage.formed.tree stands same
      have all : Fits (fun names => [name] <+: names) before source target here there ↔
          Room before (PathText.join source name) (PathText.join target name) .dir (there ++ [name]) ∧
            outcome = .ok () := by
        rw [fits_congr split, fits_or, fits_single found, fits, shifted, copied.fits_iff stage.apart]
      refine ⟨⟨fun went => all.mpr ⟨room.mp result, went⟩, fun fits => (all.mp fits).2⟩, fun went => ?_⟩
      obtain ⟨below, last⟩ := copies went
      have whole := (copied.trans stage.apart below.below).congr fun names stands => (split names stands).symm
      exact ⟨whole, stage.later whole.grows last.formed last.unlinked⟩

end Entries

/-- Copying to a place, once there is a directory for it. -/
def copyInto (source place : String) : Work Unit := do
  if (← get).isDir source then
    let at_ ← inquire ("cannot walk " ++ source) fun disk => disk.locate false source
    copyEntry maxPath source at_ (PathText.join place "")
  else copyOne source place

theorem copy_of_ready (made : ensureParent (before.landing source target) before = (.ok (), middle)) :
    copy source target before =
      (((copyInto source (before.landing source target) middle).1.map fun _ =>
        before.landing source target), (copyInto source (before.landing source target) middle).2) := by
  rw [copy, get_bind, bind_ok _ made, get_bind, copyInto, get_bind]
  generalize before.landing source target = place
  have goesOn : ∀ {work : Work Unit}, (work >>= fun _ => pure place) middle =
      ((work middle).1.map fun _ => place, (work middle).2) := by
    intro work
    rcases ran : work middle with ⟨causes | done, after⟩
    · rw [bind_error _ ran]
      rfl
    · rw [bind_ok _ ran]
      rfl
  split
  · rw [← goesOn, bind_assoc]
  · exact goesOn

theorem copy_ok_iff {place : String} : copy source target before = (.ok place, after) ↔
    place = before.landing source target ∧ ∃ middle, ensureParent place before = (.ok (), middle) ∧
      copyInto source place middle = (.ok (), after) := by
  constructor
  · intro ran
    rcases made : ensureParent (before.landing source target) before with ⟨causes | done, middle⟩
    · rw [copy, get_bind, bind_error _ made] at ran
      cases ran
    · rw [copy_of_ready made] at ran
      rcases went : copyInto source (before.landing source target) middle with ⟨causes | done, last⟩
      · rw [went] at ran
        cases ran
      · rw [went] at ran
        cases ran
        exact ⟨rfl, middle, made, went⟩
  · rintro ⟨rfl, middle, made, went⟩
    rw [copy_of_ready made, went]
    rfl

/-- The source is there again, what is not in the way of it is as before, and all else that is new is
directories above. -/
structure Replica (here there : Location) (before after : Disk) : Prop where
  copied : ∀ names node, before.get? (here ++ names) = some node →
    after.contentAt (there ++ names) = some node.content
  kept : ∀ at_ node, before.get? at_ = some node →
    (∀ names id bytes executable, at_ = there ++ names →
      before.get? (here ++ names) ≠ some (.file id bytes executable)) → after.get? at_ = some node
  added : ∀ at_ node, before.get? at_ = none → after.get? at_ = some node →
    (∃ names, at_ = there ++ names ∧ (before.get? (here ++ names)).isSome = true) ∨
      node = .dir ∧ at_ <+: there ∧ at_ ≠ there

/-- Directories are made on the way first, perhaps the one at the place itself, and then all else is copied. -/
theorem replica_of_copied {place : String} (unlinked : before.Unlinked)
    (apart : Apart here (before.spot place)) (stands : (before.get? here).isSome = true)
    (raises : Raises place before middle) (copied : Copied among here (before.spot place) middle after)
    (covers : ∀ names, (before.get? (here ++ names)).isSome = true → among names ∨
      names = [] ∧ before.get? here = some .dir ∧ middle.get? (before.spot place) = some .dir) :
    Replica here (before.spot place) before after := by
  obtain ⟨extends_, elsewhere⟩ := raises unlinked
  generalize before.spot place = there at *
  have original : ∀ names, middle.get? (here ++ names) = before.get? (here ++ names) := fun names =>
    elsewhere _ fun within => apart.inside ((List.prefix_append here names).trans within)
  have copies : ∀ names node, before.get? (here ++ names) = some node →
      after.contentAt (there ++ names) = some node.content := by
    intro names node found
    rcases covers names (by rw [found]; rfl) with within | ⟨rfl, directory, made⟩
    · exact copied.copied names node within ((original names).trans found)
    · rw [List.append_nil] at found ⊢
      cases directory.symm.trans found
      rw [contentAt, copied.grows.get?_dir made]
      rfl
  refine ⟨copies, fun at_ node found apart_ => ?_, fun at_ node free found => ?_⟩
  · have kept := extends_.kept at_ node found
    by_cases corresponds : ∃ names, among names ∧ at_ = there ++ names ∧
        (middle.get? (here ++ names)).isSome = true
    · obtain ⟨names, -, rfl, there_⟩ := corresponds
      rw [original] at there_
      obtain ⟨other, same⟩ := Option.isSome_iff_exists.mp there_
      have directory : other = .dir := by
        cases other with
        | dir => rfl
        | file id bytes executable => exact absurd same (apart_ names id bytes executable rfl)
        | link target => exact absurd same (unlinked _ target)
      subst directory
      obtain ⟨later, last, outline⟩ := copied.grows.kept _ node kept
      have content := copies names .dir same
      rw [contentAt, last] at content
      obtain rfl := Node.eq_dir_of_content (Option.some.inj content)
      rw [last, Node.outline_eq_dir outline.symm]
    · rw [copied.elsewhere at_ fun names within same => ?_]
      · exact kept
      · rw [← Option.not_isSome_iff_eq_none]
        exact fun there_ => corresponds ⟨names, within, same, there_⟩
  · by_cases corresponds : ∃ names, at_ = there ++ names ∧ (before.get? (here ++ names)).isSome = true
    · exact .inl corresponds
    have made : middle.get? at_ = some node := by
      rw [← copied.elsewhere at_ fun names _ same => ?_, found]
      rw [original, ← Option.not_isSome_iff_eq_none]
      exact fun there_ => corresponds ⟨names, same, there_⟩
    refine .inr ⟨(extends_.added at_ node made).resolve_left (by simp [free]), ?_, ?_⟩
    · by_contra outside
      rw [elsewhere at_ outside, free] at made
      cases made
    · rintro rfl
      exact corresponds ⟨[], (List.append_nil at_).symm, by rwa [List.append_nil]⟩

/-- So the contents of all that stands are known. -/
theorem Replica.contentAt_eq {second last : Disk} (first : Replica here there before after)
    (again : Replica here there second last) (same : ∀ at_, second.get? at_ = before.get? at_)
    (stands : (before.get? here).isSome = true) (tree : after.Tree) (other : last.Tree) (at_ : Location) :
    last.contentAt at_ = after.contentAt at_ := by
  obtain ⟨top, found⟩ := Option.isSome_iff_exists.mp stands
  rw [← List.append_nil here] at found
  by_cases corresponds : ∃ names, at_ = there ++ names ∧ (before.get? (here ++ names)).isSome = true
  · obtain ⟨names, rfl, there_⟩ := corresponds
    obtain ⟨node, found⟩ := Option.isSome_iff_exists.mp there_
    rw [first.copied names node found, again.copied names node ((same _).trans found)]
  by_cases above : at_ <+: there
  · have inside : at_ ≠ there := by
      rintro rfl
      exact corresponds ⟨[], (List.append_nil at_).symm, by rwa [List.append_nil]⟩
    have directory : ∀ {disk : Disk}, disk.Tree → disk.contentAt (there ++ []) = some top.content →
        disk.get? at_ = some .dir := by
      intro disk tree content
      have present : (disk.get? ([] ++ there)).isSome = true := by
        rw [List.append_nil] at content
        obtain ⟨node, stands, -⟩ := Option.map_eq_some_iff.mp content
        rw [List.nil_append, stands]
        rfl
      exact tree.within present above inside
    rw [contentAt, contentAt, directory tree (first.copied [] top found),
      directory other (again.copied [] top ((same _).trans found))]
  · have spared : ∀ names id bytes executable, at_ = there ++ names →
        before.get? (here ++ names) ≠ some (.file id bytes executable) := fun names id bytes executable same file =>
      corresponds ⟨names, same, by rw [file]; rfl⟩
    rcases free : before.get? at_ with _ | node
    · have none : ∀ {start ends : Disk}, Replica here there start ends →
          (∀ at_, start.get? at_ = before.get? at_) → ends.get? at_ = none := by
        intro start ends replica same
        rcases found : ends.get? at_ with _ | node
        · rfl
        · rcases replica.added at_ node ((same at_).trans free) found with ⟨names, rfl, there_⟩ | ⟨-, within, -⟩
          · exact absurd ⟨names, rfl, same _ ▸ there_⟩ corresponds
          · exact absurd within above
      rw [contentAt, contentAt, none first fun _ => rfl, none again same]
    · rw [contentAt, contentAt, first.kept at_ node free spared,
        again.kept at_ node ((same at_).trans free) (by simpa only [same] using spared)]

section Tree

variable {place : String} {ready : Disk} (formed : ready.WellFormed) (unlinked : ready.Unlinked)
  (straight : Straight place) (apart : Apart (ready.spot source) (ready.spot place))
  (directory : ready.isDir source = true)
include formed unlinked straight apart directory

/-- A directory was made for a copy of all that is in one. -/
theorem stage_of_mkdirs (made : (ready.mkdirs (PathText.join place "")).1 = .ok ()) :
    Stage (ready.mkdirs (PathText.join place "")).2 source (PathText.join place "") (ready.spot source)
      (ready.spot place) := by
  have extends_ := extends_mkdirs ready (PathText.join place "")
  have ends := extends_.unlinked unlinked
  obtain ⟨start, spelled⟩ := slashed straight.nonempty
  refine ⟨formed.mkdirs _, ends, apart, ?_, ?_⟩
  · obtain ⟨later, found, same⟩ := extends_.grows.lookup_eq (lookup_spot unlinked directory)
    exact leads_of_lookup (Node.outline_eq_dir same ▸ found)
  · have found := lookup_spot ends (isDir_of_mkdirs (join_ne_empty straight.nonempty) made)
    have same : (ready.mkdirs (PathText.join place "")).2.spot (PathText.join place "") =
        ready.spot place := by
      rw [extends_.spot, spot, spot, startOf, startOf, start, spelled]
    exact leads_of_lookup (same ▸ found)

/-- A directory is copied if one can be made for it in which all that it holds has room. -/
theorem copyInto_tree {outcome : Except (List String) Unit}
    (ran : copyInto source place ready = (outcome, after)) :
    let made := ready.mkdirs (PathText.join place "")
    (outcome = .ok () ↔ made.1 = .ok () ∧
      Fits (· ≠ []) made.2 source (PathText.join place "") (ready.spot source) (ready.spot place)) ∧
    (outcome = .ok () → Copied (· ≠ []) (ready.spot source) (ready.spot place) made.2 after ∧
      Stage after source (PathText.join place "") (ready.spot source) (ready.spot place)) := by
  intro made
  have found := lookup_spot unlinked directory
  obtain ⟨entry, node, there⟩ := lookup_stands found
  have located : ready.locate false source = .ok (ready.spot source) := by
    rw [← locate_spot unlinked (locate_of_lookup there)]
    exact locate_of_lookup there
  have asked := inquire_eq ("cannot walk " ++ source) (fun disk => disk.locate false source) ready
  rw [located] at asked
  have deep : maxPath = (maxPath - 1) + 1 := rfl
  rw [copyInto, get_bind, if_pos directory, bind_ok _ asked, deep, copyEntry, get_bind,
    if_pos (isDirAt_iff.mpr (get?_of_lookup found))] at ran
  have makes := makeDirs_eq (PathText.join place "") ready
  rcases result : made.1 with error | done
  · rw [show (ready.mkdirs (PathText.join place "")).1 = .error error from result] at makes
    rw [bind_error _ makes] at ran
    cases ran
    refine ⟨iff_of_false (fun went => by cases went) fun both => ?_, fun went => by cases went⟩
    cases both.1
  rw [show (ready.mkdirs (PathText.join place "")).1 = .ok done from result] at makes
  rw [bind_ok _ makes, get_bind] at ran
  have stage := stage_of_mkdirs formed unlinked straight apart directory result
  rw [show (fun _ => pure ()) = (pure : PUnit → Work PUnit) from rfl, bind_pure] at ran
  generalize ready.spot source = here at *
  generalize ready.spot place = there at *
  have inside : ∀ names, (made.2.get? (here ++ names)).isSome = true →
      ((∃ name ∈ made.2.children here, [name] <+: names) ↔ names ≠ []) := by
    intro names stands
    constructor
    · rintro ⟨name, -, rest, rfl⟩
      simp
    · intro some
      obtain ⟨name, rest, rfl⟩ := List.exists_cons_of_ne_nil some
      exact ⟨name, mem_children_iff.mpr (stage.formed.tree.isSome_above stands ⟨rest, by simp⟩),
        List.prefix_append [name] rest⟩
  have each : ∀ {name disk outcome after}, Stage disk source (PathText.join place "") here there →
      (disk.get? (here ++ [name])).isSome = true →
      copyEntry (maxPath - 1) (PathText.join source name) (here ++ [name])
        (PathText.join (PathText.join place "") name) disk = (outcome, after) →
      Replicated source (PathText.join place "") here there name disk after outcome := by
    intro name disk outcome after stage stands ran
    obtain ⟨node, found⟩ := Option.isSome_iff_exists.mp stands
    have longer := utf8ByteSize_join stage.place.nonempty (stage.legible found).1
    have some : (PathText.join place "").utf8ByteSize ≠ 0 :=
      String.utf8ByteSize_eq_zero_iff.not.mpr stage.place.nonempty
    exact copyEntry_spec stage stands (by omega) ran
  obtain ⟨fits, copies⟩ := copyNames_spec stage each (fun name => mem_children_iff.mp) ran
  refine ⟨?_, fun went => ?_⟩
  · rw [fits, fits_congr inside]
    exact ⟨fun all => ⟨rfl, all⟩, fun both => both.2⟩
  · obtain ⟨copied, last⟩ := copies went
    exact ⟨copied.congr inside, last⟩

end Tree

theorem Reordered.fits {first second : Disk} (reordered : Reordered first second)
    (fits : Fits among first source target here there) : Fits among second source target here there := by
  intro names node within found
  rw [reordered.get?] at found
  obtain ⟨readable, valid, kind⟩ := fits names node within found
  exact ⟨readable, valid, fun other stands => kind other ((reordered.get? _).symm.trans stands)⟩

/-- All that stands at the source was copied to the place, for which a directory may have been made first. -/
structure Duplicated (source place : String) (before after : Disk) : Prop where
  formed : after.WellFormed
  origin : before.Finds source (before.spot source)
  ends : after.Finds place (before.spot place)
  way : ∃ middle among, Raises place before middle ∧
    Copied among (before.spot source) (before.spot place) middle after ∧
    ∀ names, (before.get? (before.spot source ++ names)).isSome = true → among names ∨
      names = [] ∧ before.get? (before.spot source) = some .dir ∧
        middle.get? (before.spot place) = some .dir

section Into

variable {place : String} {ready : Disk}

/-- What is no directory is read where its path leads and written where that of its copy does. -/
theorem copyInto_file (unlinked : ready.Unlinked) (apart : Apart (ready.spot source) (ready.spot place))
    (alone : ready.isDir source = false) (went : copyInto source place ready = (.ok (), after)) :
    ∃ id own bytes executable,
      ready.lookup true source = .ok (ready.spot source, .file id bytes executable) ∧
        Wrote ready place (ready.spot place) own bytes executable after := by
  rw [copyInto, get_bind, if_neg (by simp [alone])] at went
  obtain ⟨_, failed, -⟩ | ⟨-, copied⟩ := copyOne_cases went
  · cases failed
  obtain ⟨origin, at_, id, own, bytes, executable, read, wrote⟩ := copyFile_ok copied
  obtain rfl := locate_spot unlinked (locate_of_lookup read)
  obtain rfl := locate_spot unlinked wrote.located
  have other : ¬ ready.spot place = ready.spot source := fun same => apart.above (same ▸ List.prefix_rfl)
  rw [if_neg other] at wrote
  exact ⟨id, own, bytes, executable, read, wrote⟩

variable (formed : ready.WellFormed) (unlinked : ready.Unlinked)
  (straight : Straight place) (apart : Apart (ready.spot source) (ready.spot place))
  (went : copyInto source place ready = (.ok (), after))
include formed unlinked straight apart went

theorem copyInto_duplicated : Duplicated source place ready after := by
  cases directory : ready.isDir source with
  | false =>
    obtain ⟨id, own, bytes, executable, read, wrote⟩ := copyInto_file unlinked apart directory went
    refine ⟨formed.wrote wrote, ⟨_, read⟩, ⟨_, wrote.found⟩, ready, _, refl (r := Raises place) ready,
      wrote.copied formed.tree (get?_of_lookup read), fun _ _ => .inl trivial⟩
  | true =>
    obtain ⟨fits, copies⟩ := copyInto_tree formed unlinked straight apart directory went
    obtain ⟨copied, last⟩ := copies rfl
    have stage := stage_of_mkdirs formed unlinked straight apart directory (fits.mp rfl).1
    have found := lookup_spot unlinked directory
    obtain ⟨start, spelled⟩ := slashed straight.nonempty
    have along : Descends place [] (PathText.join place "") :=
      .inr ⟨start, spelled ▸ List.prefix_append _ []⟩
    have leads : after.Leads place (ready.spot place) := by
      obtain ⟨left, through⟩ := last.place.way
      rw [startOf, start, spelled] at through
      exact ⟨straight.nonempty, left, through⟩
    have valid : checkPath place = .ok () := by
      have whole := checkPath_of_mkdirs (join_ne_empty straight.nonempty) (fits.mp rfl).1
      exact checkPath_of_prefix straight.nonempty (PathText.prefix_join straight.nonempty (by decide)) whole
    refine ⟨last.formed, ⟨_, found⟩, ⟨_, leads.lookup last.formed valid⟩, _, _,
      raises_mkdirs straight along ready, copied, fun names stands => ?_⟩
    by_cases empty : names = []
    · exact .inr ⟨empty, get?_of_lookup found, stage.place.directory stage.formed⟩
    · exact .inl empty

/-- If the entries are listed in another order, all goes well too. -/
theorem copyInto_reordered {other : Disk} (reordered : Reordered ready other) :
    ∃ later, copyInto source place other = (.ok (), later) := by
  cases directory : ready.isDir source with
  | false =>
    obtain ⟨id, own, bytes, executable, read, wrote⟩ := copyInto_file unlinked apart directory went
    obtain ⟨file, opened⟩ := wrote.opened
    have ne : ready.spot source ≠ ready.spot place := fun same => apart.inside (same ▸ List.prefix_rfl)
    obtain ⟨later, again⟩ := exists_copyFile ((reordered.lookup true source).trans read)
      ((reordered.openForWriting place).trans opened) ne
    refine ⟨later, ?_⟩
    rw [copyInto, get_bind, if_neg (by simp [reordered.isDir, directory])]
    exact attempt_ok _ again
  | true =>
    obtain ⟨made, fits⟩ := (copyInto_tree formed unlinked straight apart directory went).1.mp rfl
    obtain ⟨same, middle⟩ := reordered.mkdirs (PathText.join place "")
    rcases ran : copyInto source place other with ⟨outcome, later⟩
    rw [← reordered.spot source, ← reordered.spot place] at apart fits
    have all := (copyInto_tree (reordered.formed formed) (reordered.unlinked unlinked) straight apart
      ((reordered.isDir source).trans directory) ran).1
    exact ⟨later, by rw [all.mpr ⟨same.trans made, middle.fits fits⟩]⟩

end Into

section Copy

variable {place : String} (formed : before.WellFormed) (unlinked : before.Unlinked)
  (straight : Straight target)
  (apart : Apart (before.spot source) (before.spot (before.landing source target)))
  (ran : copy source target before = (.ok place, after))
include formed unlinked straight apart ran

theorem replica_of_copy : (before.get? (before.spot source)).isSome = true ∧ after.WellFormed ∧
    after.Finds source (before.spot source) ∧ after.Finds place (before.spot place) ∧
    Replica (before.spot source) (before.spot place) before after := by
  obtain ⟨rfl, ready, made, went⟩ := copy_ok_iff.mp ran
  have straight : Straight (before.landing source target) := straight_landing straight
  generalize before.landing source target = place at *
  have raises := ensureParent_raises straight made
  obtain ⟨extends_, elsewhere⟩ := raises unlinked
  have settled := (ensureParent_course made).1.wellFormed formed
  rw [← extends_.spot source, ← extends_.spot place] at apart
  have whole := copyInto_duplicated settled (extends_.unlinked unlinked) straight apart went
  obtain ⟨middle, among, makes, copied, covers⟩ := whole.way
  have origin := whole.origin
  have ends := whole.ends
  rw [extends_.spot source] at apart origin copied covers
  rw [extends_.spot place] at apart ends copied covers
  have same : ready.get? (before.spot source) = before.get? (before.spot source) := elsewhere _ apart.inside
  have grows : Grows ready after := Trans.trans (makes (extends_.unlinked unlinked)).1.grows copied.grows
  have stands : (before.get? (before.spot source)).isSome = true := by
    obtain ⟨node, found⟩ := origin
    rw [← same, get?_of_lookup found]
    rfl
  refine ⟨stands, whole.formed, grows.finds origin, ends, ?_⟩
  refine replica_of_copied unlinked apart stands (Trans.trans raises makes) copied fun names there => ?_
  obtain ⟨node, found⟩ := Option.isSome_iff_exists.mp there
  rw [← same]
  exact covers names (by rw [extends_.kept _ node found]; rfl)

end Copy

/-- There are two directories, with a name that both know. -/
def album : Disk where
  entries := [(["d"], .dir), (["d", "a"], .file 0 [1] true), (["d", "s"], .dir), (["t"], .dir),
    (["t", "a"], .file 1 [2] false), (["t", "b"], .file 2 [3] false)]
  fresh := 3

theorem wellFormed_album : album.WellFormed := by
  have legible : ∀ name ∈ ["d", "a", "s", "t", "b"], Plain name ∧ Proper name := by
    intro name member
    simp only [List.mem_cons, List.not_mem_nil, or_false] at member
    rcases member with rfl | rfl | rfl | rfl | rfl
    all_goals exact ⟨⟨by decide, by decide, by decide, by decide⟩, ⟨by decide, by decide, by decide⟩⟩
  refine wellFormed_of_entries rfl fun entry member => ?_
  simp only [album, List.mem_cons, List.not_mem_nil, or_false] at member
  rcases member with rfl | rfl | rfl | rfl | rfl | rfl
  all_goals exact ⟨by decide, fun name inside => legible name (by revert name; decide)⟩

end Disk

end Provision
