import Provision.Proofs.Disk.Region
import Provision.Proofs.Disk.Spelling

/-! A directory without links in it. A path that goes on from it and, read as a text, never climbs
above it, leads to where the text says, and so do all requests that are made for such a path. -/

namespace Provision.Disk

variable {disk before after : Disk} {links left : Nat} {place at_ there below reached : Location}
  {base path : String} {full front rest pieces : List String} {places : Location → Prop}

/-- Where pieces lead as a text: a dot leads nowhere else, and two dots lead back over a name. There
has to be a name to go back over. -/
def lexical : (below : Location) → List String → Option Location
  | below, [] => some below
  | below, piece :: rest =>
    if piece == "." then lexical below rest
    else if piece == ".." then if below.isEmpty then none else lexical below.dropLast rest
    else lexical (below ++ [piece]) rest

theorem lexical_append (below : Location) (front rest : List String) :
    lexical below (front ++ rest) = (lexical below front).bind fun reached => lexical reached rest := by
  induction front generalizing below with
  | nil => rfl
  | cons piece front ih =>
    simp only [List.cons_append, lexical, ih]
    split
    · rfl
    · split
      · split <;> rfl
      · rfl

theorem lexical_of_prefix (prefixed : front <+: full) (whole : (lexical below full).isSome = true) :
    ∃ reached, lexical below front = some reached := by
  obtain ⟨rest, rfl⟩ := prefixed
  rw [lexical_append] at whole
  cases read : lexical below front with
  | none => rw [read] at whole; cases whole
  | some reached => exact ⟨reached, rfl⟩

theorem lexical_plain {names : List String} (plain : ∀ name ∈ names, Plain name) (below : Location) :
    lexical below names = some (below ++ names) := by
  induction names generalizing below with
  | nil => rw [lexical, List.append_nil]
  | cons name names ih =>
    have first := plain name (.head _)
    rw [lexical, if_neg first.notHere, if_neg first.notUp,
      ih fun other member => plain other (.tail _ member), List.append_assoc]
    rfl

/-- A directory under its path, with no links at or below it. -/
structure Sheltered (disk : Disk) (base : String) (place : Location) : Prop where
  nonempty : base ≠ ""
  leads : ∃ left, disk.Through maxLinks (disk.startOf base) (PathText.pieces base) left place
  unlinked : ∀ at_, place <+: at_ → ∀ target, disk.get? at_ ≠ some (.link target)

/-- Without links a walk leads where its text says. Induction on the pieces. -/
theorem walk_lexical (unlinked : ∀ at_, place <+: at_ → ∀ target, disk.get? at_ ≠ some (.link target))
    (read : lexical below pieces = some reached)
    (walked : disk.walk true links (place ++ below) pieces = .ok there) : there = place ++ reached := by
  induction pieces generalizing below with
  | nil =>
    rw [walk] at walked
    cases walked
    cases read
    rfl
  | cons piece rest ih =>
    rw [lexical] at read
    by_cases further : (piece == ".") = true
    · rw [if_pos further] at read
      rw [eq_of_beq further, walk_stay] at walked
      exact ih read walked
    by_cases down : (piece == "..") = true
    · rw [if_neg further, if_pos down] at read
      rw [eq_of_beq down, walk_up] at walked
      split at read
      · cases read
      · rename_i inside
        rw [List.dropLast_append_of_ne_nil (by simpa using inside)] at walked
        exact ih read walked
    rw [if_neg further, if_neg down] at read
    obtain ⟨-, ⟨rfl, rfl, -⟩ | ⟨-, later⟩ | ⟨target, -, linked, -⟩⟩ :=
      walk_cases further down walked
    · cases read
      exact List.append_assoc ..
    · rw [List.append_assoc] at later
      exact ih read later
    · rw [List.append_assoc] at linked
      exact absurd linked (unlinked _ (List.prefix_append place _) target)

/-- All pieces of the path lead to directories, the last of them here. -/
structure Leads (disk : Disk) (base : String) (place : Location) : Prop where
  nonempty : base ≠ ""
  way : ∃ left, disk.Through maxLinks (disk.startOf base) (PathText.pieces base) left place

theorem leads_of_lookup (found : disk.lookup true base = .ok (place, .dir)) : disk.Leads base place := by
  obtain ⟨valid, walked⟩ := locate_eq_ok_iff.mp (locate_of_lookup found)
  obtain ⟨left, through⟩ := through_of_walk_dir (get?_of_lookup found) walked
  obtain ⟨middle, between, leads, rest⟩ := through.split
  have same : between = place :=
    Except.ok.inj ((walk_tail disk true middle between (hasSlash base)).symm.trans rest.walk_eq)
  refine ⟨?_, middle, same ▸ leads⟩
  rintro rfl
  cases valid

/-- A directory that a path finds is sheltered if there are no links in it. -/
theorem sheltered_of_lookup (found : disk.lookup true base = .ok (place, .dir))
    (unlinked : ∀ at_, place <+: at_ → ∀ target, disk.get? at_ ≠ some (.link target)) :
    Sheltered disk base place := by
  have leads := leads_of_lookup found
  exact ⟨leads.nonempty, leads.way, unlinked⟩

namespace Sheltered

/-- The directory stands wherever its path has led so far. -/
theorem through {other : Nat} {elsewhere : Location} (sheltered : Sheltered disk base place)
    (whole : disk.Through maxLinks (disk.startOf base) (PathText.pieces base ++ rest) other elsewhere) :
    ∃ left, disk.Through left place rest other elsewhere := by
  obtain ⟨_, leads⟩ := sheltered.leads
  obtain ⟨middle, between, first, later⟩ := whole.split
  exact ⟨middle, leads.there_eq first ▸ later⟩

/-- A new entry that is no link, or new contents of a file, change nothing about that. -/
theorem entered {node : Node} (sheltered : Sheltered before base place) (grows : Grows before after)
    (stands : after.get? at_ = some node) (plain : ∀ target, node ≠ .link target)
    (others : ∀ other, other ≠ at_ → after.get? other = before.get? other) :
    Sheltered after base place where
  nonempty := sheltered.nonempty
  leads := by
    obtain ⟨left, through⟩ := sheltered.leads
    have start : after.startOf base = before.startOf base := by
      unfold startOf
      rw [grows.cwd]
    exact ⟨left, start ▸ grows.through through⟩
  unlinked := by
    intro other below target linked
    by_cases same : other = at_
    · rw [same, stands] at linked
      exact plain target (Option.some.inj linked)
    · rw [others other same] at linked
      exact sheltered.unlinked other below target linked

/-- What a path leads to that goes on from the directory. -/
theorem locate_eq (sheltered : Sheltered disk base place) (start : disk.startOf path = disk.startOf base)
    (spelled : PathText.pieces path = PathText.pieces base ++ full)
    (read : lexical [] full = some reached) (located : disk.locate true path = .ok at_) :
    at_ = place ++ reached := by
  obtain ⟨-, walked⟩ := locate_eq_ok_iff.mp located
  obtain ⟨left, leads⟩ := sheltered.leads
  rw [start, spelled, List.append_assoc, leads.walk_append (.inr rfl)] at walked
  have further : lexical [] (full ++ if hasSlash path then ["."] else []) = some reached := by
    rw [lexical_append, read, Option.bind_some]
    split <;> rfl
  rw [← List.append_nil place] at walked
  exact walk_lexical sheltered.unlinked further walked

end Sheltered

/-- The path is a front of what one gets by going on from the directory. -/
def Descends (base : String) (full : List String) (path : String) : Prop :=
  path = "" ∨ PathText.isAbsolute path = PathText.isAbsolute base ∧
    PathText.pieces path <+: PathText.pieces base ++ full

theorem Descends.parent {parent : String} (descends : Descends base full path)
    (above : PathText.parent? path = some parent) : Descends base full parent := by
  rcases descends with rfl | ⟨start, prefixed⟩
  · rw [show PathText.parent? "" = none by decide] at above
    cases above
  · obtain ⟨front, same⟩ := PathText.pieces_parent above
    by_cases empty : parent = ""
    · exact .inl empty
    · exact .inr ⟨(same empty).trans start, front.trans prefixed⟩

theorem Descends.startOf_eq (descends : Descends base full path) (nonempty : path ≠ "") :
    disk.startOf path = disk.startOf base := by
  rcases descends with empty | ⟨start, -⟩
  · exact absurd empty nonempty
  · rw [startOf, startOf, start]

/-- A directory that can be made for such a path is new, in the directory. -/
theorem Sheltered.mkdir (sheltered : Sheltered before base place)
    (enclosed : (lexical [] full).isSome = true) (descends : Descends base full path)
    (made : before.mkdir path = .ok after) :
    ∃ front reached, front <+: full ∧ lexical [] front = some reached ∧
      before.get? (place ++ reached) = none ∧ after = before.put (place ++ reached) .dir := by
  obtain ⟨parent, name, located, free, rfl⟩ := mkdir_ok made
  obtain ⟨valid, proper, front, left, spelled, through⟩ := locateEntry_eq_ok_iff.mp located
  have nonempty : path ≠ "" := by
    rintro rfl
    cases valid
  rw [descends.startOf_eq nonempty] at through
  obtain ⟨-, prefixed⟩ := descends.resolve_left nonempty
  rw [spelled] at prefixed
  have either : front ++ [name] <+: PathText.pieces base ∨ PathText.pieces base <+: front := by
    rcases List.prefix_or_prefix_of_prefix prefixed (List.prefix_append _ full) with shorter | longer
    · exact .inl shorter
    · rcases List.prefix_concat_iff.mp longer with same | inside
      · exact .inl (same ▸ List.prefix_rfl)
      · exact .inr inside
  rcases either with ⟨rest, whole⟩ | ⟨more, rfl⟩
  · obtain ⟨_, leads⟩ := sheltered.leads
    rw [← whole, List.append_assoc] at leads
    obtain ⟨middle, between, first, later⟩ := leads.split
    obtain rfl := first.there_eq through
    cases later with
    | stay later => exact absurd rfl proper.further
    | up later => exact absurd rfl proper.down
    | dir _ found later =>
      rw [free] at found
      cases found
    | link _ found =>
      rw [free] at found
      cases found
  · rw [List.append_assoc, List.prefix_append_right_inj] at prefixed
    obtain ⟨reached, read⟩ := lexical_of_prefix prefixed enclosed
    obtain ⟨_, inside⟩ := sheltered.through through
    have ends := read
    rw [lexical_append] at ends
    obtain ⟨above, first, last⟩ := Option.bind_eq_some_iff.mp ends
    rw [lexical, if_neg proper.further, if_neg proper.down, lexical] at last
    cases last
    have walked := inside.walk_eq
    rw [← List.append_nil place] at walked
    have parent_eq := walk_lexical sheltered.unlinked first walked
    have place_eq : parent ++ [name] = place ++ (above ++ [name]) := by
      rw [parent_eq, List.append_assoc]
    exact ⟨more ++ [name], above ++ [name], prefixed, read, place_eq ▸ free, by rw [place_eq]⟩

/-- The pieces never climb above the directory, and whatever a front of them leads to is one of these
places. -/
structure Allowed (places : Location → Prop) (place : Location) (full : List String) : Prop where
  enclosed : (lexical [] full).isSome = true
  inside : ∀ front reached, front <+: full → lexical [] front = some reached → places (place ++ reached)

/-- What keeps the directory sheltered and changes such places only. -/
def Confines (base : String) (place : Location) (places : Location → Prop) (before after : Disk) :
    Prop :=
  Sheltered before base place → Sheltered after base place ∧ ChangedWithin places before after

instance : IsPreorder Disk (Confines base place places) where
  refl before sheltered := ⟨sheltered, refl before⟩
  trans _ _ _ first second sheltered := by
    obtain ⟨still, changed⟩ := first sheltered
    obtain ⟨last, further⟩ := second still
    exact ⟨last, Trans.trans changed further⟩

theorem confines_put {node : Node} (inside : places at_) (root : at_ ≠ [])
    (grows : Grows disk (disk.put at_ node)) (plain : ∀ target, node ≠ .link target) :
    Confines base place places disk (disk.put at_ node) := fun sheltered =>
  ⟨sheltered.entered grows (get?_put_self root) plain fun _ other => get?_put_other other,
    changedWithin_put inside node⟩

theorem confines_addFile (inside : places at_) (free : disk.get? at_ = none) (bytes : Bytes)
    (executable : Bool) : Confines base place places disk (disk.addFile at_ bytes executable) :=
  fun sheltered =>
    ⟨sheltered.entered (grows_addFile free bytes executable) (get?_put_self (ne_nil_of_free free))
      (by simp) fun _ other => get?_put_other other, changedWithin_addFile inside bytes executable⟩

theorem confines_mkdir (allowed : Allowed places place full) (descends : Descends base full path)
    (made : before.mkdir path = .ok after) : Confines base place places before after := by
  intro sheltered
  obtain ⟨front, reached, prefixed, read, free, rfl⟩ := sheltered.mkdir allowed.enclosed descends made
  have there := allowed.inside front reached prefixed read
  exact confines_put there (ne_nil_of_free free) (grows_put_new free) (by simp) sheltered

theorem confines_mkdirs (allowed : Allowed places place full) (descends : Descends base full path)
    (before : Disk) : Confines base place places before (before.mkdirs path).2 :=
  mkdirsFrom_induction (fun along above => along.parent above) (confines_mkdir allowed) _ descends

/-- A file is opened for writing where its path leads. -/
theorem openForWriting_locate {file : Option (Nat × Bytes × Bool)}
    (opened : disk.openForWriting path = .ok (at_, file)) : disk.locate true path = .ok at_ := by
  unfold openForWriting at opened
  simp only [bind, Except.bind] at opened
  split at opened
  · cases opened
  · split at opened
    · cases opened
    · split at opened
      · cases opened
      · rename_i located
        split at opened <;> cases opened
        · exact located
        · exact located

/-- The path goes on from the directory with these pieces. -/
structure GoesOn (base : String) (full : List String) (path : String) : Prop where
  start : PathText.isAbsolute path = PathText.isAbsolute base
  spelled : PathText.pieces path = PathText.pieces base ++ full

theorem Sheltered.allowed_of_locate (sheltered : Sheltered disk base place)
    (allowed : Allowed places place full) (goesOn : GoesOn base full path)
    (located : disk.locate true path = .ok at_) : places at_ := by
  obtain ⟨reached, read⟩ := Option.isSome_iff_exists.mp allowed.enclosed
  have start : disk.startOf path = disk.startOf base := by rw [startOf, startOf, goesOn.start]
  rw [sheltered.locate_eq start goesOn.spelled read located]
  exact allowed.inside full reached List.prefix_rfl read

theorem confines_write (allowed : Allowed places place full) (goesOn : GoesOn base full path)
    {bytes : Bytes} {executable : Bool} (wrote : before.write path bytes executable = .ok after) :
    Confines base place places before after := by
  intro sheltered
  unfold write at wrote
  rcases opened : before.openForWriting path with error | ⟨at_, _ | ⟨id, old, kept⟩⟩
  · rw [opened] at wrote
    cases wrote
  · rw [opened] at wrote
    cases wrote
    have there := sheltered.allowed_of_locate allowed goesOn (openForWriting_locate opened)
    exact confines_addFile there (openForWriting_cases opened) _ _ sheltered
  · rw [opened] at wrote
    cases wrote
    have there := sheltered.allowed_of_locate allowed goesOn (openForWriting_locate opened)
    have found := openForWriting_cases opened
    exact confines_put there (ne_nil_of_file found) (grows_put_file found) (by simp) sheltered

theorem confines_setExecutable (allowed : Allowed places place full) (goesOn : GoesOn base full path)
    {executable : Bool} (set : before.setExecutable path executable = .ok after) :
    Confines base place places before after := by
  intro sheltered
  unfold setExecutable at set
  rcases found : before.lookup true path with error | ⟨at_, ⟨id, bytes, old⟩ | _ | target⟩
  · rw [found] at set
    cases set
  · rw [found] at set
    cases set
    have there := sheltered.allowed_of_locate allowed goesOn (locate_of_lookup found)
    have file := get?_of_lookup found
    exact confines_put there (ne_nil_of_file file) (grows_put_file file) (by simp) sheltered
  · rw [found] at set
    cases set
    exact refl (r := Confines base place places) before sheltered
  · rw [found] at set
    cases set
    exact refl (r := Confines base place places) before sheltered

end Provision.Disk
