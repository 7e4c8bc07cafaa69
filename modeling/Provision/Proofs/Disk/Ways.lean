import Provision.Proofs.Disk.Growth

/-! Ways through a disk: what following the pieces of a path comes to as long as each of them is a
directory or leads to one. A walk goes such a way for all of its pieces but the last. -/

namespace Provision.Disk

variable {disk before after : Disk} {follow : Bool} {links left : Nat} {here there : Location}
  {piece : String} {front rest pieces : List String}

/-- A piece that names something to be entered. -/
structure Proper (piece : String) : Prop where
  further : ¬ (piece == ".") = true
  down : ¬ (piece == "..") = true
  fits : ¬ maxName < piece.utf8ByteSize

/-- Where following a link starts. -/
def linkStart (target : String) (here : Location) : Location :=
  if PathText.isAbsolute target then [] else here

/-- What following a link adds to the pieces. -/
def linkPieces (target : String) : List String :=
  PathText.pieces target ++ if target.toList.getLast? == some '/' then ["."] else []

/-- The pieces lead from here to there, and so many links may still be followed then. -/
inductive Through (disk : Disk) : (links : Nat) → (here : Location) → List String → (left : Nat) →
    (there : Location) → Prop where
  | stop {links : Nat} {here : Location} : Through disk links here [] links here
  | stay {links left : Nat} {here there : Location} {rest : List String}
    (later : Through disk links here rest left there) :
    Through disk links here ("." :: rest) left there
  | up {links left : Nat} {here there : Location} {rest : List String}
    (later : Through disk links here.dropLast rest left there) :
    Through disk links here (".." :: rest) left there
  | dir {links left : Nat} {here there : Location} {piece : String} {rest : List String}
    (proper : Proper piece) (found : disk.get? (here ++ [piece]) = some .dir)
    (later : Through disk links (here ++ [piece]) rest left there) :
    Through disk links here (piece :: rest) left there
  | link {links middle left : Nat} {here between there : Location} {piece target : String}
    {rest : List String} (proper : Proper piece)
    (found : disk.get? (here ++ [piece]) = some (.link target)) (full : ¬ target.isEmpty = true)
    (way : Through disk links (linkStart target here) (linkPieces target) middle between)
    (later : Through disk middle between rest left there) :
    Through disk (links + 1) here (piece :: rest) left there

theorem walk_stay (disk : Disk) (follow : Bool) (links : Nat) (here : Location) (rest : List String) :
    disk.walk follow links here ("." :: rest) = disk.walk follow links here rest := by
  rw [walk, if_pos (beq_self_eq_true ".")]

theorem walk_up (disk : Disk) (follow : Bool) (links : Nat) (here : Location) (rest : List String) :
    disk.walk follow links here (".." :: rest) = disk.walk follow links here.dropLast rest := by
  rw [walk, if_neg (by decide), if_pos (beq_self_eq_true "..")]

/-- A slash at the end only asks for a directory. -/
theorem walk_tail (disk : Disk) (follow : Bool) (links : Nat) (here : Location) (slash : Bool) :
    disk.walk follow links here (if slash then ["."] else []) = .ok here := by
  cases slash with
  | false => rw [if_neg Bool.false_ne_true, walk]
  | true => rw [if_pos rfl, walk_stay, walk]

theorem walk_dir (proper : Proper piece) (found : disk.get? (here ++ [piece]) = some .dir) :
    disk.walk follow links here (piece :: rest) = disk.walk follow links (here ++ [piece]) rest := by
  rw [walk, if_neg proper.further, if_neg proper.down, if_neg proper.fits, found]

theorem walk_link {target : String} (proper : Proper piece)
    (found : disk.get? (here ++ [piece]) = some (.link target)) (full : ¬ target.isEmpty = true)
    (goes : rest ≠ [] ∨ follow = true) :
    disk.walk follow (links + 1) here (piece :: rest) =
      disk.walk follow links (linkStart target here) (linkPieces target ++ rest) := by
  have followed : ¬ (rest.isEmpty && !follow) = true := by
    rcases goes with more | rfl
    · simp [more]
    · simp
  rw [walk, if_neg proper.further, if_neg proper.down, if_neg proper.fits, found]
  simp only [if_neg followed, if_neg full]
  rfl

/-- All that a walk that comes somewhere can do with a piece that names something. -/
theorem walk_cases (further : ¬ (piece == ".") = true) (down : ¬ (piece == "..") = true)
    (walked : disk.walk follow links here (piece :: rest) = .ok there) :
    Proper piece ∧
      ((rest = [] ∧ there = here ++ [piece] ∧ disk.get? there ≠ some .dir ∧
          ∀ target, disk.get? there = some (.link target) → follow = false) ∨
        (disk.get? (here ++ [piece]) = some .dir ∧
          disk.walk follow links (here ++ [piece]) rest = .ok there) ∨
        ∃ target fewer, disk.get? (here ++ [piece]) = some (.link target) ∧
          ¬ target.isEmpty = true ∧ links = fewer + 1 ∧ (rest ≠ [] ∨ follow = true) ∧
          disk.walk follow fewer (linkStart target here) (linkPieces target ++ rest) = .ok there) := by
  rw [walk, if_neg further, if_neg down] at walked
  split at walked
  · cases walked
  · rename_i fits
    refine ⟨⟨further, down, fits⟩, ?_⟩
    split at walked
    · rename_i missing
      split at walked
      · rename_i last
        cases walked
        exact .inl ⟨by simpa using last, rfl, by simp [missing], by simp [missing]⟩
      · cases walked
    · rename_i found
      exact .inr (.inl ⟨found, walked⟩)
    · rename_i id bytes executable found
      split at walked
      · rename_i last
        cases walked
        exact .inl ⟨by simpa using last, rfl, by simp [found], by simp [found]⟩
      · cases walked
    · rename_i target found
      split at walked
      · rename_i kept
        obtain ⟨last, unfollowed⟩ := Bool.and_eq_true_iff.mp kept
        cases walked
        exact .inl ⟨by simpa using last, rfl, by simp [found], fun _ _ => by simpa using unfollowed⟩
      · rename_i followed
        split at walked
        · cases walked
        · rename_i fewer
          split at walked
          · cases walked
          · rename_i full
            refine .inr (.inr ⟨target, fewer, found, full, rfl, ?_, walked⟩)
            simpa [Decidable.or_iff_not_imp_left] using followed

/-- A walk goes the way first. -/
theorem Through.walk_append (through : disk.Through links here front left there)
    (goes : rest ≠ [] ∨ follow = true) :
    disk.walk follow links here (front ++ rest) = disk.walk follow left there rest := by
  have goesOn (later : List String) : later ++ rest ≠ [] ∨ follow = true :=
    goes.imp_left fun more => List.append_ne_nil_of_right_ne_nil later more
  induction through generalizing rest with
  | stop => rfl
  | stay later ih => rw [List.cons_append, walk_stay, ih goes goesOn]
  | up later ih => rw [List.cons_append, walk_up, ih goes goesOn]
  | dir proper found later ih => rw [List.cons_append, walk_dir proper found, ih goes goesOn]
  | @link _ _ _ _ _ _ _ _ further proper found full way later first second =>
    have whole (other : List String) : other ++ (further ++ rest) ≠ [] ∨ follow = true := by
      rw [← List.append_assoc]
      exact goesOn _
    rw [List.cons_append, walk_link proper found full (goesOn further), first (goesOn further) whole,
      second goes goesOn]

theorem Through.walk_eq (through : disk.Through links here pieces left there) :
    disk.walk true links here pieces = .ok there := by
  have whole : disk.walk true links here (pieces ++ []) = disk.walk true left there [] :=
    through.walk_append (.inr rfl)
  rwa [List.append_nil, walk] at whole

theorem Through.there_eq {other : Nat} {elsewhere : Location}
    (first : disk.Through links here pieces left there)
    (second : disk.Through links here pieces other elsewhere) : there = elsewhere :=
  Except.ok.inj (first.walk_eq.symm.trans second.walk_eq)

theorem Through.trans {between : Location} {middle : Nat}
    (first : disk.Through links here front middle between)
    (second : disk.Through middle between rest left there) :
    disk.Through links here (front ++ rest) left there := by
  induction first with
  | stop => exact second
  | stay later ih => exact .stay (ih second)
  | up later ih => exact .up (ih second)
  | dir proper found later ih => exact .dir proper found (ih second)
  | link proper found full way later _ ih => exact .link proper found full way (ih second)

/-- Induction on the pieces in front. -/
theorem Through.split (through : disk.Through links here (front ++ rest) left there) :
    ∃ middle between, disk.Through links here front middle between ∧
      disk.Through middle between rest left there := by
  induction front generalizing links here with
  | nil => exact ⟨links, here, .stop, through⟩
  | cons piece front ih =>
    cases through with
    | stay later =>
      obtain ⟨middle, between, first, second⟩ := ih later
      exact ⟨middle, between, .stay first, second⟩
    | up later =>
      obtain ⟨middle, between, first, second⟩ := ih later
      exact ⟨middle, between, .up first, second⟩
    | dir proper found later =>
      obtain ⟨middle, between, first, second⟩ := ih later
      exact ⟨middle, between, .dir proper found first, second⟩
    | link proper found full way later =>
      obtain ⟨middle, between, first, second⟩ := ih later
      exact ⟨middle, between, .link proper found full way first, second⟩

/-- All pieces of a walk but the last lead somewhere. Induction on the links that may be followed, and
then on the pieces. -/
theorem through_of_walk (more : rest ≠ [])
    (walked : disk.walk follow links here (front ++ rest) = .ok there) :
    ∃ left between, disk.Through links here front left between ∧
      disk.walk follow left between rest = .ok there := by
  induction links using Nat.strongRecOn generalizing here front with
  | ind links along =>
    induction front generalizing here with
    | nil => exact ⟨links, here, .stop, walked⟩
    | cons piece front ih =>
      rw [List.cons_append] at walked
      by_cases further : (piece == ".") = true
      · rw [eq_of_beq further, walk_stay] at walked
        obtain ⟨left, between, through, last⟩ := ih walked
        exact ⟨left, between, eq_of_beq further ▸ .stay through, last⟩
      by_cases down : (piece == "..") = true
      · rw [eq_of_beq down, walk_up] at walked
        obtain ⟨left, between, through, last⟩ := ih walked
        exact ⟨left, between, eq_of_beq down ▸ .up through, last⟩
      obtain ⟨proper, ⟨last, -⟩ | ⟨found, later⟩ | ⟨target, fewer, found, full, rfl, -, later⟩⟩ :=
        walk_cases further down walked
      · exact absurd last (List.append_ne_nil_of_right_ne_nil front more)
      · obtain ⟨left, between, through, last⟩ := ih later
        exact ⟨left, between, .dir proper found through, last⟩
      · rw [← List.append_assoc] at later
        obtain ⟨left, between, through, last⟩ := along fewer (Nat.lt_succ_self fewer) later
        obtain ⟨middle, entered, way, rest⟩ := through.split
        exact ⟨left, between, .link proper found full way rest, last⟩

/-- A walk to a directory leads there with its last piece too. -/
theorem through_of_walk_dir (directory : disk.get? there = some .dir)
    (walked : disk.walk true links here pieces = .ok there) :
    ∃ left, disk.Through links here pieces left there := by
  induction links using Nat.strongRecOn generalizing here pieces with
  | ind links along =>
    induction pieces generalizing here with
    | nil =>
      rw [walk] at walked
      cases walked
      exact ⟨links, .stop⟩
    | cons piece pieces ih =>
      by_cases further : (piece == ".") = true
      · rw [eq_of_beq further, walk_stay] at walked
        obtain ⟨left, through⟩ := ih walked
        exact ⟨left, eq_of_beq further ▸ .stay through⟩
      by_cases down : (piece == "..") = true
      · rw [eq_of_beq down, walk_up] at walked
        obtain ⟨left, through⟩ := ih walked
        exact ⟨left, eq_of_beq down ▸ .up through⟩
      obtain ⟨proper, ⟨-, -, other, -⟩ | ⟨found, later⟩ |
        ⟨target, fewer, found, full, rfl, -, later⟩⟩ := walk_cases further down walked
      · exact absurd directory other
      · obtain ⟨left, through⟩ := ih later
        exact ⟨left, .dir proper found through⟩
      · obtain ⟨left, through⟩ := along fewer (Nat.lt_succ_self fewer) later
        obtain ⟨middle, entered, way, rest⟩ := through.split
        exact ⟨left, .link proper found full way rest⟩

/-- A disk that grows keeps its ways. -/
theorem Grows.through (grows : Grows before after)
    (through : before.Through links here pieces left there) :
    after.Through links here pieces left there := by
  induction through with
  | stop => exact .stop
  | stay later ih => exact .stay ih
  | up later ih => exact .up ih
  | dir proper found later ih => exact .dir proper (grows.get?_dir found) ih
  | link proper found full way later first second =>
    exact .link proper (grows.get?_link found) full first second

/-- The path names something that stands, or can be entered, in the directory under the name. -/
structure EntersAt (disk : Disk) (path : String) (parent : Location) (name : String) : Prop where
  valid : checkPath path = .ok ()
  proper : Proper name
  way : ∃ front left, PathText.pieces path = front ++ [name] ∧
    disk.Through maxLinks (disk.startOf path) front left parent

variable {path name : String} {parent : Location} {node : Node}

theorem locateEntry_eq_ok_iff :
    disk.locateEntry path = .ok (parent, some name) ↔ disk.EntersAt path parent name := by
  unfold locateEntry
  constructor
  · intro located
    simp only [bind, Except.bind] at located
    split at located
    · cases located
    · rename_i valid
      split at located
      · cases located
      · rename_i last ends
        obtain ⟨front, pieces⟩ := List.getLast?_eq_some_iff.mp ends
        split at located
        · split at located <;> cases located
        · rename_i dots
          split at located
          · cases located
          · rename_i reached walked
            split at located
            · cases located
            · rename_i fits
              cases located
              rw [pieces, List.dropLast_concat] at walked
              obtain ⟨left, between, through, stays⟩ := through_of_walk (List.cons_ne_nil _ _) walked
              rw [walk_stay, walk] at stays
              cases stays
              obtain ⟨further, down⟩ := not_or.mp fun either => dots (Bool.or_eq_true_iff.mpr either)
              exact ⟨valid, ⟨further, down, fits⟩, front, left, pieces, through⟩
  · rintro ⟨valid, proper, front, left, pieces, through⟩
    have stays : disk.walk true maxLinks (disk.startOf path) (front ++ ["."]) = .ok parent := by
      rw [through.walk_append (.inr rfl), walk_stay, walk]
    have plain : ¬ (name == "." || name == "..") = true := fun dots =>
      (Bool.or_eq_true_iff.mp dots).elim proper.further proper.down
    simp only [valid, bind, Except.bind, pieces, List.getLast?_concat, List.dropLast_concat, stays,
      if_neg plain, if_neg proper.fits]

/-- An absolute path of two pieces names something in a directory under the root. -/
theorem entersAt_absolute {above : String} (valid : checkPath path = .ok ())
    (absolute : PathText.isAbsolute path = true) (pieces : PathText.pieces path = [above, name])
    (first : Proper above) (proper : Proper name) (found : disk.get? [above] = some .dir) :
    disk.EntersAt path [above] name := by
  refine ⟨valid, proper, [above], maxLinks, pieces, ?_⟩
  rw [startOf, absolute]
  exact .dir first found .stop

theorem EntersAt.pieces_eq (enters : disk.EntersAt path parent name) :
    ∃ front, PathText.pieces path = front ++ [name] := by
  obtain ⟨front, -, pieces, -⟩ := enters.way
  exact ⟨front, pieces⟩

theorem Grows.entersAt (grows : Grows before after) (enters : before.EntersAt path parent name) :
    after.EntersAt path parent name := by
  obtain ⟨valid, proper, front, left, pieces, through⟩ := enters
  have start : after.startOf path = before.startOf path := by
    unfold startOf
    rw [grows.cwd]
  exact ⟨valid, proper, front, left, pieces, start ▸ grows.through through⟩

/-- Where a walk ends that is not to follow what stands there. -/
theorem walk_last (proper : Proper name) (found : disk.get? (here ++ [name]) = some node)
    (kept : follow = true → ∀ target, node ≠ .link target) :
    disk.walk follow links here [name] = .ok (here ++ [name]) := by
  rw [walk, if_neg proper.further, if_neg proper.down, if_neg proper.fits, found]
  cases node with
  | file id bytes executable => rfl
  | dir => rw [walk]
  | link target =>
    cases follow with
    | true => exact absurd rfl (kept rfl target)
    | false => rfl

theorem EntersAt.traced (enters : disk.EntersAt path parent name) (bare : hasSlash path = false)
    (found : disk.get? (parent ++ [name]) = some node)
    (kept : follow = true → ∀ target, node ≠ .link target) :
    disk.traced follow path = .ok (parent ++ [name]) := by
  obtain ⟨valid, proper, front, left, pieces, through⟩ := enters
  rw [Disk.traced, bare, pieces]
  simp only [Bool.false_eq_true, if_false, List.append_nil]
  rw [through.walk_append (.inl (List.cons_ne_nil _ _)), walk_last proper found kept]

theorem EntersAt.lookup (enters : disk.EntersAt path parent name) (bare : hasSlash path = false)
    (found : disk.get? (parent ++ [name]) = some node)
    (kept : follow = true → ∀ target, node ≠ .link target) :
    disk.lookup follow path = .ok (parent ++ [name], node) := by
  simp only [Disk.lookup, locate, enters.valid, enters.traced bare found kept, bind, Except.bind, found]

/-- A path also leads to where nothing stands yet. -/
theorem EntersAt.locate_free (enters : disk.EntersAt path parent name) (bare : hasSlash path = false)
    (free : disk.get? (parent ++ [name]) = none) : disk.locate follow path = .ok (parent ++ [name]) := by
  obtain ⟨valid, proper, front, left, pieces, through⟩ := enters
  have ends : disk.walk follow left parent [name] = .ok (parent ++ [name]) := by
    rw [walk, if_neg proper.further, if_neg proper.down, if_neg proper.fits, free]
    rfl
  refine locate_eq_ok_iff.mpr ⟨valid, ?_⟩
  rw [bare, pieces, if_neg Bool.false_ne_true, List.append_nil,
    through.walk_append (.inl (List.cons_ne_nil _ _)), ends]

theorem EntersAt.lookup_free (enters : disk.EntersAt path parent name) (bare : hasSlash path = false)
    (free : disk.get? (parent ++ [name]) = none) : disk.lookup follow path = .error .notFound := by
  simp only [Disk.lookup, enters.locate_free bare free, bind, Except.bind, free]

/-- A path that ends in a name can be opened for writing where it leads to a file, or to nothing yet. -/
theorem EntersAt.openForWriting {at_ : Location} {file : Option (Nat × Bytes × Bool)}
    (enters : disk.EntersAt path parent name) (bare : hasSlash path = false)
    (located : disk.locate true path = .ok at_)
    (stands : disk.get? at_ = file.map fun (id, bytes, executable) => .file id bytes executable) :
    disk.openForWriting path = .ok (at_, file) := by
  simp only [Disk.openForWriting, locateEntry_eq_ok_iff.mpr enters, bind, Except.bind, bare, located, stands,
    Option.isNone_some, Bool.or_false, Bool.false_eq_true, if_false]
  rcases file with _ | ⟨id, bytes, executable⟩ <;> rfl

/-- The absolute path of what stands there, if that is no link. -/
theorem EntersAt.canonical (enters : disk.EntersAt path parent name) (bare : hasSlash path = false)
    (found : disk.get? (parent ++ [name]) = some node) (plain : ∀ target, node ≠ .link target) :
    disk.canonical path = .ok (pathOf (parent ++ [name])) := by
  have valid := enters.valid
  unfold checkPath at valid
  split at valid
  · cases valid
  · rename_i whole
    split at valid
    · cases valid
    · rename_i nonempty
      have leads : disk.traced true path = .ok (parent ++ [name]) :=
        enters.traced bare found fun _ => plain
      simp only [Disk.canonical, if_neg whole, if_neg nonempty, leads, found, bind, Except.bind]
      rfl

end Provision.Disk
