import Provision.Proofs.Disk.Shelter

/-! Unpacking keeps to the directory that it unpacks into. A name counts as enclosed exactly if, read
as a text, it never climbs above its start, and such names cannot lead out of a directory without links,
whatever earlier entries have put there. -/

namespace Provision.Archive

open Disk Working

variable {disk before after : Disk} {place at_ : Location} {name archive target : String}
  {data : ByteArray} {entry : Entry} {entries front rest : List Entry}

/-- A name that can be put at or below any place. -/
structure Enclosed (name : String) : Prop where
  whole : '\x00' ∉ name.toList
  relative : PathText.isAbsolute name = false
  inside : (lexical [] (PathText.pieces name)).isSome = true

/-- Depths are counted along the names that lead down. -/
theorem depthFrom_eq (below : Location) (pieces : List String) :
    depthFrom below.length (pieces.filterMap fun piece => if piece == "." then none
      else if piece == ".." then some .up else some (.name piece)) =
        (lexical below pieces).map List.length := by
  induction pieces generalizing below with
  | nil => rfl
  | cons piece pieces ih =>
    rw [List.filterMap_cons, lexical]
    by_cases further : (piece == ".") = true
    · simp only [if_pos further]
      exact ih below
    by_cases down : (piece == "..") = true
    · simp only [if_neg further, if_pos down]
      rcases List.eq_nil_or_concat' below with rfl | ⟨above, last, rfl⟩
      · rfl
      · have deeper : (above ++ [last]).length = above.length + 1 := by simp
        rw [deeper, depthFrom, ih above, if_neg (by simp), List.dropLast_concat]
    · simp only [if_neg further, if_neg down]
      have deeper : below.length + 1 = (below ++ [piece]).length := by simp
      rw [depthFrom, deeper, ih]

theorem isEnclosed_iff : isEnclosed name = true ↔ Enclosed name := by
  have counted := depthFrom_eq [] (PathText.pieces name)
  have depth : (depthFrom 0 (PathText.components name)).isSome =
      (!PathText.isAbsolute name && (lexical [] (PathText.pieces name)).isSome) := by
    unfold PathText.components
    split
    · rename_i absolute
      rw [absolute]
      rfl
    · rename_i relative
      have same := congrArg Option.isSome counted
      rw [Option.isSome_map] at same
      split <;> simpa [depthFrom, relative] using same
  rw [isEnclosed, depth]
  constructor
  · intro enclosed
    simp only [Bool.and_eq_true, Bool.not_eq_true', List.contains_eq_mem, decide_eq_false_iff_not]
      at enclosed
    exact ⟨enclosed.1, enclosed.2.1, enclosed.2.2⟩
  · rintro ⟨whole, relative, inside⟩
    simp [whole, relative, inside]

/-- Where the entries of a list may put something: wherever a front of an enclosed name leads below the
place. -/
def Unpacked (entries : List Entry) (place at_ : Location) : Prop :=
  ∃ entry ∈ entries, Enclosed entry.name ∧ ∃ front reached, front <+: PathText.pieces entry.name ∧
    lexical [] front = some reached ∧ at_ = place ++ reached

theorem Unpacked.inside (unpacked : Unpacked entries place at_) : place <+: at_ := by
  obtain ⟨entry, -, -, front, reached, -, -, rfl⟩ := unpacked
  exact List.prefix_append place reached

theorem allowed_of_mem (member : entry ∈ entries) (enclosed : Enclosed entry.name) :
    Allowed (Unpacked entries place) place (PathText.pieces entry.name) :=
  ⟨enclosed.inside, fun front reached prefixed read =>
    ⟨entry, member, enclosed, front, reached, prefixed, read, rfl⟩⟩

theorem goesOn_join (nonempty : target ≠ "") (enclosed : Enclosed name) :
    GoesOn target (PathText.pieces name) (PathText.join target name) :=
  have joined := PathText.pieces_join nonempty enclosed.relative
  ⟨joined.2, joined.1⟩

theorem confines_extractEntry (nonempty : target ≠ "") (member : entry ∈ entries) :
    Keeps (Confines target place (Unpacked entries place)) (extractEntry data target entry) := by
  refine keeps_extractEntry (fun enclosed path along => ?_) fun enclosed => ?_
  · have enclosed := isEnclosed_iff.mp enclosed
    have goesOn := goesOn_join nonempty enclosed
    have whole : Descends target (PathText.pieces entry.name) (PathText.join target entry.name) :=
      .inr ⟨goesOn.start, goesOn.spelled ▸ List.prefix_rfl⟩
    have descends : Descends target (PathText.pieces entry.name) path := by
      rcases along with rfl | above
      · exact whole
      · exact whole.parent above
    exact keeps_makeDirs fun _ => confines_mkdirs (allowed_of_mem member enclosed) descends _
  · have enclosed := isEnclosed_iff.mp enclosed
    have allowed : Allowed (Unpacked entries place) place (PathText.pieces entry.name) :=
      allowed_of_mem member enclosed
    have goesOn := goesOn_join nonempty enclosed
    exact keeps_writeFile (fun _ => confines_write allowed goesOn) fun _ =>
      confines_setExecutable allowed goesOn

theorem confines_extractAll (nonempty : target ≠ "") :
    Keeps (Confines target place (Unpacked entries place)) (extractAll data target entries) :=
  keeps_extractAll fun _ member => confines_extractEntry nonempty member

/-- The entries that an archive file lists; none if it cannot be read. -/
def listed (archive : String) (disk : Disk) : List Entry :=
  match readArchive archive disk with
  | .ok data => (Zip.entries? data).getD []
  | .error _ => []

/-- An archive that cannot be read changes nothing, and any other has its entries unpacked in turn. -/
theorem extract_cases (archive target : String) (disk : Disk) :
    (∃ causes, extract archive target disk = (.error causes, disk) ∧ listed archive disk = []) ∨
      ∃ data, readArchive archive disk = .ok data ∧
        extract archive target disk = extractAll data target (listed archive disk) disk := by
  unfold listed
  rcases read : readArchive archive disk with error | data
  · left
    refine ⟨["cannot open " ++ archive, error.message], ?_, rfl⟩
    refine bind_error _ ?_
    rw [inquire_eq, read]
    rfl
  · have opens : Disk.inquire ("cannot open " ++ archive) (readArchive archive) disk = (.ok data, disk) := by
      rw [inquire_eq, read]
      rfl
    rw [extract, bind_ok _ opens]
    dsimp only
    cases Zip.entries? data with
    | none => exact .inl ⟨_, rfl, rfl⟩
    | some entries => exact .inr ⟨data, rfl, rfl⟩

/-- An entry whose name is refused, or that cannot be opened, ends the work before it changes
anything. -/
theorem extractEntry_refused (refused : ¬ Enclosed entry.name) (data : ByteArray) (target : String)
    (disk : Disk) : ∃ causes, extractEntry data target entry disk = (.error causes, disk) ∧
      ((Zip.contents? data entry).isSome = true →
        causes = ["zip entry escapes destination: " ++ entry.name]) := by
  have outside : isEnclosed entry.name = false := by
    rw [← Bool.not_eq_true, isEnclosed_iff]
    exact refused
  unfold extractEntry
  cases Zip.contents? data entry with
  | none => exact ⟨_, rfl, fun opens => by cases opens⟩
  | some contents =>
    rw [outside]
    exact ⟨_, rfl, fun _ => rfl⟩

/-- Induction on the entries in front of it. -/
theorem extractAll_refused (refused : ¬ Enclosed entry.name) (data : ByteArray) (target : String)
    (front rest : List Entry) (disk : Disk) :
    ∃ causes, extractAll data target (front ++ entry :: rest) disk =
        (.error causes, (extractAll data target front disk).2) ∧
      ((extractAll data target front disk).1.isOk = true → (Zip.contents? data entry).isSome = true →
        causes = ["zip entry escapes destination: " ++ entry.name]) := by
  induction front generalizing disk with
  | nil =>
    obtain ⟨causes, failed, told⟩ := extractEntry_refused refused data target disk
    exact ⟨causes, bind_error _ failed, fun _ => told⟩
  | cons first front ih =>
    rw [List.cons_append]
    rcases ran : extractEntry data target first disk with ⟨causes | count, middle⟩
    · have stops : ∀ others, extractAll data target (first :: others) disk = (.error causes, middle) :=
        fun others => bind_error _ ran
      rw [stops, stops]
      exact ⟨causes, rfl, fun went => by cases went⟩
    · have goes : ∀ others, extractAll data target (first :: others) disk =
          (extractAll data target others >>= fun more => pure (count + more)) middle :=
        fun others => bind_ok _ ran
      obtain ⟨causes, failed, told⟩ := ih middle
      rw [goes, goes, bind_error _ failed]
      rcases before : extractAll data target front middle with ⟨others | more, after⟩
      · rw [bind_error _ before]
        exact ⟨causes, rfl, fun went => by cases went⟩
      · rw [bind_ok _ before]
        rw [before] at told
        exact ⟨causes, rfl, fun _ => told rfl⟩

/-- Unpacking changes nothing outside of the place, nor anything inside that no enclosed name leads to. At
the first name that is refused it ends, with only the entries before it unpacked. -/
structure Confined (archive target : String) (place : Location) (disk : Disk) : Prop where
  below : ChangedWithin (place <+: ·) disk (extract archive target disk).2
  named : ChangedWithin (Unpacked (listed archive disk) place) disk (extract archive target disk).2
  refused : ∀ front entry rest, listed archive disk = front ++ entry :: rest →
    ¬ Enclosed entry.name → ∃ data causes, readArchive archive disk = .ok data ∧
      extract archive target disk = (.error causes, (extractAll data target front disk).2) ∧
      ChangedWithin (Unpacked front place) disk (extractAll data target front disk).2 ∧
      ((extractAll data target front disk).1.isOk = true → (Zip.contents? data entry).isSome = true →
        causes = ["zip entry escapes destination: " ++ entry.name])

section Unpacking

variable (found : disk.lookup true target = .ok (place, .dir))
  (unlinked : ∀ at_, place <+: at_ → ∀ link, disk.get? at_ ≠ some (.link link))
include found unlinked

theorem changedWithin_extractAll (data : ByteArray) (entries : List Entry) :
    ChangedWithin (Unpacked entries place) disk (extractAll data target entries disk).2 := by
  have sheltered := sheltered_of_lookup found unlinked
  exact (confines_extractAll sheltered.nonempty disk sheltered).2

theorem changedWithin_extract (archive : String) :
    ChangedWithin (Unpacked (listed archive disk) place) disk (extract archive target disk).2 := by
  rcases extract_cases archive target disk with ⟨causes, failed, -⟩ | ⟨data, -, unpacked⟩
  · rw [failed]
    exact refl disk
  · rw [unpacked]
    exact changedWithin_extractAll found unlinked data _

/-- Whatever the archive. -/
theorem confined_extract (archive : String) : Confined archive target place disk where
  below := (changedWithin_extract found unlinked archive).mono fun _ => Unpacked.inside
  named := changedWithin_extract found unlinked archive
  refused := by
    intro front entry rest lists refused
    rcases extract_cases archive target disk with ⟨_, _, none⟩ | ⟨data, read, unpacked⟩
    · rw [none] at lists
      simp at lists
    · obtain ⟨causes, failed, told⟩ := extractAll_refused refused data target front rest disk
      rw [lists] at unpacked
      exact ⟨data, causes, read, unpacked.trans failed,
        changedWithin_extractAll found unlinked data front, told⟩

end Unpacking

end Provision.Archive
