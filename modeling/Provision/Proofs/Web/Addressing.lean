import Provision.Mirror
import Provision.Proofs.Text.Naming

/-! Addresses are joined at a single slash, however many the two parts have there. What a download fetches
names its scheme if only the mirror does, and it is then its own address. -/

namespace Provision.Mirror

open Text

section Seams

variable {base path front back word : List Char} {c : Char}

theorem exists_bare_back (path : List Char) :
    ∃ leading back, path = List.replicate leading '/' ++ back ∧ back.head? ≠ some '/' := by
  refine ⟨(path.takeWhile (· == '/')).length, path.dropWhile (· == '/'), ?_, fun slash => ?_⟩
  · have only : path.takeWhile (· == '/') = List.replicate (path.takeWhile (· == '/')).length '/' :=
      List.eq_replicate_of_mem fun c member => by simpa using List.mem_takeWhile_imp member
    rw [← only, List.takeWhile_append_dropWhile]
  · exact absurd (FileName.head_dropWhile slash) (by decide)

theorem exists_bare_front (base : List Char) :
    ∃ front trailing, base = front ++ List.replicate trailing '/' ∧ front.getLast? ≠ some '/' := by
  obtain ⟨trailing, back, whole, first⟩ := exists_bare_back base.reverse
  refine ⟨back.reverse, trailing, ?_, by rwa [List.getLast?_reverse]⟩
  rw [← List.reverse_reverse base, whole, List.reverse_append, List.reverse_replicate]

theorem joinChars_slashes (base path : List Char) (more further : Nat) :
    joinChars (base ++ List.replicate more '/') (List.replicate further '/' ++ path) =
      joinChars base path := by
  have slash : ∀ {count : Nat}, ∀ c ∈ List.replicate count '/', (c == '/') = true := by
    intro count c member
    rw [List.eq_of_mem_replicate member]
    rfl
  rw [joinChars, trimEnd, List.reverse_append, List.reverse_replicate, List.dropWhile_append_of_pos slash,
    List.dropWhile_append_of_pos slash]
  rfl

theorem joinChars_bare (last : front.getLast? ≠ some '/') (first : back.head? ≠ some '/') :
    joinChars front back = front ++ '/' :: back := by
  have other : ∀ c : Char, some c ≠ some '/' → (c == '/') = false := by simp
  rw [joinChars, trimEnd_eq_self fun c ends => other c (ends ▸ last),
    dropWhile_eq_self fun c begins => other c (begins ▸ first)]

/-- A scheme has two slashes in a row, which the seam does not give. -/
theorem prefix_joined_iff (single : '/' ∉ word) (last : front.getLast? ≠ some '/')
    (first : back.head? ≠ some '/') :
    word ++ ['/', '/'] <+: front ++ '/' :: back ↔ word ++ ['/', '/'] <+: front := by
  refine ⟨?_, fun starts => starts.trans (List.prefix_append _ _)⟩
  rintro ⟨rest, whole⟩
  rw [List.append_assoc] at whole
  rcases List.append_eq_append_iff.mp whole with ⟨more, rfl, seam⟩ | ⟨more, rfl, seam⟩
  · -- The word is within the front, and `more` is what the front has behind it.
    cases more with
    | nil =>
      obtain ⟨-, rfl⟩ := List.cons_eq_cons.mp seam
      exact absurd rfl first
    | cons c more =>
      obtain ⟨rfl, beyond⟩ := List.cons_eq_cons.mp seam
      cases more with
      | nil => exact absurd List.getLast?_concat last
      | cons c more =>
        obtain ⟨rfl, -⟩ := List.cons_eq_cons.mp beyond
        exact ⟨more, by simp⟩
  · cases more with
    | nil =>
      obtain ⟨-, rfl⟩ := List.cons_eq_cons.mp seam
      exact absurd rfl first
    | cons c more =>
      obtain ⟨rfl, -⟩ := List.cons_eq_cons.mp seam
      exact absurd (List.mem_append_right front List.mem_cons_self) single

/-- What goes on behind a scheme, and not with a slash, keeps the scheme when its last slashes go. -/
theorem prefix_front {scheme rest : List Char} {trailing : Nat} (other : c ≠ '/')
    (whole : scheme ++ c :: rest = front ++ List.replicate trailing '/') : scheme <+: front := by
  rcases List.append_eq_append_iff.mp whole with ⟨more, rfl, -⟩ | ⟨more, rfl, seam⟩
  · exact List.prefix_append _ _
  · have slash : c ∈ List.replicate trailing '/' := by simp [seam]
    exact absurd (List.eq_of_mem_replicate slash) other

end Seams

/-- Nothing but slashes. -/
def slashes (count : Nat) : String := String.ofList (List.replicate count '/')

/-- What addresses begin with that files are fetched from. -/
def fetchSchemes : List String := ["http://", "https://", "ftp://"]

/-- An address that names its scheme. -/
def Complete (address : String) : Prop := ∃ scheme ∈ fetchSchemes, ∃ rest, address = scheme ++ rest

section Addresses

variable {front base path address : String} {trailing : Nat}

theorem prefix_iff {scheme : String} :
    scheme.toList <+: address.toList ↔ ∃ rest, address = scheme ++ rest := by
  constructor
  · rintro ⟨rest, whole⟩
    refine ⟨String.ofList rest, ?_⟩
    rw [← String.toList_inj, String.toList_append, String.toList_ofList, whole]
  · rintro ⟨rest, rfl⟩
    rw [String.toList_append]
    exact List.prefix_append _ _

theorem complete_iff :
    Complete address ↔ ∃ scheme ∈ fetchSchemes, scheme.toList <+: address.toList := by
  simp only [Complete, prefix_iff]

theorem isAbsolute_iff : isAbsolute address = true ↔ Complete address := by
  have spelled : schemes = fetchSchemes.map String.toList := rfl
  rw [isAbsolute, spelled, List.any_map, List.any_eq_true, complete_iff]
  simp only [Function.comp_apply, List.isPrefixOf_iff_prefix]

theorem exists_word {scheme : String} (known : scheme ∈ fetchSchemes) :
    ∃ word, '/' ∉ word ∧ scheme.toList = word ++ ['/', '/'] := by
  simp only [fetchSchemes, List.mem_cons, List.not_mem_nil, or_false] at known
  rcases known with rfl | rfl | rfl
  · exact ⟨"http:".toList, by decide, rfl⟩
  · exact ⟨"https:".toList, by decide, rfl⟩
  · exact ⟨"ftp:".toList, by decide, rfl⟩

theorem join_slashes (base path : String) (more further : Nat) :
    join (base ++ slashes more) (slashes further ++ path) = join base path := by
  simp only [join, slashes, String.toList_append, String.toList_ofList, joinChars_slashes]

theorem join_bare {back : String} (last : front.toList.getLast? ≠ some '/')
    (first : back.toList.head? ≠ some '/') : join front back = front ++ "/" ++ back := by
  rw [join, joinChars_bare last first, ← String.toList_inj]
  simp

theorem exists_bare (base path : String) :
    ∃ front back trailing leading, base = front ++ slashes trailing ∧ path = slashes leading ++ back ∧
      front.toList.getLast? ≠ some '/' ∧ back.toList.head? ≠ some '/' := by
  obtain ⟨front, trailing, spelled, last⟩ := exists_bare_front base.toList
  obtain ⟨leading, back, written, first⟩ := exists_bare_back path.toList
  refine ⟨String.ofList front, String.ofList back, trailing, leading, ?_, ?_, ?_, ?_⟩
  · rw [slashes, ← String.ofList_append, ← spelled, String.ofList_toList]
  · rw [slashes, ← String.ofList_append, ← written, String.ofList_toList]
  · rwa [String.toList_ofList]
  · rwa [String.toList_ofList]

/-- An address is complete if and only if the base is so without its last slashes. -/
theorem complete_join_iff (last : front.toList.getLast? ≠ some '/') (path : String) :
    Complete (join (front ++ slashes trailing) path) ↔ Complete front := by
  obtain ⟨-, back, -, leading, -, rfl, -, first⟩ := exists_bare "" path
  rw [join_slashes, join_bare last first, complete_iff, complete_iff]
  refine exists_congr fun scheme => and_congr_right fun known => ?_
  obtain ⟨word, single, spelled⟩ := exists_word known
  rw [spelled, ← prefix_joined_iff single last first]
  simp

-- With nothing else behind the scheme, its own slashes go too.
example : ({ software := "http:///" } : Mirror).downloadUrl "a" = "http:/a" := by decide +kernel

/-- A base that goes on behind its scheme, and not with a slash. -/
def Hosted (base : String) : Prop :=
  ∃ scheme ∈ fetchSchemes, ∃ c rest, c ≠ '/' ∧ base = scheme ++ String.ofList (c :: rest)

theorem Hosted.complete_join (hosted : Hosted base) (path : String) : Complete (join base path) := by
  obtain ⟨scheme, known, c, rest, other, whole⟩ := hosted
  obtain ⟨front, -, trailing, -, rfl, -, last, -⟩ := exists_bare base ""
  have spelled := congrArg String.toList whole
  simp only [slashes, String.toList_append, String.toList_ofList] at spelled
  exact (complete_join_iff last path).mpr
    (complete_iff.mpr ⟨scheme, known, prefix_front other spelled.symm⟩)

theorem downloadUrl_of_complete (mirror : Mirror) (complete : Complete address) :
    mirror.downloadUrl address = address := by
  rw [downloadUrl, if_pos (isAbsolute_iff.mpr complete)]

theorem complete_downloadUrl {mirror : Mirror} (hosted : Hosted mirror.software) (parameter : String) :
    Complete (mirror.downloadUrl parameter) := by
  by_cases complete : Complete parameter
  · rwa [downloadUrl_of_complete mirror complete]
  · rw [downloadUrl, if_neg (mt isAbsolute_iff.mp complete)]
    exact hosted.complete_join parameter

/-- One slash stands at the seam, whatever slashes there were on both sides of it; and what a download fetches
is complete, is what was asked for only if that is complete, and is fetched from there itself. -/
theorem addresses_joined_once (mirror : Mirror) (base path parameter : String) :
    (∃ front back trailing leading, base = front ++ slashes trailing ∧ path = slashes leading ++ back ∧
      front.toList.getLast? ≠ some '/' ∧ back.toList.head? ≠ some '/' ∧
      join base path = front ++ "/" ++ back) ∧
    (∀ more further, join (base ++ slashes more) (slashes further ++ path) = join base path) ∧
    (Hosted mirror.software →
      Complete (mirror.downloadUrl parameter) ∧
      (mirror.downloadUrl parameter = parameter ↔ Complete parameter) ∧
      mirror.downloadUrl (mirror.downloadUrl parameter) = mirror.downloadUrl parameter) := by
  refine ⟨?_, join_slashes base path, fun hosted => ?_⟩
  · obtain ⟨front, back, trailing, leading, rfl, rfl, last, first⟩ := exists_bare base path
    exact ⟨front, back, trailing, leading, rfl, rfl, last, first, by rw [join_slashes, join_bare last first]⟩
  · have complete := complete_downloadUrl hosted parameter
    refine ⟨complete, ⟨fun same => ?_, downloadUrl_of_complete mirror⟩,
      downloadUrl_of_complete mirror complete⟩
    rwa [same] at complete

/-- A mirror with slashes behind it, and a path with slashes in front of it. -/
theorem addresses_joined_once_slashes :
    let mirror : Mirror := { software := "ftp://files///" }
    Hosted mirror.software ∧ mirror.downloadUrl "//tools//a.zip" = "ftp://files/tools//a.zip" ∧
      mirror.downloadUrl "ftp://files/tools//a.zip" = "ftp://files/tools//a.zip" := by
  intro mirror
  have hosted : Hosted mirror.software :=
    ⟨"ftp://", by simp [fetchSchemes], 'f', "iles///".toList, by decide, by decide⟩
  have fetched : mirror.downloadUrl "//tools//a.zip" = "ftp://files/tools//a.zip" := by decide +kernel
  obtain ⟨-, -, downloads⟩ := addresses_joined_once mirror "" "" "//tools//a.zip"
  obtain ⟨-, -, again⟩ := downloads hosted
  rw [fetched] at again
  exact ⟨hosted, fetched, again⟩

end Addresses

end Provision.Mirror
