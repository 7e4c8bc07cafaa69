import Mathlib.Data.List.TakeWhile
import Provision.Placeholder

/-! Where the placeholders of a text are. The scan finds them from left to right and goes on behind
each; because no word of the grammar has a brace in it, placeholders never overlap, and the scan
misses none. -/

namespace Provision.Placeholder

/-- The words that make a placeholder between double braces. -/
def Grammar (supported : List Constant) (word : List Char) : Prop :=
  (word ≠ [] ∧ ∀ c ∈ word, c.isDigit) ∨ word = "STD_OUT".toList ∨ word = "STD_ERR".toList ∨
    ∃ constant ∈ supported, word = constant.keyword.toList

/-- A word between double braces. -/
def marked (word : List Char) : List Char := '\x7b' :: '\x7b' :: (word ++ ['\x7d', '\x7d'])

structure Occurrence where
  start : Nat
  word : List Char

def Occurrence.stop (occurrence : Occurrence) : Nat :=
  occurrence.start + (marked occurrence.word).length

def Occurrence.shift (distance : Nat) (occurrence : Occurrence) : Occurrence :=
  { occurrence with start := distance + occurrence.start }

/-- The placeholder stands in the text. -/
def Occurs (supported : List Constant) (text : List Char) (occurrence : Occurrence) : Prop :=
  Grammar supported occurrence.word ∧ marked occurrence.word <+: text.drop occurrence.start

variable {supported : List Constant} {word text : List Char} {occurrence : Occurrence}

theorem ofList_eq_iff {name : String} : String.ofList word = name ↔ word = name.toList := by
  rw [← String.ofList_toList (s := name), String.ofList_inj, String.toList_ofList]

theorem admits_iff : admits supported word = true ↔ Grammar supported word := by
  have named (constant : Constant) :
      constant.keyword = String.ofList word ↔ word = constant.keyword.toList :=
    eq_comm.trans ofList_eq_iff
  simp [admits, Grammar, stdOut, stdErr, ofList_eq_iff, named]

theorem keyword_plain (constant : Constant) :
    ∀ c ∈ constant.keyword.toList, c ≠ '\x7b' ∧ c ≠ '\x7d' := by
  cases constant <;> simp [Constant.keyword]

theorem Grammar.plain (known : Grammar supported word) :
    ∀ c ∈ word, c ≠ '\x7b' ∧ c ≠ '\x7d' := by
  rcases known with ⟨-, digits⟩ | rfl | rfl | ⟨constant, -, rfl⟩
  · intro c member
    have digit := digits c member
    constructor
    · rintro rfl
      exact absurd digit (by decide)
    · rintro rfl
      exact absurd digit (by decide)
  · simp
  · simp
  · exact keyword_plain constant

/-- A word is closed by the first closing brace behind it, when a second one follows. -/
theorem closed?_eq_some {rest : List Char} :
    closed? text = some (word, rest) ↔
      text = word ++ '\x7d' :: '\x7d' :: rest ∧ ∀ c ∈ word, c ≠ '\x7d' := by
  constructor
  · intro found
    unfold closed? at found
    split at found
    · rename_i after closes
      cases found
      constructor
      · rw [← closes, List.takeWhile_append_dropWhile]
      · intro c member
        simpa using List.mem_takeWhile_imp member
    · cases found
  · rintro ⟨rfl, open_⟩
    have kept : ∀ c ∈ word, (c != '\x7d') = true := by simpa using open_
    simp [closed?, List.takeWhile_append_of_pos kept, List.dropWhile_append_of_pos kept]

theorem split_nil : split supported [] = [] := by
  rw [split]

/-- A placeholder is taken as a whole. -/
theorem split_marked (known : Grammar supported word) (rest : List Char) :
    split supported (marked word ++ rest) = .word word :: split supported rest := by
  have closes : closed? (word ++ '\x7d' :: '\x7d' :: rest) = some (word, rest) :=
    closed?_eq_some.mpr ⟨rfl, fun c member => (known.plain c member).2⟩
  have shape : marked word ++ rest =
      '\x7b' :: '\x7b' :: (word ++ '\x7d' :: '\x7d' :: rest) := by simp [marked]
  rw [shape, split]
  split
  · rename_i other after found
    rw [closes] at found
    cases found
    rw [if_pos (admits_iff.mpr known)]
  · rename_i found
    rw [closes] at found
    cases found

/-- Where no placeholder starts, one character is kept. -/
theorem split_text {c : Char} {rest : List Char}
    (none : ∀ word, Grammar supported word → ¬ marked word <+: c :: rest) :
    split supported (c :: rest) = .text c :: split supported rest := by
  rw [split.eq_def]
  split
  · contradiction
  · rename_i inner same
    cases same
    split
    · rename_i word after found
      obtain ⟨rfl, -⟩ := closed?_eq_some.mp found
      have unknown : admits supported word ≠ true := by
        intro known
        refine none word (admits_iff.mp known) ⟨after, ?_⟩
        simp [marked]
      rw [if_neg unknown]
    · rfl
  · rename_i same
    cases same
    rfl

/-- A text is empty, goes on with a placeholder, or starts with a character at which no placeholder
starts. -/
@[elab_as_elim]
theorem scan_induction (supported : List Constant) {motive : List Char → Prop} (nil : motive [])
    (placeholder : ∀ word rest, Grammar supported word → motive rest → motive (marked word ++ rest))
    (plain : ∀ c rest, (∀ word, Grammar supported word → ¬ marked word <+: c :: rest) →
      motive rest → motive (c :: rest)) (text : List Char) : motive text := by
  induction size : text.length using Nat.strong_induction_on generalizing text with
  | _ size ih =>
    by_cases starts : ∃ word, Grammar supported word ∧ marked word <+: text
    · obtain ⟨word, known, rest, rfl⟩ := starts
      refine placeholder word rest known (ih rest.length ?_ rest rfl)
      simp [marked] at size
      omega
    · cases text with
      | nil => exact nil
      | cons c rest =>
        refine plain c rest ?_ (ih rest.length ?_ rest rfl)
        · intro word known front
          exact starts ⟨word, known, front⟩
        · simp at size
          omega

/-- The occurrences in a text that has been cut, from left to right. -/
def locate : List Piece → List Occurrence
  | [] => []
  | .text _ :: rest => (locate rest).map (Occurrence.shift 1)
  | .word word :: rest => ⟨0, word⟩ :: (locate rest).map (Occurrence.shift (marked word).length)

theorem occurs_append (front rest : List Char) :
    Occurs supported (front ++ rest) (occurrence.shift front.length) ↔
      Occurs supported rest occurrence := by
  simp only [Occurs, Occurrence.shift, List.drop_length_add_append]

theorem shift_sub {distance : Nat} (behind : distance ≤ occurrence.start) :
    occurrence = Occurrence.shift distance ⟨occurrence.start - distance, occurrence.word⟩ := by
  simp only [Occurrence.shift, Nat.add_sub_cancel' behind]

theorem Occurs.braces (occurs : Occurs supported text occurrence) :
    text[occurrence.start]? = some '\x7b' ∧ text[occurrence.start + 1]? = some '\x7b' := by
  obtain ⟨-, rest, same⟩ := occurs
  constructor
  · rw [← Nat.add_zero occurrence.start, ← List.getElem?_drop, ← same]
    rfl
  · rw [← List.getElem?_drop, ← same]
    rfl

/-- Behind its opening braces a placeholder has none. -/
theorem marked_inside (known : Grammar supported word) (rest : List Char) {position : Nat}
    (behind : 2 ≤ position) (within : position < (marked word).length) :
    (marked word ++ rest)[position]? ≠ some '\x7b' := by
  intro opens
  obtain ⟨later, rfl⟩ := Nat.exists_eq_add_of_le' behind
  rw [List.getElem?_append_left within] at opens
  have member : '\x7b' ∈ word ++ ['\x7d', '\x7d'] := List.mem_of_getElem? opens
  rcases List.mem_append.mp member with inside | closing
  · exact (known.plain _ inside).1 rfl
  · simp at closing

/-- In front of the rest of a text, a placeholder takes part in no other. -/
theorem occurs_marked (known : Grammar supported word) (rest : List Char) :
    Occurs supported (marked word ++ rest) occurrence ↔
      occurrence = ⟨0, word⟩ ∨
        ∃ later, Occurs supported rest later ∧ occurrence = later.shift (marked word).length := by
  constructor
  · intro occurs
    by_cases later : (marked word).length ≤ occurrence.start
    · right
      refine ⟨⟨occurrence.start - (marked word).length, occurrence.word⟩, ?_, shift_sub later⟩
      rw [shift_sub later] at occurs
      exact (occurs_append _ _).mp occurs
    · left
      obtain ⟨first, second⟩ := occurs.braces
      have long : 4 ≤ (marked word).length := by simp [marked]
      rcases occurrence with ⟨_ | _ | start, other⟩
      · obtain ⟨well, after, same⟩ := occurs
        have closes : closed? (word ++ '\x7d' :: '\x7d' :: rest) = some (word, rest) :=
          closed?_eq_some.mpr ⟨rfl, fun c member => (known.plain c member).2⟩
        have closesToo : closed? (word ++ '\x7d' :: '\x7d' :: rest) = some (other, after) := by
          refine closed?_eq_some.mpr ⟨?_, fun c member => (well.plain c member).2⟩
          simpa [marked] using same.symm
        rw [closes] at closesToo
        cases closesToo
        rfl
      · exact absurd second (marked_inside known rest (by simp) (by simp; omega))
      · exact absurd first (marked_inside known rest (by simp) (by simpa using later))
  · rintro (rfl | ⟨later, occurs, rfl⟩)
    · exact ⟨known, rest, rfl⟩
    · exact (occurs_append _ _).mpr occurs

theorem occurs_plain {c : Char} {rest : List Char}
    (none : ∀ word, Grammar supported word → ¬ marked word <+: c :: rest) :
    Occurs supported (c :: rest) occurrence ↔
      ∃ later, Occurs supported rest later ∧ occurrence = later.shift 1 := by
  constructor
  · intro occurs
    have later : 1 ≤ occurrence.start := by
      by_contra first
      have front : occurrence.start = 0 := by omega
      obtain ⟨known, starts⟩ := occurs
      rw [front] at starts
      exact none _ known starts
    refine ⟨⟨occurrence.start - 1, occurrence.word⟩, ?_, shift_sub later⟩
    rw [shift_sub later] at occurs
    exact (occurs_append [c] rest).mp occurs
  · rintro ⟨later, occurs, rfl⟩
    exact (occurs_append [c] rest).mpr occurs

/-- The scan finds every occurrence and nothing else. -/
theorem mem_locate (supported : List Constant) (text : List Char) :
    occurrence ∈ locate (split supported text) ↔ Occurs supported text occurrence := by
  induction text using scan_induction supported generalizing occurrence with
  | nil =>
    have absent : ¬ Occurs supported [] occurrence := by
      intro occurs
      simpa using occurs.braces.1
    simpa [split_nil, locate] using absent
  | placeholder word rest known ih =>
    rw [split_marked known, occurs_marked known]
    simp only [locate, List.mem_cons, List.mem_map, ih, eq_comm]
  | plain c rest none ih =>
    rw [split_text none, occurs_plain none]
    simp only [locate, List.mem_map, ih, eq_comm]

theorem le_start {distance : Nat} {occurrences : List Occurrence}
    (member : occurrence ∈ occurrences.map (Occurrence.shift distance)) :
    distance ≤ occurrence.start := by
  obtain ⟨later, -, rfl⟩ := List.mem_map.mp member
  exact Nat.le_add_right _ _

/-- No occurrence starts before the one in front of it has stopped. -/
theorem locate_pairwise (pieces : List Piece) :
    (locate pieces).Pairwise fun first second => first.stop ≤ second.start := by
  have shifted : ∀ (distance : Nat) {occurrences : List Occurrence},
      (occurrences.Pairwise fun first second => first.stop ≤ second.start) →
      (occurrences.map (Occurrence.shift distance)).Pairwise fun first second =>
        first.stop ≤ second.start := by
    intro distance occurrences ordered
    refine List.pairwise_map.mpr (ordered.imp ?_)
    intro first second apart
    simp only [Occurrence.stop, Occurrence.shift] at apart ⊢
    omega
  induction pieces with
  | nil => exact .nil
  | cons piece rest ih =>
    cases piece with
    | text c => exact shifted 1 ih
    | word word =>
      refine List.pairwise_cons.mpr ⟨?_, shifted _ ih⟩
      intro later member
      simpa [Occurrence.stop] using le_start member

end Provision.Placeholder
