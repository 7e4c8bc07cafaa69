import Mathlib.Data.List.Forall2
import Mathlib.Data.List.Induction
import Mathlib.Data.Nat.Digits.Defs
import Provision.Proofs.Placeholder.Occurrence

/-! Resolving a text replaces all its placeholders at once. What is put in their place is kept as it
is, and the leftmost placeholder without a value decides the error. -/

namespace Provision.Placeholder

variable {constants : Constants} {stack : Stack}

/-- What is behind the position in the text, with the value of each occurrence in its place. -/
def splice (text : List Char) : Nat → List (Occurrence × String) → List Char
  | position, [] => text.drop position
  | position, (occurrence, value) :: rest =>
    (text.take occurrence.start).drop position ++ value.toList ++ splice text occurrence.stop rest

/-- The text that was cut into the pieces. -/
def Piece.source : Piece → List Char
  | .text c => [c]
  | .word found => marked found

theorem flatMap_split (supported : List Constant) (text : List Char) :
    (split supported text).flatMap Piece.source = text := by
  induction text using scan_induction supported with
  | nil => simp [split_nil]
  | placeholder word rest known ih => simp [split_marked known, Piece.source, ih]
  | plain c rest none ih => simp [split_text none, Piece.source, ih]

/-- The same edits with more text in front. -/
def shiftEdits (distance : Nat) : List (Occurrence × String) → List (Occurrence × String) :=
  List.map (Prod.map (Occurrence.shift distance) id)

theorem stop_shift (distance : Nat) (occurrence : Occurrence) :
    (occurrence.shift distance).stop = distance + occurrence.stop := by
  simp [Occurrence.stop, Occurrence.shift, Nat.add_assoc]

theorem splice_behind (front text : List Char) (position : Nat)
    (edits : List (Occurrence × String)) :
    splice (front ++ text) (front.length + position) (shiftEdits front.length edits) =
      splice text position edits := by
  induction edits generalizing position with
  | nil => simp [shiftEdits, splice, List.drop_length_add_append]
  | cons edit rest ih =>
    have later := ih edit.1.stop
    simp only [shiftEdits, List.map_cons, splice] at later ⊢
    simp only [Prod.map_fst, stop_shift, later]
    simp [Occurrence.shift, List.take_length_add_append, List.drop_length_add_append]

/-- What stands in front of every occurrence is kept. -/
theorem splice_front (front text : List Char) (edits : List (Occurrence × String)) :
    splice (front ++ text) 0 (shiftEdits front.length edits) = front ++ splice text 0 edits := by
  cases edits with
  | nil => simp [shiftEdits, splice]
  | cons edit rest =>
    have later := splice_behind front text edit.1.stop rest
    simp only [shiftEdits, List.map_cons, splice] at later ⊢
    simp only [Prod.map_fst, stop_shift, later]
    simp [Occurrence.shift, List.take_length_add_append]

/-- The value of a placeholder at the very front stands in its place. -/
theorem splice_marked (word text : List Char) (value : String)
    (edits : List (Occurrence × String)) :
    splice (marked word ++ text) 0 ((⟨0, word⟩, value) :: shiftEdits (marked word).length edits) =
      value.toList ++ splice text 0 edits := by
  have later := splice_behind (marked word) text 0 edits
  simp only [splice, Occurrence.stop, Nat.zero_add, Nat.add_zero] at later ⊢
  simp [later]

/-- The values of the occurrences, from left to right. -/
def values (constants : Constants) (stack : Stack) (occurrences : List Occurrence) :
    Except Fault (List String) :=
  occurrences.mapM fun occurrence => lookup constants stack occurrence.word

theorem values_shift (distance : Nat) (occurrences : List Occurrence) :
    values constants stack (occurrences.map (Occurrence.shift distance)) =
      values constants stack occurrences := by
  simp only [values, List.mapM_map]
  rfl

theorem values_cons (occurrence : Occurrence) (rest : List Occurrence) :
    values constants stack (occurrence :: rest) =
      lookup constants stack occurrence.word >>= fun value =>
        (values constants stack rest).map (value :: ·) := by
  rw [values, List.mapM_cons]
  cases lookup constants stack occurrence.word with
  | error fault => rfl
  | ok value => rfl

theorem expand_cons (piece : Piece) (rest : List Piece) :
    ((piece :: rest).mapM (Piece.expand constants stack)).map List.flatten =
      piece.expand constants stack >>= fun first =>
        ((rest.mapM (Piece.expand constants stack)).map List.flatten).map (first ++ ·) := by
  rw [List.mapM_cons]
  cases piece.expand constants stack with
  | error fault => rfl
  | ok first => cases rest.mapM (Piece.expand constants stack) <;> rfl

/-- Induction on the pieces. -/
theorem expand_eq_splice (constants : Constants) (stack : Stack) (pieces : List Piece) :
    (pieces.mapM (Piece.expand constants stack)).map List.flatten =
      (values constants stack (locate pieces)).map fun found =>
        splice (pieces.flatMap Piece.source) 0 ((locate pieces).zip found) := by
  induction pieces with
  | nil => rfl
  | cons piece rest ih =>
    rw [expand_cons, ih]
    cases piece with
    | text c =>
      have front (found : List String) :
          splice ([c] ++ rest.flatMap Piece.source) 0
              (((locate rest).map (Occurrence.shift 1)).zip found) =
            [c] ++ splice (rest.flatMap Piece.source) 0 ((locate rest).zip found) := by
        rw [List.zip_map_left]
        exact splice_front [c] _ _
      simp only [locate, values_shift, List.flatMap_cons, Piece.source, front]
      cases values constants stack (locate rest) <;> rfl
    | word word =>
      have front (value : String) (found : List String) :
          splice (marked word ++ rest.flatMap Piece.source) 0
              ((⟨0, word⟩ :: (locate rest).map (Occurrence.shift (marked word).length)).zip
                (value :: found)) =
            value.toList ++ splice (rest.flatMap Piece.source) 0 ((locate rest).zip found) := by
        rw [List.zip_cons_cons, List.zip_map_left]
        exact splice_marked word _ value _
      simp only [locate, values_cons, values_shift, List.flatMap_cons, Piece.source, Piece.expand]
      cases lookup constants stack word with
      | error fault => rfl
      | ok value =>
        cases values constants stack (locate rest) with
        | error fault => rfl
        | ok found => exact congrArg Except.ok (front value found).symm

theorem values_eq_ok {occurrences : List Occurrence} {found : List String} :
    values constants stack occurrences = .ok found ↔
      List.Forall₂ (fun occurrence value => lookup constants stack occurrence.word = .ok value)
        occurrences found := by
  induction occurrences generalizing found with
  | nil =>
    rw [List.forall₂_nil_left_iff]
    constructor
    · intro same
      cases same
      rfl
    · rintro rfl
      rfl
  | cons occurrence rest ih =>
    rw [values_cons, List.forall₂_cons_left_iff]
    constructor
    · intro same
      cases first : lookup constants stack occurrence.word with
      | error fault => simp [first, bind, Except.bind] at same
      | ok value =>
        cases later : values constants stack rest with
        | error fault => simp [first, later, bind, Except.bind, Except.map] at same
        | ok others =>
          rw [first, later] at same
          cases same
          exact ⟨value, others, rfl, ih.mp later, rfl⟩
    · rintro ⟨value, others, first, later, rfl⟩
      rw [first, ih.mpr later]
      rfl

/-- The leftmost occurrence without a value decides the error. -/
theorem values_eq_error {occurrences : List Occurrence} {fault : Fault} :
    values constants stack occurrences = .error fault ↔
      ∃ before occurrence after, occurrences = before ++ occurrence :: after ∧
        (∀ earlier ∈ before, ∃ value, lookup constants stack earlier.word = .ok value) ∧
        lookup constants stack occurrence.word = .error fault := by
  induction occurrences with
  | nil =>
    constructor
    · intro same
      cases same
    · rintro ⟨before, occurrence, after, same, -⟩
      simp at same
  | cons first rest ih =>
    rw [values_cons]
    constructor
    · intro same
      cases found : lookup constants stack first.word with
      | error other =>
        rw [found] at same
        cases same
        exact ⟨[], first, rest, rfl, by simp, found⟩
      | ok value =>
        cases later : values constants stack rest with
        | ok others => simp [found, later, bind, Except.bind, Except.map] at same
        | error other =>
          rw [found, later] at same
          cases same
          obtain ⟨before, occurrence, after, rfl, fine, fails⟩ := ih.mp later
          refine ⟨first :: before, occurrence, after, rfl, ?_, fails⟩
          intro earlier member
          rcases List.mem_cons.mp member with rfl | deeper
          · exact ⟨value, found⟩
          · exact fine earlier deeper
    · rintro ⟨_ | ⟨_, before⟩, occurrence, after, same, fine, fails⟩
      · cases same
        rw [fails]
        rfl
      · cases same
        obtain ⟨value, found⟩ := fine first List.mem_cons_self
        have later := ih.mpr ⟨before, occurrence, after, rfl,
          fun earlier member => fine earlier (List.mem_cons_of_mem _ member), fails⟩
        rw [found, later]
        rfl

/-- Resolving is replacing what the scan has found. -/
theorem resolve_eq (text : String) :
    resolve constants stack text =
      (values constants stack (locate (split constants.supported text.toList))).map fun found =>
        String.ofList (splice text.toList 0
          ((locate (split constants.supported text.toList)).zip found)) := by
  have spliced := expand_eq_splice constants stack (split constants.supported text.toList)
  rw [flatMap_split] at spliced
  calc resolve constants stack text
      = (((split constants.supported text.toList).mapM (Piece.expand constants stack)).map
          List.flatten).map String.ofList := by
        rw [resolve]
        cases (split constants.supported text.toList).mapM (Piece.expand constants stack) <;> rfl
    _ = _ := by
        rw [spliced]
        cases values constants stack (locate (split constants.supported text.toList)) <;> rfl

/-- The number that a run of digits writes. -/
def numeral (digits : List Char) : Nat :=
  Nat.ofDigits 10 (digits.reverse.map fun c => c.toNat - '0'.toNat)

theorem digitsValue_eq_numeral (digits : List Char) : Text.digitsValue digits = numeral digits := by
  induction digits using List.reverseRecOn with
  | nil => rfl
  | append_singleton digits c ih =>
    simp only [Text.digitsValue, numeral, List.foldl_append, List.foldl_cons, List.foldl_nil]
      at ih ⊢
    rw [ih]
    simp [Nat.ofDigits_cons, Nat.add_comm]

variable {word : List Char}

theorem parse_digits (digits : ∀ c ∈ word, c.isDigit) :
    Token.parse word = .ok (.index (numeral word)) := by
  have notOut : String.ofList word ≠ stdOut := by
    intro same
    rw [ofList_eq_iff.mp same] at digits
    simp [stdOut] at digits
  have notErr : String.ofList word ≠ stdErr := by
    intro same
    rw [ofList_eq_iff.mp same] at digits
    simp [stdErr] at digits
  have all : word.all Char.isDigit = true := List.all_eq_true.mpr digits
  rw [Token.parse, if_neg notOut, if_neg notErr, if_pos all, digitsValue_eq_numeral]

theorem parse_out : Token.parse "STD_OUT".toList = .ok .out := by
  simp [Token.parse, stdOut]

theorem parse_err : Token.parse "STD_ERR".toList = .ok .err := by
  simp [Token.parse, stdOut, stdErr]

theorem parse_constant (constant : Constant) : Constant.parse constant.keyword = .ok constant := by
  cases constant <;> rfl

/-- The parser finds a constant only after it has ruled out everything else. -/
theorem parse_keyword (constant : Constant) :
    Token.parse constant.keyword.toList = .ok (.constant constant) := by
  have notOut : constant.keyword ≠ stdOut := by cases constant <;> simp [Constant.keyword, stdOut]
  have notErr : constant.keyword ≠ stdErr := by cases constant <;> simp [Constant.keyword, stdErr]
  have letters : constant.keyword.toList.all Char.isDigit = false := by
    cases constant <;> simp [Constant.keyword]
  rw [Token.parse, String.ofList_toList, if_neg notOut, if_neg notErr, letters, parse_constant]
  rfl

/-- The parser knows every word that the grammar admits. -/
theorem parse_known {supported : List Constant} (known : Grammar supported word) :
    ∃ token, Token.parse word = .ok token := by
  rcases known with ⟨-, digits⟩ | rfl | rfl | ⟨constant, -, rfl⟩
  · exact ⟨_, parse_digits digits⟩
  · exact ⟨.out, parse_out⟩
  · exact ⟨.err, parse_err⟩
  · exact ⟨_, parse_keyword constant⟩

theorem lookup_of_parse {token : Token} (parsed : Token.parse word = .ok token) :
    lookup constants stack word = token.value constants stack := by
  rw [lookup, parsed]
  rfl

/-- Leading zeros change nothing and no number is too large to be compared with the stack. -/
theorem lookup_digits (digits : ∀ c ∈ word, c.isDigit) :
    lookup constants stack word =
      if inside : numeral word < stack.length then .ok stack[numeral word].value
      else .error (.indexOutOfRange (min (numeral word) (2 ^ 64 - 1)) stack.length) := by
  rw [lookup_of_parse (parse_digits digits), Token.value, Stack.peek]
  by_cases inside : numeral word < stack.length
  · rw [dif_pos inside, List.getElem?_eq_getElem inside]
    rfl
  · rw [dif_neg inside, List.getElem?_eq_none (Nat.le_of_not_lt inside)]
    rfl

theorem lookup_out :
    lookup constants stack "STD_OUT".toList =
      match stack with
      | [] => .error (.indexOutOfRange 0 0)
      | top :: _ => .ok (top.out.getD "") := by
  rw [lookup_of_parse parse_out]
  cases stack <;> rfl

theorem lookup_err :
    lookup constants stack "STD_ERR".toList =
      match stack with
      | [] => .error (.indexOutOfRange 0 0)
      | top :: _ => .ok (top.err.getD "") := by
  rw [lookup_of_parse parse_err]
  cases stack <;> rfl

/-- Every occurrence of the grammar in a text, and nothing else, is replaced by its value, all of
them at once; values are put in as they are. What the words stand for follows, and that the parser
refuses none of them. -/
theorem resolve_replaces_occurrences (constants : Constants) (stack : Stack) (text : String) :
    (∃ occurrences : List Occurrence,
      (∀ occurrence, occurrence ∈ occurrences ↔
        Occurs constants.supported text.toList occurrence) ∧
      (occurrences.Pairwise fun first second => first.stop ≤ second.start) ∧
      (∀ resolved, resolve constants stack text = .ok resolved ↔
        ∃ found, List.Forall₂
            (fun occurrence value => lookup constants stack occurrence.word = .ok value)
            occurrences found ∧
          resolved = String.ofList (splice text.toList 0 (occurrences.zip found))) ∧
      ∀ fault, resolve constants stack text = .error fault ↔
        ∃ before occurrence after, occurrences = before ++ occurrence :: after ∧
          (∀ earlier ∈ before, ∃ value, lookup constants stack earlier.word = .ok value) ∧
          lookup constants stack occurrence.word = .error fault) ∧
    (∀ word, word ≠ [] → (∀ c ∈ word, c.isDigit) → lookup constants stack word =
      if inside : numeral word < stack.length then .ok stack[numeral word].value
      else .error (.indexOutOfRange (min (numeral word) (2 ^ 64 - 1)) stack.length)) ∧
    lookup constants stack "STD_OUT".toList = (match stack with
      | [] => .error (.indexOutOfRange 0 0)
      | top :: _ => .ok (top.out.getD "")) ∧
    lookup constants stack "STD_ERR".toList = (match stack with
      | [] => .error (.indexOutOfRange 0 0)
      | top :: _ => .ok (top.err.getD "")) ∧
    (∀ constant, lookup constants stack constant.keyword.toList = constants.value constant) ∧
    ∀ word, Grammar constants.supported word → ∃ token, Token.parse word = .ok token := by
  refine ⟨⟨locate (split constants.supported text.toList), fun _ => mem_locate _ _,
    locate_pairwise _, ?_, ?_⟩, fun word _ => lookup_digits, lookup_out, lookup_err, ?_,
    fun word => parse_known⟩
  · intro resolved
    rw [resolve_eq]
    constructor
    · intro same
      cases valued : values constants stack (locate (split constants.supported text.toList)) with
      | error fault =>
        rw [valued] at same
        cases same
      | ok found =>
        rw [valued] at same
        cases same
        exact ⟨found, values_eq_ok.mp valued, rfl⟩
    · rintro ⟨found, fine, rfl⟩
      rw [values_eq_ok.mpr fine]
      rfl
  · intro fault
    rw [resolve_eq, ← values_eq_error]
    cases values constants stack (locate (split constants.supported text.toList)) with
    | error other => simp [Except.map]
    | ok found =>
      constructor
      · intro same
        cases same
      · intro same
        cases same
  · intro constant
    exact lookup_of_parse (parse_keyword constant)

end Provision.Placeholder
