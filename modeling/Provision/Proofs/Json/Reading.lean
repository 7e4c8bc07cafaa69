import Provision.Proofs.Json.Spelling

/-! Every spelling of a value is read as that value, whatever blanks stand between its tokens and
whatever follows it. -/

namespace Provision.Json

/-- What a stretch of a text is about: a value, or the rest of a container up to the bracket that
closes it. -/
inductive Part where
  | value (value : Json)
  | items (items : List Json)
  | members (members : List (Option String × Json))

/-- The spellings of a part. A container that is not empty has its contents spelled up to the closing
bracket. -/
inductive Spelled : Part → List Char → Prop where
  | null : Spelled (.value null) ['n', 'u', 'l', 'l']
  | true : Spelled (.value (bool true)) ['t', 'r', 'u', 'e']
  | false : Spelled (.value (bool false)) ['f', 'a', 'l', 's', 'e']
  | number {literal : String} (isNumber : IsNumber literal) :
    Spelled (.value (number literal)) literal.toList
  | string (text : String) : Spelled (.value (ofText text)) (quoteChars text)
  | emptyArray {within : List Char} (blanks : Blanks within) :
    Spelled (.value (array [])) ('[' :: (within ++ [']']))
  | array {items : List Json} {before text : List Char} (blanks : Blanks before)
    (spelled : Spelled (.items items) text) : Spelled (.value (array items)) ('[' :: (before ++ text))
  | emptyObject {within : List Char} (blanks : Blanks within) :
    Spelled (.value (object [])) ('\x7b' :: (within ++ ['\x7d']))
  | object {members : List (Option String × Json)} {before text : List Char} (blanks : Blanks before)
    (spelled : Spelled (.members members) text) :
    Spelled (.value (object members)) ('\x7b' :: (before ++ text))
  | lastItem {item : Json} {text behind : List Char} (spelled : Spelled (.value item) text)
    (blanks : Blanks behind) : Spelled (.items [item]) (text ++ (behind ++ [']']))
  | nextItem {item : Json} {items : List Json} {text behind before more : List Char}
    (spelled : Spelled (.value item) text) (blanks : Blanks behind) (gap : Blanks before)
    (spelled' : Spelled (.items items) more) :
    Spelled (.items (item :: items)) (text ++ (behind ++ ',' :: (before ++ more)))
  | lastMember (key : String) {value : Json} {colon before text behind : List Char}
    (blanks : Blanks colon) (gap : Blanks before) (spelled : Spelled (.value value) text)
    (blanks' : Blanks behind) :
    Spelled (.members [(some key, value)])
      (quoteChars key ++ (colon ++ ':' :: (before ++ (text ++ (behind ++ ['\x7d'])))))
  | nextMember (key : String) {value : Json} {members : List (Option String × Json)}
    {colon before text behind between more : List Char} (blanks : Blanks colon) (gap : Blanks before)
    (spelled : Spelled (.value value) text) (blanks' : Blanks behind) (gap' : Blanks between)
    (spelled' : Spelled (.members members) more) :
    Spelled (.members ((some key, value) :: members))
      (quoteChars key ++
        (colon ++ ':' :: (before ++ (text ++ (behind ++ ',' :: (between ++ more))))))

variable {part : Part} {text rest left : List Char} {literal : String} {fuel : Nat}

theorem begins_number (isNumber : IsNumber literal) : Begins literal.toList := by
  obtain ⟨c, tail, same, first⟩ := readNumber_head isNumber
  refine ⟨c, tail, same, ?_⟩
  rcases first with rfl | digit
  · decide
  · refine ⟨not_separator_of_isDigit digit, ?_, ?_⟩
    · rintro rfl
      cases digit
    · rintro rfl
      cases digit

theorem Spelled.begins (spelled : Spelled part text) : Begins text := by
  induction spelled with
  | null | true | false => exact ⟨_, _, rfl, by decide⟩
  | number isNumber => exact begins_number isNumber
  | string text => exact ⟨_, _, rfl, by decide⟩
  | emptyArray | array | emptyObject | object => exact ⟨_, _, rfl, by decide⟩
  | lastItem spelled blanks begins => exact begins.append _
  | nextItem spelled blanks blanks' spelled' begins => exact begins.append _
  | lastMember => exact ⟨_, _, rfl, by decide⟩
  | nextMember => exact ⟨_, _, rfl, by decide⟩

/-- A part is read off the front of a text, given fuel for its own characters. -/
def Reads : Part → List Char → Prop
  | .value value, text => ∀ fuel rest, 2 * text.length ≤ fuel → Ends rest →
    readValue fuel (text ++ rest) = some (value, rest)
  | .items items, text => ∀ fuel rest, 2 * text.length < fuel →
    readItems fuel (text ++ rest) = some (items, rest)
  | .members members, text => ∀ fuel rest, 2 * text.length < fuel →
    readMembers fuel (text ++ rest) = some (members, rest)

theorem Begins.length_pos (begins : Begins text) : 0 < text.length := by
  obtain ⟨c, tail, rfl, -⟩ := begins
  exact Nat.succ_pos _

theorem readValue_number (found : readNumber text = some (literal, left)) :
    readValue (fuel + 1) text = some (number literal, left) := by
  obtain ⟨c, tail, rfl, first⟩ := readNumber_head found
  rw [readValue.eq_def]
  dsimp only
  split
  all_goals
    first
    | rename_i same
      obtain ⟨rfl, -⟩ := List.cons.inj same
      exact absurd first (by decide)
    | rw [found]
      rfl

theorem readValue_string (text : String) (rest : List Char) :
    readValue (fuel + 1) (quoteChars text ++ rest) = some (ofText text, rest) := by
  rw [quoteChars_append, readValue, readString_quoted]
  rfl

section Containers

variable {item : Json} {items : List Json} {members : List (Option String × Json)}
  {before behind between colon more : List Char}

/-- The contents do not begin with the closing bracket, so they are read as items. -/
theorem readValue_array (blanks : Blanks before) (begins : Begins text)
    (found : readItems fuel text = some (items, left)) :
    readValue (fuel + 1) ('[' :: (before ++ text)) = some (array items, left) := by
  have skipped := skipBlanks_begins blanks begins
  obtain ⟨c, tail, rfl, -, bracket, -⟩ := begins
  rw [readValue, skipped]
  simp [bracket, found]

theorem readValue_object (blanks : Blanks before) (begins : Begins text)
    (found : readMembers fuel text = some (members, left)) :
    readValue (fuel + 1) ('\x7b' :: (before ++ text)) = some (object members, left) := by
  have skipped := skipBlanks_begins blanks begins
  obtain ⟨c, tail, rfl, -, -, brace⟩ := begins
  rw [readValue, skipped]
  simp [brace, found]

theorem readItems_last (found : readValue fuel text = some (item, behind ++ ']' :: rest))
    (blanks : Blanks behind) : readItems (fuel + 1) text = some ([item], rest) := by
  rw [readItems, found]
  simp only [skipBlanks_token (c := ']') blanks rfl]

theorem readItems_next (found : readValue fuel text = some (item, behind ++ ',' :: (before ++ more)))
    (blanks : Blanks behind) (gap : Blanks before) (begins : Begins more)
    (found' : readItems fuel more = some (items, rest)) :
    readItems (fuel + 1) text = some (item :: items, rest) := by
  rw [readItems, found]
  simp only [skipBlanks_token (c := ',') blanks rfl, skipBlanks_begins gap begins, found']
  rfl

theorem readMembers_last (key : String) (blanks : Blanks colon) (gap : Blanks before)
    (begins : Begins text) (found : readValue fuel text = some (item, behind ++ '\x7d' :: rest))
    (blanks' : Blanks behind) :
    readMembers (fuel + 1) (quoteChars key ++ (colon ++ ':' :: (before ++ text))) =
      some ([(some key, item)], rest) := by
  rw [quoteChars_append, readMembers, readString_quoted]
  simp only [skipBlanks_token (c := ':') blanks rfl, skipBlanks_begins gap begins, found,
    skipBlanks_token (c := '\x7d') blanks' rfl]

theorem readMembers_next (key : String) (blanks : Blanks colon) (gap : Blanks before)
    (begins : Begins text)
    (found : readValue fuel text = some (item, behind ++ ',' :: (between ++ more)))
    (blanks' : Blanks behind) (gap' : Blanks between) (begins' : Begins more)
    (found' : readMembers fuel more = some (members, rest)) :
    readMembers (fuel + 1) (quoteChars key ++ (colon ++ ':' :: (before ++ text))) =
      some ((some key, item) :: members, rest) := by
  rw [quoteChars_append, readMembers, readString_quoted]
  simp only [skipBlanks_token (c := ':') blanks rfl, skipBlanks_begins gap begins, found,
    skipBlanks_token (c := ',') blanks' rfl, skipBlanks_begins gap' begins', found']
  rfl

end Containers

/-- The induction is on the spelling; the fuel of a container is that of its contents and one unit for
its bracket. -/
theorem Spelled.reads (spelled : Spelled part text) : Reads part text := by
  induction spelled with
  | null | true | false =>
    intro fuel rest enough ends
    obtain ⟨fuel, rfl⟩ := Nat.exists_eq_add_one_of_ne_zero (n := fuel) (by simp at enough; omega)
    rfl
  | number isNumber =>
    intro fuel rest enough ends
    have nonempty := (begins_number isNumber).length_pos
    obtain ⟨fuel, rfl⟩ := Nat.exists_eq_add_one_of_ne_zero (n := fuel) (by omega)
    exact readValue_number (readNumber_append isNumber ends)
  | string text =>
    intro fuel rest enough ends
    obtain ⟨fuel, rfl⟩ := Nat.exists_eq_add_one_of_ne_zero (n := fuel) (by simp [quoteChars] at enough; omega)
    exact readValue_string text rest
  | emptyArray blanks | emptyObject blanks =>
    intro fuel rest enough ends
    obtain ⟨fuel, rfl⟩ := Nat.exists_eq_add_one_of_ne_zero (n := fuel) (by simp at enough; omega)
    simp only [List.cons_append, List.append_assoc, List.nil_append, readValue,
      skipBlanks_token (c := ']') blanks rfl, skipBlanks_token (c := '\x7d') blanks rfl]
  | array blanks spelled reads =>
    intro fuel rest enough ends
    obtain ⟨fuel, rfl⟩ := Nat.exists_eq_add_one_of_ne_zero (n := fuel) (by simp at enough; omega)
    rw [List.cons_append, List.append_assoc]
    refine readValue_array blanks (spelled.begins.append rest) (reads fuel rest ?_)
    simp only [List.length_cons, List.length_append] at enough
    omega
  | object blanks spelled reads =>
    intro fuel rest enough ends
    obtain ⟨fuel, rfl⟩ := Nat.exists_eq_add_one_of_ne_zero (n := fuel) (by simp at enough; omega)
    rw [List.cons_append, List.append_assoc]
    refine readValue_object blanks (spelled.begins.append rest) (reads fuel rest ?_)
    simp only [List.length_cons, List.length_append] at enough
    omega
  | lastItem spelled blanks reads =>
    intro fuel rest enough
    obtain ⟨fuel, rfl⟩ := Nat.exists_eq_add_one_of_ne_zero (n := fuel) (by omega)
    simp only [List.length_cons, List.length_append] at enough
    simp only [List.append_assoc, List.cons_append, List.nil_append]
    exact readItems_last (reads fuel _ (by omega) (blanks.ends_append (by simp) rest)) blanks
  | nextItem spelled blanks gap spelled' reads reads' =>
    intro fuel rest enough
    obtain ⟨fuel, rfl⟩ := Nat.exists_eq_add_one_of_ne_zero (n := fuel) (by omega)
    simp only [List.length_cons, List.length_append] at enough
    simp only [List.append_assoc, List.cons_append]
    exact readItems_next (reads fuel _ (by omega) (blanks.ends_append (by simp) _)) blanks gap
      (spelled'.begins.append rest) (reads' fuel rest (by omega))
  | lastMember key blanks gap spelled blanks' reads =>
    intro fuel rest enough
    obtain ⟨fuel, rfl⟩ := Nat.exists_eq_add_one_of_ne_zero (n := fuel) (by omega)
    simp only [List.length_cons, List.length_append] at enough
    simp only [List.append_assoc, List.cons_append, List.nil_append]
    exact readMembers_last key blanks gap (spelled.begins.append _)
      (reads fuel _ (by omega) (blanks'.ends_append (by simp) rest)) blanks'
  | nextMember key blanks gap spelled blanks' gap' spelled' reads reads' =>
    intro fuel rest enough
    obtain ⟨fuel, rfl⟩ := Nat.exists_eq_add_one_of_ne_zero (n := fuel) (by omega)
    simp only [List.length_cons, List.length_append] at enough
    simp only [List.append_assoc, List.cons_append]
    exact readMembers_next key blanks gap (spelled.begins.append _)
      (reads fuel _ (by omega) (blanks'.ends_append (by simp) _)) blanks' gap'
      (spelled'.begins.append rest) (reads' fuel rest (by omega))

/-- The text is a spelling of the value with blanks around it. -/
def Spells (text : String) (value : Json) : Prop :=
  ∃ before body behind, text.toList = before ++ (body ++ behind) ∧ Blanks before ∧
    Spelled (.value value) body ∧ Blanks behind

theorem parse?_of_spells {text : String} {value : Json} (spells : Spells text value) :
    parse? text = some value := by
  obtain ⟨before, body, behind, same, blanks, spelled, blanks'⟩ := spells
  have read := spelled.reads (2 * (body ++ behind).length + 2) behind
    (by rw [List.length_append]; omega) blanks'.ends
  simp only [parse?, same, skipBlanks_begins blanks (spelled.begins.append behind), read,
    skipBlanks_blanks blanks', List.isEmpty_nil, if_true]

end Provision.Json
