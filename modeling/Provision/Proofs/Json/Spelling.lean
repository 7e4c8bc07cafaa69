import Provision.Json.Parser
import Provision.Json.Printer

/-! What a JSON text may look like: every value with blanks between its tokens, its strings escaped as
they are printed. Any such text is read as the value that it spells, however many blanks there are and
whatever follows it. -/

namespace Provision.Json

/-- Characters that separate tokens and mean nothing. -/
def isSeparator (c : Char) : Bool := c == ' ' || c == '\n' || c == '\r' || c == '\t'

def Blanks (text : List Char) : Prop := ∀ c ∈ text, isSeparator c = true

/-- The text begins with a token, and not with one that closes a bracket. -/
def Begins (text : List Char) : Prop :=
  ∃ c rest, text = c :: rest ∧ isSeparator c = false ∧ c ≠ ']' ∧ c ≠ '\x7d'

/-- What can follow a number without becoming a part of it. -/
def Ends (text : List Char) : Prop :=
  ∀ c rest, text = c :: rest → c.isDigit = false ∧ c ≠ '.' ∧ c ≠ 'e' ∧ c ≠ 'E'

variable {before after text rest left word : List Char} {literal : String}

theorem blanks_nil : Blanks [] := by simp [Blanks]

theorem Blanks.append (first : Blanks before) (second : Blanks after) : Blanks (before ++ after) := by
  intro c member
  rcases List.mem_append.mp member with inFirst | inSecond
  · exact first c inFirst
  · exact second c inSecond

theorem skipBlanks_append (blanks : Blanks before) (text : List Char) :
    skipBlanks (before ++ text) = skipBlanks text := List.dropWhile_append_of_pos blanks

theorem skipBlanks_blanks (blanks : Blanks text) : skipBlanks text = [] := by
  have skipped := skipBlanks_append blanks []
  rwa [List.append_nil] at skipped

theorem skipBlanks_cons {c : Char} (solid : isSeparator c = false) (rest : List Char) :
    skipBlanks (c :: rest) = c :: rest :=
  List.dropWhile_cons_of_neg (by rw [← isSeparator, solid]; exact Bool.false_ne_true)

theorem skipBlanks_token {c : Char} (blanks : Blanks before) (solid : isSeparator c = false)
    (rest : List Char) : skipBlanks (before ++ c :: rest) = c :: rest := by
  rw [skipBlanks_append blanks, skipBlanks_cons solid]

theorem Begins.append (begins : Begins text) (rest : List Char) : Begins (text ++ rest) := by
  obtain ⟨c, tail, rfl, token⟩ := begins
  exact ⟨c, tail ++ rest, rfl, token⟩

theorem skipBlanks_begins (blanks : Blanks before) (begins : Begins text) :
    skipBlanks (before ++ text) = text := by
  obtain ⟨c, tail, rfl, solid, -⟩ := begins
  exact skipBlanks_token blanks solid tail

theorem ends_nil : Ends [] := by simp [Ends]

theorem not_separator_of_isDigit {c : Char} (digit : c.isDigit = true) : isSeparator c = false := by
  cases separates : isSeparator c with
  | false => rfl
  | true =>
    simp only [isSeparator, Bool.or_eq_true, beq_iff_eq] at separates
    rcases separates with ((rfl | rfl) | rfl) | rfl <;> exact absurd digit (by decide)

theorem ends_cons {c : Char} (closes : c = ',' ∨ c = ']' ∨ c = '\x7d' ∨ isSeparator c = true)
    (rest : List Char) : Ends (c :: rest) := by
  intro other tail same
  obtain ⟨rfl, rfl⟩ := List.cons.inj same
  simp only [isSeparator, Bool.or_eq_true, beq_iff_eq] at closes
  rcases closes with rfl | rfl | rfl | (((rfl | rfl) | rfl) | rfl) <;> decide

theorem Blanks.ends (blanks : Blanks text) : Ends text := by
  cases text with
  | nil => exact ends_nil
  | cons c rest => exact ends_cons (.inr (.inr (.inr (blanks c List.mem_cons_self)))) rest

theorem Blanks.ends_append {c : Char} (blanks : Blanks before)
    (closes : c = ',' ∨ c = ']' ∨ c = '\x7d') (rest : List Char) : Ends (before ++ c :: rest) := by
  cases before with
  | nil =>
    refine ends_cons ?_ rest
    rcases closes with comma | bracket | brace
    · exact .inl comma
    · exact .inr (.inl bracket)
    · exact .inr (.inr (.inl brace))
  | cons first more =>
    exact ends_cons (.inr (.inr (.inr (blanks first List.mem_cons_self)))) (more ++ c :: rest)

section Strings

/-- How a character comes to stand between quotes: as itself or by a short escape, or by its number if
it is a control character that has no short escape. -/
def unitOf (c : Char) : Unit16 :=
  if c.toNat < 0x20 ∧ c ≠ '\x08' ∧ c ≠ '\x0c' ∧ c ≠ '\n' ∧ c ≠ '\r' ∧ c ≠ '\t' then .unit c.toNat
  else .char c

theorem readHex?_control (value : Nat) (small : value < 0x20) :
    ∃ a b c d, Text.hexFixed 4 value = [a, b, c, d] ∧ Text.readHex? [a, b, c, d] = some value := by
  have table : ∀ value : Fin 0x20, ∃ a b c d, Text.hexFixed 4 value = [a, b, c, d] ∧
      Text.readHex? [a, b, c, d] = some value.val := by
    intro value
    refine ⟨_, _, _, _, rfl, ?_⟩
    revert value
    decide
  exact table ⟨value, small⟩

theorem readUnits_plain {c : Char} (quote : c ≠ '"') (backslash : c ≠ '\\') (printable : ¬ c.toNat < 0x20)
    (rest : List Char) :
    readUnits (c :: rest) = (readUnits rest).map fun read => (.char c :: read.1, read.2) := by
  rw [readUnits.eq_def]
  split
  · rename_i empty
    cases empty
  · rename_i same
    exact absurd (List.cons.inj same).1 quote
  · rename_i same
    exact absurd (List.cons.inj same).1 backslash
  · rename_i same
    exact absurd (List.cons.inj same).1 backslash
  · rename_i same
    obtain ⟨rfl, rfl⟩ := List.cons.inj same
    rw [if_neg printable]

theorem readUnits_escapeChar (c : Char) (rest : List Char) :
    readUnits (escapeChar c ++ rest) =
      (readUnits rest).map fun read => (unitOf c :: read.1, read.2) := by
  unfold escapeChar unitOf
  by_cases quote : c = '"'
  · subst quote; rfl
  by_cases backslash : c = '\\'
  · subst backslash; rfl
  by_cases backspace : c = '\x08'
  · subst backspace; rfl
  by_cases feed : c = '\x0c'
  · subst feed; rfl
  by_cases line : c = '\n'
  · subst line; rfl
  by_cases carriage : c = '\r'
  · subst carriage; rfl
  by_cases tab : c = '\t'
  · subst tab; rfl
  simp only [beq_iff_eq, quote, backslash, backspace, feed, line, carriage, tab, if_false, ne_eq,
    not_false_eq_true, and_true]
  by_cases control : c.toNat < 0x20
  · obtain ⟨h₁, h₂, h₃, h₄, digits, value⟩ := readHex?_control c.toNat control
    rw [if_pos control, if_pos control, digits]
    simp only [List.cons_append, List.nil_append]
    rw [readUnits, value]
  · rw [if_neg control, if_neg control]
    exact readUnits_plain quote backslash control rest

theorem readUnits_escaped (chars rest : List Char) :
    readUnits (chars.flatMap escapeChar ++ '"' :: rest) = some (chars.map unitOf, rest) := by
  induction chars with
  | nil => rfl
  | cons c chars ih =>
    rw [List.flatMap_cons, List.append_assoc, readUnits_escapeChar, ih]
    rfl

/-- No control character is half of a surrogate pair. -/
theorem joinUnits_control {value : Nat} (small : value < 0x20) (rest : List Unit16) :
    joinUnits (.unit value :: rest) = (joinUnits rest).map (Char.ofNat value :: ·) := by
  have plain : isHigh value = false ∧ isLow value = false := by
    constructor
    · simp only [isHigh, Bool.and_eq_false_iff, decide_eq_false_iff_not]
      omega
    · simp only [isLow, Bool.and_eq_false_iff, decide_eq_false_iff_not]
      omega
  cases rest with
  | nil => simp [joinUnits, plain]
  | cons unit rest => cases unit <;> simp [joinUnits, plain]

theorem joinUnits_unitOf (chars : List Char) : joinUnits (chars.map unitOf) = some chars := by
  induction chars with
  | nil => rfl
  | cons c chars ih =>
    rw [List.map_cons, unitOf]
    split
    · rename_i control
      rw [joinUnits_control control.1, ih, Char.ofNat_toNat]
      rfl
    · rw [joinUnits, ih]
      rfl

/-- A printed string is read as what it was printed from. -/
theorem readString_quoted (text : String) (rest : List Char) :
    readString (text.toList.flatMap escapeChar ++ '"' :: rest) = some (some text, rest) := by
  rw [readString, readUnits_escaped]
  simp only [Option.map_some, joinUnits_unitOf, String.ofList_toList]

theorem quoteChars_append (text : String) (rest : List Char) :
    quoteChars text ++ rest = '"' :: (text.toList.flatMap escapeChar ++ '"' :: rest) := by
  simp [quoteChars]

end Strings

section Numbers

/-- The text is a number literal and nothing more. -/
def IsNumber (literal : String) : Prop := readNumber literal.toList = some (literal, [])

theorem takeWhile_isDigit_append (ends : Ends rest) (text : List Char) :
    (text ++ rest).takeWhile Char.isDigit = text.takeWhile Char.isDigit ∧
      (text ++ rest).dropWhile Char.isDigit = text.dropWhile Char.isDigit ++ rest := by
  induction text with
  | nil =>
    cases rest with
    | nil => exact ⟨rfl, rfl⟩
    | cons c rest =>
      have other := (ends c rest rfl).1
      constructor <;> simp [other]
  | cons c text ih => cases digit : c.isDigit <;> simp [digit, ih]

theorem digits1_append (found : digits1 text = some (word, left)) (ends : Ends rest) :
    digits1 (text ++ rest) = some (word, left ++ rest) := by
  obtain ⟨taken, dropped⟩ := takeWhile_isDigit_append ends text
  unfold digits1 at found ⊢
  rw [taken, dropped]
  split at found
  · cases found
  · cases found
    rfl

theorem digits1_head (found : digits1 text = some (word, left)) :
    ∃ c tail, text = c :: tail ∧ c.isDigit = true := by
  cases text with
  | nil => cases found
  | cons c tail =>
    refine ⟨c, tail, rfl, ?_⟩
    cases digit : c.isDigit with
    | true => rfl
    | false => simp [digits1, digit] at found

theorem integerPart_head (found : integerPart text = some (word, left)) :
    ∃ c tail, text = c :: tail ∧ c.isDigit = true := by
  unfold integerPart at found
  split at found
  · rename_i tail
    exact ⟨'0', tail, rfl, by decide⟩
  · exact digits1_head found

theorem integerPart_append (found : integerPart text = some (word, left)) (ends : Ends rest) :
    integerPart (text ++ rest) = some (word, left ++ rest) := by
  obtain ⟨c, tail, rfl, -⟩ := integerPart_head found
  by_cases zero : c = '0'
  · subst zero
    cases found
    rfl
  · have other : ∀ text, integerPart (c :: text) = digits1 (c :: text) := by
      intro text
      unfold integerPart
      split
      · rename_i same
        exact absurd (List.cons.inj same).1 zero
      · rfl
    rw [other] at found
    rw [List.cons_append, other, ← List.cons_append]
    exact digits1_append found ends

theorem fractionPart_append (found : fractionPart text = some (word, left)) (ends : Ends rest) :
    fractionPart (text ++ rest) = some (word, left ++ rest) := by
  unfold fractionPart at found
  split at found
  · rename_i digits
    obtain ⟨⟨number, behind⟩, read, same⟩ := Option.map_eq_some_iff.mp found
    cases same
    simp only [List.cons_append, fractionPart, digits1_append read ends, Option.map_some]
  · rename_i plain
    cases found
    unfold fractionPart
    split
    · rename_i digits same
      cases text with
      | nil =>
        rw [List.nil_append] at same
        exact absurd rfl (ends '.' digits same).2.1
      | cons c text =>
        obtain ⟨rfl, -⟩ := List.cons.inj same
        exact absurd rfl (plain text)
    · rfl

theorem exponentPart_append (found : exponentPart text = some (word, left)) (ends : Ends rest) :
    exponentPart (text ++ rest) = some (word, left ++ rest) := by
  cases text with
  | nil =>
    cases found
    cases rest with
    | nil => rfl
    | cons c rest =>
      obtain ⟨-, -, small, large⟩ := ends c rest rfl
      simp [exponentPart, small, large]
  | cons e text =>
    by_cases marked : (e == 'e' || e == 'E') = true
    · cases text with
      | nil => simp [exponentPart, marked] at found
      | cons sign text =>
        simp only [exponentPart, if_pos marked, List.cons_append] at found ⊢
        split at found
        · rename_i signed
          obtain ⟨⟨number, behind⟩, read, same⟩ := Option.map_eq_some_iff.mp found
          cases same
          simp only [if_pos signed, digits1_append read ends, Option.map_some]
        · rename_i unsigned
          obtain ⟨⟨number, behind⟩, read, same⟩ := Option.map_eq_some_iff.mp found
          cases same
          rw [if_neg unsigned, ← List.cons_append, digits1_append read ends]
          rfl
    · simp only [exponentPart, if_neg marked, Option.some.injEq, Prod.mk.injEq] at found
      obtain ⟨rfl, rfl⟩ := found
      simp only [List.cons_append, exponentPart, if_neg marked]

theorem signPart_cons (c : Char) (text rest : List Char) :
    signPart (c :: text ++ rest) = ((signPart (c :: text)).1, (signPart (c :: text)).2 ++ rest) := by
  by_cases minus : c = '-'
  · subst minus
    rfl
  · simp [signPart, minus]

theorem standsAlone_append {behind : List Char} (alone : standsAlone word behind = true) (ends : Ends rest) :
    standsAlone word (behind ++ rest) = true := by
  cases behind with
  | cons c behind =>
    by_cases zero : word = ['0']
    · subst zero
      exact alone
    · simp [standsAlone, zero]
  | nil =>
    rw [List.nil_append, standsAlone.eq_def]
    split
    · rename_i c tail
      rw [(ends c tail rfl).1]
      rfl
    · rfl

/-- The parts of a number literal: a sign, the digits before the point, a fraction and an exponent. -/
theorem readNumber_eq_some : readNumber text = some (literal, left) ↔
    ∃ whole behind fraction behind' exponent,
      integerPart (signPart text).2 = some (whole, behind) ∧ standsAlone whole behind = true ∧
      fractionPart behind = some (fraction, behind') ∧ exponentPart behind' = some (exponent, left) ∧
      literal = String.ofList ((signPart text).1 ++ whole ++ fraction ++ exponent) := by
  constructor
  · intro found
    obtain ⟨⟨whole, behind⟩, whole_eq, found⟩ := Option.bind_eq_some_iff.mp found
    obtain ⟨⟨⟩, alone, found⟩ := Option.bind_eq_some_iff.mp found
    obtain ⟨⟨fraction, behind'⟩, fraction_eq, found⟩ := Option.bind_eq_some_iff.mp found
    obtain ⟨⟨exponent, behind''⟩, exponent_eq, found⟩ := Option.bind_eq_some_iff.mp found
    cases found
    have alone : standsAlone whole behind = true := by
      cases stands : standsAlone whole behind with
      | true => rfl
      | false =>
        rw [stands] at alone
        cases alone
    exact ⟨whole, behind, fraction, behind', exponent, whole_eq, alone, fraction_eq, exponent_eq, rfl⟩
  · rintro ⟨whole, behind, fraction, behind', exponent, whole_eq, alone, fraction_eq, exponent_eq, rfl⟩
    refine Option.bind_eq_some_iff.mpr ⟨(whole, behind), whole_eq, ?_⟩
    refine Option.bind_eq_some_iff.mpr ⟨(), ?_, ?_⟩
    · rw [alone]
      rfl
    · exact Option.bind_eq_some_iff.mpr ⟨(fraction, behind'), fraction_eq,
        Option.bind_eq_some_iff.mpr ⟨(exponent, left), exponent_eq, rfl⟩⟩

theorem readNumber_append (found : readNumber text = some (literal, left)) (ends : Ends rest) :
    readNumber (text ++ rest) = some (literal, left ++ rest) := by
  obtain ⟨whole, behind, fraction, behind', exponent, whole_eq, alone, fraction_eq, exponent_eq, rfl⟩ :=
    readNumber_eq_some.mp found
  cases text with
  | nil => cases whole_eq
  | cons c text =>
    refine readNumber_eq_some.mpr ⟨whole, behind ++ rest, fraction, behind' ++ rest, exponent, ?_,
      standsAlone_append alone ends, fractionPart_append fraction_eq ends,
      exponentPart_append exponent_eq ends, ?_⟩
    · rw [signPart_cons]
      exact integerPart_append whole_eq ends
    · rw [signPart_cons]

/-- A number literal begins with a minus sign or a digit. -/
theorem readNumber_head (found : readNumber text = some (literal, left)) :
    ∃ c tail, text = c :: tail ∧ (c = '-' ∨ c.isDigit = true) := by
  obtain ⟨whole, behind, -, -, -, whole_eq, -⟩ := readNumber_eq_some.mp found
  cases text with
  | nil => cases whole_eq
  | cons c text =>
    refine ⟨c, text, rfl, ?_⟩
    by_cases minus : c = '-'
    · exact .inl minus
    · have unsigned : (signPart (c :: text)).2 = c :: text := by simp [signPart, minus]
      rw [unsigned] at whole_eq
      obtain ⟨_, _, same, digit⟩ := integerPart_head whole_eq
      cases same
      exact .inr digit

end Numbers

end Provision.Json
