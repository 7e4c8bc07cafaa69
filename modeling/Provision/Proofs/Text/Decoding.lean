import Provision.Text.Numeral
import Provision.Text.Utf8
import Provision.Text.Word

/-! What was written is read back: a text from its bytes when they are read strictly, and a number from
its digits. -/

namespace Provision.Text

section Fronts

variable {lead second third fourth : UInt8}

theorem isContinuation_iff {byte : UInt8} :
    isContinuation byte = true ↔ 0x80 ≤ byte.toNat ∧ byte.toNat ≤ 0xBF := by
  simp [isContinuation, UInt8.le_iff_toNat_le]

theorem isSecond_iff :
    isSecond lead second = true ↔
      0x80 ≤ second.toNat ∧ second.toNat ≤ 0xBF ∧
        (lead.toNat = 0xE0 → 0xA0 ≤ second.toNat) ∧ (lead.toNat = 0xED → second.toNat ≤ 0x9F) ∧
        (lead.toNat = 0xF0 → 0x90 ≤ second.toNat) ∧ (lead.toNat = 0xF4 → second.toNat ≤ 0x8F) := by
  simp only [isSecond, isContinuation, beq_iff_eq, ← UInt8.toNat_inj, UInt8.le_iff_toNat_le,
    UInt8.reduceToNat]
  repeat' split
  all_goals
    simp only [Bool.and_eq_true, decide_eq_true_eq]
    omega

theorem not_ascii (large : 0x80 ≤ lead.toNat) : ¬ lead < 0x80 := by
  rw [UInt8.lt_iff_toNat_lt]
  exact Nat.not_lt.mpr large

theorem isLead (large : 0xC2 ≤ lead.toNat) (small : lead.toNat ≤ 0xF4) :
    ¬ (decide (lead < 0xC2) || decide (0xF4 < lead)) = true := by
  simp [UInt8.lt_iff_toNat_lt, large, small]

theorem decodeFront_one (small : lead.toNat < 0x80) (rest : Bytes) :
    decodeFront lead rest = .char (Char.ofNat lead.toNat) rest := by
  have below : lead < 0x80 := UInt8.lt_iff_toNat_lt.mpr small
  simp only [decodeFront, below, if_true]

theorem decodeFront_two (large : 0xC2 ≤ lead.toNat) (small : lead.toNat < 0xE0)
    (follows : isSecond lead second = true) (rest : Bytes) :
    decodeFront lead (second :: rest) =
      .char (Char.ofNat (lead.toNat % 32 * 64 + second.toNat % 64)) rest := by
  have short : lead < 0xE0 := UInt8.lt_iff_toNat_lt.mpr small
  unfold decodeFront
  rw [if_neg (not_ascii (by omega)), if_neg (isLead large (by omega))]
  simp only [follows, if_pos short, Bool.not_true, Bool.false_eq_true, if_false]
  rfl

theorem decodeFront_three (large : 0xE0 ≤ lead.toNat) (small : lead.toNat < 0xF0)
    (follows : isSecond lead second = true) (goes : isContinuation third = true) (rest : Bytes) :
    decodeFront lead (second :: third :: rest) =
      .char (Char.ofNat (lead.toNat % 16 * 4096 + second.toNat % 64 * 64 + third.toNat % 64)) rest := by
  have long : ¬ lead < 0xE0 := by rw [UInt8.lt_iff_toNat_lt]; exact Nat.not_lt.mpr large
  have short : lead < 0xF0 := UInt8.lt_iff_toNat_lt.mpr small
  unfold decodeFront
  rw [if_neg (not_ascii (by omega)), if_neg (isLead (by omega) (by omega))]
  simp only [follows, goes, if_neg long, if_pos short, Bool.not_true, Bool.false_eq_true, if_false]
  rfl

theorem decodeFront_four (large : 0xF0 ≤ lead.toNat) (small : lead.toNat ≤ 0xF4)
    (follows : isSecond lead second = true) (goes : isContinuation third = true)
    (ends : isContinuation fourth = true) (rest : Bytes) :
    decodeFront lead (second :: third :: fourth :: rest) =
      .char (Char.ofNat (lead.toNat % 8 * 262144 + second.toNat % 64 * 4096 + third.toNat % 64 * 64 +
        fourth.toNat % 64)) rest := by
  have long : ¬ lead < 0xE0 := by rw [UInt8.lt_iff_toNat_lt]; exact Nat.not_lt.mpr (by simp; omega)
  have longer : ¬ lead < 0xF0 := by rw [UInt8.lt_iff_toNat_lt]; exact Nat.not_lt.mpr large
  unfold decodeFront
  rw [if_neg (not_ascii (by omega)), if_neg (isLead (by omega) small)]
  simp only [follows, goes, ends, if_neg long, if_neg longer, Bool.not_true, Bool.false_eq_true, if_false]
  rfl

end Fronts

/-- The byte of a number that fits into it. -/
theorem toNat_byte {value : Nat} (fits : value < 256) : (UInt8.ofNat value).toNat = value :=
  UInt8.toNat_ofNat_of_lt' fits

section Characters

variable {value : Nat}

theorem decodeFront_spelled_two (large : 0x7F < value) (small : value ≤ 0x7FF) (rest : Bytes) :
    decodeFront (UInt8.ofNat (value / 64 % 32 + 192)) (UInt8.ofNat (value % 64 + 128) :: rest) =
      .char (Char.ofNat value) rest := by
  have lead := toNat_byte (show value / 64 % 32 + 192 < 256 by omega)
  have second := toNat_byte (show value % 64 + 128 < 256 by omega)
  have follows : isSecond (UInt8.ofNat (value / 64 % 32 + 192)) (UInt8.ofNat (value % 64 + 128)) = true := by
    rw [isSecond_iff, lead, second]
    omega
  rw [decodeFront_two (by omega) (by omega) follows, lead, second]
  congr 2
  omega

/-- The numbers of surrogates are no characters, and their bytes are refused. -/
theorem decodeFront_spelled_three (large : 0x7FF < value) (small : value ≤ 0xFFFF)
    (valid : value < 0xD800 ∨ 0xDFFF < value) (rest : Bytes) :
    decodeFront (UInt8.ofNat (value / 4096 % 16 + 224))
        (UInt8.ofNat (value / 64 % 64 + 128) :: UInt8.ofNat (value % 64 + 128) :: rest) =
      .char (Char.ofNat value) rest := by
  have lead := toNat_byte (show value / 4096 % 16 + 224 < 256 by omega)
  have second := toNat_byte (show value / 64 % 64 + 128 < 256 by omega)
  have third := toNat_byte (show value % 64 + 128 < 256 by omega)
  have follows : isSecond (UInt8.ofNat (value / 4096 % 16 + 224)) (UInt8.ofNat (value / 64 % 64 + 128)) =
      true := by
    rw [isSecond_iff, lead, second]
    omega
  have goes := isContinuation_iff.mpr (show _ ∧ _ by rw [third]; omega)
  rw [decodeFront_three (by omega) (by omega) follows goes, lead, second, third]
  congr 2
  omega

theorem decodeFront_spelled_four (large : 0xFFFF < value) (small : value < 0x110000) (rest : Bytes) :
    decodeFront (UInt8.ofNat (value / 262144 % 8 + 240))
        (UInt8.ofNat (value / 4096 % 64 + 128) :: UInt8.ofNat (value / 64 % 64 + 128) ::
          UInt8.ofNat (value % 64 + 128) :: rest) =
      .char (Char.ofNat value) rest := by
  have lead := toNat_byte (show value / 262144 % 8 + 240 < 256 by omega)
  have second := toNat_byte (show value / 4096 % 64 + 128 < 256 by omega)
  have third := toNat_byte (show value / 64 % 64 + 128 < 256 by omega)
  have fourth := toNat_byte (show value % 64 + 128 < 256 by omega)
  have follows : isSecond (UInt8.ofNat (value / 262144 % 8 + 240))
      (UInt8.ofNat (value / 4096 % 64 + 128)) = true := by
    rw [isSecond_iff, lead, second]
    omega
  have goes := isContinuation_iff.mpr (show _ ∧ _ by rw [third]; omega)
  have ends := isContinuation_iff.mpr (show _ ∧ _ by rw [fourth]; omega)
  rw [decodeFront_four (by omega) (by omega) follows goes ends, lead, second, third, fourth]
  congr 2
  omega

end Characters

/-- The first character comes back from its bytes, whatever stands behind them. -/
theorem decodeFront_encode (c : Char) :
    ∃ lead tail, String.utf8EncodeChar c = lead :: tail ∧
      ∀ rest, decodeFront lead (tail ++ rest) = .char c rest := by
  have whole : Char.ofNat c.val.toNat = c := Char.ofNat_toNat c
  have valid : c.val.toNat < 0xD800 ∨ 0xDFFF < c.val.toNat ∧ c.val.toNat < 0x110000 := c.valid
  unfold String.utf8EncodeChar
  generalize c.val.toNat = value at whole valid
  subst whole
  dsimp only
  split
  · have lead := toNat_byte (show value < 256 by omega)
    refine ⟨_, [], rfl, fun rest => ?_⟩
    rw [List.nil_append, decodeFront_one (by omega), lead]
  · split
    · exact ⟨_, _, rfl, decodeFront_spelled_two (by omega) (by omega)⟩
    · split
      · exact ⟨_, _, rfl, decodeFront_spelled_three (by omega) (by omega) (by omega)⟩
      · exact ⟨_, _, rfl, decodeFront_spelled_four (by omega) (by omega)⟩

/-- No character begins with a byte that goes on with one, and an ASCII byte is all of its character. -/
theorem lead_encode (c : Char) : ∃ lead tail, String.utf8EncodeChar c = lead :: tail ∧
    isContinuation lead = false ∧ (lead.toNat < 0x80 → tail = [] ∧ c.toNat = lead.toNat) := by
  obtain ⟨lead, tail, spelled, decodes⟩ := decodeFront_encode c
  have decoded := decodes []
  refine ⟨lead, tail, spelled, ?_, fun small => ?_⟩
  · rw [← Bool.not_eq_true, isContinuation_iff]
    rintro ⟨large, small⟩
    have low : (decide (lead < 0xC2) || decide (0xF4 < lead)) = true := by
      simp [UInt8.lt_iff_toNat_lt]
      omega
    rw [decodeFront.eq_def, if_neg (not_ascii large), if_pos low] at decoded
    cases decoded
  · rw [decodeFront_one small, List.append_nil] at decoded
    cases decoded
    refine ⟨rfl, ?_⟩
    have scalar : lead.toNat.isValidChar := .inl (by omega)
    rw [Char.ofNat, dif_pos scalar]
    rfl

theorem encode_ascii {c : Char} (small : c.toNat < 0x80) :
    String.utf8EncodeChar c = [UInt8.ofNat c.toNat] := by
  have fits : c.toNat ≤ 0x7F := Nat.le_of_lt_succ small
  rw [String.utf8EncodeChar]
  simp [fits]

theorem strictChars_flatMap (text done : List Char) :
    strictChars done (text.flatMap String.utf8EncodeChar) = some (done.reverse ++ text) := by
  induction text generalizing done with
  | nil => simp [strictChars]
  | cons c text ih =>
    obtain ⟨lead, tail, spelled, decoded⟩ := decodeFront_encode c
    rw [List.flatMap_cons, spelled, List.cons_append, strictChars]
    split
    · next found =>
      rw [decoded] at found
      cases found
      rw [ih, List.reverse_cons, List.append_assoc, List.singleton_append]
    · next found =>
      rw [decoded] at found
      cases found

theorem encode_eq_flatMap (text : String) : encode text = text.toList.flatMap String.utf8EncodeChar := by
  rw [encode, String.toUTF8, ← String.utf8Encode_toList]
  simp [List.utf8Encode]

/-- Every text comes back from its bytes. -/
theorem decode?_encode (text : String) : decode? (encode text) = some text := by
  rw [decode?, encode_eq_flatMap, strictChars_flatMap]
  simp

theorem not_isBlank_of_isDigit {c : Char} (digit : c.isDigit = true) : isBlank c = false := by
  have range : 48 ≤ c.toNat ∧ c.toNat ≤ 57 := by
    simpa [Char.isDigit, UInt32.le_iff_toNat_le] using digit
  simp [isBlank]
  omega

theorem dropWhile_eq_self {drop : Char → Bool} {text : List Char}
    (first : ∀ c, text.head? = some c → drop c = false) : text.dropWhile drop = text := by
  cases text with
  | nil => rfl
  | cons c rest => exact List.dropWhile_cons_of_neg (Bool.not_eq_true _ ▸ first c rfl)

theorem trimEnd_eq_self {drop : Char → Bool} {text : List Char}
    (last : ∀ c, text.getLast? = some c → drop c = false) : trimEnd drop text = text := by
  rw [← List.head?_reverse] at last
  rw [trimEnd, dropWhile_eq_self last, List.reverse_reverse]

theorem trimBoth_eq_self {drop : Char → Bool} {text : List Char}
    (first : ∀ c, text.head? = some c → drop c = false)
    (last : ∀ c, text.getLast? = some c → drop c = false) : trimBoth drop text = text := by
  rw [trimBoth, dropWhile_eq_self first]
  exact trimEnd_eq_self last

theorem le_ofDigitChars (digits : List Char) (value : Nat) :
    value ≤ Nat.ofDigitChars 10 digits value := by
  rw [Nat.ofDigitChars_eq_ofDigitChars_zero]
  have scaled := Nat.le_mul_of_pos_left value (Nat.pow_pos (n := digits.length) (show 0 < 10 by decide))
  omega

theorem scanDigits_eq {bound : Nat} {digits : List Char} {value : Nat}
    (all : ∀ c ∈ digits, c.isDigit = true) (below : Nat.ofDigitChars 10 digits value < bound) :
    scanDigits bound value digits = .ok (Nat.ofDigitChars 10 digits value) := by
  induction digits generalizing value with
  | nil => rfl
  | cons c rest ih =>
    rw [Nat.ofDigitChars_cons] at below ⊢
    have next : 10 * value + (c.toNat - 48) < bound := Nat.lt_of_le_of_lt (le_ofDigitChars rest _) below
    rw [scanDigits, all c (List.mem_cons_self ..)]
    dsimp only
    rw [if_neg (by decide), if_pos next]
    exact ih (fun c within => all c (List.mem_cons_of_mem _ within)) below

/-- Every number comes back from its digits when it is below the bound. -/
theorem readNatBelow_toString {bound value : Nat} (below : value < bound) :
    readNatBelow bound (trim (toString value)) = .ok value := by
  have digits : ∀ c ∈ Nat.toDigits 10 value, c.isDigit = true :=
    fun c within => Nat.isDigit_of_mem_toDigits (by decide) (Nat.le_refl 10) within
  have trimmed : trim (toString value) = String.ofList (Nat.toDigits 10 value) := by
    rw [trim, Nat.toString_eq_ofList_toDigits, String.toList_ofList,
      trimBoth_eq_self (fun c first => not_isBlank_of_isDigit (digits c (List.mem_of_head? first)))
        fun c last => not_isBlank_of_isDigit (digits c (List.mem_of_getLast? last))]
  have scanned : scanDigits bound 0 (Nat.toDigits 10 value) = .ok value := by
    have total := Nat.ofDigitChars_ten_toDigits (n := value)
    rw [scanDigits_eq digits (by rw [total]; exact below), total]
  have unsigned : ∀ rest, Nat.toDigits 10 value ≠ '+' :: rest := by
    intro rest starts
    have digit := digits '+' (by rw [starts]; exact List.mem_cons_self ..)
    exact absurd digit (by decide)
  have plain : Nat.toDigits 10 value ≠ ['-'] := by
    intro single
    have digit := digits '-' (by rw [single]; exact List.mem_cons_self ..)
    exact absurd digit (by decide)
  rw [trimmed, readNatBelow, String.toList_ofList]
  split
  · next empty => exact absurd empty Nat.toDigits_ne_nil
  · next starts => exact absurd starts (unsigned [])
  · next single => exact absurd single plain
  · next starts => exact absurd starts (unsigned _)
  · exact scanned

end Provision.Text
