import Mathlib
import Provision.Proofs.Placeholder.Raising
import Provision.Proofs.Text.Decoding
import Provision.Software

/-! The components of a version are the digit runs it begins with, one dot between two of them. The text may
go on with anything behind them, also with characters of several bytes, and no such character is ever cut. -/

namespace Provision.Version

open Placeholder

variable {run rest text : List Char} {runs : List (List Char)} {index : Nat}

/-- One digit or more, and nothing else. -/
structure Run (digits : List Char) : Prop where
  nonempty : digits ≠ []
  digits : ∀ c ∈ digits, c.isDigit = true

/-- A digit run goes on no further than to here. -/
def Stops (rest : List Char) : Prop := ∀ c, rest.head? = some c → c.isDigit = false

/-- Runs with single dots between them. -/
def dotted (runs : List (List Char)) : List Char := ['.'].intercalate runs

theorem dotted_cons (nonempty : runs ≠ []) (run : List Char) :
    dotted (run :: runs) = run ++ '.' :: dotted runs := by
  rw [dotted, List.intercalate_cons_of_ne_nil nonempty, List.append_assoc]
  rfl

theorem stops_dot (rest : List Char) : Stops ('.' :: rest) := by
  rintro c same
  cases same
  rfl

theorem span_run (digits : ∀ c ∈ run, c.isDigit = true) (stops : Stops rest) :
    (run ++ rest).takeWhile Char.isDigit = run ∧ (run ++ rest).dropWhile Char.isDigit = rest := by
  rw [List.takeWhile_append_of_pos digits, List.dropWhile_append_of_pos digits]
  cases rest with
  | nil => exact ⟨List.append_nil run, rfl⟩
  | cons c rest => simp [stops c rfl]

theorem runValue_eq (digits : List Char) :
    runValue digits = if numeral digits < 2 ^ 32 then numeral digits else 0 := by
  rw [← digitsValue_eq_numeral]
  rfl

/-- The runs are the components, and there are no others unless a dot follows. Induction on the runs. -/
theorem component_dotted (each : ∀ digits ∈ runs, Run digits) (nonempty : runs ≠ []) (stops : Stops rest)
    (ends : index < runs.length ∨ rest.head? ≠ some '.') :
    component index (dotted runs ++ rest) = (runs[index]?.map runValue).getD 0 := by
  induction runs generalizing index with
  | nil => exact absurd rfl nonempty
  | cons first runs ih =>
    have here := each first List.mem_cons_self
    by_cases last : runs = []
    · subst last
      have alone : dotted [first] = first := List.intercalate_singleton
      obtain ⟨taken, dropped⟩ := span_run here.digits stops
      cases index with
      | zero =>
        rw [alone, component, taken]
        rfl
      | succ index =>
        rw [alone, component, taken, dropped, if_neg (by simpa using here.nonempty)]
        split
        · exact absurd rfl (ends.resolve_left (by simp))
        · rfl
    · obtain ⟨taken, dropped⟩ := span_run here.digits (stops_dot (dotted runs ++ rest))
      rw [dotted_cons last, List.append_assoc, List.cons_append]
      cases index with
      | zero =>
        rw [component, taken]
        rfl
      | succ index =>
        rw [component, taken, dropped, if_neg (by simpa using here.nonempty), List.getElem?_cons_succ]
        exact ih (fun other member => each other (List.mem_cons_of_mem first member)) last
          (ends.imp_left Nat.lt_of_succ_lt_succ)

/-- Where there is a component other than zero, there are as many runs. Induction on the index. -/
theorem runs_of_component (found : component index text ≠ 0) :
    ∃ runs, runs.length = index + 1 ∧ (∀ digits ∈ runs, Run digits) ∧ dotted runs <+: text := by
  induction index generalizing text with
  | zero =>
    refine ⟨[text.takeWhile Char.isDigit], rfl, fun digits member => ?_, ?_⟩
    · rw [List.mem_singleton.mp member]
      refine ⟨fun empty => found ?_, fun c => List.mem_takeWhile_imp⟩
      rw [component, empty]
      rfl
    · rw [dotted, List.intercalate_singleton]
      exact List.takeWhile_prefix _
  | succ index ih =>
    rw [component] at found
    split at found
    · exact absurd rfl found
    · rename_i nonempty
      split at found
      · rename_i rest behind
        obtain ⟨runs, count, each, front⟩ := ih found
        have more : runs ≠ [] := List.ne_nil_of_length_eq_add_one count
        refine ⟨text.takeWhile Char.isDigit :: runs, by rw [List.length_cons, count], ?_, ?_⟩
        · intro digits member
          rcases List.mem_cons.mp member with rfl | later
          · exact ⟨by simpa using nonempty, fun c => List.mem_takeWhile_imp⟩
          · exact each digits later
        · obtain ⟨back, rfl⟩ := front
          refine ⟨back, ?_⟩
          rw [dotted_cons more, List.append_assoc, List.cons_append, ← behind,
            List.takeWhile_append_dropWhile]
      · exact absurd rfl found

section Bytes

open Text

/-- Whether the byte is an ASCII digit. -/
def isDigitByte (byte : UInt8) : Bool := 48 ≤ byte && byte ≤ 57

/-- Both sides of a place in a text. There is no such place inside of a character, or behind the end. -/
def slice? (bytes : Bytes) (place : Nat) : Option (Bytes × Bytes) :=
  if bytes.length < place || (bytes[place]?.any isContinuation) then none
  else some (bytes.take place, bytes.drop place)

/-- The component so many runs further on, with the digits counted in bytes. There is none once the text would be
cut where it cannot be. -/
def slicedComponent (further : Nat) (bytes : Bytes) : Option Nat :=
  let count := (bytes.takeWhile isDigitByte).length
  if count = 0 then some 0
  else do
    let (run, behind) ← slice? bytes count
    let dot := behind.head? == some 46
    let (_, rest) ← slice? bytes (count + dot.toNat)
    match further with
    | 0 => return runValue (← decode? run).toList
    | further + 1 => if dot then slicedComponent further rest else return 0

theorem isDigit_iff {c : Char} : c.isDigit = true ↔ 48 ≤ c.toNat ∧ c.toNat ≤ 57 := by
  simp [Char.isDigit, UInt32.le_iff_toNat_le]

theorem isDigitByte_iff {byte : UInt8} : isDigitByte byte = true ↔ 48 ≤ byte.toNat ∧ byte.toNat ≤ 57 := by
  simp [isDigitByte, UInt8.le_iff_toNat_le]

/-- Digits are counted in bytes as they are in characters. -/
theorem takeWhile_encode (text : List Char) :
    (text.flatMap String.utf8EncodeChar).takeWhile isDigitByte =
      (text.takeWhile Char.isDigit).flatMap String.utf8EncodeChar := by
  induction text with
  | nil => rfl
  | cons c text ih =>
    rw [List.flatMap_cons]
    by_cases digit : c.isDigit = true
    · have range := isDigit_iff.mp digit
      have small : c.toNat < 256 := by omega
      have byte : isDigitByte (UInt8.ofNat c.toNat) = true := by
        rw [isDigitByte_iff, toNat_byte small]
        exact range
      rw [encode_ascii (by omega), List.takeWhile_cons_of_pos digit, List.flatMap_cons,
        encode_ascii (by omega), List.singleton_append, List.takeWhile_cons_of_pos byte, ih]
      rfl
    · obtain ⟨lead, tail, spelled, -, ascii⟩ := lead_encode c
      have other : ¬ isDigitByte lead = true := by
        intro byte
        have range := isDigitByte_iff.mp byte
        obtain ⟨-, same⟩ := ascii (by omega)
        exact digit (isDigit_iff.mpr (same ▸ range))
      rw [spelled, List.cons_append, List.takeWhile_cons_of_neg other, List.takeWhile_cons_of_neg digit]
      rfl

theorem slice?_append {front back : Bytes}
    (starts : ∀ byte, back.head? = some byte → isContinuation byte = false) :
    slice? (front ++ back) front.length = some (front, back) := by
  have between : ((front ++ back)[front.length]?.any isContinuation) = false := by
    rw [List.getElem?_append_right (Nat.le_refl _), Nat.sub_self, ← List.head?_eq_getElem?]
    cases first : back.head? with
    | none => rfl
    | some byte => exact starts byte first
  rw [slice?, between, Bool.or_false, if_neg (by simp), List.take_left, List.drop_left]

theorem head_encode {text : List Char} {byte : UInt8}
    (first : (text.flatMap String.utf8EncodeChar).head? = some byte) :
    isContinuation byte = false ∧ (byte.toNat < 0x80 → ∃ rest c, text = c :: rest ∧ c.toNat = byte.toNat) := by
  cases text with
  | nil => cases first
  | cons c rest =>
    obtain ⟨lead, tail, spelled, whole, ascii⟩ := lead_encode c
    rw [List.flatMap_cons, spelled] at first
    cases first
    exact ⟨whole, fun small => ⟨rest, c, rfl, (ascii small).2⟩⟩

theorem head_dot (rest : List Char) :
    ((rest.flatMap String.utf8EncodeChar).head? == some 46) = true ↔ rest.head? = some '.' := by
  constructor
  · intro dot
    obtain ⟨-, ascii⟩ := head_encode (eq_of_beq dot)
    obtain ⟨rest, c, rfl, same⟩ := ascii (by decide)
    rw [List.head?_cons, Option.some_inj]
    exact Char.toNat_inj.mp same
  · intro dot
    obtain ⟨rest, rfl⟩ := List.head?_eq_some_iff.mp dot
    rfl

/-- A text can be cut between any two characters. -/
theorem slice?_encode {place : Nat} (front back : List Char)
    (between : place = (front.flatMap String.utf8EncodeChar).length) :
    slice? ((front ++ back).flatMap String.utf8EncodeChar) place =
      some (front.flatMap String.utf8EncodeChar, back.flatMap String.utf8EncodeChar) := by
  rw [List.flatMap_append, between]
  exact slice?_append fun byte first => (head_encode first).1

/-- Behind the digits the text can be cut, and behind a dot that follows them. -/
theorem slicedComponent_round {further : Nat} (nonempty : text.takeWhile Char.isDigit ≠ []) :
    slicedComponent further (text.flatMap String.utf8EncodeChar) =
      match further with
      | 0 => some (runValue (text.takeWhile Char.isDigit))
      | further + 1 =>
        match text.dropWhile Char.isDigit with
        | '.' :: rest => slicedComponent further (rest.flatMap String.utf8EncodeChar)
        | _ => some 0 := by
  have whole := List.takeWhile_append_dropWhile (p := Char.isDigit) (l := text)
  have count : ¬ ((text.takeWhile Char.isDigit).flatMap String.utf8EncodeChar).length = 0 := by
    obtain ⟨c, digits, same⟩ := List.exists_cons_of_ne_nil nonempty
    obtain ⟨lead, tail, spelled, -⟩ := lead_encode c
    rw [same, List.flatMap_cons, spelled]
    simp
  have decoded : decode? ((text.takeWhile Char.isDigit).flatMap String.utf8EncodeChar) =
      some (String.ofList (text.takeWhile Char.isDigit)) := by
    rw [← decode?_encode, encode_eq_flatMap, String.toList_ofList]
  rw [slicedComponent.eq_def]
  simp only [takeWhile_encode, if_neg count]
  generalize text.takeWhile Char.isDigit = digits at *
  generalize text.dropWhile Char.isDigit = rest at *
  subst whole
  simp only [slice?_encode digits rest rfl, Option.bind_eq_bind, Option.bind_some]
  by_cases dot : rest.head? = some '.'
  · obtain ⟨later, rfl⟩ := List.head?_eq_some_iff.mp dot
    have between : (digits.flatMap String.utf8EncodeChar).length + 1 =
        ((digits ++ ['.']).flatMap String.utf8EncodeChar).length := by
      rw [List.flatMap_append, List.length_append]
      rfl
    have cut := slice?_encode (digits ++ ['.']) later between
    rw [List.append_assoc, List.singleton_append] at cut
    rw [(head_dot ('.' :: later)).mpr rfl, Bool.toNat_true, cut]
    cases further with
    | zero =>
      simp only [decoded, Option.bind_some, String.toList_ofList]
      rfl
    | succ further => rfl
  · have other : ((rest.flatMap String.utf8EncodeChar).head? == some 46) = false :=
      (Bool.not_eq_true _).mp fun same => dot ((head_dot rest).mp same)
    rw [other, Bool.toNat_false, Nat.add_zero, slice?_encode digits rest rfl]
    cases further with
    | zero =>
      simp only [decoded, Option.bind_some, String.toList_ofList]
      rfl
    | succ further =>
      simp only [Option.bind_some, Bool.false_eq_true, if_false]
      split
      · exact absurd rfl dot
      · rfl

/-- Counting in bytes comes to the same components, and never cuts a character. Induction on the index. -/
theorem slicedComponent_eq (index : Nat) (text : List Char) :
    slicedComponent index (text.flatMap String.utf8EncodeChar) = some (component index text) := by
  induction index generalizing text with
  | zero =>
    by_cases none : text.takeWhile Char.isDigit = []
    · rw [slicedComponent.eq_def]
      simp only [takeWhile_encode, none]
      rw [component, none]
      rfl
    · rw [slicedComponent_round none, component]
  | succ index ih =>
    by_cases none : text.takeWhile Char.isDigit = []
    · rw [slicedComponent.eq_def]
      simp only [takeWhile_encode, none]
      rw [component, none]
      rfl
    · rw [slicedComponent_round none, component, if_neg (by simpa using none)]
      dsimp only
      rcases text.dropWhile Char.isDigit with _ | ⟨c, rest⟩
      · rfl
      by_cases dot : c = '.'
      · rw [dot]
        exact ih rest
      · simp [dot]

end Bytes

theorem run_toDigits (number : Nat) : Run (Nat.toDigits 10 number) :=
  ⟨Nat.toDigits_ne_nil, isDigit_toDigits number⟩

theorem component_numbers {numbers : List Nat} (nonempty : numbers ≠ [])
    (fit : ∀ number ∈ numbers, number < 2 ^ 32) (stops : Stops rest) (ends : rest.head? ≠ some '.')
    (index : Nat) :
    component index (dotted (numbers.map (Nat.toDigits 10)) ++ rest) = numbers[index]?.getD 0 := by
  have each : ∀ digits ∈ numbers.map (Nat.toDigits 10), Run digits := by
    intro digits member
    obtain ⟨number, -, rfl⟩ := List.mem_map.mp member
    exact run_toDigits number
  rw [component_dotted each (by simpa using nonempty) stops (.inr ends), List.getElem?_map]
  rcases found : numbers[index]? with _ | number
  · rfl
  · have small := fit number (List.mem_of_getElem? found)
    rw [Option.map_some, Option.map_some, runValue_eq, numeral_toDigits, if_pos small]

theorem toList_joined (numbers : List Nat) :
    (String.intercalate "." (numbers.map toString)).toList = dotted (numbers.map (Nat.toDigits 10)) := by
  rw [String.toList_intercalate, List.map_map]
  congr 1
  refine List.map_congr_left fun number _ => ?_
  rw [Function.comp_apply, Nat.toString_eq_ofList_toDigits, String.toList_ofList]

theorem get_of_runs {text : String} (stops : Stops rest) (each : ∀ digits ∈ runs ++ [run], Run digits)
    (begins : text.toList = dotted (runs ++ [run]) ++ rest) :
    get text runs.length = if numeral run < 2 ^ 32 then numeral run else 0 := by
  rw [get, begins, component_dotted each (by simp) stops (.inl (by simp)), List.getElem?_concat_length,
    ← runValue_eq]
  rfl

theorem get_of_no_runs {text : String} {index : Nat}
    (none : ¬ ∃ runs, runs.length = index + 1 ∧ (∀ digits ∈ runs, Run digits) ∧ dotted runs <+: text.toList) :
    get text index = 0 := by
  by_contra found
  exact none (runs_of_component found)

/-- A component is the value of its digit run if that fits in 32 bits, whatever came of the ones before it, and
zero if it does not fit or the text does not begin with as many runs. Counting in bytes comes to the same, and
the text is never cut inside of a character. So numbers joined with dots are read back, with zeros past
the end. -/
theorem get_eq (text : String) (index : Nat) :
    (∀ runs run rest, runs.length = index → (∀ digits ∈ runs ++ [run], Run digits) → Stops rest →
      text.toList = dotted (runs ++ [run]) ++ rest →
      get text index = if numeral run < 2 ^ 32 then numeral run else 0) ∧
    ((¬ ∃ runs, runs.length = index + 1 ∧ (∀ digits ∈ runs, Run digits) ∧ dotted runs <+: text.toList) →
      get text index = 0) ∧
    slicedComponent index (Text.encode text) = some (get text index) ∧
    (∀ (numbers : List Nat) (suffix : String), numbers ≠ [] → (∀ number ∈ numbers, number < 2 ^ 32) →
      Stops suffix.toList → suffix.toList.head? ≠ some '.' →
      text = String.intercalate "." (numbers.map toString) ++ suffix →
      get text index = numbers[index]?.getD 0) := by
  refine ⟨?_, get_of_no_runs, ?_, ?_⟩
  · rintro runs run rest rfl each stops begins
    exact get_of_runs stops each begins
  · rw [Text.encode_eq_flatMap]
    exact slicedComponent_eq index text.toList
  · rintro numbers suffix nonempty fit stops ends rfl
    rw [get, String.toList_append, toList_joined]
    exact component_numbers nonempty fit stops ends index

/-- A first number that is too large is zero by itself, and the letter at the end stays whole. -/
theorem get_eq_oversized : get "4294967296.7.é" 1 = 7 ∧ get "67.0.4esr" 2 = 4 ∧ get "é1" 0 = 0 := by
  refine ⟨?_, ?_, ?_⟩
  · refine ((get_eq "4294967296.7.é" 1).1 ["4294967296".toList] ['7'] ['.', 'é'] rfl ?_ (stops_dot _) ?_).trans ?_
    · intro digits member
      simp only [List.cons_append, List.nil_append, List.mem_cons, List.not_mem_nil, or_false] at member
      rcases member with rfl | rfl
      · exact ⟨by simp, by simp⟩
      · exact ⟨by simp, by simp⟩
    · simp [dotted, List.intercalate]
    · simp [numeral]
  · refine (get_eq "67.0.4esr" 2).2.2.2 [67, 0, 4] "esr" (by simp) (by simp) ?_ (by simp) (by decide)
    intro c same
    simp at same
    subst same
    rfl
  · refine (get_eq "é1" 0).2.1 ?_
    rintro ⟨runs, count, each, back, front⟩
    obtain ⟨digits, rfl⟩ := List.length_eq_one_iff.mp count
    obtain ⟨nonempty, digit⟩ := each digits (List.mem_singleton_self digits)
    obtain ⟨c, others, rfl⟩ := List.exists_cons_of_ne_nil nonempty
    rw [dotted, List.intercalate_singleton, List.cons_append] at front
    obtain rfl : c = 'é' := (List.cons.inj (front.trans (by simp : _ = ['é', '1']))).1
    exact absurd (digit 'é' List.mem_cons_self) (by decide)

end Provision.Version
