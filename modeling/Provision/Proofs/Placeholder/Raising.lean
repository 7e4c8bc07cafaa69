import Provision.Proofs.Placeholder.Replacement

/-! A text that is resolved with one more frame on the stack. Its index placeholders then have to refer to
one frame further down. Written again with the next number, which may have another length, each of them is
still one placeholder, and there are no others than before. -/

namespace Provision.Placeholder

variable {supported : List Constant} {constants : Constants} {stack : Stack} {frame : Frame}
  {word text : List Char}

/-- An index refers to the next frame, any other word is kept. -/
def raisedWord (word : List Char) : List Char :=
  if word.all Char.isDigit then Nat.toDigits 10 (numeral word + 1) else word

/-- The indices in a text, each with the placeholder for the next one. -/
def raises (pieces : List Piece) : List (Occurrence × String) :=
  ((locate pieces).filter fun occurrence => occurrence.word.all Char.isDigit).map fun occurrence =>
    (occurrence, placeholder (raisedWord occurrence.word))

/-- Every index in a text refers to the next frame, and everything else is kept. -/
def raise (supported : List Constant) (text : String) : String :=
  String.ofList (splice text.toList 0 (raises (split supported text.toList)))

def Piece.raised : Piece → Piece
  | .text c => .text c
  | .word word => .word (raisedWord word)

theorem numeral_toDigits (value : Nat) : numeral (Nat.toDigits 10 value) = value := by
  rw [← digitsValue_eq_numeral]
  exact Nat.ofDigitChars_ten_toDigits

theorem isDigit_toDigits (value : Nat) : ∀ c ∈ Nat.toDigits 10 value, c.isDigit = true :=
  fun _ member => Nat.isDigit_of_mem_toDigits (by decide) (Nat.le_refl 10) member

theorem Grammar.raised (known : Grammar supported word) : Grammar supported (raisedWord word) := by
  unfold raisedWord
  split
  · exact .inl ⟨Nat.toDigits_ne_nil, isDigit_toDigits _⟩
  · exact known

theorem raises_text (c : Char) (rest : List Piece) :
    raises (.text c :: rest) = shiftEdits 1 (raises rest) := by
  simp only [raises, locate, shiftEdits, List.filter_map, List.map_map]
  rfl

theorem raises_word (word : List Char) (rest : List Piece) :
    raises (.word word :: rest) =
      (if word.all Char.isDigit then [(⟨0, word⟩, placeholder (raisedWord word))] else []) ++
        shiftEdits (marked word).length (raises rest) := by
  have later : (((locate rest).map (Occurrence.shift (marked word).length)).filter
      fun occurrence => occurrence.word.all Char.isDigit).map
        (fun occurrence => (occurrence, placeholder (raisedWord occurrence.word))) =
      shiftEdits (marked word).length (raises rest) := by
    simp only [raises, shiftEdits, List.filter_map, List.map_map]
    rfl
  rw [raises, locate, List.filter_cons]
  split
  · rw [List.map_cons, later]
    rfl
  · rw [later]
    rfl

/-- Piece by piece, only the words of indices change. -/
theorem splice_raises (pieces : List Piece) :
    splice (pieces.flatMap Piece.source) 0 (raises pieces) =
      (pieces.map Piece.raised).flatMap Piece.source := by
  induction pieces with
  | nil => rfl
  | cons piece rest ih =>
    cases piece with
    | text c =>
      rw [raises_text, List.flatMap_cons]
      exact (splice_front [c] _ _).trans (congrArg ([c] ++ ·) ih)
    | word word =>
      rw [raises_word, List.flatMap_cons, List.map_cons, List.flatMap_cons, ← ih]
      by_cases digits : word.all Char.isDigit = true
      · rw [if_pos digits]
        refine (splice_marked word _ _ _).trans ?_
        rw [placeholder, String.toList_ofList]
        rfl
      · have kept : raisedWord word = word := if_neg digits
        rw [if_neg digits, List.nil_append]
        refine (splice_front (marked word) _ _).trans ?_
        rw [Piece.raised, kept]
        rfl

/-- The text that the pieces come to with the next numbers. -/
theorem toList_raise (text : String) :
    (raise supported text).toList =
      ((split supported text.toList).map Piece.raised).flatMap Piece.source := by
  have spliced := splice_raises (split supported text.toList)
  rw [flatMap_split] at spliced
  rw [raise, String.toList_ofList, spliced]

/-- What a text begins with up to the next opening brace is as it was. -/
theorem prefix_of_raised {front : List Char} (plain : '\x7b' ∉ front)
    (starts : front <+: ((split supported text).map Piece.raised).flatMap Piece.source) :
    front <+: text := by
  induction front generalizing text with
  | nil => exact List.nil_prefix
  | cons c front ih =>
    have first : c ≠ '\x7b' := fun brace => plain (brace ▸ List.mem_cons_self)
    have later : '\x7b' ∉ front := fun member => plain (List.mem_cons_of_mem c member)
    cases text using scan_induction supported with
    | nil =>
      rw [split_nil] at starts
      exact absurd (List.prefix_nil.mp starts) (List.cons_ne_nil _ _)
    | placeholder word rest known _ =>
      rw [split_marked known] at starts
      exact absurd (List.cons_prefix_cons.mp starts).1 first
    | plain other rest none _ =>
      rw [split_text none] at starts
      obtain ⟨rfl, behind⟩ := List.cons_prefix_cons.mp starts
      exact List.cons_prefix_cons.mpr ⟨rfl, ih later behind⟩

/-- The next numbers make no new placeholder with what stands around them. -/
theorem split_raised (text : List Char) :
    split supported (((split supported text).map Piece.raised).flatMap Piece.source) =
      (split supported text).map Piece.raised := by
  induction text using scan_induction supported with
  | nil => simp [split_nil]
  | placeholder word rest known ih =>
    rw [split_marked known, List.map_cons, List.flatMap_cons]
    exact (split_marked known.raised _).trans (congrArg _ ih)
  | plain c rest none ih =>
    rw [split_text none, List.map_cons, List.flatMap_cons]
    refine (split_text fun word known starts => ?_).trans (congrArg _ ih)
    obtain ⟨rfl, second⟩ := List.cons_prefix_cons.mp starts
    -- A placeholder that begins here would have begun here before.
    refine none word known (List.cons_prefix_cons.mpr ⟨rfl, ?_⟩)
    have inside : '\x7b' ∉ word ++ ['\x7d', '\x7d'] := fun member =>
      (List.mem_append.mp member).elim (fun within => (known.plain _ within).1 rfl) (by simp)
    cases rest using scan_induction supported with
    | nil =>
      rw [split_nil] at second
      exact absurd (List.prefix_nil.mp second) (List.cons_ne_nil _ _)
    | placeholder other behind well _ =>
      rw [split_marked well] at second
      have third := (List.cons_prefix_cons.mp second).2
      rcases whole : word ++ ['\x7d', '\x7d'] with _ | ⟨first, more⟩
      · simp at whole
      · rw [whole] at third inside
        exact absurd (List.cons_prefix_cons.mp third).1 fun brace => inside (brace ▸ List.mem_cons_self)
    | plain other behind alone _ =>
      rw [split_text alone] at second
      obtain ⟨rfl, closed⟩ := List.cons_prefix_cons.mp second
      exact List.cons_prefix_cons.mpr ⟨rfl, prefix_of_raised inside closed⟩

/-- The words of the placeholders among the pieces, from left to right. -/
def words (pieces : List Piece) : List (List Char) := (locate pieces).map Occurrence.word

theorem words_text (c : Char) (rest : List Piece) : words (.text c :: rest) = words rest := by
  rw [words, locate, List.map_map]
  rfl

theorem words_word (word : List Char) (rest : List Piece) :
    words (.word word :: rest) = word :: words rest := by
  rw [words, locate, List.map_cons, List.map_map]
  rfl

theorem words_raised (pieces : List Piece) :
    words (pieces.map Piece.raised) = (words pieces).map raisedWord := by
  induction pieces with
  | nil => rfl
  | cons piece rest ih =>
    cases piece with
    | text c => rw [List.map_cons, Piece.raised, words_text, words_text, ih]
    | word word => rw [List.map_cons, Piece.raised, words_word, words_word, List.map_cons, ih]

/-- All words in front of this one have values, and this one has none. -/
structure FailsAt (constants : Constants) (stack : Stack) (words : List (List Char)) (place : Nat)
    (fault : Fault) : Prop where
  before : ∀ word ∈ words.take place, ∃ value, lookup constants stack word = .ok value
  fails : ∃ word, words[place]? = some word ∧ lookup constants stack word = .error fault

theorem failsAt_first {fault : Fault} (fails : lookup constants stack word = .error fault)
    (rest : List (List Char)) : FailsAt constants stack (word :: rest) 0 fault :=
  ⟨fun _ => nofun, word, rfl, fails⟩

theorem FailsAt.cons {fault : Fault} {value : String} {rest : List (List Char)} {place : Nat}
    (found : lookup constants stack word = .ok value) (later : FailsAt constants stack rest place fault) :
    FailsAt constants stack (word :: rest) (place + 1) fault := by
  refine ⟨fun other member => ?_, later.fails⟩
  rcases List.mem_cons.mp member with rfl | behind
  · exact ⟨value, found⟩
  · exact later.before other behind

/-- The same fault, where there is one more frame on the stack. An index is told as far as one word
reaches. -/
inductive Deeper : Fault → Fault → Prop where
  | index (depth size : Nat) : Deeper (.indexOutOfRange (min depth Stack.maxDepth) size)
    (.indexOutOfRange (min (depth + 1) Stack.maxDepth) (size + 1))
  | same (fault : Fault) : Deeper fault fault

theorem Deeper.kind {fault later : Fault} (deeper : Deeper fault later) : later.kind = fault.kind := by
  cases deeper <;> rfl

/-- A word other than that of an output. -/
def Silent (word : List Char) : Prop := word ≠ "STD_OUT".toList ∧ word ≠ "STD_ERR".toList

/-- What a word stands for is the same with the next frame on the stack, or missing in both cases. -/
theorem lookup_raisedWord (frame : Frame) (known : Grammar supported word) (silent : Silent word) :
    (∃ value, lookup constants stack word = .ok value ∧
      lookup constants (frame :: stack) (raisedWord word) = .ok value) ∨
    ∃ fault later, lookup constants stack word = .error fault ∧
      lookup constants (frame :: stack) (raisedWord word) = .error later ∧ Deeper fault later := by
  rcases known with ⟨-, digits⟩ | out | err | ⟨constant, -, rfl⟩
  · have next : raisedWord word = Nat.toDigits 10 (numeral word + 1) :=
      if_pos (List.all_eq_true.mpr digits)
    rw [next, lookup_digits digits, lookup_digits (isDigit_toDigits _), numeral_toDigits]
    by_cases inside : numeral word < stack.length
    · have further : numeral word + 1 < (frame :: stack).length := Nat.succ_lt_succ inside
      rw [dif_pos inside, dif_pos further]
      exact .inl ⟨_, rfl, rfl⟩
    · have further : ¬ numeral word + 1 < (frame :: stack).length := fun more =>
        inside (Nat.lt_of_succ_lt_succ more)
      rw [dif_neg inside, dif_neg further]
      exact .inr ⟨_, _, rfl, rfl, .index _ _⟩
  · exact absurd out silent.1
  · exact absurd err silent.2
  · have letters : constant.keyword.toList.all Char.isDigit = false := by
      cases constant <;> simp [Constant.keyword]
    have kept : raisedWord constant.keyword.toList = constant.keyword.toList :=
      if_neg (by rw [letters]; exact Bool.false_ne_true)
    have parsed := parse_keyword constant
    rw [kept, lookup_of_parse parsed, lookup_of_parse parsed]
    rcases found : constants.value constant with fault | value
    · exact .inr ⟨fault, fault, found, found, .same fault⟩
    · exact .inl ⟨value, found, found⟩

/-- Two outcomes of resolving pieces: the same text, or the same kind of fault at the same word. -/
inductive Agree (constants : Constants) (stack : Stack) (frame : Frame) (words : List (List Char)) :
    Except Fault (List Char) → Except Fault (List Char) → Prop where
  | resolved (text : List Char) : Agree constants stack frame words (.ok text) (.ok text)
  | failed {place : Nat} {fault later : Fault} (deeper : Deeper fault later)
    (first : FailsAt constants stack words place fault)
    (second : FailsAt constants (frame :: stack) (words.map raisedWord) place later) :
    Agree constants stack frame words (.error fault) (.error later)

section

variable {words : List (List Char)} {first second : Except Fault (List Char)}

theorem Agree.map (agree : Agree constants stack frame words first second) (front : List Char) :
    Agree constants stack frame words (first.map (front ++ ·)) (second.map (front ++ ·)) := by
  cases agree with
  | resolved text => exact .resolved _
  | failed deeper one two => exact .failed deeper one two

theorem Agree.behind {value : String} (agree : Agree constants stack frame words first second)
    (found : lookup constants stack word = .ok value)
    (again : lookup constants (frame :: stack) (raisedWord word) = .ok value) :
    Agree constants stack frame (word :: words) first second := by
  cases agree with
  | resolved text => exact .resolved _
  | failed deeper one two => exact .failed deeper (one.cons found) (two.cons again)

/-- A result is the same text, or the fault is of the same kind at the same word. -/
theorem Agree.cases_map (agree : Agree constants stack frame words first second)
    (finish : List Char → String) :
    (∃ resolved, first.map finish = .ok resolved ∧ second.map finish = .ok resolved) ∨
      ∃ place fault later, first.map finish = .error fault ∧ second.map finish = .error later ∧
        Deeper fault later ∧ later.kind = fault.kind ∧ FailsAt constants stack words place fault ∧
        FailsAt constants (frame :: stack) (words.map raisedWord) place later := by
  cases agree with
  | resolved text => exact .inl ⟨_, rfl, rfl⟩
  | failed deeper one two => exact .inr ⟨_, _, _, rfl, rfl, deeper, deeper.kind, one, two⟩

end

theorem expand_text (c : Char) (rest : List Piece) :
    expand constants stack (.text c :: rest) = (expand constants stack rest).map ([c] ++ ·) := by
  rw [expand, expand_cons]
  rfl

theorem expand_found {value : String} (found : lookup constants stack word = .ok value)
    (rest : List Piece) : expand constants stack (.word word :: rest) =
      (expand constants stack rest).map (value.toList ++ ·) := by
  rw [expand, expand_cons, Piece.expand, found]
  rfl

theorem expand_lost {fault : Fault} (lost : lookup constants stack word = .error fault)
    (rest : List Piece) : expand constants stack (.word word :: rest) = .error fault := by
  rw [expand, expand_cons, Piece.expand, lost]
  rfl

/-- Induction on the pieces. -/
theorem agree_raised (constants : Constants) (stack : Stack) (frame : Frame) (pieces : List Piece)
    (each : ∀ word ∈ words pieces, Grammar supported word ∧ Silent word) :
    Agree constants stack frame (words pieces) (expand constants stack pieces)
      (expand constants (frame :: stack) (pieces.map Piece.raised)) := by
  induction pieces with
  | nil => exact .resolved []
  | cons piece rest ih =>
    rw [List.map_cons]
    cases piece with
    | text c =>
      rw [words_text] at each ⊢
      rw [Piece.raised, expand_text, expand_text]
      exact (ih each).map [c]
    | word word =>
      rw [words_word] at each ⊢
      obtain ⟨known, silent⟩ := each word List.mem_cons_self
      have later := ih fun other member => each other (List.mem_cons_of_mem word member)
      rw [Piece.raised]
      rcases lookup_raisedWord frame known silent with
        ⟨value, found, again⟩ | ⟨fault, later, lost, again, deeper⟩
      · rw [expand_found found, expand_found again]
        exact (later.behind found again).map value.toList
      · rw [expand_lost lost, expand_lost again]
        exact .failed deeper (failsAt_first lost _) (failsAt_first again _)

/-- One more frame on the stack is made up for by referring to the next frame: the result is the same text,
or the same kind of fault at the same placeholder. What the outputs are of is the topmost frame, so there
must be no placeholder for them. -/
theorem resolve_raise (constants : Constants) (stack : Stack) (frame : Frame) (text : String)
    (silent : ∀ occurrence, Occurs constants.supported text.toList occurrence →
      occurrence.word ≠ "STD_OUT".toList ∧ occurrence.word ≠ "STD_ERR".toList) :
    let raised := raise constants.supported text
    let placeholders := words (split constants.supported text.toList)
    words (split constants.supported raised.toList) = placeholders.map raisedWord ∧
    ((∃ resolved, resolve constants stack text = .ok resolved ∧
        resolve constants (frame :: stack) raised = .ok resolved) ∨
      ∃ place fault later, resolve constants stack text = .error fault ∧
        resolve constants (frame :: stack) raised = .error later ∧
        Deeper fault later ∧ later.kind = fault.kind ∧
        FailsAt constants stack placeholders place fault ∧
        FailsAt constants (frame :: stack) (placeholders.map raisedWord) place later) := by
  intro raised placeholders
  have cut : split constants.supported raised.toList =
      (split constants.supported text.toList).map Piece.raised := by
    rw [toList_raise, split_raised]
  have each : ∀ word ∈ placeholders, Grammar constants.supported word ∧ Silent word := by
    intro word member
    obtain ⟨occurrence, found, rfl⟩ := List.mem_map.mp member
    have occurs := (mem_locate _ _).mp found
    exact ⟨occurs.1, silent occurrence occurs⟩
  refine ⟨by rw [cut, words_raised], ?_⟩
  rw [resolve_eq_expand, resolve_eq_expand, cut]
  exact (agree_raised constants stack frame _ each).cases_map String.ofList

/-- A number that gets one digit more. -/
theorem resolve_raise_carry :
    let constants : Constants := ⟨[], fun constant => .error (.invalidRecipe constant.keyword)⟩
    let stack := List.replicate 10 (Frame.ofValue "below")
    raise constants.supported (placeholder "09".toList) = placeholder "10".toList ∧
      ∃ resolved, resolve constants stack (placeholder "09".toList) = .ok resolved ∧
        resolve constants (Frame.ofValue "new" :: stack) (placeholder "10".toList) = .ok resolved := by
  intro constants stack
  have digits : ∀ c ∈ "09".toList, c.isDigit = true := by simp
  have nine : numeral "09".toList = 9 := by
    rw [← digitsValue_eq_numeral]
    rfl
  have next : raisedWord "09".toList = "10".toList := by
    rw [raisedWord, if_pos (List.all_eq_true.mpr digits), nine]
    rfl
  have known : Grammar constants.supported "09".toList := .inl ⟨by simp, digits⟩
  have cut := split_placeholder known
  have raised : raise constants.supported (placeholder "09".toList) = placeholder "10".toList := by
    rw [← String.toList_inj, toList_raise, cut, List.map_singleton, Piece.raised, next, placeholder,
      String.toList_ofList]
    rfl
  have silent : ∀ occurrence, Occurs constants.supported (placeholder "09".toList).toList occurrence →
      occurrence.word ≠ "STD_OUT".toList ∧ occurrence.word ≠ "STD_ERR".toList := by
    intro occurrence occurs
    have member := (mem_locate _ _).mpr occurs
    rw [cut] at member
    obtain rfl := List.mem_singleton.mp member
    simp
  obtain ⟨-, found | ⟨_, _, _, lost, -⟩⟩ :=
    resolve_raise constants stack (Frame.ofValue "new") (placeholder "09".toList) silent
  · rw [raised] at found
    exact ⟨raised, found⟩
  · have deepest : stack[numeral "09".toList]? = some (Frame.ofValue "below") := by
      rw [nine]
      rfl
    rw [resolve_placeholder known, lookup_at constants digits deepest] at lost
    cases lost

end Provision.Placeholder
