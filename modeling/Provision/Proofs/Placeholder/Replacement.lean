import Mathlib.Data.List.Pairwise
import Provision.Proofs.Placeholder.Substitution

/-! Two texts are resolved each for itself unless a placeholder reaches from one into the other. None
reaches into a placeholder, behind closing braces, or out of a text without opening ones. -/

namespace Provision.Placeholder

variable {supported : List Constant} {constants : Constants} {stack : Stack} {word : List Char}

/-- Two occurrences are the same, or one stops before the other starts. -/
theorem Occurs.apart {text : List Char} {first second : Occurrence}
    (one : Occurs supported text first) (other : Occurs supported text second)
    (different : first ≠ second) : first.stop ≤ second.start ∨ second.stop ≤ first.start := by
  have ordered := locate_pairwise (split supported text)
  have both : (locate (split supported text)).Pairwise fun first second =>
      first.stop ≤ second.start ∨ second.stop ≤ first.start := ordered.imp Or.inl
  have _ : Std.Symm fun first second : Occurrence =>
      first.stop ≤ second.start ∨ second.stop ≤ first.start := ⟨fun _ _ => Or.symm⟩
  exact both.forall ((mem_locate supported text).mpr one) ((mem_locate supported text).mpr other)
    different

/-- No placeholder reaches from the front into the rest. -/
def Sealed (supported : List Constant) (front rest : List Char) : Prop :=
  ∀ back, back <:+ front → back ≠ [] → ∀ word, Grammar supported word →
    marked word <+: back ++ rest → marked word <+: back

/-- A placeholder is never entered from the front. -/
theorem sealed_marked (known : Grammar supported word) (front rest : List Char) :
    Sealed supported front (marked word ++ rest) := by
  intro back _ nonempty other well starts
  have first : Occurs supported (back ++ (marked word ++ rest)) ⟨0, other⟩ := ⟨well, starts⟩
  have second : Occurs supported (back ++ (marked word ++ rest)) ⟨back.length, word⟩ := by
    refine ⟨known, ?_⟩
    rw [List.drop_left]
    exact List.prefix_append _ _
  have different : (⟨0, other⟩ : Occurrence) ≠ ⟨back.length, word⟩ := by
    intro same
    exact nonempty (List.eq_nil_of_length_eq_zero (congrArg Occurrence.start same).symm)
  rcases first.apart second different with before | behind
  · have short : (marked other).length ≤ back.length := by simpa [Occurrence.stop] using before
    exact List.prefix_of_prefix_length_le starts (List.prefix_append _ _) short
  · simp [Occurrence.stop, marked] at behind

/-- Where there is no opening brace, nothing begins. -/
theorem sealed_plain {front : List Char} (plain : '\x7b' ∉ front) (rest : List Char) :
    Sealed supported front rest := by
  rintro (_ | ⟨c, back⟩) part nonempty other - ⟨_, same⟩
  · exact absurd rfl nonempty
  · have brace : '\x7b' = c := (List.cons.inj same).1
    exact absurd (part.mem (brace ▸ List.mem_cons_self)) plain

/-- The first closing braces behind its opening ones end a placeholder. -/
theorem sealed_closed (start rest : List Char) :
    Sealed supported (start ++ ['\x7d', '\x7d']) rest := by
  rintro back ⟨before, same⟩ nonempty other well starts
  have open_ : ∀ c ∈ '\x7b' :: '\x7b' :: other, c ≠ '\x7d' := by
    intro c member
    rcases List.mem_cons.mp member with rfl | member
    · decide
    · rcases List.mem_cons.mp member with rfl | member
      · decide
      · exact (well.plain c member).2
  have shape : marked other = ('\x7b' :: '\x7b' :: other) ++ ['\x7d'] ++ ['\x7d'] := by simp [marked]
  have ends : before ++ back = (start ++ ['\x7d']) ++ ['\x7d'] := by simpa using same
  obtain ⟨inner, last, rfl⟩ : ∃ inner last, back = inner ++ [last] :=
    ⟨_, _, (List.dropLast_append_getLast nonempty).symm⟩
  obtain ⟨earlier, rfl⟩ : before ++ inner = start ++ ['\x7d'] ∧ last = '\x7d' := by
    rw [← List.append_assoc] at ends
    simpa using List.append_inj' ends rfl
  by_contra cut
  -- What stands before the seam is then a proper part of the placeholder.
  have short : (inner ++ ['\x7d']).length < (marked other).length := by
    by_contra long
    exact cut (List.prefix_of_prefix_length_le starts (List.prefix_append _ _) (by omega))
  have part : inner ++ ['\x7d'] <+: ('\x7b' :: '\x7b' :: other) ++ ['\x7d'] := by
    have whole : inner ++ ['\x7d'] <+: marked other :=
      List.prefix_of_prefix_length_le (List.prefix_append _ _) starts (by omega)
    refine List.prefix_of_prefix_length_le whole (shape ▸ List.prefix_append _ _) ?_
    rw [shape] at short
    simp at short ⊢
    omega
  rcases List.prefix_concat_iff.mp part with all | front
  · have same : inner = '\x7b' :: '\x7b' :: other := (List.append_inj' all rfl).1
    rw [same] at earlier
    have closing : ('\x7b' :: '\x7b' :: other).getLast? = some '\x7d' := by
      have lasts := congrArg List.getLast? earlier
      rwa [List.getLast?_append_of_ne_nil _ (by simp), List.getLast?_concat] at lasts
    exact open_ _ (List.mem_of_getLast? closing) rfl
  · exact open_ _ (front.mem (List.mem_append_right _ List.mem_cons_self)) rfl

/-- Induction on what stands in front, placeholder by placeholder. -/
theorem split_append {front rest : List Char} (seam : Sealed supported front rest) :
    split supported (front ++ rest) = split supported front ++ split supported rest := by
  induction front using scan_induction supported with
  | nil => rw [List.nil_append, split_nil, List.nil_append]
  | placeholder other inner well ih =>
    have inside : Sealed supported inner rest := fun back part =>
      seam back (part.trans (List.suffix_append _ _))
    rw [List.append_assoc, split_marked well, split_marked well, ih inside, List.cons_append]
  | plain c inner none ih =>
    have inside : Sealed supported inner rest := fun back part =>
      seam back (part.trans (List.suffix_cons _ _))
    have nothing : ∀ other, Grammar supported other → ¬ marked other <+: c :: (inner ++ rest) :=
      fun other well starts =>
        none other well (seam _ List.suffix_rfl (List.cons_ne_nil _ _) other well starts)
    rw [List.cons_append, split_text nothing, split_text none, ih inside, List.cons_append]

/-- The characters that the pieces of a text come to. -/
def expand (constants : Constants) (stack : Stack) (pieces : List Piece) :
    Except Fault (List Char) :=
  (pieces.mapM (Piece.expand constants stack)).map List.flatten

theorem resolve_eq_expand (text : String) :
    resolve constants stack text =
      (expand constants stack (split constants.supported text.toList)).map String.ofList := by
  rw [resolve, expand]
  cases (split constants.supported text.toList).mapM (Piece.expand constants stack) <;> rfl

theorem expand_append (first second : List Piece) :
    expand constants stack (first ++ second) =
      expand constants stack first >>= fun before =>
        (expand constants stack second).map (before ++ ·) := by
  induction first with
  | nil =>
    rw [List.nil_append]
    change _ = (expand constants stack second).map id
    cases expand constants stack second <;> rfl
  | cons piece rest ih =>
    have all : expand constants stack (piece :: rest) =
        piece.expand constants stack >>= fun value =>
          (expand constants stack rest).map (value ++ ·) := expand_cons piece rest
    rw [List.cons_append, expand, expand_cons, ← expand, ih, all]
    cases piece.expand constants stack with
    | error fault => rfl
    | ok value =>
      cases expand constants stack rest with
      | error fault => rfl
      | ok before =>
        cases expand constants stack second with
        | error fault => rfl
        | ok after => exact congrArg Except.ok (List.append_assoc value before after).symm

theorem expand_word (word : List Char) :
    expand constants stack [.word word] = (lookup constants stack word).map String.toList := by
  rw [expand, expand_cons]
  cases found : lookup constants stack word with
  | error fault => simp [Piece.expand, found, bind, Except.bind, Except.map]
  | ok value => simp [Piece.expand, found, bind, Except.bind, Except.map, pure, Except.pure]

/-- An index that reaches a frame yields its value. -/
theorem lookup_at (constants : Constants) {frame : Frame} (digits : ∀ c ∈ word, c.isDigit)
    (found : stack[numeral word]? = some frame) :
    lookup constants stack word = .ok frame.value := by
  rw [lookup_of_parse (parse_digits digits), Token.value, Stack.peek, found]
  rfl

theorem lookup_out_at (constants : Constants) {frame : Frame} (top : stack[0]? = some frame) :
    lookup constants stack "STD_OUT".toList = .ok (frame.out.getD "") := by
  rw [lookup_of_parse parse_out, Token.value, Stack.peek, top]
  rfl

/-- The text of a placeholder. -/
def placeholder (word : List Char) : String := String.ofList (marked word)

/-- The result stands where a placeholder stood, whatever there is around it. -/
def Yields (constants : Constants) (stack : Stack) (word : List Char)
    (result : Except Fault String) : Prop :=
  ∀ front back, resolve constants stack (front ++ placeholder word ++ back) = do
    let before ← resolve constants stack front
    let value ← result
    let after ← resolve constants stack back
    return before ++ value ++ after

/-- Two texts are resolved each for itself where no placeholder reaches from one into the other. -/
theorem resolve_append {front text : String}
    (seam : Sealed constants.supported front.toList text.toList) :
    resolve constants stack (front ++ text) = do
      let before ← resolve constants stack front
      let after ← resolve constants stack text
      return before ++ after := by
  rw [resolve_eq_expand, String.toList_append, split_append seam, expand_append,
    resolve_eq_expand front, resolve_eq_expand text]
  cases expand constants stack (split constants.supported front.toList) with
  | error fault => rfl
  | ok before =>
    cases expand constants stack (split constants.supported text.toList) with
    | error fault => rfl
    | ok after => simp [bind, Except.bind, Except.map, pure, Except.pure, String.ofList_append]

theorem split_placeholder (known : Grammar supported word) :
    split supported (placeholder word).toList = [.word word] := by
  have taken := split_marked known []
  rw [List.append_nil, split_nil] at taken
  rwa [placeholder, String.toList_ofList]

theorem resolve_placeholder (known : Grammar constants.supported word) :
    resolve constants stack (placeholder word) = lookup constants stack word := by
  rw [resolve_eq_expand, split_placeholder known, expand_word]
  cases lookup constants stack word with
  | error fault => rfl
  | ok value => exact congrArg Except.ok String.ofList_toList

/-- Nothing reaches across either end of a placeholder. -/
theorem yields_lookup (known : Grammar constants.supported word) :
    Yields constants stack word (lookup constants stack word) := by
  intro front back
  have behind : Sealed constants.supported (front ++ placeholder word).toList back.toList := by
    have closed : Sealed constants.supported
        (front.toList ++ '\x7b' :: '\x7b' :: word ++ ['\x7d', '\x7d']) back.toList :=
      sealed_closed _ _
    simpa [placeholder, marked] using closed
  have ahead : Sealed constants.supported front.toList (placeholder word).toList := by
    have opened := sealed_marked known front.toList []
    simpa [placeholder] using opened
  rw [resolve_append behind, resolve_append ahead, resolve_placeholder known]
  simp only [bind_assoc, pure_bind]

/-- A text in which no placeholder occurs is kept. -/
theorem resolve_of_no_occurrence {text : String}
    (none : ∀ occurrence, ¬ Occurs constants.supported text.toList occurrence) :
    resolve constants stack text = .ok text := by
  have nothing : locate (split constants.supported text.toList) = [] :=
    List.eq_nil_iff_forall_not_mem.mpr fun occurrence member =>
      none occurrence ((mem_locate _ _).mp member)
  rw [resolve_eq, nothing]
  exact congrArg Except.ok String.ofList_toList

theorem resolve_of_plain {text : String} (plain : '\x7b' ∉ text.toList) :
    resolve constants stack text = .ok text :=
  resolve_of_no_occurrence fun _ occurs => plain (List.mem_of_getElem? occurs.braces.1)

end Provision.Placeholder
