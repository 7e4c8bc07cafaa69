import Mathlib
import Provision.Proofs.Machine.Later
import Provision.Proofs.Text.Decoding

/-! A form holds exactly one content. Its part begins behind the first empty line and goes on to the first
delimiter, and that is the one behind the content unless the content has a delimiter in it. -/

namespace Provision.Multipart

open Text

/-- What a part ends at: two hyphens and the boundary, at the beginning of a line. -/
def delimiter (boundary : Bytes) : Bytes := lineEnd ++ [45, 45] ++ boundary

/-- What is behind the first empty line. The flag tells whether a line begins here. -/
def behindEmptyLine : Bool → Bytes → Option Bytes
  | true, 13 :: 10 :: rest => some rest
  | false, 13 :: 10 :: rest => behindEmptyLine true rest
  | _, _ :: rest => behindEmptyLine false rest
  | _, [] => none

/-- The content of a form, as it is found by a reader who knows the boundary. -/
def content? (boundary form : Bytes) : Option Bytes :=
  (behindEmptyLine true form).bind fun part =>
    ((part.dropInfix? (delimiter boundary)).filter fun cut => cut.2 == [45, 45] ++ lineEnd).map Prod.fst

section Lines

variable {byte : UInt8} {line : Bytes} {lines : List Bytes}

theorem behindEmptyLine_other (other : byte ≠ 13) (fresh : Bool) (rest : Bytes) :
    behindEmptyLine fresh (byte :: rest) = behindEmptyLine false rest := by
  rw [behindEmptyLine]
  · exact fun _ _ same => absurd same other
  · exact fun _ _ same => absurd same other

/-- Induction on what is left of the line. -/
theorem behindEmptyLine_rest (plain : 13 ∉ line) (rest : Bytes) :
    behindEmptyLine false (line ++ lineEnd ++ rest) = behindEmptyLine true rest := by
  induction line with
  | nil => rfl
  | cons byte line ih =>
    obtain ⟨other, plain⟩ := List.ne_and_not_mem_of_not_mem_cons plain
    rw [List.cons_append, List.cons_append, behindEmptyLine_other (Ne.symm other), ih plain]

/-- Lines that are not empty are passed over. Induction on their number. -/
theorem behindEmptyLine_lines (each : ∀ line ∈ lines, line ≠ [] ∧ 13 ∉ line) (rest : Bytes) :
    behindEmptyLine true (lines.flatMap (· ++ lineEnd) ++ (lineEnd ++ rest)) = some rest := by
  induction lines with
  | nil => rfl
  | cons line lines ih =>
    obtain ⟨nonempty, plain⟩ := each line List.mem_cons_self
    cases line with
    | nil => exact absurd rfl nonempty
    | cons byte line =>
      obtain ⟨other, plain⟩ := List.ne_and_not_mem_of_not_mem_cons plain
      rw [List.flatMap_cons, List.append_assoc, List.cons_append, List.cons_append,
        behindEmptyLine_other (Ne.symm other), behindEmptyLine_rest plain]
      exact ih fun line member => each line (List.mem_cons_of_mem _ member)

end Lines

section Marks

variable {lead : UInt8} {mark content behind before after : Bytes}

/-- A mark whose first byte does not come again in it cannot overlap another one, so it does not begin in
front of one without being there. -/
theorem length_le_of_free (single : lead ∉ mark) (free : ¬ lead :: mark <:+: content)
    (whole : content ++ lead :: mark ++ behind = before ++ lead :: mark ++ after) :
    content.length ≤ before.length := by
  rw [List.append_assoc, List.append_assoc] at whole
  rcases List.append_eq_append_iff.mp whole with ⟨more, rfl, -⟩ | ⟨more, rfl, rest⟩
  · simp
  -- The mark in front begins within the content, and `more` is the content from there on.
  rcases List.append_eq_append_iff.mp rest with ⟨inside, rfl, -⟩ | ⟨overlap, same, ends⟩
  · exact absurd ⟨before, inside, List.append_assoc ..⟩ free
  cases more with
  | nil => simp
  | cons first more =>
    obtain ⟨rfl, rfl⟩ := List.cons_eq_cons.mp same
    cases overlap with
    | nil => exact absurd ⟨before, [], by simp⟩ free
    | cons again overlap =>
      obtain ⟨rfl, -⟩ := List.cons_eq_cons.mp ends
      exact absurd (List.mem_append_right more List.mem_cons_self) single

/-- So the first mark is the one behind the content, unless there is one in the content. -/
theorem dropInfix?_append_iff (single : lead ∉ mark) :
    (content ++ lead :: mark ++ behind).dropInfix? (lead :: mark) = some (content, behind) ↔
      ¬ lead :: mark <:+: content := by
  rw [List.dropInfix?_eq_some_iff]
  constructor
  · rintro ⟨-, first⟩ ⟨front, back, inside⟩
    have sooner := first front (lead :: mark) (back ++ lead :: mark ++ behind)
      (by simp [← inside]) (beq_self_eq_true _)
    have shorter := congrArg List.length inside
    simp at shorter
    omega
  · intro free
    refine ⟨⟨lead :: mark, rfl, beq_self_eq_true _⟩, fun front other back whole same => ?_⟩
    rw [eq_of_beq same] at whole
    exact length_le_of_free single free whole

theorem dropInfix?_singleton (absent : lead ∉ content) (behind : Bytes) :
    (content ++ [lead] ++ behind).dropInfix? [lead] = some (content, behind) :=
  (dropInfix?_append_iff List.not_mem_nil).mpr (mt (List.singleton_infix_iff lead content).mp absent)

end Marks

section Forms

variable {boundary other content contents : Bytes}

theorem tail_eq (boundary : Bytes) : tail boundary = delimiter boundary ++ ([45, 45] ++ lineEnd) := by
  simp [tail, delimiter]

theorem behindEmptyLine_body (plain : 13 ∉ boundary) (content : Bytes) :
    behindEmptyLine true (body boundary content) =
      some (content ++ delimiter boundary ++ ([45, 45] ++ lineEnd)) := by
  have spelled : body boundary content =
      [[45, 45] ++ boundary, encode "Content-Disposition: form-data; name=\"icon\"; filename=\"img.png\"",
        encode "Content-Type: application/octet-stream"].flatMap (· ++ lineEnd) ++
          (lineEnd ++ (content ++ delimiter boundary ++ ([45, 45] ++ lineEnd))) := by
    simp [body, head, tail_eq]
  rw [spelled, behindEmptyLine_lines]
  intro line member
  simp only [List.mem_cons, List.not_mem_nil, or_false] at member
  rcases member with rfl | rfl | rfl
  · exact ⟨by simp, by simpa using plain⟩
  · decide +kernel
  · decide +kernel

theorem first_delimiter_iff (plain : 13 ∉ boundary) (behind : Bytes) :
    (content ++ delimiter boundary ++ behind).dropInfix? (delimiter boundary) = some (content, behind) ↔
      ¬ delimiter boundary <:+: content :=
  dropInfix?_append_iff (by simp [plain])

/-- The content is found exactly if there is no delimiter in it. -/
theorem content?_body_iff (plain : 13 ∉ boundary) :
    content? boundary (body boundary content) = some content ↔ ¬ delimiter boundary <:+: content := by
  rw [content?, behindEmptyLine_body plain, Option.bind_some, Option.map_eq_some_iff,
    ← first_delimiter_iff plain ([45, 45] ++ lineEnd)]
  constructor
  · rintro ⟨⟨found, closing⟩, kept, rfl⟩
    obtain ⟨cut, closes⟩ := Option.filter_eq_some_iff.mp kept
    rw [cut, ← eq_of_beq closes]
  · intro cut
    exact ⟨_, Option.filter_eq_some_iff.mpr ⟨cut, beq_self_eq_true _⟩, rfl⟩

-- The part ends too soon here, with no end of a form behind it.
example : content? (encode "b0") (body (encode "b0") (encode "a\r\n--b0\r\nb")) = none := by
  decide +kernel

theorem exists_body_eq (boundary content : Bytes) :
    ∃ rest, body boundary content = [45, 45] ++ (boundary ++ [13] ++ rest) := by
  simp only [body, head, lineEnd, List.append_assoc]
  exact ⟨_, rfl⟩

/-- Forms with the same bytes have the same boundary, which ends with the first line, and so the same
content. -/
theorem body_inj (plain : 13 ∉ boundary) (sober : 13 ∉ other)
    (same : body boundary content = body other contents) : boundary = other ∧ content = contents := by
  obtain ⟨rest, opens⟩ := exists_body_eq boundary content
  obtain ⟨others, begins⟩ := exists_body_eq other contents
  have lines : boundary ++ [13] ++ rest = other ++ [13] ++ others := by
    rw [← List.append_right_inj [45, 45], ← opens, same, begins]
  have first := dropInfix?_singleton plain rest
  rw [lines, dropInfix?_singleton sober] at first
  cases first
  exact ⟨rfl, List.append_cancel_left (List.append_cancel_right same)⟩

end Forms

section Boundaries

variable {boundary : String} {content : Bytes}

/-- ASCII letters, digits and hyphens. -/
def IsBoundary (boundary : String) : Prop := ∀ c ∈ boundary.toList, c.isAlphanum = true ∨ c = '-'

theorem toNat_of_letter {c : Char} (letter : c.isAlphanum = true ∨ c = '-') :
    45 ≤ c.toNat ∧ c.toNat < 0x80 := by
  rcases letter with plain | rfl
  · simp [Char.isAlphanum, Char.isAlpha, Char.isUpper, Char.isLower, Char.isDigit,
      UInt32.le_iff_toNat_le] at plain
    omega
  · decide

theorem IsBoundary.unbroken (letters : IsBoundary boundary) : 13 ∉ encode boundary := by
  rw [encode_eq_flatMap]
  intro member
  obtain ⟨c, letter, inside⟩ := List.mem_flatMap.mp member
  obtain ⟨large, small⟩ := toNat_of_letter (letters c letter)
  rw [encode_ascii small, List.mem_singleton] at inside
  have byte := toNat_byte (show c.toNat < 256 by omega)
  rw [← inside] at byte
  exact absurd large (by simp [← byte])

theorem isAlphanum_hexDigit : ∀ value < 16, (hexDigit value).isAlphanum = true := by
  decide

theorem isAlphanum_hexFixed {c : Char} {width value : Nat} (member : c ∈ hexFixed width value) :
    c.isAlphanum = true := by
  induction width generalizing value with
  | zero => cases member
  | succ width ih =>
    rcases List.mem_append.mp member with high | low
    · exact ih high
    · rw [List.mem_singleton.mp low]
      exact isAlphanum_hexDigit _ (Nat.mod_lt _ (by decide))

theorem encode_inj {first second : String} (same : encode first = encode second) : first = second := by
  have read := decode?_encode first
  rw [same, decode?_encode] at read
  exact (Option.some.inj read).symm

/-- A content without the delimiter stands between the first empty line and the first delimiter behind that,
where the form ends; and no other form has the same bytes. -/
theorem body_frames (letters : IsBoundary boundary)
    (free : ¬ delimiter (encode boundary) <:+: content) :
    ∃ part, behindEmptyLine true (body (encode boundary) content) = some part ∧
      part = content ++ delimiter (encode boundary) ++ [45, 45, 13, 10] ∧
      (∀ before behind, part = before ++ delimiter (encode boundary) ++ behind →
        content.length ≤ before.length) ∧
      content? (encode boundary) (body (encode boundary) content) = some content ∧
      ∀ other contents, IsBoundary other →
        body (encode other) contents = body (encode boundary) content →
        other = boundary ∧ contents = content := by
  have sober := letters.unbroken
  refine ⟨_, behindEmptyLine_body sober content, rfl, ?_, (content?_body_iff sober).mpr free, ?_⟩
  · intro before behind whole
    exact length_le_of_free (by simp [sober]) free whole
  · intro other contents letters same
    obtain ⟨bytes, equal⟩ := body_inj letters.unbroken sober same
    exact ⟨encode_inj bytes, equal⟩

/-- The content ends in all of the delimiter but its last byte. -/
theorem body_frames_border :
    ¬ delimiter (encode "b0") <:+: encode "PNG\r\n--b" ∧
    behindEmptyLine true (body (encode "b0") (encode "PNG\r\n--b")) =
      some (encode "PNG\r\n--b\r\n--b0--\r\n") ∧
    ∀ before behind, encode "PNG\r\n--b\r\n--b0--\r\n" = before ++ delimiter (encode "b0") ++ behind →
      8 ≤ before.length := by
  have free : ¬ delimiter (encode "b0") <:+: encode "PNG\r\n--b" := by decide +kernel
  have letters : IsBoundary "b0" := by simp [IsBoundary]
  obtain ⟨part, found, rfl, first, -⟩ := body_frames letters free
  exact ⟨free, found, first⟩

end Boundaries

end Provision.Multipart

namespace Provision.Handlers

open Machine Working Multipart

theorem freshBoundary_eq (machine : Machine) :
    ∃ boundary, IsBoundary boundary ∧
      freshBoundary machine = (.ok boundary, { machine with names := machine.names + 1 }) := by
  refine ⟨"recipe-" ++ String.ofList (Text.hexFixed 32 machine.names), fun c member => ?_, rfl⟩
  rw [String.toList_append] at member
  rcases List.mem_append.mp member with front | digits
  · have letters : "recipe-".toList.all (fun c => c.isAlphanum || c == '-') = true := by decide
    simpa using List.all_eq_true.mp letters c front
  · rw [String.toList_ofList] at digits
    exact .inl (isAlphanum_hexFixed digits)

/-- What UPLOAD sends is a form of the file, and it is read back from it exactly if the file has no delimiter
in it. -/
theorem post_frames {machine : Machine} {path : String} {content : Bytes}
    (readable : machine.disk.read path = .ok content) (address : String) :
    ∃ boundary, IsBoundary boundary ∧
      (post address path machine).2.network =
        (machine.network.send "POST" address (contentType boundary)
          (body (Text.encode boundary) content)).2 ∧
      (content? (Text.encode boundary) (body (Text.encode boundary) content) = some content ↔
        ¬ delimiter (Text.encode boundary) <:+: content) := by
  obtain ⟨boundary, letters, fresh⟩ := freshBoundary_eq machine
  refine ⟨boundary, letters, ?_, content?_body_iff letters.unbroken⟩
  have reads : onDisk (Disk.inquire ("cannot read " ++ path) fun disk => disk.read path) machine =
      (.ok content, machine) := by
    rw [onDisk_eq, Disk.inquire_eq, readable]
    rfl
  rw [post, bind_ok _ reads, bind_ok _ fresh, bind_ok _ (request_eq _ _ _ _ _)]
  rcases answer : (machine.network.send "POST" address (contentType boundary)
    (body (Text.encode boundary) content)).1 with error | response
  · rfl
  · simp only
    split <;> rfl

end Provision.Handlers
