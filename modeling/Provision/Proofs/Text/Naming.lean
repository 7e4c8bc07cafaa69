import Mathlib.Data.List.DropRight
import Mathlib.Data.List.TakeWhile
import Provision.FileName
import Provision.Proofs.Text.Decoding

/-! Names from addresses are safe: they are made of what no platform refuses, what follows the path of the
address does not count, and being made safe once is enough. -/

namespace Provision.FileName

open Text

variable {name url : List Char} {drop : Char → Bool} {c : Char}

theorem mem_of_mem_trimBoth (member : c ∈ trimBoth drop name) : c ∈ name := by
  have half := List.mem_reverse.mp ((List.dropWhile_suffix _).mem (List.mem_reverse.mp member))
  exact (List.dropWhile_suffix _).mem half

theorem head_dropWhile (first : (name.dropWhile drop).head? = some c) : drop c = false := by
  have stops := List.head?_dropWhile_not drop name
  rw [first] at stops
  exact stops

theorem head_trimBoth (first : (trimBoth drop name).head? = some c) : drop c = false := by
  have front : trimBoth drop name <+: name.dropWhile drop := List.rdropWhile_prefix drop _
  obtain ⟨back, whole⟩ := front
  refine @head_dropWhile name drop c ?_
  rw [← whole, List.head?_append, first]
  rfl

theorem last_trimBoth (last : (trimBoth drop name).getLast? = some c) : drop c = false := by
  rw [trimBoth, List.getLast?_reverse] at last
  exact head_dropWhile last

/-- No platform refuses any of its characters, and there is no dot at either end. -/
structure Safe (name : List Char) : Prop where
  kept : ∀ c ∈ name, isUnsafe c = false
  first : name.head? ≠ some '.'
  last : name.getLast? ≠ some '.'

theorem safe_sanitizeChars (name : List Char) : Safe (sanitizeChars name) := by
  refine ⟨fun c member => ?_, fun dot => ?_, fun dot => ?_⟩
  · obtain ⟨original, -, rfl⟩ := List.mem_map.mp (mem_of_mem_trimBoth member)
    split
    · decide
    · rename_i kept
      exact (Bool.not_eq_true _).mp kept
  · exact absurd (head_trimBoth dot) (by decide)
  · exact absurd (last_trimBoth dot) (by decide)

theorem sanitizeChars_of_safe (safe : Safe name) : sanitizeChars name = name := by
  have kept : (name.map fun c => if isUnsafe c then '_' else c) = name := by
    conv_rhs => rw [← List.map_id name]
    refine List.map_congr_left fun c member => ?_
    rw [safe.kept c member]
    rfl
  have other : ∀ c : Char, some c ≠ some '.' → (c == '.') = false := by simp
  rw [sanitizeChars, kept]
  refine trimBoth_eq_self (fun c first => other c ?_) fun c last => other c ?_
  · rw [← first]
    exact safe.first
  · rw [← last]
    exact safe.last

/-- The address as far as its path. -/
theorem path_eq (url : List Char) :
    (url.takeWhile (· != '?')).takeWhile (· != '#') = url.takeWhile fun c => c != '#' && c != '?' := by
  rw [List.takeWhile_takeWhile]
  congr 1
  funext c
  rw [Bool.decide_and, Bool.decide_eq_true, Bool.decide_eq_true]

theorem lastSegment_eq_self (single : '/' ∉ name) : lastSegment name = name := by
  rw [lastSegment, List.takeWhile_eq_self_iff.mpr, List.reverse_reverse]
  intro c member
  simpa using ne_of_mem_of_not_mem (List.mem_reverse.mp member) single

theorem mem_lastSegment (member : c ∈ lastSegment url) : c ∈ url ∧ c ≠ '/' := by
  have taken := List.mem_reverse.mp member
  have inside := (List.takeWhile_prefix _).mem taken
  exact ⟨List.mem_reverse.mp inside, by simpa using List.mem_takeWhile_imp taken⟩

theorem safe_ofUrlChars (url : List Char) : Safe (ofUrlChars url) := by
  unfold ofUrlChars
  split
  · have each : "download".toList.all (fun c => !isUnsafe c) = true := by decide
    refine ⟨fun c member => ?_, by decide, by decide⟩
    simpa only [Bool.not_eq_true'] using List.all_eq_true.mp each c member
  · exact safe_sanitizeChars _

theorem hash_not_mem_ofUrlChars (url : List Char) : '#' ∉ ofUrlChars url := by
  unfold ofUrlChars
  split
  · decide
  · intro hash
    obtain ⟨original, member, same⟩ := List.mem_map.mp (mem_of_mem_trimBoth hash)
    split at same
    · exact absurd same (by decide)
    · subst same
      have path := (mem_lastSegment member).1
      rw [path_eq] at path
      exact absurd (List.mem_takeWhile_imp path) (by decide)

theorem ofUrlChars_ne_nil (url : List Char) : ofUrlChars url ≠ [] := by
  unfold ofUrlChars
  split
  · decide
  · assumption

/-- What is behind a question mark or a hash does not count. -/
theorem ofUrlChars_append {mark : Char} (marks : mark = '?' ∨ mark = '#') (url tail : List Char) :
    ofUrlChars (url ++ mark :: tail) = ofUrlChars url := by
  have cut : ∀ stop : Char → Bool, stop mark = false →
      (url ++ mark :: tail).takeWhile stop = url.takeWhile stop := by
    intro stop stops
    rw [List.takeWhile_append]
    split
    · rename_i whole
      rw [List.takeWhile_cons_of_neg (by simp [stops]), List.append_nil,
        (List.takeWhile_prefix stop).eq_of_length whole]
    · rfl
  have same : ((url ++ mark :: tail).takeWhile (· != '?')).takeWhile (· != '#') =
      (url.takeWhile (· != '?')).takeWhile (· != '#') := by
    rw [path_eq, path_eq]
    refine cut _ ?_
    rcases marks with rfl | rfl <;> rfl
  rw [ofUrlChars, ofUrlChars, same]

/-- A name is what it comes to as an address. -/
theorem ofUrlChars_of_safe (safe : Safe name) (nonempty : name ≠ []) (whole : '#' ∉ name) :
    ofUrlChars name = name := by
  have others : ∀ mark : Char, isUnsafe mark = true → mark ∉ name := by
    intro mark refused member
    rw [safe.kept mark member] at refused
    cases refused
  have path : (name.takeWhile (· != '?')).takeWhile (· != '#') = name := by
    rw [path_eq, List.takeWhile_eq_self_iff]
    intro c member
    have plain : c ≠ '#' ∧ c ≠ '?' :=
      ⟨ne_of_mem_of_not_mem member whole, ne_of_mem_of_not_mem member (others '?' (by decide))⟩
    simp [plain]
  rw [ofUrlChars, path, lastSegment_eq_self (others '/' (by decide)), sanitizeChars_of_safe safe]
  split
  · contradiction
  · rfl

theorem ofUrlChars_kept (member : c ∈ ofUrlChars url) :
    c ∉ ['/', '\\', ':', '*', '?', '"', '<', '>', '|', '#'] ∧
      ¬ (c.toNat < 0x20 ∨ 0x7F ≤ c.toNat ∧ c.toNat ≤ 0x9F) := by
  have kept := (safe_ofUrlChars url).kept c member
  have whole := ne_of_mem_of_not_mem member (hash_not_mem_ofUrlChars url)
  rw [isUnsafe, Bool.or_eq_false_iff, Bool.or_eq_false_iff] at kept
  obtain ⟨⟨plain, above⟩, outside⟩ := kept
  constructor
  · simp at plain ⊢
    simp [plain, whole]
  · simp at above outside ⊢
    exact ⟨above, outside⟩

theorem ofUrl_append (url tail : String) :
    ofUrl (url ++ "?" ++ tail) = ofUrl url ∧ ofUrl (url ++ "#" ++ tail) = ofUrl url := by
  simp only [ofUrl, String.toList_append, String.reduceToList, List.append_assoc, List.singleton_append]
  exact ⟨by rw [ofUrlChars_append (.inl rfl)], by rw [ofUrlChars_append (.inr rfl)]⟩

theorem ofUrl_ofUrl (url : String) : ofUrl (ofUrl url) = ofUrl url := by
  rw [ofUrl, ofUrl, String.toList_ofList, ofUrlChars_of_safe (safe_ofUrlChars _) (ofUrlChars_ne_nil _)
    (hash_not_mem_ofUrlChars _)]

theorem sanitize_sanitize (name : String) : sanitize (sanitize name) = sanitize name := by
  rw [sanitize, sanitize, String.toList_ofList, sanitizeChars_of_safe (safe_sanitizeChars _)]

theorem slash_not_mem_ofUrl (url : String) : '/' ∉ (ofUrl url).toList := by
  rw [ofUrl, String.toList_ofList]
  intro slash
  exact absurd ((safe_ofUrlChars url.toList).kept '/' slash) (by decide)

theorem ofUrl_ne_empty (url : String) : ofUrl url ≠ "" := by
  rw [ofUrl, ne_eq, String.ofList_eq_empty_iff]
  exact ofUrlChars_ne_nil url.toList

end Provision.FileName
