/-! Words out of a fixed vocabulary, and the refusal of all others. -/

namespace Provision.Text

/-- A word that is none of the known ones of its sort. -/
structure UnknownWord where
  sort : String
  word : String
  deriving DecidableEq, Repr

def UnknownWord.message (unknown : UnknownWord) : String :=
  "unknown " ++ unknown.sort ++ ": " ++ unknown.word

/-- The meaning of a word, or its refusal. -/
def known {α : Type} (sort : String) (meaning : String → Option α) (word : String) :
    Except UnknownWord α :=
  match meaning word with
  | some found => .ok found
  | none => .error ⟨sort, word⟩

end Provision.Text

/-! Blank characters in the sense of Unicode's White_Space property, and the
trimming of a text at both ends. -/

namespace Provision.Text

/-- Membership in White_Space; the ASCII blanks include vertical tab and form feed. -/
def isBlank (c : Char) : Bool :=
  let n := c.toNat
  (9 ≤ n && n ≤ 13) || n == 32 || n == 0x85 || n == 0xA0 || n == 0x1680 ||
    (0x2000 ≤ n && n ≤ 0x200A) || n == 0x2028 || n == 0x2029 || n == 0x202F ||
    n == 0x205F || n == 0x3000

/-- Drop the characters at both ends that satisfy the test. -/
def trimBoth (drop : Char → Bool) (text : List Char) : List Char :=
  ((text.dropWhile drop).reverse.dropWhile drop).reverse

/-- A text without its leading and trailing blanks. -/
def trim (text : String) : String :=
  String.ofList (trimBoth isBlank text.toList)

/-- Remove the characters at the end that satisfy the test. -/
def trimEnd (drop : Char → Bool) (text : List Char) : List Char :=
  (text.reverse.dropWhile drop).reverse

/-- ASCII letters in upper case; every other character is kept. -/
def asciiUpper (text : String) : String :=
  String.ofList (text.toList.map Char.toUpper)

/-- ASCII letters in lower case; every other character is kept. -/
def asciiLower (text : String) : String :=
  String.ofList (text.toList.map Char.toLower)

/-- Every character that core calls whitespace is blank. -/
theorem isBlank_of_isWhitespace (c : Char) (white : c.isWhitespace = true) :
    isBlank c = true := by
  simp only [Char.isWhitespace, Bool.or_eq_true, decide_eq_true_eq] at white
  rcases white with ((rfl | rfl) | rfl) | rfl <;> decide

end Provision.Text
