import Provision.Constant
import Provision.Fault
import Provision.Text.Numeral

/-! Placeholders in step parameters. A double pair of braces around a stack
index, an output name or a supported constant is replaced once; everything
else in the text stays as it is. -/

namespace Provision.Placeholder

inductive Token where
  | index (depth : Nat)
  | out
  | err
  | constant (constant : Constant)
  deriving DecidableEq, Repr

/-- The words that name the captured output of the top frame. -/
def stdOut : String := "STD_OUT"

def stdErr : String := "STD_ERR"

/-- Whether the braces around a word make it a placeholder. -/
def admits (supported : List Constant) (word : List Char) : Bool :=
  (!word.isEmpty && word.all Char.isDigit) ||
    (stdOut :: stdErr :: supported.map Constant.keyword).contains (String.ofList word)

/-- What a word stands for. Leading zeros are allowed in an index, and it has no upper bound. -/
def Token.parse (word : List Char) : Except Fault Token :=
  if String.ofList word = stdOut then .ok .out
  else if String.ofList word = stdErr then .ok .err
  else if word.all Char.isDigit then .ok (.index (Text.digitsValue word))
  else
    match Constant.parse (String.ofList word) with
    | .ok name => .ok (.constant name)
    | .error _ => .error (.invalidRecipe ("unknown constant: " ++ String.ofList word))

/-- A parameter cut into what is kept and what is replaced. -/
inductive Piece where
  | text (c : Char)
  | word (word : List Char)
  deriving DecidableEq, Repr

/-- The word and the rest, if the text goes on with a word and two closing braces. -/
def closed? (text : List Char) : Option (List Char × List Char) :=
  match text.dropWhile (· != '\x7d') with
  | '\x7d' :: '\x7d' :: rest => some (text.takeWhile (· != '\x7d'), rest)
  | _ => none

theorem length_closed {text word rest : List Char} (found : closed? text = some (word, rest)) :
    rest.length < text.length := by
  unfold closed? at found
  split at found
  · rename_i after eq
    injection found with same
    injection same with _ same
    subst same
    have shorter := (List.dropWhile_sublist (l := text) (· != '\x7d')).length_le
    rw [eq] at shorter
    simp at shorter
    omega
  · simp at found

/-- Scan from left to right; a pair of opening braces that starts no placeholder is
plain text, and the scan goes on behind its first brace. -/
def split (supported : List Constant) (text : List Char) : List Piece :=
  match text with
  | [] => []
  | '\x7b' :: '\x7b' :: inner =>
    match found : closed? inner with
    | some (word, rest) =>
      if admits supported word then
        have := length_closed found
        .word word :: split supported rest
      else .text '\x7b' :: split supported ('\x7b' :: inner)
    | none => .text '\x7b' :: split supported ('\x7b' :: inner)
  | c :: rest => .text c :: split supported rest
termination_by text.length
decreasing_by all_goals simp <;> omega

/-- The value a token stands for on this stack. -/
def Token.value (constants : Constants) (stack : Stack) : Token → Except Fault String
  | .index depth => (stack.peek depth).map Frame.value
  | .out => (stack.peek 0).map fun frame => frame.out.getD ""
  | .err => (stack.peek 0).map fun frame => frame.err.getD ""
  | .constant name => constants.value name

def lookup (constants : Constants) (stack : Stack) (word : List Char) : Except Fault String :=
  Token.parse word >>= Token.value constants stack

def Piece.expand (constants : Constants) (stack : Stack) : Piece → Except Fault (List Char)
  | .text c => .ok [c]
  | .word found => (lookup constants stack found).map String.toList

/-- Replace every placeholder at once; the first one that has no value decides the
error. -/
def resolve (constants : Constants) (stack : Stack) (text : String) : Except Fault String :=
  ((split constants.supported text.toList).mapM (Piece.expand constants stack)).map
    fun pieces => String.ofList pieces.flatten

end Provision.Placeholder
