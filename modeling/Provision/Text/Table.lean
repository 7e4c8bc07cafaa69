import Provision.Text.Numeral

/-! Tables over code points, written as text. Entries are set apart by blanks and stand in
ascending order; all numbers are hexadecimal. An entry begins with a code point, or with
the two ends of a range and a hyphen between them, and goes on with one of

* nothing: all that matters is that the code point is there;
* `=` and numbers with dots between them, which belong to every code point of the range;
* `>` and the number of the first code point, each further one having the next number;
* `/` and the number of the first code point, where only every second code point of the
  range is meant and all of them lie equally far from their numbers. -/

namespace Provision.Text

/-- What an entry says about its code points. -/
inductive Image where
  | same (values : List Nat)
  | inStep (first : Nat)
  | everyOther (first : Nat)
  deriving DecidableEq, Repr

structure TableEntry where
  first : Nat
  last : Nat
  image : Image
  deriving DecidableEq, Repr

abbrev Table := Array TableEntry

private def hexOf (digits : List Char) : Nat := (readHex? digits).getD 0

private def isHexDigit (c : Char) : Bool := (hexDigit? c).isSome

private def imageOf : List Char → Image
  | '>' :: digits => .inStep (hexOf digits)
  | '/' :: digits => .everyOther (hexOf digits)
  | '=' :: [] => .same []
  | '=' :: values => .same ((values.splitOn '.').map hexOf)
  | _ => .same []

private def entryOf (word : List Char) : TableEntry :=
  let first := word.takeWhile isHexDigit
  match word.drop first.length with
  | '-' :: rest =>
    let last := rest.takeWhile isHexDigit
    ⟨hexOf first, hexOf last, imageOf (rest.drop last.length)⟩
  | rest => ⟨hexOf first, hexOf first, imageOf rest⟩

namespace Table

def ofText (text : String) : Table :=
  let blank := text.toList.map fun c => if c == '\n' then ' ' else c
  ((blank.splitOn ' ').filter (!·.isEmpty)).toArray.map entryOf

/-- The numbers that belong to a code point. -/
def lookup? (table : Table) (n : Nat) : Option (List Nat) :=
  match table.find? fun entry => entry.first ≤ n && n ≤ entry.last with
  | none => none
  | some entry =>
    match entry.image with
    | .same values => some values
    | .inStep first => some [first + (n - entry.first)]
    | .everyOther first =>
      if (n - entry.first) % 2 == 0 then some [first + (n - entry.first)] else none

def contains (table : Table) (n : Nat) : Bool := (table.lookup? n).isSome

end Table

end Provision.Text
