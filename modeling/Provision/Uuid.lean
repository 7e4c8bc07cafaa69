import Provision.Text.Numeral

/-! Universally unique identifiers: 128 bits, read in four spellings and written
in the hyphenated one. -/

namespace Provision

structure Uuid where
  bits : BitVec 128
  deriving DecidableEq, Repr

namespace Uuid

def zero : Uuid := ⟨0⟩

/-- The groups of 8, 4, 4, 4 and 12 digits between the hyphens. -/
def hyphenated (id : Uuid) : String :=
  let digits := Text.hexFixed 32 id.bits.toNat
  String.ofList (digits.take 8 ++ ['-'] ++ (digits.drop 8).take 4 ++ ['-'] ++
    (digits.drop 12).take 4 ++ ['-'] ++ (digits.drop 16).take 4 ++ ['-'] ++ digits.drop 20)

/-- The identifier with these bytes, the first of them the highest. -/
def ofBytes (bytes : List Nat) : Uuid :=
  ⟨BitVec.ofNat 128 (bytes.foldl (fun value byte => 256 * value + byte) 0)⟩

private def ofDigits? (digits : List Char) : Option Uuid :=
  if digits.length == 32 then (Text.readHex? digits).map fun n => ⟨BitVec.ofNat 128 n⟩
  else none

/-- Hyphens stand exactly after digits 8, 12, 16 and 20. -/
private def ofHyphenated? (chars : List Char) : Option Uuid :=
  if chars.length == 36 && chars[8]? == some '-' && chars[13]? == some '-' &&
      chars[18]? == some '-' && chars[23]? == some '-' then
    ofDigits? (chars.take 8 ++ (chars.drop 9).take 4 ++ (chars.drop 14).take 4 ++
      (chars.drop 19).take 4 ++ chars.drop 24)
  else none

/-- Digits alone, hyphenated, hyphenated in braces, or hyphenated as a URN, whose front may
be written in capitals. -/
def parse? (text : String) : Option Uuid :=
  let chars := text.toList
  if chars.length == 32 then ofDigits? chars
  else if chars.length == 36 then ofHyphenated? chars
  else if chars.length == 38 && chars.head? == some '\x7b' && chars.getLast? == some '\x7d' then
    ofHyphenated? (chars.drop 1).dropLast
  else if chars.length == 45 && (chars.take 9).map Char.toLower == "urn:uuid:".toList then
    ofHyphenated? (chars.drop 9)
  else none

end Uuid

end Provision
