/-! Bytes and texts. Reading is either strict, or lossy with one replacement
character for each longest invalid piece. -/

namespace Provision

abbrev Bytes := List UInt8

namespace Text

/-- The UTF-8 form of a text. -/
def encode (text : String) : Bytes := text.toUTF8.data.toList

/-- What stands at the front of a byte sequence: a character with the bytes after
it, or the number of bytes that one replacement character stands for. -/
inductive Decoded where
  | char (c : Char) (rest : Bytes)
  | invalid (count : Nat)

/-- Whether the byte goes on with a character. -/
def isContinuation (byte : UInt8) : Bool := 0x80 ≤ byte && byte ≤ 0xBF

/-- The part of the code point that such a byte holds. -/
def payload (byte : UInt8) : Nat := byte.toNat % 64

/-- Whether the byte may come second after this lead byte: over-long forms,
surrogates and values past the last code point are excluded here. -/
def isSecond (lead second : UInt8) : Bool :=
  if lead == 0xE0 then 0xA0 ≤ second && second ≤ 0xBF
  else if lead == 0xED then 0x80 ≤ second && second ≤ 0x9F
  else if lead == 0xF0 then 0x90 ≤ second && second ≤ 0xBF
  else if lead == 0xF4 then 0x80 ≤ second && second ≤ 0x8F
  else isContinuation second

/-- Decode the first character of a nonempty byte sequence. -/
def decodeFront (lead : UInt8) (rest : Bytes) : Decoded :=
  if lead < 0x80 then .char (Char.ofNat lead.toNat) rest
  else if lead < 0xC2 || 0xF4 < lead then .invalid 1
  else match rest with
    | [] => .invalid 1
    | second :: rest₂ =>
      if !isSecond lead second then .invalid 1
      else if lead < 0xE0 then
        .char (Char.ofNat ((lead.toNat % 32) * 64 + payload second)) rest₂
      else match rest₂ with
        | [] => .invalid 2
        | third :: rest₃ =>
          if !isContinuation third then .invalid 2
          else if lead < 0xF0 then
            .char (Char.ofNat ((lead.toNat % 16) * 4096 + payload second * 64 + payload third)) rest₃
          else match rest₃ with
            | [] => .invalid 3
            | fourth :: rest₄ =>
              if !isContinuation fourth then .invalid 3
              else .char (Char.ofNat ((lead.toNat % 8) * 262144 + payload second * 4096 +
                payload third * 64 + payload fourth)) rest₄

theorem decodeFront_length {lead : UInt8} {bytes rest : Bytes} {c : Char}
    (decoded : decodeFront lead bytes = .char c rest) : rest.length ≤ bytes.length := by
  unfold decodeFront at decoded
  repeat' split at decoded
  all_goals first
    | (injection decoded with _ same; subst same; simp <;> omega)
    | simp at decoded

private def lossyChars (done : List Char) (bytes : Bytes) : List Char :=
  match bytes with
  | [] => done.reverse
  | lead :: rest =>
    match found : decodeFront lead rest with
    | .char c after =>
      have := decodeFront_length found
      lossyChars (c :: done) after
    | .invalid count => lossyChars ('\uFFFD' :: done) (rest.drop (count - 1))
termination_by bytes.length
decreasing_by all_goals simp <;> omega

/-- Decode, putting U+FFFD for every longest piece that starts no character. -/
def decodeLossy (bytes : Bytes) : String := String.ofList (lossyChars [] bytes)

/-- The characters behind those that are done, the last of them first. -/
def strictChars (done : List Char) (bytes : Bytes) : Option (List Char) :=
  match bytes with
  | [] => some done.reverse
  | lead :: rest =>
    match found : decodeFront lead rest with
    | .char c after =>
      have := decodeFront_length found
      strictChars (c :: done) after
    | .invalid _ => none
termination_by bytes.length
decreasing_by simp; omega

/-- Decode bytes that are UTF-8 throughout. -/
def decode? (bytes : Bytes) : Option String := (strictChars [] bytes).map String.ofList

end Text

end Provision

/-! Bytes worked on as text. Each byte is held as the character of the same number, so
that nothing is lost of what is not UTF-8. -/

namespace Provision.Text

def ofOctets (bytes : Bytes) : String :=
  String.ofList (bytes.map fun byte => Char.ofNat byte.toNat)

def toOctets (text : String) : Bytes := text.toList.map fun c => UInt8.ofNat c.toNat

private theorem ofNat_charOfNat (byte : UInt8) : UInt8.ofNat (Char.ofNat byte.toNat).toNat = byte := by
  have small : byte.toNat < 256 := byte.toNat_lt
  have valid : byte.toNat.isValidChar := by unfold Nat.isValidChar; omega
  rw [Char.ofNat, dif_pos valid]
  exact UInt8.ofNat_toNat

theorem toOctets_ofOctets (bytes : Bytes) : toOctets (ofOctets bytes) = bytes := by
  simp [toOctets, ofOctets, Function.comp_def, ofNat_charOfNat]

/-- The octets of a text's UTF-8 form. -/
def widen (text : String) : String := ofOctets (encode text)

/-- The text whose UTF-8 form the octets are. -/
def narrow (octets : String) : String := decodeLossy (toOctets octets)

end Provision.Text
