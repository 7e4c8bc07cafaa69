/-! Code page 437, in which file names of old archives are written. -/

namespace Provision.Text

/-- What stands for the bytes from 128 on, in order; the last is a no-break space. -/
def codePage437High : List Char :=
  ("ÇüéâäàåçêëèïîìÄÅÉæÆôöòûùÿÖÜ¢£¥₧ƒ" ++
    "áíóúñÑªº¿⌐¬½¼¡«»░▒▓│┤╡╢╖╕╣║╗╝╜╛┐" ++
    "└┴┬├─┼╞╟╚╔╩╦╠═╬╧╨╤╥╙╘╒╓╫╪┘┌█▄▌▐▀" ++
    "αßΓπΣσµτΦΘΩδ∞φε∩≡±≥≤⌠⌡÷≈°∙·√ⁿ²■\u00a0").toList

/-- The character for one byte. -/
def codePage437 (byte : UInt8) : Char :=
  if byte < 128 then Char.ofNat byte.toNat
  else (codePage437High[byte.toNat - 128]?).getD '?'

theorem codePage437_of_lt (byte : UInt8) (ascii : byte < 128) :
    codePage437 byte = Char.ofNat byte.toNat := if_pos ascii

end Provision.Text
