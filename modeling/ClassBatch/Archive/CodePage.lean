/-! Code page 437, in which archives name their entries unless they say otherwise. -/

namespace ClassBatch.Archive

def upperHalf : String :=
  "ÇüéâäàåçêëèïîìÄÅÉæÆôöòûùÿÖÜ¢£¥₧ƒáíóúñÑªº¿⌐¬½¼¡«»░▒▓│┤╡╢╖╕╣║╗╝╜╛┐" ++
  "└┴┬├─┼╞╟╚╔╩╦╠═╬╧╨╤╥╙╘╒╓╫╪┘┌█▄▌▐▀αßΓπΣσµτΦΘΩδ∞φε∩≡±≥≤⌠⌡÷≈°∙·√ⁿ²■"

def codePageChar (b : UInt8) : Char :=
  if b < 0x80 then Char.ofNat b.toNat
  else upperHalf.toList[b.toNat - 0x80]?.getD '\u00a0'

def decodeCodePage (s : List UInt8) : String :=
  String.ofList (s.map codePageChar)

end ClassBatch.Archive
