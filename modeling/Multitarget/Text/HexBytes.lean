import Multitarget.Text.Utf8

/-!
# Bytes as hexadecimal digits

Two lower-case digits for each byte.
-/

namespace Multitarget.Text.HexBytes

/-- The digits of bytes. -/
def encode (bytes : Bytes) : String :=
  String.ofList (bytes.flatMap fun byte => hexadecimal 2 byte.toNat)

/-- The bytes that pairs of digits write; another character counts as zero. -/
def decodeChars : List Char → Bytes
  | high :: low :: rest =>
    UInt8.ofNat ((digitOf 16 high).getD 0 * 16 + (digitOf 16 low).getD 0) :: decodeChars rest
  | _ => []

/-- The bytes that a text of digits writes. -/
def decode (text : String) : Bytes := decodeChars text.toList

end Multitarget.Text.HexBytes
