/-!
# URL-safe Base64 without padding

A text decodes only if it is the encoding of its bytes: no character is left over, and the unused
bits of the last one are zero.
-/

namespace TagSchema.Text

def base64Value (c : Char) : Option Nat :=
  if c.isUpper then some (c.toNat - 'A'.toNat)
  else if c.isLower then some (c.toNat - 'a'.toNat + 26)
  else if c.isDigit then some (c.toNat - '0'.toNat + 52)
  else if c == '-' then some 62
  else if c == '_' then some 63
  else none

/-- Bytes of groups of six bits, four to three bytes. -/
def base64Bytes : List Nat → Option (List UInt8)
  | [] => some []
  | [_] => none
  | [a, b] => if b % 16 = 0 then some [(a * 4 + b / 16).toUInt8] else none
  | [a, b, c] =>
    if c % 4 = 0 then some [(a * 4 + b / 16).toUInt8, (b % 16 * 16 + c / 4).toUInt8] else none
  | a :: b :: c :: d :: rest =>
    (base64Bytes rest).map fun bs =>
      (a * 4 + b / 16).toUInt8 :: (b % 16 * 16 + c / 4).toUInt8 :: (c % 4 * 64 + d).toUInt8 :: bs

def decodeBase64Url (cs : List Char) : Option (List UInt8) :=
  (cs.mapM base64Value).bind base64Bytes

end TagSchema.Text
