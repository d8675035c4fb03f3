import TagSchema.Text.Property

/-!
# Quoted text in messages

Text shown between double quotes, with every character that cannot be seen spelled by its code
point.
-/

namespace TagSchema.Text

def lowerHex (n : Nat) : List Char := Nat.toDigits 16 n

/-- The code point in braces. -/
def braced (c : Char) : List Char := "\\u\x7b".toList ++ lowerHex c.toNat ++ ['\x7d']

def debugChar (c : Char) : List Char :=
  if c == '\x00' then ['\\', '0']
  else if c == '\t' then ['\\', 't']
  else if c == '\r' then ['\\', 'r']
  else if c == '\n' then ['\\', 'n']
  else if c == '"' then ['\\', '"']
  else if c == '\\' then ['\\', '\\']
  else if extendsGrapheme c || !isPrintable c then braced c
  else [c]

def debugQuoted (s : String) : String :=
  String.ofList ('"' :: s.toList.flatMap debugChar ++ ['"'])

end TagSchema.Text
