import TagSchema.Regex.Basic

/-!
# Patterns of identifiers, encodings and digests
-/

namespace TagSchema.Pattern

open Regex

def hexDigits (n : Nat) : Regex := times n (chars .hexDigit)

/-- The UUID layout with the given version digit. -/
def uuidText (version : Regex) : Regex :=
  hexDigits 8 ++ char '-' ++ hexDigits 4 ++ char '-' ++ version ++ hexDigits 3 ++ char '-' ++
    chars (.oneOf ['8', '9', 'a', 'b', 'A', 'B']) ++ hexDigits 3 ++ char '-' ++ hexDigits 12

def uuid : Regex :=
  whole (uuidText (chars (.range '1' '8')) ||| text "00000000-0000-0000-0000-000000000000")

def uuid4 : Regex := whole (uuidText (char '4'))
def uuid6 : Regex := whole (uuidText (char '6'))
def uuid7 : Regex := whole (uuidText (char '7'))

def guid : Regex :=
  whole (hexDigits 8 ++ times 3 (char '-' ++ hexDigits 4) ++ char '-' ++ hexDigits 12)

def cuid : Regex :=
  whole (chars (.oneOf ['c', 'C']) ++ atLeast 8 (chars (.compl (.union .space (.single '-')))))

def cuid2 : Regex := whole (plus (chars (.union .digit .lower)))

/-- Digits and the letters other than I, L, O and U. -/
def crockford : CharSet :=
  .ranges [('0', '9'), ('A', 'H'), ('J', 'K'), ('M', 'N'), ('P', 'T'), ('V', 'Z'), ('a', 'h'),
    ('j', 'k'), ('m', 'n'), ('p', 't'), ('v', 'z')]

def ulid : Regex := whole (times 26 (chars crockford))
def xid : Regex := whole (times 20 (chars (.ranges [('0', '9'), ('a', 'v'), ('A', 'V')])))
def ksuid : Regex := whole (times 27 (chars .letterOrDigit))

/-- Letters, digits, underscore and hyphen. -/
def urlSafe : CharSet := .union .letterOrDigit (.oneOf ['_', '-'])

def nanoId : Regex := whole (times 21 (chars urlSafe))

def base64Char : Regex := chars (.union .letterOrDigit (.oneOf ['+', '/']))

def base64 : Regex :=
  whole (star (times 4 base64Char) ++
    optional ((times 2 base64Char ++ text "==") ||| (times 3 base64Char ++ char '=')))

def base64Url : Regex := whole (star (chars urlSafe))
def hex : Regex := whole (star (chars .hexDigit))
def md5Hex : Regex := whole (hexDigits 32)
def sha1Hex : Regex := whole (hexDigits 40)
def sha256Hex : Regex := whole (hexDigits 64)
def sha384Hex : Regex := whole (hexDigits 96)
def sha512Hex : Regex := whole (hexDigits 128)

def e164 : Regex := whole (char '+' ++ between 6 14 (chars .digit) ++ chars .digit)

def emoji : Regex :=
  whole (plus (chars (.property .pictographic) ||| chars (.property .emojiComponent)))

end TagSchema.Pattern
