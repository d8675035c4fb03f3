import TagSchema.Regex.Basic

/-!
# Patterns of primitive literals and JSON documents
-/

namespace TagSchema.Pattern

open Regex

def integerDigits : Regex := plus (chars .digit)

def minus : Regex := optional (char '-')

/-- The word in any case. -/
def anyCase (word : String) : Regex :=
  word.toList.foldr (fun c r => .set (.folded (.single c)) ++ r) .empty

def string : Regex := whole (star (chars .anything))
def integer : Regex := whole (minus ++ integerDigits)
def bigint : Regex := whole (minus ++ integerDigits ++ optional (char 'n'))
def number : Regex := whole (minus ++ integerDigits ++ optional (char '.' ++ integerDigits))
def boolean : Regex := whole (anyCase "true" ||| anyCase "false")
def null : Regex := whole (anyCase "null")
def undefined : Regex := whole (anyCase "undefined")
def lowercase : Regex := whole (star (chars (.compl .upper)))
def uppercase : Regex := whole (star (chars (.compl .lower)))

def jsonText : Regex :=
  char '"' ++
    star (chars (.compl (.oneOf ['"', '\\'])) ||| (char '\\' ++ chars .dot)) ++ char '"'

def jsonNumeral : Regex :=
  minus ++ (char '0' ||| (chars (.range '1' '9') ++ star (chars .digit))) ++
    optional (char '.' ++ integerDigits) ++
    optional (chars (.oneOf ['e', 'E']) ++ optional (chars (.oneOf ['+', '-'])) ++ integerDigits)

def jsonString : Regex :=
  let spaces := star (chars .space)
  whole (spaces ++
    anyOf [
      char '\x7b' ++ star (chars .anything) ++ char '\x7d',
      char '[' ++ star (chars .anything) ++ char ']',
      jsonText, jsonNumeral, text "true", text "false", text "null"] ++ spaces)

end TagSchema.Pattern
