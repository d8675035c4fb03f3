import TagSchema.Regex.Basic

/-!
# Patterns of mail addresses, URLs and host names
-/

namespace TagSchema.Pattern

open Regex

def hyphenated : CharSet := .union .letterOrDigit (.single '-')

/-- Letters, digits and inner hyphens, with at most `inner` characters between the first and the
last. -/
def label (inner : Option Nat) : Regex :=
  chars .letterOrDigit ++ optional (rep (chars hyphenated) 0 inner ++ chars .letterOrDigit)

/-- At least two letters. -/
def topLevel : Regex := atLeast 2 (chars .letter)

/-- Labels with a dot between. -/
def dotted (inner : Option Nat) : Regex := label inner ++ star (char '.' ++ label inner)

def mailAtom : Regex :=
  plus (chars (.union .letterOrDigit (.oneOf ['_', '\'', '+', '-'])))

def email : Regex :=
  whole (mailAtom ++ star (char '.' ++ mailAtom) ++ char '@' ++
    plus (label none ++ char '.') ++ topLevel)

def html5Email : Regex :=
  whole (plus (chars (.union .letterOrDigit (.oneOf ".!#$%&'*+/=?^_\x60\x7b|\x7d~-".toList))) ++
    char '@' ++ dotted (some 61))

/-- No delimiter, blank or quote. -/
def plainLocal : Regex :=
  plus (chars (.compl (.union (.oneOf "<>()[]\\.,;:@\"".toList) .space)))

def numberUpTo3Digits : Regex := between 1 3 (chars .digit)

def rfc5322Email : Regex :=
  whole (
    ((plainLocal ++ star (char '.' ++ plainLocal)) |||
      (char '"' ++ plus (chars .dot) ++ char '"')) ++
    char '@' ++
    ((char '[' ++ numberUpTo3Digits ++ times 3 (char '.' ++ numberUpTo3Digits) ++ char ']') |||
      (plus (plus (chars hyphenated) ++ char '.') ++ topLevel)))

def unicodeEmail : Regex :=
  whole (between 1 64 (chars (.compl (.union .space (.oneOf ['@', '"'])))) ++ char '@' ++
    between 1 255 (chars (.compl (.union .space (.single '@')))))

/-- A path, query or fragment. -/
def urlTail : Regex :=
  optional (chars (.oneOf ['/', '?', '#']) ++ star (chars .nonSpace))

def url : Regex :=
  whole (chars .letter ++ star (chars (.union .letterOrDigit (.oneOf ['+', '.', '-']))) ++
    text "://" ++ plus (chars (.compl (.union .space (.oneOf ['/', '?', '#'])))) ++ urlTail)

def userInfo : Regex :=
  plus (chars (.compl (.union .space (.oneOf [':', '@', '/'])))) ++
    optional (char ':' ++ star (chars (.compl (.union .space (.oneOf ['@', '/']))))) ++ char '@'

def httpUrl : Regex :=
  whole (text "http" ++ optional (char 's') ++ text "://" ++ optional userInfo ++
    (dotted none |||
      (char '[' ++ plus (chars (.union .hexDigit (.oneOf [':', '.']))) ++ char ']')) ++
    optional (char ':' ++ between 1 5 (chars .digit)) ++ urlTail)

def hostname : Regex := whole (dotted (some 61) ++ optional (char '.'))

def domain : Regex := whole (plus (label (some 61) ++ char '.') ++ topLevel)

end TagSchema.Pattern
