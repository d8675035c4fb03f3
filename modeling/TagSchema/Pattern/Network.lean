import TagSchema.Regex.Basic

/-!
# Patterns of network addresses

Dotted quads, IPv6 text forms, and both with a prefix length.
-/

namespace TagSchema.Pattern

open Regex

/-- `0` to `255` without leading zeros. -/
def octet : Regex :=
  anyOf [
    text "25" ++ chars (.range '0' '5'),
    char '2' ++ chars (.range '0' '4') ++ chars .digit,
    char '1' ++ chars .digit ++ chars .digit,
    chars (.range '1' '9') ++ chars .digit,
    chars .digit]

def dottedQuad : Regex := times 3 (octet ++ char '.') ++ octet

def hextet : Regex := between 1 4 (chars .hexDigit)

def hextetColon : Regex := hextet ++ char ':'

def colonHextet : Regex := char ':' ++ hextet

def ipv6Text : Regex :=
  anyOf [
    times 7 hextetColon ++ hextet,
    between 1 7 hextetColon ++ char ':',
    between 1 6 hextetColon ++ char ':' ++ hextet,
    between 1 5 hextetColon ++ between 1 2 colonHextet,
    between 1 4 hextetColon ++ between 1 3 colonHextet,
    between 1 3 hextetColon ++ between 1 4 colonHextet,
    between 1 2 hextetColon ++ between 1 5 colonHextet,
    hextetColon ++ between 1 6 colonHextet,
    char ':' ++ (between 1 7 colonHextet ||| char ':'),
    times 6 hextetColon ++ dottedQuad,
    text "::" ++
      optional (times 4 (chars (.oneOf ['f', 'F'])) ++
        optional (char ':' ++ between 1 4 (char '0')) ++ char ':') ++ dottedQuad,
    between 1 5 hextetColon ++ char ':' ++ dottedQuad]

/-- `0` to `32`. -/
def shortPrefixLength : Regex :=
  (char '3' ++ chars (.range '0' '2')) ||| (optional (chars (.range '1' '2')) ++ chars .digit)

/-- `0` to `128`. -/
def longPrefixLength : Regex :=
  anyOf [
    text "12" ++ chars (.range '0' '8'),
    char '1' ++ chars (.range '0' '1') ++ chars .digit,
    optional (chars (.range '1' '9')) ++ chars .digit]

def ipv4 : Regex := whole dottedQuad
def ipv6 : Regex := whole ipv6Text
def cidrV4 : Regex := whole (dottedQuad ++ char '/' ++ shortPrefixLength)
def cidrV6 : Regex := whole (ipv6Text ++ char '/' ++ longPrefixLength)
def ip : Regex := whole (dottedQuad ||| ipv6Text)

end TagSchema.Pattern
