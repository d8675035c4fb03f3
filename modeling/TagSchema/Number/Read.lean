import TagSchema.Number.Binary
import TagSchema.Number.Digits

/-!
# Decimal numerals

A numeral is an optional sign before digits with an optional point and exponent, or before one of
the names of infinity and of what is no number. `Binary.read?` gives the nearest binary number.
-/

namespace TagSchema.Number

/-- What a numeral says; `finite` is `digits · 10 ^ exponent`. -/
inductive Numeral where
  | finite (negative : Bool) (digits : Nat) (exponent : Int)
  | infinite (negative : Bool)
  | nan (negative : Bool)
  deriving DecidableEq, Repr

/-- The exponent part: nothing, or `e` and a signed run of digits. -/
def readExponent : List Char → Option Int
  | [] => some 0
  | c :: cs =>
    if c == 'e' || c == 'E' then
      match cs with
      | '-' :: ds => (readNat 10 ds).map fun n => -(n : Int)
      | '+' :: ds => (readNat 10 ds).map Int.ofNat
      | ds => (readNat 10 ds).map Int.ofNat
    else none

/-- Digits with an optional point, at least one of them, and an exponent. -/
def readMagnitude (cs : List Char) : Option (Nat × Int) := do
  let whole := cs.takeWhile Char.isDigit
  let rest := cs.dropWhile Char.isDigit
  let (fraction, rest) := match rest with
    | '.' :: ds => (ds.takeWhile Char.isDigit, ds.dropWhile Char.isDigit)
    | ds => ([], ds)
  let n ← readNat 10 (whole ++ fraction)
  let e ← readExponent rest
  return (n, e - fraction.length)

/-- A numeral without its sign. -/
def readUnsigned (negative : Bool) (cs : List Char) : Option Numeral :=
  let folded := cs.map Char.toLower
  if folded = "nan".toList then some (.nan negative)
  else if folded = "inf".toList || folded = "infinity".toList then some (.infinite negative)
  else (readMagnitude cs).map fun (n, e) => .finite negative n e

def Numeral.read? : List Char → Option Numeral
  | '-' :: cs => readUnsigned true cs
  | '+' :: cs => readUnsigned false cs
  | cs => readUnsigned false cs

/-- The number of decimal digits of `n`. -/
def digitCount (n : Nat) : Nat := (digits n).length

/-- The nearest number to `n · 10 ^ e`. Past 400 places either way the powers need not be computed:
the result is infinite or zero. -/
def Binary.ofDecimal {l : Layout} (negative : Bool) (n : Nat) (e : Int) : Binary l :=
  if n = 0 || e + digitCount n < -400 then zero negative
  else if 400 < e + digitCount n then infinity negative
  else if 0 ≤ e then ofRatio negative (n * Nat.pow 10 e.toNat) 1
  else ofRatio negative n (Nat.pow 10 (-e).toNat)

def Binary.ofNumeral {l : Layout} : Numeral → Binary l
  | .finite s n e => ofDecimal s n e
  | .infinite s => infinity s
  | .nan s => nan s

def Binary.read? {l : Layout} (s : String) : Option (Binary l) :=
  (Numeral.read? s.toList).map ofNumeral

end TagSchema.Number
