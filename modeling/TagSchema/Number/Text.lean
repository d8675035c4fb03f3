import TagSchema.Number.Shortest
import TagSchema.Number.Digits

/-!
# Text of binary numbers

The shortest decimal of a number, laid out positionally or with an exponent.
-/

namespace TagSchema.Number

/-- Names of the values that have no digits. -/
structure SpecialNames where
  infinity : String
  negativeInfinity : String
  nan : String

/-- `digits · 10 ^ exponent` without an exponent part. -/
def Decimal.positional (d : Decimal) : List Char :=
  let ds := Number.digits d.digits
  if 0 ≤ d.exponent then ds ++ List.replicate d.exponent.toNat '0'
  else
    let places := (-d.exponent).toNat
    let padded := List.replicate (places + 1 - ds.length) '0' ++ ds
    padded.take (padded.length - places) ++ '.' :: padded.drop (padded.length - places)

/-- One digit, the others after a point, and the exponent of the first. -/
def Decimal.scientific (d : Decimal) : List Char :=
  let ds := Number.digits d.digits
  let e := d.exponent + (ds.length - 1 : Nat)
  let mantissa := match ds with
    | c :: [] => [c]
    | c :: cs => c :: '.' :: cs
    | [] => []
  mantissa ++ 'e' :: (if e < 0 then ['-'] else []) ++ Number.digits e.natAbs

/-- Zeros at the end of the digits moved into the exponent, at most `n` of them. -/
def Decimal.stripZeros : Nat → Decimal → Decimal
  | 0, d => d
  | n + 1, d =>
    if d.digits % 10 = 0 && d.digits ≠ 0 then stripZeros n ⟨d.digits / 10, d.exponent + 1⟩ else d

/-- Positional with at least one place after the point, from `10 ^ -4` to below `10 ^ 16`; with an
exponent outside that range. -/
def Decimal.pointed (d : Decimal) : List Char :=
  let first := d.exponent + (Number.digits d.digits).length
  if d.digits ≠ 0 && (first ≤ -4 || 16 < first) then d.scientific
  else if d.exponent < 0 then d.positional
  else d.positional ++ ['.', '0']

namespace Binary

variable {l : Layout}

/-- The number's text, its magnitude laid out by `layout`. -/
def textWith (names : SpecialNames) (layout : Decimal → List Char) (x : Binary l) : String :=
  match x.decode with
  | .nan _ => names.nan
  | .infinite s => if s then names.negativeInfinity else names.infinity
  | .finite s m e =>
    let d : Decimal := if m = 0 then ⟨0, 0⟩ else (shortest l m e).stripZeros 20
    String.ofList ((if s then ['-'] else []) ++ layout d)

def plainNames : SpecialNames := ⟨"inf", "-inf", "NaN"⟩

/-- Positional, whatever the size. -/
def text (x : Binary l) : String := x.textWith plainNames Decimal.positional

/-- Always with an exponent. -/
def scientificText (x : Binary l) : String := x.textWith plainNames Decimal.scientific

/-- With a point or an exponent, so that it reads as no integer. -/
def pointedText (x : Binary l) : String := x.textWith plainNames Decimal.pointed

/-- Positional, with the names of infinity that the schema library prints. -/
def canonicalText (x : Binary l) : String :=
  x.textWith ⟨"+Inf", "-Inf", "NaN"⟩ Decimal.positional

end Binary

end TagSchema.Number
