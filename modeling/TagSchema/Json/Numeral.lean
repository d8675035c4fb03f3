import TagSchema.Json.Basic
import TagSchema.Number.Read

/-!
# JSON numerals

An integer within 64 bits stays an integer. Every other numeral becomes a binary number in two
rounded steps: its first digits as far as 64 bits hold them, then one product or quotient by a power
of ten. A numeral beyond the largest number is refused.
-/

namespace TagSchema.Json

open TagSchema.Number

/-- The digits kept so far and the power of ten they stand for. -/
structure Significand where
  digits : Nat
  exponent : Int
  deriving DecidableEq, Repr

namespace Significand

def limit : Nat := Nat.pow 2 64 - 1

/-- Takes up fraction digits until 64 bits are full, and drops the others. -/
def addFraction (s : Significand) : List Char → Significand
  | [] => s
  | c :: cs =>
    let next := s.digits * 10 + (c.toNat - '0'.toNat)
    if limit < next then s else addFraction ⟨next, s.exponent - 1⟩ cs

/-- Takes up whole digits until 64 bits are full; each one dropped raises the exponent. -/
def addWhole (s : Significand) : List Char → Significand
  | [] => s
  | c :: cs =>
    let next := s.digits * 10 + (c.toNat - '0'.toNat)
    if limit < next then ⟨s.digits, s.exponent + (cs.length + 1 : Nat)⟩
    else addWhole ⟨next, s.exponent⟩ cs

end Significand

def finiteRatio (x : Binary64) : Option (Bool × Nat × Nat) :=
  match x.decode with
  | .finite s m e => some (s, Decoded.ratio m e)
  | _ => none

/-- The rounded product with `10 ^ k`, itself rounded. -/
def timesPower (x : Binary64) (k : Nat) : Binary64 :=
  match finiteRatio x, finiteRatio (Binary.ofDecimal false 1 k) with
  | some (s, n, d), some (_, p, q) => Binary.ofRatio s (n * p) (d * q)
  | _, _ => x

/-- The rounded quotient by `10 ^ k`, itself rounded. -/
def overPower (x : Binary64) (k : Nat) : Binary64 :=
  match finiteRatio x, finiteRatio (Binary.ofDecimal false 1 k) with
  | some (s, n, d), some (_, p, q) => Binary.ofRatio s (n * q) (d * p)
  | _, _ => x

/-- The largest power of ten that is taken in one step. -/
def maxPower : Nat := 308

/-- Scales by a negative power of ten in steps of at most `maxPower`; two reach zero. -/
def scaleDown (x : Binary64) : Nat → Nat → Binary64
  | 0, _ => x
  | steps + 1, k =>
    if k ≤ maxPower then overPower x k else scaleDown (overPower x maxPower) steps (k - maxPower)

/-- The number for a significand, unless it is too large. -/
def Significand.toBinary? (s : Significand) : Option Binary64 :=
  let x : Binary64 := Binary.ofNat s.digits
  if s.digits = 0 then some x
  else if s.exponent < 0 then some (scaleDown x 4 (-s.exponent).toNat)
  else if maxPower < s.exponent then none
  else
    let y := timesPower x s.exponent.toNat
    if y.isFinite then some y else none

/-- The text of a numeral, cut at its point and exponent. -/
structure NumeralParts where
  negative : Bool
  whole : List Char
  fraction : Option (List Char)
  exponent : Option (Bool × List Char)

/-- The exponent that the digits write, no larger than any that matters. -/
def boundedExponent (ds : List Char) : Int := min ((readNat 10 ds).getD 0) 1000000

def NumeralParts.number? (p : NumeralParts) : Option Json.Number := do
  let whole := Significand.addWhole ⟨0, 0⟩ p.whole
  if p.fraction.isNone && p.exponent.isNone && whole.exponent = 0 then
    if !p.negative then return .integer whole.digits
    if whole.digits ≠ 0 && whole.digits ≤ Nat.pow 2 63 then return .integer (-(whole.digits : Int))
  let s := whole.addFraction (p.fraction.getD [])
  let e := match p.exponent with
    | some (negative, ds) => if negative then -boundedExponent ds else boundedExponent ds
    | none => 0
  let x ← Significand.toBinary? ⟨s.digits, s.exponent + e⟩
  return .float (if p.negative then Binary.ofBits true x.magnitude else x)

/-- Reads a numeral at the head of `cs`; the rest follows it. -/
def readNumeral (cs : List Char) : Option (Json.Number × List Char) := do
  let (negative, cs) := match cs with
    | '-' :: r => (true, r)
    | r => (false, r)
  let whole := cs.takeWhile Char.isDigit
  let rest := cs.dropWhile Char.isDigit
  if whole.isEmpty || (whole.head? == some '0' && 1 < whole.length) then none
  let (fraction, rest) ← match rest with
    | '.' :: r =>
      let ds := r.takeWhile Char.isDigit
      if ds.isEmpty then none else some (some ds, r.dropWhile Char.isDigit)
    | r => some (none, r)
  let (exponent, rest) ← match rest with
    | c :: r =>
      if c == 'e' || c == 'E' then
        let (minus, r) := match r with
          | '-' :: r => (true, r)
          | '+' :: r => (false, r)
          | r => (false, r)
        let ds := r.takeWhile Char.isDigit
        if ds.isEmpty then none else some (some (minus, ds), r.dropWhile Char.isDigit)
      else some (none, c :: r)
    | [] => some (none, [])
  let n ← NumeralParts.number? ⟨negative, whole, fraction, exponent⟩
  return (n, rest)

end TagSchema.Json
