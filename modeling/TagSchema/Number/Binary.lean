/-!
# Binary floating point

A number is stored as its bits: a sign, an exponent field and a fraction. `decode` gives the value a
bit pattern stands for, and `ofRatio` the pattern nearest to a quotient, ties to even.
-/

namespace TagSchema.Number

/-- Widths of the fraction and of the exponent field. -/
structure Layout where
  fractionBits : Nat
  exponentBits : Nat
  deriving DecidableEq, Repr

namespace Layout

def double : Layout := ⟨52, 11⟩
def single : Layout := ⟨23, 8⟩

/-- The exponent field of infinities and of what is no number. -/
def topField (l : Layout) : Nat := Nat.pow 2 l.exponentBits - 1

/-- The exponent of the last place of the smallest numbers. -/
def minExponent (l : Layout) : Int :=
  2 - (Nat.pow 2 (l.exponentBits - 1) : Nat) - (l.fractionBits : Int)

/-- The magnitude bits of infinity. -/
def infinityBits (l : Layout) : Nat := l.topField * Nat.pow 2 l.fractionBits

def signBit (l : Layout) : Nat := Nat.pow 2 (l.exponentBits + l.fractionBits)

end Layout

structure Binary (l : Layout) where
  bits : BitVec (1 + l.exponentBits + l.fractionBits)
  deriving DecidableEq, Repr

abbrev Binary64 := Binary .double
abbrev Binary32 := Binary .single

/-- What a bit pattern stands for; `finite` is `significand · 2 ^ exponent`. -/
inductive Decoded where
  | nan (negative : Bool)
  | infinite (negative : Bool)
  | finite (negative : Bool) (significand : Nat) (exponent : Int)
  deriving DecidableEq, Repr

namespace Binary

variable {l : Layout}

def ofBits (negative : Bool) (magnitude : Nat) : Binary l :=
  ⟨BitVec.ofNat _ ((if negative then l.signBit else 0) + magnitude)⟩

def isNegative (x : Binary l) : Bool := l.signBit ≤ x.bits.toNat

def magnitude (x : Binary l) : Nat := x.bits.toNat % l.signBit

def decode (x : Binary l) : Decoded :=
  let field := x.magnitude / Nat.pow 2 l.fractionBits
  let fraction := x.magnitude % Nat.pow 2 l.fractionBits
  if field = l.topField then
    if fraction = 0 then .infinite x.isNegative else .nan x.isNegative
  else if field = 0 then .finite x.isNegative fraction l.minExponent
  else
    .finite x.isNegative (Nat.pow 2 l.fractionBits + fraction) (l.minExponent + (field - 1 : Nat))

def zero (negative : Bool) : Binary l := ofBits negative 0

def infinity (negative : Bool) : Binary l := ofBits negative l.infinityBits

def nan (negative : Bool) : Binary l :=
  ofBits negative (l.infinityBits + Nat.pow 2 (l.fractionBits - 1))

/-- The nearest whole number to `num / den`, a tie to the even one. -/
def roundQuotient (num den : Nat) : Nat :=
  let q := num / den
  let r := num % den
  if den < 2 * r || (den == 2 * r && q % 2 == 1) then q + 1 else q

/-- Whether `2 ^ k ≤ num / den`. -/
def powLe (k : Int) (num den : Nat) : Bool :=
  if 0 ≤ k then den * Nat.pow 2 k.toNat ≤ num else den ≤ num * Nat.pow 2 (-k).toNat

/-- The greatest `k` with `2 ^ k ≤ num / den`, for positive `num` and `den`. -/
def floorLog2 (num den : Nat) : Int :=
  let k := (num.log2 : Int) - den.log2
  if powLe k num den then k else k - 1

/-- The number nearest to `num / den`; beyond the largest it is infinite. -/
def ofRatio (negative : Bool) (num den : Nat) : Binary l :=
  if num = 0 then zero negative
  else
    let e := max l.minExponent (floorLog2 num den - l.fractionBits)
    let q := if 0 ≤ e then roundQuotient num (den * Nat.pow 2 e.toNat)
      else roundQuotient (num * Nat.pow 2 (-e).toNat) den
    -- A significand that rounds up to the next power of two carries into the exponent field.
    ofBits negative (min l.infinityBits ((e - l.minExponent).toNat * Nat.pow 2 l.fractionBits + q))

def ofInt (n : Int) : Binary l := ofRatio (n < 0) n.natAbs 1

def ofNat (n : Nat) : Binary l := ofRatio false n 1

def isNaN (x : Binary l) : Bool :=
  match x.decode with
  | .nan _ => true
  | _ => false

def isFinite (x : Binary l) : Bool :=
  match x.decode with
  | .finite .. => true
  | _ => false

/-- The same number, or the nearest, in another layout. -/
def convert {m : Layout} (x : Binary l) : Binary m :=
  match x.decode with
  | .nan s => nan s
  | .infinite s => infinity s
  | .finite s n e =>
    if 0 ≤ e then ofRatio s (n * Nat.pow 2 e.toNat) 1 else ofRatio s n (Nat.pow 2 (-e).toNat)

/-- The largest finite number. -/
def largest (negative : Bool) : Binary l := ofBits negative (l.infinityBits - 1)

end Binary

namespace Decoded

/-- `significand · 2 ^ exponent` as a quotient of whole numbers. -/
def ratio (significand : Nat) (exponent : Int) : Nat × Nat :=
  if 0 ≤ exponent then (significand * Nat.pow 2 exponent.toNat, 1)
  else (significand, Nat.pow 2 (-exponent).toNat)

def signed (negative : Bool) (n : Nat) : Int := if negative then -(n : Int) else n

/-- Order of two quotients with a sign. -/
def compareRatio (a b : Int × Nat) : Ordering := compare (a.1 * b.2) (b.1 * a.2)

/-- Numerical order; nothing is ordered against what is no number, and both zeros are equal. -/
def compare? : Decoded → Decoded → Option Ordering
  | nan _, _ => none
  | _, nan _ => none
  | infinite a, infinite b => some (compare b.toNat a.toNat)
  | infinite a, finite .. => some (if a then .lt else .gt)
  | finite .., infinite b => some (if b then .gt else .lt)
  | finite a m e, finite b n f =>
    let x := ratio m e
    let y := ratio n f
    some (compareRatio (signed a x.1, x.2) (signed b y.1, y.2))

/-- The whole number that the value is, if it is one. -/
def whole? : Decoded → Option Int
  | finite s m e =>
    let (num, den) := ratio m e
    if num % den = 0 then some (signed s (num / den)) else none
  | _ => none

end Decoded

end TagSchema.Number
