import TagSchema.Number.Binary

/-!
# Shortest decimals

The decimal with the fewest digits that reads back as a given binary number; of two such decimals
the nearer one, and of two equally near the greater.
-/

namespace TagSchema.Number

/-- `digits · 10 ^ exponent`. -/
structure Decimal where
  digits : Nat
  exponent : Int
  deriving DecidableEq, Repr

/-- Everything in quarters of the last place: the value, and how far it may be missed below and
above. -/
structure Interval where
  quarters : Nat
  below : Nat
  above : Nat
  exponent : Int
  closed : Bool

/-- The reals that round to `m · 2 ^ e`; below a power of two the numbers lie closer. -/
def Interval.around (l : Layout) (m : Nat) (e : Int) : Interval where
  quarters := 4 * m
  below := if m = Nat.pow 2 l.fractionBits && l.minExponent < e then 1 else 2
  above := 2
  exponent := e - 2
  closed := m % 2 == 0

/-- `quarters · 2 ^ e / 10 ^ k` as a quotient. -/
def onGrid (quarters : Nat) (e k : Int) : Nat × Nat :=
  let num := if 0 ≤ e then quarters * Nat.pow 2 e.toNat else quarters
  let den := if 0 ≤ e then 1 else Nat.pow 2 (-e).toNat
  if 0 ≤ k then (num, den * Nat.pow 10 k.toNat) else (num * Nat.pow 10 (-k).toNat, den)

/-- The best multiple of `10 ^ k` in the interval, if it holds a neighbour of its middle. -/
def Interval.neighbour? (i : Interval) (k : Int) : Option Nat :=
  let (num, den) := onGrid i.quarters i.exponent k
  let (lo, _) := onGrid i.below i.exponent k
  let (hi, _) := onGrid i.above i.exponent k
  let down := num / den
  let rest := num % den
  let fits (gap room : Nat) : Bool := gap < room || (i.closed && gap == room)
  let downFits := fits rest lo
  let upFits := fits (den - rest) hi
  if upFits && (!downFits || den ≤ 2 * rest) then some (down + 1)
  else if downFits then some down
  else none

/-- The number of digits before the point of `num / den`, found by trial from an estimate. -/
def decimalExponent (num den : Nat) : Int :=
  let guess := (Binary.floorLog2 num den) * 30103 / 100000
  let below (k : Int) : Bool :=
    if 0 ≤ k then num < den * Nat.pow 10 k.toNat else num * Nat.pow 10 (-k).toNat < den
  if below guess then guess
  else if below (guess + 1) then guess + 1
  else guess + 2

/-- Tries the grids `10 ^ k`, `10 ^ (k - 1)`, … in turn. -/
def Interval.search (i : Interval) : Nat → Int → Decimal
  | 0, k => ⟨(onGrid i.quarters i.exponent k).1 / (onGrid i.quarters i.exponent k).2, k⟩
  | n + 1, k =>
    match i.neighbour? k with
    | some d => ⟨d, k⟩
    | none => i.search n (k - 1)

/-- The shortest decimal for the positive number `m · 2 ^ e`. -/
def shortest (l : Layout) (m : Nat) (e : Int) : Decimal :=
  let (num, den) := Decoded.ratio m e
  (Interval.around l m e).search 20 (decimalExponent num den - 1)

end TagSchema.Number
