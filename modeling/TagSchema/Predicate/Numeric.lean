import TagSchema.Coerce.Scalar

/-!
# Order and divisibility

Two integers compare exactly; any other pair of numbers compares in double width. A value that is no
number satisfies nothing.
-/

namespace TagSchema.Predicate

open TagSchema.Number

/-- The order of two numbers, if both are numbers and neither is the one that is no number. -/
def compare? (v limit : Value) : Option Ordering :=
  match v.word?, limit.word? with
  | some a, some b => some (compare a.toInt b.toInt)
  | _, _ =>
    if v.isNumeric && limit.isNumeric then
      match Coerce.toDouble v, Coerce.toDouble limit with
      | .ok x, .ok y => x.decode.compare? y.decode
      | _, _ => none
    else none

def lt (v limit : Value) : Bool := compare? v limit == some .lt

def lte (v limit : Value) : Bool := (compare? v limit).any (· != .gt)

def gt (v limit : Value) : Bool := compare? v limit == some .gt

def gte (v limit : Value) : Bool := (compare? v limit).any (· != .lt)

def zeroValue : Value := .int 0

def positive (v : Value) : Bool := gt v zeroValue
def negative (v : Value) : Bool := lt v zeroValue
def nonPositive (v : Value) : Bool := lte v zeroValue
def nonNegative (v : Value) : Bool := gte v zeroValue

/-- The largest remainder that counts as none. -/
def tolerance : Binary64 := Binary.ofDecimal false 1 (-10)

/-- `|m · 2 ^ e mod n · 2 ^ f|` is smaller than the tolerance. -/
def remainderIsSmall (m : Nat) (e : Int) (n : Nat) (f : Int) : Bool :=
  let k := min e f
  let r := m * Nat.pow 2 (e - k).toNat % (n * Nat.pow 2 (f - k).toNat)
  match tolerance.decode with
  | .finite _ t g =>
    let a := Decoded.ratio r k
    let b := Decoded.ratio t g
    a.1 * b.2 < b.1 * a.2
  | _ => false

/-- Divisibility in double width, up to the tolerance; every finite number has itself as its
remainder by an infinite one. -/
def dividesApproximately (x d : Decoded) : Bool :=
  match x, d with
  | .finite _ m e, .finite _ n f => n != 0 && remainderIsSmall m e n f
  | .finite _ m e, .infinite _ =>
    match tolerance.decode with
    | .finite _ t g =>
      let a := Decoded.ratio m e
      let b := Decoded.ratio t g
      a.1 * b.2 < b.1 * a.2
    | _ => false
  | _, _ => false

/-- The remainder of a division of words. There is none by zero, and none where the quotient is too
large for a word. -/
def remainder? (a d : BitVec 128) : Option (BitVec 128) :=
  if d = 0 ∨ a = .intMin 128 ∧ d = -1 then none else some (a.srem d)

/-- Divisibility; nothing is a multiple of zero. -/
def multipleOf (v divisor : Value) : Bool :=
  match v.word?, divisor.word? with
  -- Where the quotient is too large, nothing remains.
  | some a, some d => d != 0 && (remainder? a d).all (· == 0)
  | _, _ =>
    if v.isNumeric && divisor.isNumeric then
      match Coerce.toDouble v, Coerce.toDouble divisor with
      | .ok x, .ok d => dividesApproximately x.decode d.decode
      | _, _ => false
    else false

end TagSchema.Predicate
