import TagSchema.Number.Digits

/-!
# Integers of fixed range

An integer is written as digits with an optional sign and must fit its range; a range without
negative numbers admits no minus sign.
-/

namespace TagSchema.Number

structure Range where
  lo : Int
  hi : Int
  deriving DecidableEq, Repr

namespace Range

def signed (width : Nat) : Range :=
  ⟨-(Nat.pow 2 (width - 1) : Nat), (Nat.pow 2 (width - 1) : Nat) - 1⟩

def unsigned (width : Nat) : Range := ⟨0, (Nat.pow 2 width : Nat) - 1⟩

def contains (r : Range) (n : Int) : Bool := r.lo ≤ n && n ≤ r.hi

end Range

inductive IntegerFault where
  | malformed | overflow
  deriving DecidableEq, Repr

/-- Digits after `acc`, counted downward if `negative`; the first bad digit or overflow decides. -/
def readBounded (r : Range) (base : Nat) (negative : Bool) (acc : Int) :
    List Char → Except IntegerFault Int
  | [] => .ok acc
  | c :: cs =>
    match digitValue base c with
    | none => .error .malformed
    | some d =>
      let next := acc * base + (if negative then -(d : Int) else d)
      if r.contains next then readBounded r base negative next cs else .error .overflow

/-- An optional sign and at least one digit. -/
def readInteger (r : Range) (base : Nat) (cs : List Char) : Except IntegerFault Int :=
  match cs with
  | '+' :: ds => if ds.isEmpty then .error .malformed else readBounded r base false 0 ds
  | '-' :: ds =>
    if ds.isEmpty || !(r.lo < 0) then .error .malformed else readBounded r base true 0 ds
  | ds => if ds.isEmpty then .error .malformed else readBounded r base false 0 ds

def Range.read? (r : Range) (s : String) : Option Int := (readInteger r 10 s.toList).toOption

/-- The decimal text of an integer. -/
def integerText (n : Int) : String :=
  String.ofList (if n < 0 then '-' :: digits n.natAbs else digits n.natAbs)

end TagSchema.Number
