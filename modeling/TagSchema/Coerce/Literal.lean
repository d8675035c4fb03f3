import TagSchema.Coerce.Scalar

/-!
# Literals

The most specific primitive that a value represents: a truth value, then an integer, then a number.
-/

namespace TagSchema.Coerce

open TagSchema.Number

/-- The spellings of truth values in Go source. -/
def goBool? (s : String) : Option Bool :=
  if ["1", "t", "T", "TRUE", "true", "True"].contains s then some true
  else if ["0", "f", "F", "FALSE", "false", "False"].contains s then some false
  else none

/-- One and zero become truth values, and other whole numbers below 9.2·10¹⁸ integers. -/
def narrowNumber {l : Layout} (x : Binary l) : Option Value :=
  match x.decode.whole? with
  | some n =>
    if n = 1 then some (.bool true)
    else if n = 0 then some (.bool false)
    else if n.natAbs < 9200000000000000000 then some (.int (Int64.ofInt n))
    else none
  | none => none

def literalOfString (s : String) : Value :=
  match goBool? s with
  | some b => .bool b
  | none =>
    match (Range.signed 64).read? s with
    | some n => .int (Int64.ofInt n)
    | none =>
      match (Binary.read? s : Option Binary64) with
      | some x => if x.isFinite then .float64 x else .string s
      | none => .string s

def toLiteral : Value → Value
  | .int n => if n = 1 then .bool true else if n = 0 then .bool false else .int n
  | .uint n => if n = 1 then .bool true else if n = 0 then .bool false else .uint n
  | .float64 x => (narrowNumber x).getD (.float64 x)
  | .float32 x => (narrowNumber x).getD (.float32 x)
  | .string s => literalOfString s
  | v => v

end TagSchema.Coerce
