import TagSchema.Coerce.Integer
import TagSchema.Text.Case
import TagSchema.Text.Utf8

/-!
# Conversion to truth values, text and floating point
-/

namespace TagSchema.Coerce

open TagSchema.Number

def trueWords : List String := ["true", "1", "yes", "on", "y"]
def falseWords : List String := ["false", "0", "no", "off", "n", ""]

def boolOfString (s : String) : Except Error Bool :=
  let word := Text.toLower (Text.trim s)
  if trueWords.contains word then .ok true
  else if falseWords.contains word then .ok false
  else .error (.invalidFormat .string s .bool)

/-- Differs from both zeros. -/
def nonzero {l : Layout} (x : Binary l) : Bool := x.magnitude != 0

def toBool : Value → Except Error Bool
  | .nil | .nilPointer => .error (.nilPointer .bool)
  | .pointer v => toBool v
  | .bool b => .ok b
  | .int n => .ok (n != 0)
  | .uint n => .ok (n != 0)
  | .bigInt n => .ok (n != 0)
  | .float64 x => .ok (nonzero x)
  | .float32 x => .ok (nonzero x)
  | .string s => boolOfString s
  | v => .error (.unsupported v.kind .bool)

def toText : Value → Except Error String
  | .nil | .nilPointer => .error (.nilPointer .string)
  | .pointer v => toText v
  | .string s => .ok s
  | .bool b => .ok (if b then "true" else "false")
  | .int n => .ok (integerText n.toInt)
  | .uint n => .ok (integerText n.toNat)
  | .bigInt n => .ok (integerText n.toInt)
  | .float64 x => .ok x.canonicalText
  | .float32 x => .ok x.canonicalText
  | .complex128 c => .ok c.text
  | .complex64 c => .ok c.widen.text
  | .bytes bs =>
    match Text.ofUtf8? bs with
    | some s => .ok s
    | none => .error (.invalidFormat .bytes (Text.ofUtf8Lossy bs) .string)
  | .time t => .ok t.text
  | v => .error (.unsupported v.kind .string)

def toDoubleFor (target : Target) : Value → Except Error Binary64
  | .nil | .nilPointer => .error (.nilPointer target)
  | .pointer v => toDoubleFor target v
  | .bool b => .ok (Binary.ofNat b.toNat)
  | .int n => .ok (Binary.ofInt n.toInt)
  | .uint n => .ok (Binary.ofNat n.toNat)
  | .bigInt n => .ok (Binary.ofInt n.toInt)
  | .float64 x => .ok x
  | .float32 x => .ok x.convert
  | .string s =>
    let trimmed := Text.trim s
    if trimmed.isEmpty then .ok (Binary.zero false)
    else match Binary.read? trimmed with
      | some x => .ok x
      | none => .error (.invalidFormat .string s target)
  | v => .error (.unsupported v.kind target)

/-- To double width; a blank string is zero. -/
def toDouble (v : Value) : Except Error Binary64 := toDoubleFor .f64 v

/-- Finite, and larger in magnitude than every number of single width. -/
def exceedsSingle (x : Binary64) : Bool :=
  match x.decode, (Binary.largest false : Binary32).decode with
  | .finite _ m e, .finite _ n f =>
    let a := Decoded.ratio m e
    let b := Decoded.ratio n f
    b.1 * a.2 < a.1 * b.2
  | _, _ => false

def toSingle (v : Value) : Except Error Binary32 := do
  let x ← toDoubleFor .f32 v
  if exceedsSingle x then throw (.overflow v.indirectKind x.canonicalText .f32)
  return x.convert

end TagSchema.Coerce
