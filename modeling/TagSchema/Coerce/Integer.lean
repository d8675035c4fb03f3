import TagSchema.Coerce.Error
import TagSchema.Number.Read
import TagSchema.Text.Trim

/-!
# Conversion to integers

All conversions pass through one signed integer of 128 bits, which is then held against the range of
the target. A blank string is zero, except as a big integer; a numeral with a point or an exponent
counts if it is whole.
-/

namespace TagSchema.Coerce

open TagSchema.Number

/-- The range every integer passes through. -/
def wide : Range := .signed 128

/-- A finite whole number below `2 ^ 127` in magnitude. -/
def wholeNumber {l : Layout} (x : Binary l) (source : Value.Kind) (target : Target) :
    Except Error Int :=
  match x.decode with
  | .nan _ => .error (.invalidFormat source x.canonicalText target)
  | .infinite _ => .error (.overflow source x.canonicalText target)
  | .finite s m e =>
    let (num, den) := Decoded.ratio m e
    if den * Nat.pow 2 127 ≤ num then .error (.overflow source x.canonicalText target)
    else if num % den = 0 then .ok (Decoded.signed s (num / den))
    else .error (.notWhole source x.canonicalText target)

def wideOfString (s : String) (target : Target) : Except Error Int :=
  let trimmed := Text.trim s
  if trimmed.isEmpty then .ok 0
  else match wide.read? trimmed with
    | some n => .ok n
    | none =>
      match (Binary.read? trimmed : Option Binary64) with
      | some x => wholeNumber x .string target
      | none => .error (.invalidFormat .string s target)

def toWide (target : Target) : Value → Except Error Int
  | .nil | .nilPointer => .error (.nilPointer target)
  | .pointer v => toWide target v
  | .bool b => .ok b.toNat
  | .int n => .ok n.toInt
  | .uint n => .ok n.toNat
  | .bigInt n => .ok n.toInt
  | .float64 x => wholeNumber x .float64 target
  | .float32 x => wholeNumber (x.convert : Binary64) .float32 target
  | .string s => wideOfString s target
  | v => .error (.unsupported v.kind target)

def toInteger (t : IntegerType) (v : Value) : Except Error Int := do
  let n ← toWide (.integer t) v
  if n < 0 && t.range.lo == 0 then
    throw (.negativeToUnsigned v.indirectKind (integerText n) (.integer t))
  if !t.range.contains n then
    throw (.overflow v.indirectKind (integerText n) (.integer t))
  return n

/-- A sign, if there is one, and the text after it. -/
def splitSign : List Char → Bool × List Char
  | '-' :: cs => (true, cs)
  | '+' :: cs => (false, cs)
  | cs => (false, cs)

/-- The base that a prefix of the digits names, and the digits. -/
def splitBase : List Char → Nat × List Char
  | '0' :: 'x' :: cs => (16, cs)
  | '0' :: 'X' :: cs => (16, cs)
  | cs => (10, cs)

def bigIntOfString (s : String) : Except Error Int :=
  let trimmed := Text.trimChars s.toList
  if trimmed.isEmpty then .error (.emptyInput .string .bigInt)
  else
    let (negative, unsigned) := splitSign trimmed
    let (base, ds) := splitBase unsigned
    if ds.isEmpty then .error (.invalidFormat .string s .bigInt)
    else match readBounded wide base negative 0 ds with
      | .ok n => .ok n
      | .error .overflow => .error (.overflow .string s .bigInt)
      | .error .malformed => .error (.invalidFormat .string s .bigInt)

def toBigInt : Value → Except Error Int
  | .pointer v => toBigInt v
  | .string s => bigIntOfString s
  | v => toWide .bigInt v

end TagSchema.Coerce
