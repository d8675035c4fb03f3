import TagSchema.Calendar.Timestamp
import TagSchema.Coerce.Complex
import TagSchema.Coerce.Literal
import TagSchema.Emit.Error
import TagSchema.Go.Expr
import TagSchema.Json.Reader
import TagSchema.Record.Basic
import TagSchema.Text.Keyed
import TagSchema.Value.OfJson

/-!
# Literals of parameters

A parameter becomes a literal of a field's type once the conversion to that type accepts it, so that
no literal overflows its type.
-/

namespace TagSchema.Emit

open TagSchema.Go (Expr)
open TagSchema.Number

/-- The magnitudes that are written without an exponent: from the first to below the second. -/
def positionalRange : Binary64 × Binary64 :=
  (Binary.ofDecimal false 1 (-6), Binary.ofDecimal false 1 21)

def isPositional {l : Layout} (x : Binary l) : Bool :=
  let size := (Binary.ofBits false x.magnitude : Binary l).decode
  x.magnitude == 0 ||
    (size.compare? positionalRange.1.decode != some .lt &&
      size.compare? positionalRange.2.decode == some .lt)

def numberText {l : Layout} (x : Binary l) : String :=
  if isPositional x then x.text else x.scientificText

/-- The text of a number that is finite. -/
def finiteText {l : Layout} (x : Binary l) : Except Fault String :=
  if x.isFinite then .ok (numberText x) else .error (.notFinite x.text)

def complexExpr {l : Layout} (c : Complex l) : Except Fault Expr := do
  return .call "complex" [.word (← finiteText c.re), .word (← finiteText c.im)]

def coerced {α : Type} (r : Except Coerce.Error α) : Except Fault α := r.mapError .coercion

def integerExpr (t : Coerce.IntegerType) (v : Value) : Except Fault Expr := do
  return .word (integerText (← coerced (Coerce.toInteger t v)))

def truthText (b : Bool) : String := if b then "true" else "false"

/-- The value as a literal of a primitive type. -/
def scalar (k : Primitive) (v : Value) : Except Fault Expr :=
  match k with
  | .string => return .text (← coerced (Coerce.toText v))
  | .bool => return .word (truthText (← coerced (Coerce.toBool v)))
  | .int | .int64 => integerExpr .i64 v
  | .int8 => integerExpr .i8 v
  | .int16 => integerExpr .i16 v
  | .int32 => integerExpr .i32 v
  | .uint | .uint64 | .uintptr => integerExpr .u64 v
  | .uint8 => integerExpr .u8 v
  | .uint16 => integerExpr .u16 v
  | .uint32 => integerExpr .u32 v
  | .float32 => return .word (← finiteText (← coerced (Coerce.toSingle v)))
  | .float64 => return .word (← finiteText (← coerced (Coerce.toDouble v)))
  | .complex64 => do complexExpr (← coerced (Coerce.toComplex64 v))
  | .complex128 => do complexExpr (← coerced (Coerce.toComplex128 v))

/-- The literal of a value that is no collection. -/
def plainExpr? : Value → Option Expr
  | .nil | .nilPointer => some (.word "nil")
  | .bool b => some (.word (truthText b))
  | .int n => some (.word (integerText n.toInt))
  | .uint n => some (.word (integerText n.toNat))
  | .bigInt n => some (.word (integerText n.toInt))
  | .float64 x => if x.isFinite then some (.word x.pointedText) else none
  | .float32 x => if x.isFinite then some (.word x.pointedText) else none
  | .string s => some (.text s)
  | _ => none

mutual

/-- The value as a literal of type `any`, narrowed first. -/
def anyExpr? : Value → Option Expr
  | .array items => do return .slice "any" (← anyExprs? items)
  | .map entries => do return .map "any" (Keyed.ofList (← anyEntries? entries))
  | v => plainExpr? (Coerce.toLiteral v)

def anyExprs? : List Value → Option (List Expr)
  | [] => some []
  | v :: vs => do return (← anyExpr? v) :: (← anyExprs? vs)

def anyEntries? : List (Value × Value) → Option (List (String × Expr))
  | [] => some []
  | (k, v) :: es => do return (← k.string?, ← anyExpr? v) :: (← anyEntries? es)

end

/-- A timestamp as a call of `time.Date`; a leap second counts as the one before it. -/
def timeExpr? (text : String) : Option Expr :=
  (Calendar.Timestamp.parse? (Text.trim text)).map fun t =>
    let leap := 59 < t.second
    let second := if leap then 59 else t.second
    let nanosecond := if leap then 1000000000 + t.nanosecond else t.nanosecond
    let zone := if t.offset = 0 then Expr.word "time.UTC"
      else .call "time.FixedZone" [.text "", .word (integerText (t.offset * 60))]
    let number (n : Nat) := Expr.word (integerText n)
    .call "time.Date" [number t.date.year, number t.date.month, number t.date.day, number t.hour,
      number t.minute, number second, number nanosecond, zone]

/-- A parameter that begins like a JSON collection is read as one if it can be. -/
def valueOfParam (raw : String) : Value :=
  let trimmed := Text.trim raw
  match trimmed.toList.head? with
  | some '[' | some '\x7b' =>
    match Json.parse? trimmed with
    | some doc => Value.ofJson doc
    | none => .string raw
  | _ => .string raw

/-- How the elements of a collection become literals, if they do. -/
def elementExpr? : Shape → Option (Value → Except Fault Expr)
  | .primitive k => some (scalar k)
  | .any => some fun v => (anyExpr? v).elim (.error .noLiteralForm) .ok
  | _ => none

/-- The items of a collection parameter: a JSON array, or the parameters one by one. -/
def sliceItems? (r : Rule) : Option (List Value) :=
  match valueOfParam r.joined with
  | .array items => some items
  | .map _ => none
  | _ => some (r.params.map .string)

/-- The argument of a rule that sets a value of a shape. -/
def valueExpr (r : Rule) (f : Field) : Except Error Expr :=
  let raw := r.joined
  let unsupported (why : Obstacle) : Except Error Expr :=
    .error (.unsupported r.name f.typeText why)
  let checked {α : Type} (e : Except Fault α) : Except Error α :=
    e.mapError (.invalidParam r.name raw)
  match f.shape.pointee with
  | .primitive k => checked (scalar k (.string raw))
  | .time => checked ((timeExpr? raw).elim (.error .notTimestamp) .ok)
  | .any => (anyExpr? (valueOfParam raw)).elim (unsupported .noLiteralForm) .ok
  | .slice element =>
    match sliceItems? r, elementExpr? element with
    | none, _ => unsupported .objectForSlice
    | some _, none => unsupported .sliceElements
    | some items, some expr => do return .slice element.goType (← checked (items.mapM expr))
  | .map key value =>
    if key ≠ .primitive .string then unsupported .mapKeys
    else match valueOfParam raw, elementExpr? value with
      | .map entries, some expr => do
        let pairs ← entries.mapM fun (k, v) => do
          let some key := k.string? | throw (.unsupported r.name f.typeText .objectKeys)
          return (key, ← checked (expr v))
        return .map value.goType (Keyed.ofList pairs)
      | .map _, none => unsupported .mapValues
      | _, _ => unsupported .notObject
  | .pointer _ | .struct _ => unsupported .typeHasNone

/-- The alternatives of an enumeration over elements of shape `leaf`. -/
def enumExprs (r : Rule) (leaf : Shape) : Except Error (List Expr) :=
  match elementExpr? leaf with
  | none => .error (.unsupported r.name leaf.goType .enumElements)
  | some expr => r.params.mapM fun p => (expr (.string p)).mapError (.invalidParam r.name p)

/-- A bound on a number. An integer is written in decimal; a number with a fraction keeps its own
spelling. -/
def boundExpr (k : Primitive) (param : String) : Except Fault Expr :=
  if k.isInteger then scalar k (.string param)
  else if k.isFloat then do
    let _ ← scalar k (.string param)
    return .word (Text.trim param)
  else .error (.noOrdering k)

/-- A length or a count, which is a natural number. -/
def sizeExpr (param : String) : Except Fault Expr := integerExpr .u64 (.string param)

end TagSchema.Emit
