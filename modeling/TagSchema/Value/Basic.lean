import TagSchema.Calendar.Timestamp
import TagSchema.Number.Text

/-!
# Runtime values

The shapes that a field can hold at run time. A map keeps its entries in order and may have keys of
any kind. `indirect` follows pointers; a value is nil exactly when that leads nowhere.
-/

namespace TagSchema

open TagSchema.Number (Layout Binary Binary32 Binary64)

structure Complex (l : Layout) where
  re : Binary l
  im : Binary l
  deriving DecidableEq, Repr

abbrev Complex64 := Complex .single
abbrev Complex128 := Complex .double

/-- Real part, signed imaginary part and `i`, in parentheses. -/
def Complex.text (c : Complex128) : String :=
  "(" ++ c.re.text ++ (if c.im.isNegative then "" else "+") ++ c.im.text ++ "i)"

/-- The same number with components of double width. -/
def Complex.widen (c : Complex64) : Complex128 := ⟨c.re.convert, c.im.convert⟩

inductive Value where
  | nil
  | nilPointer
  | pointer (target : Value)
  | bool (b : Bool)
  | int (n : Int64)
  | uint (n : UInt64)
  | float32 (x : Binary32)
  | float64 (x : Binary64)
  | bigInt (n : BitVec 128)
  | complex64 (c : Complex64)
  | complex128 (c : Complex128)
  | string (s : String)
  | bytes (bs : List UInt8)
  | time (t : Calendar.Timestamp)
  | array (items : List Value)
  | map (entries : List (Value × Value))
  deriving Repr, Inhabited

namespace Value

inductive Kind where
  | nil | pointer | bool | int64 | uint64 | float32 | float64 | bigInt | complex64 | complex128
  | string | bytes | time | slice | map
  deriving DecidableEq, Repr

def Kind.name : Kind → String
  | nil => "nil"
  | pointer => "pointer"
  | bool => "bool"
  | int64 => "int64"
  | uint64 => "uint64"
  | float32 => "float32"
  | float64 => "float64"
  | bigInt => "big.Int"
  | complex64 => "complex64"
  | complex128 => "complex128"
  | string => "string"
  | bytes => "[]byte"
  | time => "time.Time"
  | slice => "slice"
  | map => "map"

def kind : Value → Kind
  | .nil => .nil
  | .nilPointer | .pointer _ => .pointer
  | .bool _ => .bool
  | .int _ => .int64
  | .uint _ => .uint64
  | .float32 _ => .float32
  | .float64 _ => .float64
  | .bigInt _ => .bigInt
  | .complex64 _ => .complex64
  | .complex128 _ => .complex128
  | .string _ => .string
  | .bytes _ => .bytes
  | .time _ => .time
  | .array _ => .slice
  | .map _ => .map

/-- The value at the end of a chain of pointers. -/
def indirect : Value → Option Value
  | .nil | .nilPointer => none
  | .pointer v => v.indirect
  | v => some v

def isNil (v : Value) : Bool := v.indirect.isNone

/-- The kind behind all pointers. -/
def indirectKind (v : Value) : Kind := (v.indirect.map kind).getD .nil

def isNumeric (v : Value) : Bool :=
  match v.indirect with
  | some (.int _) | some (.uint _) | some (.float32 _) | some (.float64 _) | some (.bigInt _) =>
    true
  | _ => false

def string? (v : Value) : Option String :=
  match v.indirect with
  | some (.string s) => some s
  | _ => none

/-- The integer behind all pointers. -/
def integer? (v : Value) : Option Int :=
  match v.indirect with
  | some (.int n) => some n.toInt
  | some (.uint n) => some n.toNat
  | some (.bigInt n) => some n.toInt
  | _ => none

/-- The integer behind all pointers as a word that holds every kind of integer. -/
def word? (v : Value) : Option (BitVec 128) :=
  match v.indirect with
  | some (.int n) => some (n.toBitVec.signExtend 128)
  | some (.uint n) => some (n.toBitVec.setWidth 128)
  | some (.bigInt n) => some n
  | _ => none

/-- Characters of a string, bytes, items of an array, or entries of a map. -/
def size (v : Value) : Option Nat :=
  match v.indirect with
  | some (.string s) => some s.length
  | some (.bytes bs) => some bs.length
  | some (.array items) => some items.length
  | some (.map entries) => some entries.length
  | _ => none

/-- What looks through pointers has the same answer at the end of a chain. -/
theorem eq_of_indirect {α : Type} {f : Value → α} (through : ∀ v, f (.pointer v) = f v) :
    ∀ {v w : Value}, v.indirect = some w → f v = f w
  | .pointer v, _, h => (through v).trans (eq_of_indirect through (v := v) h)
  | .nil, _, h | .nilPointer, _, h => by cases h
  | .bool _, _, h | .int _, _, h | .uint _, _, h | .float32 _, _, h | .float64 _, _, h
  | .bigInt _, _, h | .complex64 _, _, h | .complex128 _, _, h | .string _, _, h
  | .bytes _, _, h | .time _, _, h | .array _, _, h | .map _, _, h => by
    rw [Option.some.inj h]

end Value

end TagSchema
