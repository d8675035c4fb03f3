import TagSchema.Number.Integer
import TagSchema.Text.Quoted
import TagSchema.Value.Basic

/-!
# Conversion errors

Why a value has no counterpart in a target type.
-/

namespace TagSchema.Coerce

open TagSchema.Number (Range)

inductive IntegerType where
  | i8 | i16 | i32 | i64 | i128 | u8 | u16 | u32 | u64 | u128
  deriving DecidableEq, Repr

namespace IntegerType

def name : IntegerType → String
  | i8 => "i8"
  | i16 => "i16"
  | i32 => "i32"
  | i64 => "i64"
  | i128 => "i128"
  | u8 => "u8"
  | u16 => "u16"
  | u32 => "u32"
  | u64 => "u64"
  | u128 => "u128"

def range : IntegerType → Range
  | i8 => .signed 8
  | i16 => .signed 16
  | i32 => .signed 32
  | i64 => .signed 64
  | i128 => .signed 128
  | u8 => .unsigned 8
  | u16 => .unsigned 16
  | u32 => .unsigned 32
  | u64 => .unsigned 64
  | u128 => .unsigned 128

end IntegerType

inductive Target where
  | integer (t : IntegerType)
  | f32 | f64 | bool | string | bigInt | complex64 | complex128
  deriving DecidableEq, Repr

def Target.name : Target → String
  | .integer t => t.name
  | .f32 => "f32"
  | .f64 => "f64"
  | .bool => "bool"
  | .string => "string"
  | .bigInt => "big.Int"
  | .complex64 => "complex64"
  | .complex128 => "complex128"

inductive Error where
  | unsupported (source : Value.Kind) (target : Target)
  | nilPointer (target : Target)
  | invalidFormat (source : Value.Kind) (value : String) (target : Target)
  | emptyInput (source : Value.Kind) (target : Target)
  | overflow (source : Value.Kind) (value : String) (target : Target)
  | negativeToUnsigned (source : Value.Kind) (value : String) (target : Target)
  | notWhole (source : Value.Kind) (value : String) (target : Target)
  deriving DecidableEq, Repr

def Error.message : Error → String
  | unsupported source target => s!"cannot convert {source.name} to {target.name}"
  | nilPointer target => s!"cannot convert nil pointer to {target.name}"
  | invalidFormat source value target =>
    s!"cannot parse {Text.debugQuoted value} ({source.name}) as {target.name}"
  | emptyInput source target => s!"cannot convert empty {source.name} to {target.name}"
  | overflow source value target => s!"value {value} ({source.name}) overflows {target.name}"
  | negativeToUnsigned source value target =>
    s!"cannot convert negative value {value} ({source.name}) to unsigned {target.name}"
  | notWhole source value target =>
    s!"value {value} ({source.name}) is not a whole number; cannot convert to {target.name}"

end TagSchema.Coerce
