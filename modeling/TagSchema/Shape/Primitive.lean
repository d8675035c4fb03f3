/-!
# Primitive types

The scalar types that Go predeclares. `ofGoName?_goName` says that each canonical spelling names one
kind; `byte` and `rune` are second spellings.
-/

namespace TagSchema

inductive Primitive where
  | string | bool | int | int8 | int16 | int32 | int64 | uint | uint8 | uint16 | uint32 | uint64
  | uintptr | float32 | float64 | complex64 | complex128
  deriving DecidableEq, Repr

namespace Primitive

/-- The canonical spelling. -/
def goName : Primitive → String
  | string => "string"
  | bool => "bool"
  | int => "int"
  | int8 => "int8"
  | int16 => "int16"
  | int32 => "int32"
  | int64 => "int64"
  | uint => "uint"
  | uint8 => "uint8"
  | uint16 => "uint16"
  | uint32 => "uint32"
  | uint64 => "uint64"
  | uintptr => "uintptr"
  | float32 => "float32"
  | float64 => "float64"
  | complex64 => "complex64"
  | complex128 => "complex128"

def all : List Primitive := [
  string, bool, int, int8, int16, int32, int64, uint, uint8, uint16, uint32, uint64, uintptr,
  float32, float64, complex64, complex128]

/-- The primitive of that canonical spelling. -/
def ofCanonical? (name : String) : Option Primitive := all.find? (·.goName == name)

/-- The primitive that a predeclared type name stands for. -/
def ofGoName? (name : String) : Option Primitive :=
  if name == "rune" then some int32
  else if name == "byte" then some uint8
  else ofCanonical? name

theorem ofCanonical?_goName (k : Primitive) : ofCanonical? k.goName = some k := by
  cases k <;> decide

theorem ofGoName?_goName (k : Primitive) : ofGoName? k.goName = some k := by
  cases k <;> decide

/-- The name of the schema constructor. -/
def constructorName : Primitive → String
  | string => "String"
  | bool => "Bool"
  | int => "Int"
  | int8 => "Int8"
  | int16 => "Int16"
  | int32 => "Int32"
  | int64 => "Int64"
  | uint => "Uint"
  | uint8 => "Uint8"
  | uint16 => "Uint16"
  | uint32 => "Uint32"
  | uint64 | uintptr => "Uint64"
  | float32 => "Float32"
  | float64 => "Float64"
  | complex64 => "Complex64"
  | complex128 => "Complex128"

def isInteger : Primitive → Bool
  | int | int8 | int16 | int32 | int64 | uint | uint8 | uint16 | uint32 | uint64 | uintptr => true
  | _ => false

def isFloat : Primitive → Bool
  | float32 | float64 => true
  | _ => false

def isComplex : Primitive → Bool
  | complex64 | complex128 => true
  | _ => false

def isNumeric (k : Primitive) : Bool := k.isInteger || k.isFloat || k.isComplex

end Primitive

end TagSchema
