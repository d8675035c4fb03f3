import TagSchema.Shape.Primitive

/-!
# Shapes

What a field's type means once named types are looked through. `pointee` strips pointers, and `leaf`
strips pointers and slices.
-/

namespace TagSchema

inductive Shape where
  | primitive (k : Primitive)
  | pointer (target : Shape)
  /-- Slices and arrays of fixed length. -/
  | slice (element : Shape)
  | map (key value : Shape)
  | time
  /-- A struct of the package, by its spelling with type arguments. -/
  | struct (name : String)
  /-- Whatever has no schema of its own. -/
  | any
  deriving DecidableEq, Repr

namespace Shape

def isPointer : Shape → Bool
  | pointer _ => true
  | _ => false

def pointee : Shape → Shape
  | pointer s => s.pointee
  | s => s

def leaf : Shape → Shape
  | pointer s | slice s => s.leaf
  | s => s

/-- The primitive behind all pointers. -/
def primitive? (s : Shape) : Option Primitive :=
  match s.pointee with
  | primitive k => some k
  | _ => none

/-- Whether a time occurs anywhere in the shape. -/
def mentionsTime : Shape → Bool
  | time => true
  | pointer s | slice s => s.mentionsTime
  | map k v => k.mentionsTime || v.mentionsTime
  | _ => false

/-- The Go spelling. -/
def goType : Shape → String
  | primitive k => k.goName
  | pointer s => "*" ++ s.goType
  | slice s => "[]" ++ s.goType
  | map k v => "map[" ++ k.goType ++ "]" ++ v.goType
  | time => "time.Time"
  | struct name => name
  | any => "any"

theorem leaf_pointee (s : Shape) : s.pointee.leaf = s.leaf := by
  induction s with
  | pointer s ih => exact ih
  | _ => rfl

end Shape

end TagSchema
