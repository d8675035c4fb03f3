import TagSchema.Go.Expr
import TagSchema.Go.Name
import TagSchema.Record.Basic

/-!
# Base expressions

The constructor that a field's schema starts from. A reference to the enclosing record is wrapped so
that the record's schema is built on demand only.
-/

namespace TagSchema.Emit

open TagSchema.Go (Expr)

inductive Base where
  | primitive (k : Primitive)
  | uuid
  | time
  | any
  | enum (values : List Expr)
  | slice (element : Base)
  | map (key value : Base)
  /-- The schema of a struct, by its spelling. -/
  | struct (name : String)
  /-- The schema of the enclosing record, built on demand. -/
  | lazy (typeName : String)
  deriving Repr, Inhabited

namespace Base

/-- The call of a constructor of the schema library. -/
def construct (schema name arguments : String) : String :=
  schema ++ "." ++ name ++ "(" ++ arguments ++ ")"

def fromStruct (schema name : String) : String := schema ++ ".FromStruct[" ++ name ++ "]()"

def lazyText (schema typeName : String) : String :=
  construct schema "Lazy"
    ("func() " ++ schema ++ ".Type[any] \x7b return " ++ fromStruct schema typeName ++ " \x7d")

def render (schema : String) : Base → String
  | primitive k => construct schema k.constructorName ""
  | uuid => construct schema "UUID" ""
  | time => construct schema "Time" ""
  | any => construct schema "Any" ""
  | enum values => construct schema "Enum" (Expr.commas (Expr.renderAll values))
  | slice element => construct schema "Slice" (element.render schema)
  | map key value => construct schema "Map" (key.render schema ++ ", " ++ value.render schema)
  | struct name => fromStruct schema name
  | lazy typeName => lazyText schema typeName

/-- The base of a struct reference within `r`. -/
def ofStruct (r : Record) (name : String) : Base :=
  if Go.baseName name = r.name then lazy r.typeName else struct name

def ofShape (r : Record) : Shape → Base
  | .primitive k => primitive k
  | .pointer s => ofShape r s
  | .slice s => slice (ofShape r s)
  | .map k v => map (ofShape r k) (ofShape r v)
  | .time => time
  | .struct name => ofStruct r name
  | .any => any

/-- The base of a shape whose leaf gives way to another base. -/
def withLeaf (leaf : Base) : Shape → Base
  | .pointer s => withLeaf leaf s
  | .slice s => slice (withLeaf leaf s)
  | _ => leaf

/-- The text behind the first closing bracket. -/
def afterBracket (cs : List Char) : Option (List Char) :=
  match cs.dropWhile (· != ']') with
  | _ :: rest => some rest
  | [] => none

theorem afterBracket_length {cs rest : List Char} (h : afterBracket cs = some rest) :
    rest.length < cs.length := by
  have := (List.dropWhile_suffix (l := cs) (· != ']')).length_le
  simp only [afterBracket] at h
  split at h
  · rename_i heq
    rw [heq, Option.some.inj h] at this
    exact Nat.lt_of_succ_le this
  · simp at h

/-- The slices and arrays between a type and the type called `name`, if only those and pointers lead
there. -/
def depth? (name : String) (cs : List Char) : Option Nat :=
  match cs with
  | '*' :: rest => depth? name rest
  | '[' :: rest =>
    match h : afterBracket rest with
    | none => none
    | some rest =>
      have := afterBracket_length h
      (depth? name rest).map (· + 1)
  | cs => if Go.baseChars cs = name.toList then some 0 else none
termination_by cs.length
decreasing_by all_goals simp_all; try omega

/-- How deep in slices the enclosing record stands in a type's spelling. -/
def selfDepth (r : Record) (typeText : String) : Option Nat :=
  depth? r.name (Text.trimChars typeText.toList)

def slices : Nat → Base → Base
  | 0, b => b
  | n + 1, b => slice (slices n b)

/-- The base of a field; `leaf` gives way only where the type does not spell the record itself. -/
def ofField (r : Record) (f : Field) (leaf : Option Base) : Base :=
  match selfDepth r f.typeText with
  | some n => slices n (lazy r.typeName)
  | none =>
    match leaf with
    | some b => withLeaf b f.shape
    | none => ofShape r f.shape

end Base

end TagSchema.Emit
