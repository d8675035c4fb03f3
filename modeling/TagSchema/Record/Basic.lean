import TagSchema.Rule.Basic
import TagSchema.Shape.Basic

/-!
# Records

A record is a struct selected for a schema, with its exported fields in the order of declaration.
-/

namespace TagSchema

structure Field where
  name : String
  /-- The key in the schema. -/
  key : String
  /-- The type as it is spelled in the source. -/
  typeText : String
  shape : Shape
  /-- The tag as it is written. -/
  tag : String
  rules : List Rule
  required : Bool
  nilable : Bool
  optional : Bool
  deriving DecidableEq, Repr

namespace Field

/-- A field whose flags follow from its rules: it is optional if nothing requires it and it may be
nil. -/
def ofRules (name key typeText : String) (shape : Shape) (tag : String) (rules : List Rule) :
    Field :=
  let required := Rule.hasKind .required rules
  let nilable := Rule.hasKind .nilable rules
  { name, key, typeText, shape, tag, rules, required, nilable,
    optional := !required && (nilable || shape.isPointer) }

def hasRule (f : Field) (k : Rule.Kind) : Bool := Rule.hasKind k f.rules

end Field

structure Record where
  name : String
  typeParams : List String
  package : String
  /-- The file that declares the struct. Its path is Unicode text; a path that is not has no written
  form, and no record here. -/
  file : String
  /-- Whether the declaration carries the generation directive. -/
  optedIn : Bool
  /-- Imports of the declaring file, from name to path, in order of name. -/
  imports : List (String × String)
  fields : List Field
  deriving DecidableEq, Repr

namespace Record

/-- The record as a type, applied to its parameters. -/
def typeName (r : Record) : String :=
  if r.typeParams.isEmpty then r.name
  else r.name ++ "[" ++ ", ".intercalate r.typeParams ++ "]"

def usesRule (r : Record) (k : Rule.Kind) : Bool := r.fields.any (·.hasRule k)

def usesTime (r : Record) : Bool := r.fields.any (·.shape.mentionsTime)

end Record

end TagSchema
