import TagSchema.Go.Name
import TagSchema.Go.StructTag
import TagSchema.Record.Basic
import TagSchema.Shape.Index
import TagSchema.Tag.Basic
import TagSchema.Text.Camel

/-!
# Records of a source file

A struct is a record if a comment above it asks for a schema or one of its fields carries a rule
tag. Only exported fields that are not embedded belong to it.
-/

namespace TagSchema.Record

open TagSchema.Go (Member TypeExpr TypeDecl SourceFile)

/-- A field whose tag does not parse. -/
structure Fault where
  file : String
  record : String
  field : String
  error : Tag.Error
  deriving Repr

def Fault.message (f : Fault) : String :=
  s!"{f.file}: {f.record}.{f.field}: invalid gozod tag: {f.error.message}"

/-- The rule tag within a struct tag. -/
def ruleTag? (structTag : Option String) : Option String :=
  structTag.bind (Go.StructTag.lookup · "gozod")

/-- The name that a struct tag gives the field in JSON, unless it is empty or a dash. -/
def jsonName? (structTag : Option String) : Option String :=
  let value := structTag.bind (Go.StructTag.lookup · "json")
  (value.map fun v => String.ofList (v.toList.takeWhile (· != ','))).filter fun name =>
    name != "" && name != "-"

/-- The schema key of a field. -/
def keyOf (structTag : Option String) (name : String) : String :=
  (jsonName? structTag).getD (Text.camel name)

/-- The exported fields of one declaration; the first bad tag is at fault under the field's name. -/
def fieldsOf (ix : Index) (scope : Scope) (optedIn : Bool) (m : Member TypeExpr) :
    Except (String × Tag.Error) (List Field) :=
  let tag := ruleTag? m.tag
  if tag == some "-" || (tag.isNone && !optedIn) then .ok []
  else (m.names.filter Go.isExported).mapM fun name => do
    let rules ← (Tag.parse (tag.getD "")).mapError fun e => (name, e)
    let shape := ix.resolve scope m.type
    return Field.ofRules name (keyOf m.tag name) m.type.text shape (tag.getD "") rules

/-- The record of a declaration, if it is one. -/
def ofDecl? (ix : Index) (f : SourceFile) (d : TypeDecl) : Except Fault (Option Record) :=
  match d.type with
  | .struct members _ =>
    if d.isAlias || !(d.optedIn || members.any fun m => (ruleTag? m.tag).isSome) then .ok none
    else do
      let scope := Scope.of f.imports d.typeParams
      let fields ← (members.filter (!·.isEmbedded)).mapM fun m =>
        (fieldsOf ix scope d.optedIn m).mapError fun (field, error) =>
          ⟨f.path, d.name, field, error⟩
      return some {
        name := d.name, typeParams := d.typeParams, package := f.package, file := f.path
        optedIn := d.optedIn, imports := f.imports, fields := fields.flatten }
  | _ => .ok none

/-- The records of a file, in the order of their declarations. -/
def ofFile (ix : Index) (f : SourceFile) : Except Fault (List Record) := do
  return (← f.decls.mapM (ofDecl? ix f)).filterMap id

end TagSchema.Record
