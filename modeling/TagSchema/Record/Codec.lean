import TagSchema.Record.Basic
import TagSchema.Shape.Codec

/-!
# Records as JSON

Members come in a fixed order, and texts and lists that are empty are left out where reading
supplies them. `ofJson?_toJson` says that a rule survives writing and reading.
-/

namespace TagSchema

namespace Json

/-- The list, each item read; a missing member is the empty list. -/
def listOr? {α : Type} (j : Json) (key : String) (read : Json → Option α) : Option (List α) :=
  match j.get? key with
  | none => some []
  | some v => v.array?.bind (·.mapM read)

/-- One member, or none for an empty list. -/
def optionalList (key : String) (items : List Json) : List (String × Json) :=
  if items.isEmpty then [] else [(key, .array items)]

def stringMember? (j : Json) (key : String) : Option String := (j.get? key).bind string?

def boolMember? (j : Json) (key : String) : Option Bool := (j.get? key).bind bool?

theorem mapM_written {α β : Type} {write : α → β} {read : β → Option α}
    (back : ∀ a, read (write a) = some a) (items : List α) :
    (items.map write).mapM read = some items := by
  induction items with
  | nil => rfl
  | cons a as ih => simp [back, ih]

theorem listOr?_written {α : Type} {write : α → Json} {read : Json → Option α}
    (back : ∀ a, read (write a) = some a) {j : Json} {name : String} {items : List α}
    (member : j.get? name = if items = [] then none else some (.array (items.map write))) :
    j.listOr? name read = some items := by
  rw [listOr?, member]
  cases items with
  | nil => rfl
  | cons a as => exact mapM_written back (a :: as)

end Json

namespace Rule

def toJson (r : Rule) : Json :=
  .object (("name", .string r.name) :: Json.optionalList "params" (r.params.map .string))

def ofJson? (j : Json) : Option Rule := do
  return { name := ← j.stringMember? "name", params := ← j.listOr? "params" Json.string? }

theorem ofJson?_toJson (r : Rule) : ofJson? r.toJson = some r := by
  obtain ⟨name, params⟩ := r
  cases params with
  | nil => rfl
  | cons p ps =>
    have params : (Rule.toJson ⟨name, p :: ps⟩).listOr? "params" Json.string? = some (p :: ps) :=
      Json.listOr?_written Json.string?_string (by rfl)
    rw [ofJson?, params]
    rfl

end Rule

namespace Field

def toJson (f : Field) : Json :=
  .object (
    [("name", .string f.name), ("json_key", .string f.key), ("type_expression", .string f.typeText),
      ("semantic_type", f.shape.toJson)] ++
    (if f.tag.isEmpty then [] else [("raw_tag", .string f.tag)]) ++
    Json.optionalList "rules" (f.rules.map Rule.toJson) ++
    [("required", .bool f.required), ("nilable", .bool f.nilable), ("optional", .bool f.optional)])

def ofJson? (j : Json) : Option Field := do
  return {
    name := ← j.stringMember? "name"
    key := ← j.stringMember? "json_key"
    typeText := ← j.stringMember? "type_expression"
    shape := ← (j.get? "semantic_type").bind Shape.ofJson?
    tag := ← ((j.get? "raw_tag").getD (.string "")).string?
    rules := ← j.listOr? "rules" Rule.ofJson?
    required := ← j.boolMember? "required"
    nilable := ← j.boolMember? "nilable"
    optional := ← j.boolMember? "optional" }

end Field

namespace Record

def importsJson (imports : List (String × String)) : List (String × Json) :=
  if imports.isEmpty then []
  else [("imports", .object (imports.map fun (name, path) => (name, .string path)))]

def toJson (r : Record) : Json :=
  .object (
    [("name", .string r.name)] ++
    Json.optionalList "type_params" (r.typeParams.map .string) ++
    [("package", .string r.package), ("source_file", .string r.file),
      ("opted_in", .bool r.optedIn)] ++
    importsJson r.imports ++
    [("fields", .array (r.fields.map Field.toJson))])

def importsOfJson? (j : Json) : Option (List (String × String)) :=
  match j.get? "imports" with
  | none => some []
  | some (.object ms) => ms.mapM fun (name, path) => path.string?.map fun p => (name, p)
  | some _ => none

def ofJson? (j : Json) : Option Record := do
  return {
    name := ← j.stringMember? "name"
    typeParams := ← j.listOr? "type_params" Json.string?
    package := ← j.stringMember? "package"
    file := ← j.stringMember? "source_file"
    optedIn := ← j.boolMember? "opted_in"
    imports := ← importsOfJson? j
    fields := ← (j.get? "fields").bind fun v => v.array?.bind (·.mapM Field.ofJson?) }

end Record

end TagSchema
