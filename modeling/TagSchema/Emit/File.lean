import TagSchema.Emit.Expression
import TagSchema.Emit.Import
import TagSchema.Emit.Layout

/-!
# Generated files

A generated file holds one schema method for each record of a source file, behind a header that
marks it as generated.
-/

namespace TagSchema.Emit

/-- An emission error with its place. -/
structure Located where
  file : String
  record : String
  field : String
  error : Error
  deriving Repr

def Located.message (l : Located) : String :=
  s!"{l.file}: {l.record}.{l.field}: {l.error.message}"

/-- The line that marks a generated file. -/
def marker : String := "// Code generated by gozodgen. DO NOT EDIT."

/-- The rendered keys and schemas of a record. -/
def recordEntries (s : Settings) (r : Record) : Except Located (List Layout.Entry) :=
  r.fields.mapM fun f =>
    match fieldText s r f with
    | .ok text => .ok (Go.quote f.key, text)
    | .error e => .error ⟨r.file, r.name, f.name, e⟩

/-- The receiver's name, which differs from the packages that a body refers to. -/
def receiver (s : Settings) (r : Record) : String :=
  let name := Go.receiverName r.name
  if [s.schemaAlias, regexPackage, "time"].contains name then "x" else name

/-- The composite literal of a record's entries. -/
def entriesText (s : Settings) (entries : List Layout.Entry) : String :=
  let line (l : String) : String := "\t\t" ++ l ++ "\n"
  let opening := s.schemaAlias ++ ".StructSchema\x7b"
  if entries.isEmpty then opening ++ "\x7d"
  else opening ++ "\n" ++ String.join ((Layout.align entries).map line) ++ "\t\x7d"

/-- The schema method of a record. -/
def recordText (s : Settings) (r : Record) : Except Located String := do
  let entries ← recordEntries s r
  let a := s.schemaAlias
  let type := r.typeName
  return "// Schema returns the gozod schema for " ++ r.name ++ ".\n" ++
    "func (" ++ receiver s r ++ " " ++ type ++ ") Schema() *" ++ a ++
      ".ZodStruct[" ++ type ++ ", " ++ type ++ "] \x7b\n" ++
    "\treturn " ++ a ++ ".Struct[" ++ type ++ "](" ++ entriesText s entries ++ ")\n" ++
    "\x7d\n"

structure Code where
  text : String
  /-- The records covered, in order. -/
  records : List String
  /-- Paths of the imports. -/
  imports : List String
  deriving DecidableEq, Repr

def usesRegex (rs : List Record) : Bool := rs.any (·.usesRule .regex)

def usesTime (rs : List Record) : Bool := rs.any (·.usesTime)

/-- Whether some rule sets a time, so that a body refers to the package. -/
def refersToTime (rs : List Record) : Bool :=
  rs.any fun r => r.fields.any fun f =>
    f.shape.pointee == .time && (f.hasRule .default || f.hasRule .prefault)

def imports (s : Settings) (rs : List Record) : List Import :=
  [Import.under s.schemaPackage s.schemaAlias] ++
    (if usesRegex rs then [Import.under "regexp" regexPackage] else []) ++
    (if usesTime rs then [Import.plain "time"] else [])

def packageName (s : Settings) (rs : List Record) : String :=
  s.package.getD ((rs.head?.map (·.package)).getD "main")

/-- The file of the records of one source file. -/
def file (s : Settings) (rs : List Record) : Except Located Code := do
  let bodies ← rs.mapM (recordText s)
  let constraint := (s.buildConstraint.map (· ++ "\n\n")).getD ""
  let anchor := if usesTime rs && !refersToTime rs then "\nvar _ time.Time\n" else ""
  return {
    text := marker ++ "\n\n" ++ constraint ++ "package " ++ packageName s rs ++ "\n\n" ++
      Import.block (imports s rs) ++ anchor ++ String.join (bodies.map ("\n" ++ ·))
    records := rs.map (·.name)
    imports := (imports s rs).map (·.path) }

end TagSchema.Emit
