import TagSchema.Text.Fields

/-!
# Import blocks

Packages of the standard library come first, then all others, each group in order of path.
-/

namespace TagSchema.Emit

structure Import where
  path : String
  /-- The name that the import gives, if it gives one. -/
  given? : Option String
  deriving DecidableEq, Repr

namespace Import

/-- The last element of a path. -/
def impliedName (path : String) : String :=
  String.ofList ((Text.fields '/' path.toList).getLast?.getD [])

def plain (path : String) : Import := ⟨path, none⟩

/-- An import under a name, which is dropped where the path implies it. -/
def under (path name : String) : Import :=
  ⟨path, if name = impliedName path then none else some name⟩

/-- The name that the importing file knows the package by. -/
def name (i : Import) : String := i.given?.getD (impliedName i.path)

/-- Paths of the standard library have no point in their first element. -/
def isStandard (i : Import) : Bool := !((Text.fields '/' i.path.toList).headD []).contains '.'

def render (i : Import) : String :=
  match i.given? with
  | some name => name ++ " \"" ++ i.path ++ "\""
  | none => "\"" ++ i.path ++ "\""

/-- In order of path; of one path, the import without a name comes first. -/
def le (a b : Import) : Bool :=
  a.path < b.path || (a.path == b.path &&
    match a.given?, b.given? with
    | none, _ => true
    | some _, none => false
    | some x, some y => x ≤ y)

/-- In order, and each import once. -/
def sorted (imports : List Import) : List Import := (imports.mergeSort le).eraseReps

def block (imports : List Import) : String :=
  let line (i : Import) : String := "\t" ++ i.render ++ "\n"
  let standard := sorted (imports.filter isStandard)
  let other := sorted (imports.filter (!·.isStandard))
  let gap := if standard.isEmpty || other.isEmpty then "" else "\n"
  "import (\n" ++ String.join (standard.map line) ++ gap ++ String.join (other.map line) ++ ")\n"

theorem name_under (path given : String) : (under path given).name = given := by
  by_cases h : given = impliedName path <;> simp [under, name, h]

end Import

end TagSchema.Emit
