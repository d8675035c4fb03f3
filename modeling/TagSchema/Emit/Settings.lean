import TagSchema.Text.Trim

/-!
# Generation settings

How generated files are named and what they refer to.
-/

namespace TagSchema.Emit

structure Settings where
  /-- Appended to the stem of a source file's name. -/
  suffix : String
  /-- The package of generated files; without one, that of the source. -/
  package : Option String
  buildTags : List String
  /-- The import path of the schema library. -/
  schemaPackage : String
  /-- The name that generated code gives the schema library. -/
  schemaAlias : String
  dryRun : Bool
  deriving DecidableEq, Repr

namespace Settings

def standard : Settings where
  suffix := "_gen.go"
  package := none
  buildTags := []
  schemaPackage := "github.com/kaptinlin/gozod"
  schemaAlias := "schema"
  dryRun := false

/-- The line that demands every tag that is not blank. -/
def buildConstraint (s : Settings) : Option String :=
  match (s.buildTags.map Text.trim).filter (!·.isEmpty) with
  | [] => none
  | tags => some ("//go:build " ++ " && ".intercalate tags)

end Settings

end TagSchema.Emit
