import TagSchema.Emit.Settings
import TagSchema.Go.Name

/-!
# Configuration

What a run is told: how files are generated and where sources are looked for. `valid_override` says
that overriding flags never let an invalid configuration through.
-/

namespace TagSchema

structure Config where
  settings : Emit.Settings
  /-- Whether directories inside a root are entered. -/
  recursive : Bool
  respectIgnore : Bool
  /-- Only source files that match this pattern count. -/
  filter : Option String
  deriving DecidableEq, Repr

namespace Config

def standard : Config where
  settings := Emit.Settings.standard
  recursive := true
  respectIgnore := true
  filter := none

/-- The name of the configuration file. -/
def fileName : String := "gozod.toml"

inductive Error where
  /-- The text is no configuration. -/
  | malformed (path : String)
  | invalid (key message : String)
  | unreadable (path : String)
  deriving DecidableEq, Repr

def Error.message : Error → String
  | malformed path => s!"Invalid TOML in {path}"
  | invalid key message => s!"Invalid configuration value for '{key}': {message}"
  | unreadable path => s!"Failed to read config {path}"

/-- A letter or underscore, and after it letters, digits and underscores. -/
def isName (s : String) : Bool :=
  match s.toList with
  | c :: cs => Go.startsName c && cs.all Go.continuesName
  | [] => false

def isSuffix (s : String) : Bool := s.endsWith ".go" && s != ".go"

/-- The values that no code can be generated with. -/
def faults (c : Config) : List Error :=
  let s := c.settings
  let require (ok : Bool) (e : Error) : List Error := if ok then [] else [e]
  require (isSuffix s.suffix)
      (.invalid "output.suffix" s!"'{s.suffix}' must end with .go and not be .go alone") ++
    s.package.toList.flatMap (fun p =>
      require (isName p) (.invalid "output.package" s!"'{p}' is not a Go package name")) ++
    require (isName s.schemaAlias)
      (.invalid "schema.alias" s!"'{s.schemaAlias}' is not a Go identifier") ++
    require (!(Text.trim s.schemaPackage).isEmpty)
      (.invalid "schema.package_path" "must not be empty")

def Valid (c : Config) : Prop := c.faults = []

instance (c : Config) : Decidable c.Valid := inferInstanceAs (Decidable (_ = _))

/-- The configuration itself, or its first fault. -/
def checked (c : Config) : Except Error Config :=
  match c.faults with
  | [] => .ok c
  | e :: _ => .error e

/-- What overrides a configuration for one run. -/
structure Flags where
  suffix : Option String := none
  package : Option String := none
  tags : Option (List String) := none
  filter : Option String := none
  dryRun : Bool := false
  noRecursive : Bool := false
  deriving DecidableEq, Repr

/-- A flag that is given wins. -/
def withFlags (c : Config) (f : Flags) : Config where
  settings := { c.settings with
    suffix := f.suffix.getD c.settings.suffix
    package := f.package <|> c.settings.package
    buildTags := f.tags.getD c.settings.buildTags
    dryRun := f.dryRun || c.settings.dryRun }
  recursive := c.recursive && !f.noRecursive
  respectIgnore := c.respectIgnore
  filter := f.filter <|> c.filter

def override (c : Config) (f : Flags) : Except Error Config := (c.withFlags f).checked

theorem checked_eq_ok {c d : Config} : c.checked = .ok d ↔ c = d ∧ d.Valid := by
  unfold checked Valid
  split
  · rename_i h
    exact ⟨fun he => Except.ok.inj he ▸ ⟨rfl, h⟩, fun ⟨hc, _⟩ => by rw [hc]⟩
  · rename_i e es h
    exact ⟨by simp, fun ⟨hc, hd⟩ => by simp [hc, hd] at h⟩

theorem valid_override {c d : Config} {f : Flags} (h : c.override f = .ok d) : d.Valid :=
  (checked_eq_ok.1 h).2

theorem suffix_of_valid {c : Config} (valid : c.Valid) :
    c.settings.suffix.endsWith ".go" = true ∧ c.settings.suffix ≠ ".go" := by
  cases checked : isSuffix c.settings.suffix with
  | true => simpa [isSuffix] using checked
  | false => simp [Valid, faults, checked] at valid

/-- The text of a new configuration file; it says what holds without one. -/
def template : String := "\n".intercalate [
  "# gozodgen configuration file",
  "",
  "[output]",
  "# Appended to each source file's stem: user.go -> user_gen.go",
  "suffix = \"_gen.go\"",
  "",
  "# Package clause of generated files. Defaults to the source package.",
  "# package = \"models\"",
  "",
  "# Print what would be written instead of writing it",
  "dry_run = false",
  "",
  "[build]",
  "# Build constraints, joined with && into one //go:build line",
  "tags = []",
  "",
  "[schema]",
  "# Import path and name of the schema runtime used by generated code",
  "package_path = \"github.com/kaptinlin/gozod\"",
  "alias = \"schema\"",
  "",
  "[scan]",
  "# Descend into subdirectories of the given paths",
  "recursive = true",
  "",
  "# Skip files ignored by .gitignore",
  "respect_gitignore = true",
  "",
  "# Only consider source files matching this glob",
  "# include = \"internal/**/*.go\"",
  ""]

end Config

end TagSchema
