import TagSchema.Config.Basic
import TagSchema.FileTree.Access
import TagSchema.Toml.Reader

/-!
# Reading configurations

A configuration has four sections. A section is a table of known keys, or an array of their values
in order; what it does not give keeps its standard value. A run looks for its file with `load`.
-/

namespace TagSchema.Config

/-- How a value under a key changes the configuration; values of another type change nothing. -/
abbrev Setter := Config → Toml → Option Config

def onSettings (f : Emit.Settings → Toml → Option Emit.Settings) : Setter :=
  fun c v => (f c.settings v).map fun s => { c with settings := s }

def string? : Toml → Option String
  | .string s => some s
  | _ => none

def bool? : Toml → Option Bool
  | .bool b => some b
  | _ => none

def strings? : Toml → Option (List String)
  | .array items => items.mapM string?
  | _ => none

/-- The keys of a section, in order. -/
def keys : String → List (String × Setter)
  | "output" => [
    ("suffix", onSettings fun s v => (string? v).map fun x => { s with suffix := x }),
    ("package", onSettings fun s v => (string? v).map fun x => { s with package := some x }),
    ("dry_run", onSettings fun s v => (bool? v).map fun x => { s with dryRun := x })]
  | "build" => [
    ("tags", onSettings fun s v => (strings? v).map fun x => { s with buildTags := x })]
  | "schema" => [
    ("package_path", onSettings fun s v => (string? v).map fun x => { s with schemaPackage := x }),
    ("alias", onSettings fun s v => (string? v).map fun x => { s with schemaAlias := x })]
  | "scan" => [
    ("recursive", fun c v => (bool? v).map fun x => { c with recursive := x }),
    ("respect_gitignore", fun c v => (bool? v).map fun x => { c with respectIgnore := x }),
    ("include", fun c v => (string? v).map fun x => { c with filter := some x })]
  | _ => []

def sections : List String := ["output", "build", "schema", "scan"]

/-- Values in the order of their keys; more values than keys do not count. -/
def setInOrder : List (String × Setter) → List Toml → Config → Option Config
  | (_, setter) :: ks, v :: vs, c => (setter c v).bind (setInOrder ks vs)
  | _, _, c => some c

def setMember (ks : List (String × Setter)) (c : Config) (m : String × Toml) : Option Config :=
  (ks.lookup m.1).bind fun setter => setter c m.2

/-- Applies a section given by name; a name outside the four is refused. -/
def setSection (c : Config) (m : String × Toml) : Option Config :=
  if sections.contains m.1 then
    match m.2 with
    | .table _ members => members.foldlM (setMember (keys m.1)) c
    | .array items => setInOrder (keys m.1) items c
    | _ => none
  else none

/-- The configuration that a document gives, valid or not. -/
def ofToml? (document : Toml.Members) : Option Config := document.foldlM setSection standard

/-- Reads the text of the configuration file at `path`. -/
def parse (path text : String) : Except Error Config :=
  match (Toml.parse? text).bind ofToml? with
  | some c => c.checked
  | none => .error (.malformed path)

def readFile (t : FileTree) (path : String) : Except Error Config :=
  match t.readText? path with
  | some text => parse path text
  | none => .error (.unreadable path)

/-- The configuration at a path; without a path that of the working directory, if it has one. -/
def load (t : FileTree) (path : Option String) : Except Error Config :=
  match path with
  | some p => readFile t p
  | none => if t.holds fileName then readFile t fileName else .ok standard

/-- The configuration of a run, with what its flags override. -/
def forRun (t : FileTree) (path : Option String) (flags : Flags) : Except Error Config := do
  (← load t path).override flags

end TagSchema.Config
