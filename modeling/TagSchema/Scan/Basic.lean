import TagSchema.FileTree.Access
import TagSchema.Scan.Filter
import TagSchema.Scan.Ignore

/-!
# Looking for packages

A package is a directory with a source file in it. Below a root some directories are never entered:
those with names that tools keep to themselves, and ignored ones.
-/

namespace TagSchema.Scan

open TagSchema.FileTree (Location)

inductive Error where
  | notFound (path : String)
  | badFilter (pattern : String)
  deriving DecidableEq, Repr

def Error.message : Error → String
  | notFound path => s!"Path not found: {path}"
  | badFilter pattern => s!"Invalid include pattern '{pattern}': Pattern syntax error"

structure Options where
  /-- Whether directories inside a root are entered. -/
  recursive : Bool
  respectIgnore : Bool
  /-- Only files that match this pattern count. -/
  filter : Option String
  deriving DecidableEq, Repr

/-- Whether a file name is that of a source that is no test. -/
def isSourceName (name : String) : Bool := name.endsWith ".go" && !name.endsWith "_test.go"

/-- Whether directories of this name are not entered. -/
def isReserved (name : String) : Bool :=
  name == "testdata" || name == "vendor" || name.startsWith "." || name.startsWith "_"

/-- Whether looking below `root` comes to the file at `rel` from there. -/
def isReached (t : FileTree) (o : Options) (root rel : Location) : Bool :=
  (o.recursive || rel.length == 1) && !rel.dropLast.any isReserved &&
    (List.range rel.length).all fun n => !isIgnored t o.respectIgnore (root ++ rel.take (n + 1))

def isAccepted (filter : Option Filter) (rel : Location) : Bool :=
  filter.all (·.accepts ("/".intercalate rel))

/-- The source files that count, by their places from `root`. -/
def sources (t : FileTree) (o : Options) (filter : Option Filter) (root : Location) :
    List Location :=
  (t.files.filter root.isPrefixOf).map (·.drop root.length) |>.filter fun rel =>
    rel.getLast?.any isSourceName && isReached t o root rel && isAccepted filter rel

/-- The path of the directory of a file below `root`. -/
def packagePath (root : String) (rel : Location) : String :=
  (Path.parent? (rel.foldl Path.join root)).getD ""

def readFilter (pattern : Option String) : Except Error (Option Filter) :=
  match pattern with
  | none => .ok none
  | some p =>
    match Filter.read? p with
    | some f => .ok (some f)
    | none => .error (.badFilter p)

/-- The directory of a file that is itself a root. -/
def directoryOf (file : String) : String :=
  match Path.parent? file with
  | none | some "" => "."
  | some p => p

/-- The packages at a path, in order. A source file stands for its directory, whatever the
filter. -/
def packagesAt (t : FileTree) (o : Options) (root : String) : Except Error (List String) := do
  let filter ← readFilter o.filter
  match t.node root, t.locate root with
  | .ok (.file _), _ =>
    return if (Path.fileName? root).any isSourceName then [directoryOf root] else []
  | .ok .directory, .ok loc =>
    return Path.sortedFirst ((sources t o filter loc).map (packagePath root))
  | _, _ => .error (.notFound root)

/-- The packages at all paths, in order, each once. -/
def packages (t : FileTree) (o : Options) (roots : List String) : Except Error (List String) := do
  return Path.sortedFirst (← roots.mapM (packagesAt t o)).flatten

end TagSchema.Scan
