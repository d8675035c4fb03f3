import TagSchema.FileTree.Access
import TagSchema.Generate.Source
import TagSchema.Scan.Basic

/-!
# Packages in a file tree

The sources of a package are the files of its directory that are neither tests nor generated.
-/

namespace TagSchema.Generate

open TagSchema.Emit (Settings)
open TagSchema.Go (SourceFile)

/-- Whether a file of this name may be a source. -/
def mayBeSource (s : Settings) (name : String) : Bool :=
  Scan.isSourceName name && !name.endsWith s.suffix

/-- The source file at a path, unless it is generated or belongs to a package of tests. -/
def readMember (t : FileTree) (path : String) : Except Error (Option SourceFile) :=
  match t.readText? path with
  | none => .error (.unreadable path)
  | some text =>
    if isGenerated text then .ok none
    else (readSource path text).map fun f => if f.package.endsWith "_test" then none else some f

/-- The sources of the package in a directory, in order of name. -/
def sourcesIn (t : FileTree) (s : Settings) (directory : String) : Except Error (List SourceFile) :=
  match t.fileNames directory with
  | .error _ => .error (.unreadable directory)
  | .ok names => do
    let paths := (names.filter (mayBeSource s)).map (Path.join directory)
    return (← paths.mapM (readMember t)).filterMap id

/-- The records of the package in a directory, by source file. -/
def recordsInPackage (t : FileTree) (s : Settings) (directory : String) :
    Except Error (List (String × List Record)) := do
  recordsOf (← sourcesIn t s directory)

/-- The outputs for the package in a directory. -/
def ofPackage (t : FileTree) (s : Settings) (directory : String) : Except Error (List Output) := do
  outputs s (← sourcesIn t s directory)

/-- The generated files in a directory that have the name of an output, in order. -/
def generatedIn (t : FileTree) (s : Settings) (directory : String) :
    Except FileTree.Fault (List String) := do
  let paths := (← t.fileNames directory).map (Path.join directory)
  return paths.filter fun p => isOutputName s p && (t.readText? p).any isGenerated

end TagSchema.Generate
