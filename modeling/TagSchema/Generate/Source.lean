import TagSchema.Emit.File
import TagSchema.Go.Reader
import TagSchema.Path
import TagSchema.Record.OfSource
import TagSchema.Text.Trim

/-!
# From sources to generated files

The files of a package are indexed together, and each one that declares records gets an output,
which its name and a marker in front of its package clause tell from a source.
-/

namespace TagSchema.Generate

open TagSchema.Emit (Settings)
open TagSchema.Go (SourceFile)

/-- Where the output of a source file belongs. -/
def outputPath (s : Settings) (source : String) : String :=
  Path.withFileName source (((Path.fileName? source).map Path.stem).getD "" ++ s.suffix)

/-- Whether a path has the name of an output. -/
def isOutputName (s : Settings) (path : String) : Bool :=
  (Path.fileName? path).any (·.endsWith s.suffix)

/-- Whether a change of the file calls for another run. -/
def isTrigger (suffix path : String) : Bool :=
  (Path.fileName? path).any fun name =>
    name.endsWith ".go" && !name.endsWith "_test.go" && !name.endsWith suffix

/-- The paths of a batch that call for another run. -/
def triggers (suffix : String) (paths : List String) : List String :=
  Path.sortedLast (paths.filter (isTrigger suffix))

def startsWith (start text : List Char) : Bool := start.isPrefixOf text

def isPackageLine (line : List Char) : Bool :=
  startsWith "package ".toList (Text.trimStart line)

def isMarkerLine (line : List Char) : Bool :=
  startsWith "// Code generated ".toList line && " DO NOT EDIT.".toList.isSuffixOf line

/-- Whether the text carries the marker of generated code in a line before its package clause. -/
def isGenerated (text : String) : Bool :=
  let lines := (Text.fields '\n' text.toList).map Text.trimEnd
  (lines.takeWhile (!isPackageLine ·)).any isMarkerLine

inductive Error where
  | field (f : Record.Fault)
  | noPackage (file : String)
  | emission (l : Emit.Located)
  | unreadable (path : String)
  deriving Repr

def Error.message : Error → String
  | field f => f.message
  | noPackage file => s!"{file}: cannot resolve types: missing package clause"
  | emission l => l.message
  | unreadable path => s!"failed to read {path}"

structure Output where
  /-- The file that declares the records. -/
  source : String
  path : String
  contents : String
  records : List String
  deriving DecidableEq, Repr

def readSource (path text : String) : Except Error SourceFile :=
  match Go.Reader.file? path text with
  | some f => .ok f
  | none => .error (.noPackage path)

/-- The output for the records of one source file. -/
def emit (s : Settings) (source : String) (rs : List Record) : Except Error Output := do
  let code ← (Emit.file s rs).mapError .emission
  return { source, path := outputPath s source, contents := code.text, records := code.records }

/-- The records of a package, by source file; files without records are left out. -/
def recordsOf (files : List SourceFile) : Except Error (List (String × List Record)) := do
  let ix := Index.ofFiles files
  let all ← files.mapM fun f => do return (f.path, ← (Record.ofFile ix f).mapError .field)
  return all.filter (!·.2.isEmpty)

/-- The outputs for a package. -/
def outputs (s : Settings) (files : List SourceFile) : Except Error (List Output) := do
  (← recordsOf files).mapM fun (source, rs) => emit s source rs

/-- The output for one source text that is a package of its own. -/
def ofSource (s : Settings) (path text : String) : Except Error (Option Output) := do
  return (← outputs s [← readSource path text]).head?

end TagSchema.Generate
