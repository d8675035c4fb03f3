import TagSchema.FileTree.Basic
import TagSchema.Path
import TagSchema.Text.Utf8

/-!
# Reaching files by path

A path is followed part by part from the working directory. Everything before its last part must be
a directory that is there. The tree is what lies below the working directory: an absolute path and
one that climbs above the working directory lead to nothing and answer `notFound`, whatever stands
there.
-/

namespace TagSchema.FileTree

/-- One part further from a place that must be a directory. -/
def follow (t : FileTree) (loc : Location) (part : String) : Except Fault Location :=
  match t.find? loc with
  | none => .error .notFound
  | some (.file _) => .error .notDirectory
  | some .directory =>
    if Path.isInert part then .ok loc
    else if part = ".." then if loc = [] then .error .notFound else .ok loc.dropLast
    else .ok (loc ++ [part])

/-- The place that a path leads to, whether or not it holds anything. -/
def locate (t : FileTree) (path : String) : Except Fault Location :=
  if path = "" || Path.isAbsolute path then .error .notFound
  else (Path.parts path).foldlM t.follow []

def node (t : FileTree) (path : String) : Except Fault Node := do
  match t.find? (← t.locate path) with
  | some n => return n
  | none => .error .notFound

/-- Whether there is anything at a path. -/
def holds (t : FileTree) (path : String) : Bool := (t.node path).isOk

def read (t : FileTree) (path : String) : Except Fault (List UInt8) := do
  match ← t.node path with
  | .file bytes => return bytes
  | .directory => .error .isDirectory

/-- The text of a file of well-formed text. -/
def readText? (t : FileTree) (path : String) : Option String :=
  (t.read path).toOption.bind Text.ofUtf8?

/-- The names of the regular files in a directory, in order. -/
def fileNames (t : FileTree) (path : String) : Except Fault (List String) := do
  let loc ← t.locate path
  match t.find? loc with
  | none => .error .notFound
  | some (.file _) => .error .notDirectory
  | some .directory =>
    let names := (t.children loc).filter fun name => (t.file? (loc ++ [name])).isSome
    return names.mergeSort (· ≤ ·)

def write (t : FileTree) (path : String) (bytes : List UInt8) : Except Fault FileTree := do
  t.writeFile (← t.locate path) bytes

def remove (t : FileTree) (path : String) : Except Fault FileTree := do
  t.removeFile (← t.locate path)

/-- Moves a file, over the file at the new path if there is one. -/
def move (t : FileTree) (source target : String) : Except Fault FileTree := do
  let bytes ← t.read source
  let moved ← t.write target bytes
  moved.remove source

/-- Creates the directories of a path that are missing, and says where the path leads. What was
created before a fault stays. -/
def createParts (t : FileTree) (loc : Location) : List String → FileTree × Except Fault Location
  | [] => (t, .ok loc)
  | part :: parts =>
    match t.follow loc part with
    | .error e => (t, .error e)
    | .ok next =>
      match t.makeDirectory next with
      | .error e => (t, .error e)
      | .ok u => u.createParts next parts

def createDirectories (t : FileTree) (path : String) : FileTree × Except Fault Unit :=
  if path = "" then (t, .ok ())
  else if Path.isAbsolute path then (t, .error .notFound)
  else
    let (u, r) := t.createParts [] (Path.parts path)
    (u, r.map fun _ => ())

/-- The tree with a file put at a path, and the directories above it; where that fails nothing is
put. -/
def put (t : FileTree) (path : String) (bytes : List UInt8) : FileTree :=
  let (u, _) := t.createDirectories ((Path.parent? path).getD "")
  (u.write path bytes).toOption.getD u

/-- The paths of all files, in order. -/
def paths (t : FileTree) : List String := (t.files.map ("/".intercalate ·)).mergeSort (· ≤ ·)

end TagSchema.FileTree
