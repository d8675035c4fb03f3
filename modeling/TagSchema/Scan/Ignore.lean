import TagSchema.FileTree.Basic
import TagSchema.Scan.IgnorePattern
import TagSchema.Text.Fields
import TagSchema.Text.Trim
import TagSchema.Text.Utf8

/-!
# Ignored paths

Ignore files stand in directories and speak about what lies inside. Of the rules in one file the
last that matches decides, of several files of one name the nearest, and of the names the first.
`isIgnored_of_ruleless` says that nothing is ignored without rules.
-/

namespace TagSchema.Scan

open TagSchema.FileTree (Location)

namespace Ignore

/-- What a rule says about a path. -/
inductive Verdict where
  | ignored | kept
  deriving DecidableEq, Repr

structure Rule where
  verdict : Verdict
  directoriesOnly : Bool
  pattern : Regex
  deriving DecidableEq, Repr

/-- Blanks at the end of a line do not count, except one behind a backslash. -/
def trimLine (line : List Char) : List Char :=
  if ['\\', ' '].isSuffixOf line then line else Text.trimEnd line

/-- The verdict that a line gives, whether it is bound to the directory of its file, and its
pattern. -/
def splitMarks (line : List Char) : Verdict × Bool × List Char :=
  let bound (cs : List Char) : Bool × List Char :=
    match cs with
    | '/' :: rest => (true, rest)
    | _ => (false, cs)
  match line with
  | '\\' :: '!' :: rest => (.ignored, false, '!' :: rest)
  | '\\' :: '#' :: rest => (.ignored, false, '#' :: rest)
  | '!' :: rest => (.kept, bound rest)
  | _ => (.ignored, bound line)

/-- Whether a pattern is for directories, by the slash at its end, and the pattern without it. -/
def splitSlash (pattern : List Char) : Bool × List Char :=
  match pattern.reverse with
  | '/' :: '\\' :: before => (true, before.reverse)
  | '/' :: before => (true, before.reverse)
  | _ => (false, pattern)

/-- The pattern in full: without a slash it holds in any directory, and two stars at the end stand
for what is inside a directory, not for the directory. -/
def complete (isBound : Bool) (pattern : List Char) : List Char :=
  let anywhere := !isBound && !pattern.contains '/' && pattern != ['*', '*']
  let pattern := if anywhere then "**/".toList ++ pattern else pattern
  if "/**".toList.isSuffixOf pattern then pattern ++ "/*".toList else pattern

/-- The rule of a line; comments, empty lines and faulty patterns give none. -/
def Rule.ofLine? (line : List Char) : Option Rule :=
  let text := trimLine line
  if line.head? == some '#' || text.isEmpty then none
  else
    let (verdict, isBound, pattern) := splitMarks text
    let (directoriesOnly, pattern) := splitSlash pattern
    (IgnorePattern.read? (String.ofList (complete isBound pattern))).map fun r =>
      ⟨verdict, directoriesOnly, r⟩

def dropMarks (cs : List Char) : List Char := cs.dropWhile (· == '\ufeff')

/-- A carriage return in front of the line break does not count. -/
def dropReturn (line : List Char) : List Char :=
  if line.getLast? == some '\r' then line.dropLast else line

/-- The lines of a file, up to the first that is no text. -/
def linesOf (bytes : List UInt8) : List (List Char) :=
  let cs := Text.decodeAll bytes.length bytes
  let good := cs.takeWhile Option.isSome
  let lines := Text.fields '\n' (dropMarks (good.filterMap id))
  (if good.length < cs.length then lines.dropLast else lines).map dropReturn

def rules (bytes : List UInt8) : List Rule := (linesOf bytes).filterMap Rule.ofLine?

/-- What the last rule for a path says. -/
def verdict? (rs : List Rule) (path : String) (isDirectory : Bool) : Option Verdict :=
  (rs.reverse.find? fun r =>
    (isDirectory || !r.directoriesOnly) && IgnorePattern.accepts r.pattern path).map (·.verdict)

/-- Where ignore files stand below the directory that they speak about, the weightiest first. -/
def fileLocations (respectIgnore : Bool) : List Location :=
  [".ignore"] :: if respectIgnore then [[".gitignore"], [".git", "info", "exclude"]] else []

/-- The directories around a place, the nearest first. -/
def around (loc : Location) : List Location := ((List.range loc.length).map loc.take).reverse

/-- The rules that a file gives for the directory. -/
def rulesAt (t : FileTree) (directory file : Location) : List Rule :=
  ((t.file? (directory ++ file)).map rules).getD []

end Ignore

/-- Whether a place in the tree is ignored. -/
def isIgnored (t : FileTree) (respectIgnore : Bool) (loc : Location) : Bool :=
  let verdictIn (file directory : Location) : Option Ignore.Verdict :=
    Ignore.verdict? (Ignore.rulesAt t directory file)
      ("/".intercalate (loc.drop directory.length)) (t.isDirectory loc)
  ((Ignore.fileLocations respectIgnore).findSome? fun file =>
    (Ignore.around loc).findSome? (verdictIn file)) == some .ignored

theorem isIgnored_of_ruleless {t : FileTree} {respectIgnore : Bool}
    (h : ∀ d, ∀ f ∈ Ignore.fileLocations respectIgnore, t.file? (d ++ f) = none) (loc : Location) :
    isIgnored t respectIgnore loc = false := by
  have hv : ∀ f ∈ Ignore.fileLocations respectIgnore, ∀ d, Ignore.rulesAt t d f = [] := by
    intro f hf d
    simp [Ignore.rulesAt, h d f hf]
  have hn : ((Ignore.fileLocations respectIgnore).findSome? fun file =>
      (Ignore.around loc).findSome? fun directory =>
        Ignore.verdict? (Ignore.rulesAt t directory file)
          ("/".intercalate (loc.drop directory.length)) (t.isDirectory loc)) = none := by
    refine List.findSome?_eq_none_iff.2 fun f hf => List.findSome?_eq_none_iff.2 fun d _ => ?_
    simp [hv f hf d, Ignore.verdict?]
  simp only [isIgnored, hn]
  rfl

end TagSchema.Scan
