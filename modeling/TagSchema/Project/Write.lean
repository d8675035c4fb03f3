import TagSchema.FileTree.Access
import TagSchema.Project.Error

/-!
# Writing outputs

An output is written beside its place and then moved there, so that no half-written file is ever in
its place; one that already is as it should be is left alone. A writer for a dry run changes
nothing: `write_dryRun` and `remove_dryRun`.
-/

namespace TagSchema.Write

/-- What became of a path. -/
inductive Outcome where
  | created (bytes : Nat)
  | updated (bytes : Nat)
  | unchanged
  | removed
  /-- What a run that is not dry would write. -/
  | wouldWrite (content : String)
  | wouldRemove
  deriving DecidableEq, Repr

structure Change where
  path : String
  outcome : Outcome
  deriving DecidableEq, Repr

namespace Change

/-- Whether the file has changed. -/
def isMade (c : Change) : Bool :=
  match c.outcome with
  | .created _ | .updated _ | .removed => true
  | _ => false

/-- The number of bytes written. -/
def bytes (c : Change) : Nat :=
  match c.outcome with
  | .created n | .updated n => n
  | _ => 0

end Change

/-- A tree after an attempt, and what came of the attempt. -/
abbrev Attempt (α : Type) := FileTree × Except Error α

/-- Where a file is written before it is moved to its path. -/
def temporaryPath (path : String) : String :=
  Path.withFileName path ("." ++ (Path.fileName? path).getD "" ++ ".tmp")

/-- Writes beside the path and moves the file there; nothing is left beside it on a failure. -/
def replace (t : FileTree) (path : String) (bytes : List UInt8) : Attempt Unit :=
  let staging := temporaryPath path
  match t.write staging bytes with
  | .error _ => (t, .error (.writeFile path))
  | .ok u =>
    match u.move staging path with
    | .ok v => (v, .ok ())
    | .error _ => ((u.remove staging).toOption.getD u, .error (.writeFile path))

/-- Creates the directories of a path and puts the file there. -/
def putFile (t : FileTree) (path : String) (bytes : List UInt8) : Attempt Unit :=
  let directory := (Path.parent? path).getD ""
  match t.createDirectories directory with
  | (u, .error _) => (u, .error (.createDirectory directory))
  | (u, .ok _) => replace u path bytes

/-- Changes the file at a path to the content, if the run is not dry. -/
def change (dryRun : Bool) (t : FileTree) (path content : String) (outcome : Nat → Outcome) :
    Attempt Change :=
  if dryRun then (t, .ok ⟨path, .wouldWrite content⟩)
  else
    let bytes := content.toUTF8.toList
    let (u, r) := putFile t path bytes
    (u, r.map fun _ => ⟨path, outcome bytes.length⟩)

/-- Brings the file at a path to the content. -/
def write (dryRun : Bool) (t : FileTree) (path content : String) : Attempt Change :=
  match t.read path with
  | .ok old =>
    if old = content.toUTF8.toList then (t, .ok ⟨path, .unchanged⟩)
    else change dryRun t path content .updated
  | .error .notFound => change dryRun t path content .created
  | .error _ => (t, .error (.writeFile path))

/-- Deletes the file at a path. -/
def remove (dryRun : Bool) (t : FileTree) (path : String) : Attempt Change :=
  if dryRun then (t, .ok ⟨path, .wouldRemove⟩)
  else match t.remove path with
    | .ok u => (u, .ok ⟨path, .removed⟩)
    | .error _ => (t, .error (.removeFile path))

/-- One attempt after another, up to the first failure. -/
def each {α : Type} (attempt : FileTree → α → Attempt Change) (t : FileTree) :
    List α → Attempt (List Change)
  | [] => (t, .ok [])
  | x :: xs =>
    match attempt t x with
    | (u, .error e) => (u, .error e)
    | (u, .ok c) =>
      let (v, r) := each attempt u xs
      (v, r.map (c :: ·))

theorem write_dryRun (t : FileTree) (path content : String) :
    (write true t path content).1 = t := by
  unfold write
  split
  · split <;> rfl
  · rfl
  · rfl

theorem remove_dryRun (t : FileTree) (path : String) : (remove true t path).1 = t := rfl

theorem each_unchanged {α : Type} {attempt : FileTree → α → Attempt Change}
    (h : ∀ t x, (attempt t x).1 = t) (t : FileTree) (xs : List α) : (each attempt t xs).1 = t := by
  induction xs generalizing t with
  | nil => rfl
  | cons x xs ih =>
    have hx := h t x
    unfold each
    split
    · rename_i he
      rw [he] at hx
      exact hx
    · rename_i u c he
      rw [he] at hx
      simp only [ih u]
      exact hx

end TagSchema.Write
