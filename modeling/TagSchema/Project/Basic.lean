import TagSchema.Generate.Package
import TagSchema.Project.Write

/-!
# Projects

A run over the packages of a project: what it generates, which outputs have no source any more, and
what it makes of both. `run_failed` says that a run that cannot generate everything changes nothing,
and `run_dryRun` the same of a dry run.
-/

namespace TagSchema.Project

open TagSchema.Generate (Output)

def scanOptions (c : Config) : Scan.Options where
  recursive := c.recursive
  respectIgnore := c.respectIgnore
  filter := c.filter

/-- The packages below the roots, in order. -/
def packages (t : FileTree) (c : Config) (roots : List String) : Except Error (List String) :=
  (Scan.packages t (scanOptions c) roots).mapError .scan

/-- What all packages come to; the first that fails ends the run. -/
def generate (t : FileTree) (c : Config) (roots : List String) : Except Error (List Output) := do
  let perPackage ← (← packages t c roots).mapM fun p =>
    (Generate.ofPackage t c.settings p).mapError .generate
  return perPackage.flatten

/-- The records of all packages. -/
def records (t : FileTree) (c : Config) (roots : List String) : Except Error (List Record) := do
  let perPackage ← (← packages t c roots).mapM fun p =>
    (Generate.recordsInPackage t c.settings p).mapError .generate
  return perPackage.flatten.flatMap (·.2)

/-- The generated files that are none of the outputs. -/
def orphans (t : FileTree) (c : Config) (roots : List String) (outputs : List Output) :
    Except Error (List String) := do
  let perPackage ← (← packages t c roots).mapM fun p =>
    (Generate.generatedIn t c.settings p).mapError fun _ => .system
  return perPackage.flatten.filter fun path => !outputs.any (Path.same ·.path path)

/-- What a run has to bring about. -/
structure Plan where
  outputs : List Output
  orphans : List String
  deriving DecidableEq, Repr

def plan (t : FileTree) (c : Config) (roots : List String) : Except Error Plan := do
  let outputs ← generate t c roots
  return ⟨outputs, ← orphans t c roots outputs⟩

/-! ### Checking -/

/-- What is wrong with a generated file. -/
inductive Staleness where
  | missing | outdated | orphaned
  deriving DecidableEq, Repr

structure StaleFile where
  path : String
  reason : Staleness
  deriving DecidableEq, Repr

def staleness? (t : FileTree) (o : Output) : Option Staleness :=
  match t.readText? o.path with
  | none => some .missing
  | some text => if text = o.contents then none else some .outdated

/-- The generated files that a run would change. -/
def check (t : FileTree) (c : Config) (roots : List String) : Except Error (List StaleFile) := do
  let p ← plan t c roots
  let outputs := p.outputs.filterMap fun o => (staleness? t o).map (StaleFile.mk o.path)
  return outputs ++ p.orphans.map (StaleFile.mk · .orphaned)

/-! ### Running -/

/-- Writes the outputs and removes the orphans, up to the first failure. -/
def Plan.apply (p : Plan) (dryRun : Bool) (t : FileTree) : Write.Attempt (List Write.Change) :=
  match Write.each (fun t o => Write.write dryRun t o.path o.contents) t p.outputs with
  | (u, .error e) => (u, .error e)
  | (u, .ok written) =>
    let (v, r) := Write.each (Write.remove dryRun) u p.orphans
    (v, r.map (written ++ ·))

structure Report where
  outputs : List Output
  changes : List Write.Change
  deriving DecidableEq, Repr

/-- Generates everything and then brings the tree to it. -/
def run (t : FileTree) (c : Config) (roots : List String) : FileTree × Except Error Report :=
  match plan t c roots with
  | .error e => (t, .error e)
  | .ok p =>
    let (u, r) := p.apply c.settings.dryRun t
    (u, (r.map (Report.mk p.outputs)).mapError .write)

theorem run_failed {t : FileTree} {c : Config} {roots : List String} {e : Error}
    (h : plan t c roots = .error e) : run t c roots = (t, .error e) := by
  simp [run, h]

theorem apply_dryRun (p : Plan) (t : FileTree) : (p.apply true t).1 = t := by
  have hw := Write.each_unchanged
    (fun t (o : Output) => Write.write_dryRun t o.path o.contents) t p.outputs
  unfold Plan.apply
  split
  · rename_i he
    rw [he] at hw
    exact hw
  · rename_i he
    rw [he] at hw
    simp only at hw
    subst hw
    exact Write.each_unchanged Write.remove_dryRun _ p.orphans

theorem run_dryRun (t : FileTree) (c : Config) (roots : List String)
    (h : c.settings.dryRun = true) : (run t c roots).1 = t := by
  unfold run
  split
  · rfl
  · simp only [h, apply_dryRun]

end TagSchema.Project
