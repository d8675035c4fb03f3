import TagSchema.Command.Basic
import TagSchema.Config.OfToml
import TagSchema.Json.Writer
import TagSchema.Project.Basic
import TagSchema.Record.Codec

/-!
# Running commands

What a command prints, how it ends and what it leaves in the tree.
-/

namespace TagSchema.Command

/-- Why a command fails. -/
inductive Failure where
  /-- The command line is misspelled. -/
  | usage
  | error (e : Project.Error)
  deriving Repr

structure Outcome where
  lines : List String
  failure : Option Failure
  deriving Repr

namespace Outcome

def printed (o : Outcome) : String := String.join (o.lines.map (· ++ "\n"))

def exitCode (o : Outcome) : Nat :=
  match o.failure with
  | none => 0
  | some .usage => 2
  | some (.error e) => e.exitCode

/-- The message of a failed run. -/
def message (o : Outcome) : Option String :=
  match o.failure with
  | some (.error e) => some s!"Error: {e.message}"
  | _ => none

def ok (lines : List String) : Outcome := ⟨lines, none⟩

def failed (e : Project.Error) : Outcome := ⟨[], some (.error e)⟩

end Outcome

/-- A line of this many dashes frames a content. -/
def ruleWidth : Nat := 60

def rule : String := String.ofList (List.replicate ruleWidth '─')

def changeLines (c : Write.Change) : List String :=
  match c.outcome with
  | .created bytes | .updated bytes => [s!"✓ {c.path} ({bytes} bytes)"]
  | .unchanged => [s!"= {c.path}"]
  | .removed => [s!"- {c.path} (orphaned)"]
  | .wouldWrite content =>
    [s!"[dry-run] Would write to {c.path}:", rule,
      String.ofList (Text.trimEnd content.toList), rule]
  | .wouldRemove => [s!"[dry-run] Would remove {c.path}"]

def reportLines (r : Project.Report) : List String :=
  if r.changes.isEmpty then ["No annotated structs found."]
  else
    let records := (r.outputs.flatMap (·.records)).length
    let files := r.outputs.length
    let changed := r.changes.countP (·.isMade)
    r.changes.flatMap changeLines ++
      [s!"  {records} record(s) in {files} file(s), {changed} changed"]

def reasonText : Project.Staleness → String
  | .missing => "missing"
  | .outdated => "out of date"
  | .orphaned => "orphaned"

def checkOutcome (stale : List Project.StaleFile) : Outcome :=
  if stale.isEmpty then .ok ["✓ Generated files are up to date"]
  else {
    lines := stale.map (fun f => s!"✗ {f.path} ({reasonText f.reason})") ++
      ["  Run 'gozodgen generate' to update"]
    failure := some (.error (.stale stale.length)) }

def outcome {α : Type} (f : α → Outcome) : Except Project.Error α → Outcome
  | .ok a => f a
  | .error e => .failed e

/-- Without paths a command is about the working directory. -/
def rootsOf (paths : List String) : List String := if paths.isEmpty then ["."] else paths

def configOf (t : FileTree) (path : Option String) (flags : Config.Flags) :
    Except Project.Error Config :=
  (Config.forRun t path flags).mapError .config

def runInit (t : FileTree) (path : String) (force : Bool) : FileTree × Outcome :=
  if t.holds path && !force then (t, .failed (.alreadyExists path))
  else match t.write path Config.template.toUTF8.toList with
    | .ok u => (u, .ok [s!"✓ Created configuration file: {path}"])
    | .error _ => (t, .failed .system)

def run (t : FileTree) : Command → FileTree × Outcome
  | .generate paths config flags dump =>
    match configOf t config flags with
    | .error e => (t, .failed e)
    | .ok c =>
      if dump then
        let lines (rs : List Record) : List String := [(Json.array (rs.map (·.toJson))).pretty]
        (t, outcome (fun rs => .ok (lines rs)) (Project.records t c (rootsOf paths)))
      else
        let (u, r) := Project.run t c (rootsOf paths)
        (u, outcome (fun report => .ok (reportLines report)) r)
  | .init path force => runInit t path force
  | .check paths config =>
    (t, outcome checkOutcome ((configOf t config {}).bind (Project.check t · (rootsOf paths))))

/-- Runs a command line. -/
def execute (t : FileTree) (args : List String) : FileTree × Outcome :=
  match read? args with
  | some c => run t c
  | none => (t, ⟨[], some .usage⟩)

end TagSchema.Command
