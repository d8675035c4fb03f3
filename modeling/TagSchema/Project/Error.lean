import TagSchema.Config.Basic
import TagSchema.Generate.Source
import TagSchema.Scan.Basic

/-!
# Why a run fails
-/

namespace TagSchema

namespace Write

inductive Error where
  | createDirectory (path : String)
  | writeFile (path : String)
  | removeFile (path : String)
  deriving DecidableEq, Repr

def Error.message : Error → String
  | createDirectory path => s!"Failed to create directory {path}"
  | writeFile path => s!"Failed to write file {path}"
  | removeFile path => s!"Failed to remove {path}"

end Write

namespace Project

inductive Error where
  | scan (e : Scan.Error)
  | generate (e : Generate.Error)
  | config (e : Config.Error)
  | write (e : Write.Error)
  /-- So many generated files are not as they should be. -/
  | stale (count : Nat)
  | alreadyExists (path : String)
  /-- A file operation failed for a reason of the system's own. -/
  | system
  deriving Repr

namespace Error

def message : Error → String
  | scan e => s!"Failed to scan for packages: {e.message}"
  | generate e => e.message
  | config e => s!"Failed to load configuration: {e.message}"
  | write e => s!"Failed to write output: {e.message}"
  | stale count => s!"{count} generated file(s) are stale"
  | alreadyExists path => s!"{path} already exists (use --force to overwrite)"
  | system => "IO error"

/-- Stale files are told apart from a failed run. -/
def exitCode : Error → Nat
  | stale _ => 2
  | _ => 1

end Error

end Project

end TagSchema
