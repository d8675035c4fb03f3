import TagSchema.Command.Argument
import TagSchema.Config.Basic

/-!
# Commands
-/

namespace TagSchema

inductive Command where
  | generate (paths : List String) (config : Option String) (flags : Config.Flags) (dump : Bool)
  /-- Writes a new configuration file. -/
  | init (path : String) (force : Bool)
  | check (paths : List String) (config : Option String)
  deriving DecidableEq, Repr

namespace Command

def verbose : OptionName := ⟨"verbose", some 'v', false⟩
def config : OptionName := ⟨"config", some 'c', true⟩
def output : OptionName := ⟨"output", some 'o', true⟩
def force : OptionName := ⟨"force", none, false⟩
def suffix : OptionName := ⟨"suffix", none, true⟩
def package : OptionName := ⟨"package", none, true⟩
def tags : OptionName := ⟨"tags", none, true⟩
def filter : OptionName := ⟨"include", none, true⟩
def dryRun : OptionName := ⟨"dry-run", none, false⟩
def noRecursive : OptionName := ⟨"no-recursive", none, false⟩
def dumpIr : OptionName := ⟨"dump-ir", none, false⟩

/-- Options that may be given more than once. -/
def repeatable : List OptionName := [verbose, tags]

/-- The arguments for options that are known; those that are not repeatable come once at most. -/
def arguments? (names : List OptionName) (args : List String) : Option (List Argument) := do
  let as ← Argument.readAll (verbose :: names) none args
  let fits (n : OptionName) : Bool := repeatable.contains n || Argument.count n.long as ≤ 1
  if names.all fits then return as else none

/-- The value of an option that is given once at most. -/
def value? (name : OptionName) (as : List Argument) : Option String :=
  (Argument.values name.long as).head?

def isGiven (name : OptionName) (as : List Argument) : Bool := Argument.count name.long as != 0

/-- Tags are listed with commas between, by one option or several. -/
def tagsOf (as : List Argument) : Option (List String) :=
  if isGiven tags as then
    some ((Argument.values tags.long as).flatMap fun v =>
      (Text.fields ',' v.toList).map String.ofList)
  else none

/-- Whether no path is empty. -/
def arePaths (paths : List String) : Bool := paths.all (!·.isEmpty)

def readGenerate (args : List String) : Option Command := do
  let as ← arguments? [config, suffix, package, tags, filter, dryRun, noRecursive, dumpIr] args
  let paths := Argument.operands as
  if !arePaths (paths ++ (value? config as).toList) then none
  let flags : Config.Flags := {
    suffix := value? suffix as, package := value? package as, tags := tagsOf as
    filter := value? filter as, dryRun := isGiven dryRun as, noRecursive := isGiven noRecursive as }
  return .generate paths (value? config as) flags (isGiven dumpIr as)

def readInit (args : List String) : Option Command := do
  let as ← arguments? [output, force] args
  let path := (value? output as).getD Config.fileName
  if !arePaths [path] || !(Argument.operands as).isEmpty then none
  return .init path (isGiven force as)

def readCheck (args : List String) : Option Command := do
  let as ← arguments? [config] args
  let paths := Argument.operands as
  if !arePaths (paths ++ (value? config as).toList) then none
  return .check paths (value? config as)

/-- Whether an argument only asks for more messages. -/
def isVerbosity (arg : String) : Bool :=
  arg.startsWith "-" && (arg = "--verbose" ||
    (arg.length > 1 && (arg.toList.drop 1).all (· == 'v')))

/-- The command of a command line, unless it is misspelled. -/
def read? (args : List String) : Option Command :=
  match args.dropWhile isVerbosity with
  | "generate" :: rest => readGenerate rest
  | "init" :: rest => readInit rest
  | "check" :: rest => readCheck rest
  | _ => none

end Command

end TagSchema
