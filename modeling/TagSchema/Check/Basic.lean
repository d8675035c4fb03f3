import TagSchema.Check.Predicates
import TagSchema.Predicate.Length
import TagSchema.Tag.Basic

/-!
# Checking values

A rule list is evaluated on a value in order. A transformation changes the value that later rules
see, and every rule that the value fails leaves an issue.
-/

namespace TagSchema.Check

open TagSchema.Number (Range Binary Binary64 integerText)

inductive Code where
  | required | unknownRule | invalidParam | failed
  deriving DecidableEq, Repr

structure Issue where
  /-- The failed rule as it stands in a tag. -/
  rule : String
  code : Code
  message : String
  deriving DecidableEq, Repr

def Issue.text (i : Issue) : String := i.rule ++ ": " ++ i.message

/-- The value after the transformations, and what it failed. -/
structure Report where
  value : Value
  issues : List Issue
  deriving Repr

def Report.isOk (r : Report) : Bool := r.issues.isEmpty

/-- Why a single rule fails, before the rule is named. -/
structure Failure where
  code : Code
  message : String
  deriving DecidableEq, Repr

/-- The first parameter without surrounding blanks; nothing if there is none. -/
def rawParam (r : Rule) : String := Text.trim (r.param?.getD "")

/-- A signed or unsigned integer of 64 bits, or any other finite number. -/
def readNumber? (raw : String) : Option Value :=
  match (Range.signed 64).read? raw with
  | some n => some (.int (Int64.ofInt n))
  | none =>
    match (Range.unsigned 64).read? raw with
    | some n => some (.uint (UInt64.ofInt n))
    | none =>
      match (Binary.read? raw : Option Binary64) with
      | some x => if x.isFinite then some (.float64 x) else none
      | none => none

def numberOf (r : Rule) : Except Failure Value :=
  match readNumber? (rawParam r) with
  | some v => .ok v
  | none => .error ⟨.invalidParam, s!"'{rawParam r}' is not a number"⟩

def countOf (r : Rule) : Except Failure Nat :=
  match (Range.unsigned 64).read? (rawParam r) with
  | some n => .ok n.toNat
  | none => .error ⟨.invalidParam, s!"'{rawParam r}' is not a length"⟩

def require (passed : Bool) (message : String) : Except Failure Unit :=
  if passed then .ok () else .error ⟨.failed, message⟩

/-- The relation that a bound on numbers demands, and its words. -/
def numberRelation : Rule.Kind → (Value → Value → Bool) × String
  | .min => (Predicate.gte, "at least")
  | .max => (Predicate.lte, "at most")
  | .gt => (Predicate.gt, ">")
  | .gte => (Predicate.gte, ">=")
  | .lt => (Predicate.lt, "<")
  | .lte => (Predicate.lte, "<=")
  | _ => (Predicate.multipleOf, "a multiple of")

/-- The relation that a bound on lengths demands, and its words. -/
def lengthRelation : Rule.Kind → (Value → Nat → Bool) × String
  | .min => (Predicate.minLength, "at least")
  | .max => (Predicate.maxLength, "at most")
  | _ => (Predicate.exactLength, "exactly")

def checkNumber (k : Rule.Kind) (r : Rule) (v : Value) : Except Failure Unit := do
  let limit ← numberOf r
  let (relation, words) := numberRelation k
  require (relation v limit) s!"must be {words} {r.joined}"

def checkLength (k : Rule.Kind) (r : Rule) (v : Value) : Except Failure Unit := do
  let n ← countOf r
  let (relation, words) := lengthRelation k
  require (relation v n) s!"length must be {words} {integerText n}"

/-- The part of a text that a rule demands. -/
def textRelation : Rule.Kind → Value → String → Bool
  | .includes => Predicate.includes
  | .startsWith => Predicate.startsWith
  | _ => Predicate.endsWith

def checkRegex (r : Rule) (v : Value) : Except Failure Unit :=
  let source := r.param?.getD ""
  match Regex.read source with
  | .error e => .error ⟨.invalidParam, s!"invalid pattern: {e.message}"⟩
  | .ok p => require (Predicate.matchesPattern v p) s!"must match {source}"

/-- Equals one of the parameters: as a number if it is one, else as text. -/
def isListed (params : List String) (v : Value) : Bool :=
  if v.isNumeric then
    params.any fun p => (readNumber? (Text.trim p)).any fun n =>
      Predicate.gte v n && Predicate.lte v n
  else match Coerce.toText v with
    | .ok s => params.contains s
    | .error _ => false

/-- Whether the value fails a rule of the given kind. -/
def checkKind (k : Rule.Kind) (r : Rule) (v : Value) : Except Failure Unit :=
  match k with
  | .required | .nilable | .default | .prefault | .refine | .check | .trim => .ok ()
  | .min | .max => if v.isNumeric then checkNumber k r v else checkLength k r v
  | .length | .size => checkLength k r v
  | .gt | .gte | .lt | .lte | .multipleOf => checkNumber k r v
  | .includes | .startsWith | .endsWith =>
    require (textRelation k v r.joined) s!"must satisfy {r.name}"
  | .regex => checkRegex r v
  | .enum =>
    let listed := ", ".intercalate r.params
    require (isListed r.params v) s!"must be one of [{listed}]"
  | _ =>
    match k.predicate? with
    | some p => require (p v) s!"must be a valid {r.name}"
    | none => .ok ()

def checkRule (r : Rule) (v : Value) : Except Failure Unit :=
  match r.kind? with
  | none => .error ⟨.unknownRule, s!"unknown rule '{r.name}'"⟩
  | some k => checkKind k r v

/-- The value as the rules after `r` see it. -/
def transform (r : Rule) (v : Value) : Value :=
  if r.kind? == some .trim then Predicate.trim v else v

def issueOf (r : Rule) (v : Value) : Option Issue :=
  match checkRule r v with
  | .ok _ => none
  | .error f => some ⟨Tag.writeRule r, f.code, f.message⟩

/-- One rule, on the value that the rules before it have left. -/
def step (report : Report) (r : Rule) : Report :=
  ⟨transform r report.value, report.issues ++ (issueOf r report.value).toList⟩

def runFrom (report : Report) (rs : List Rule) : Report := rs.foldl step report

def isRequired (rs : List Rule) : Bool := Rule.hasKind .required rs

def isNilable (rs : List Rule) : Bool := Rule.hasKind .nilable rs

def missing : Issue := ⟨"required", .required, "value is required"⟩

/-- Checks a value; nil fails only where it is required and not nilable. -/
def run (rs : List Rule) (v : Value) : Report :=
  if v.isNil then ⟨v, if isRequired rs && !isNilable rs then [missing] else []⟩
  else runFrom ⟨v, []⟩ rs

end TagSchema.Check
