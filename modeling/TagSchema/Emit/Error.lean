import TagSchema.Coerce.Error
import TagSchema.Regex.Reader
import TagSchema.Rule.Basic
import TagSchema.Shape.Primitive

/-!
# Emission errors

Why a field has no schema expression.
-/

namespace TagSchema.Emit

/-- Why a value has no literal of a type, although other values have one. -/
inductive Fault where
  | coercion (e : Coerce.Error)
  | notFinite (text : String)
  | noLiteralForm
  | notTimestamp
  | noOrdering (k : Primitive)
  | noBound (typeText : String)
  | notNumeric (typeText : String)
  | pattern (f : Regex.Fault)
  | notFunction
  deriving Repr

def Fault.message : Fault → String
  | coercion e => e.message
  | notFinite text => s!"{text} has no Go literal"
  | noLiteralForm => "value has no Go literal form"
  | notTimestamp => "expected an RFC 3339 timestamp"
  | noOrdering k => s!"{k.goName} has no ordering"
  | noBound typeText => s!"{typeText} has no length or numeric bound"
  | notNumeric typeText => s!"{typeText} is not a numeric type"
  | pattern f => f.message
  | notFunction => "expected a function name"

/-- Why a type has no literal for a rule. -/
inductive Obstacle where
  | noLiteralForm | objectForSlice | sliceElements | mapKeys | notObject | mapValues | objectKeys
  | typeHasNone | enumElements
  deriving DecidableEq, Repr

def Obstacle.message : Obstacle → String
  | noLiteralForm => "value has no Go literal form"
  | objectForSlice => "an object cannot initialize a slice"
  | sliceElements => "slice elements must be scalars or any"
  | mapKeys => "map defaults need string keys"
  | notObject => "expected a JSON object"
  | mapValues => "map values must be scalars or any"
  | objectKeys => "object keys must be strings"
  | typeHasNone => "no literal form for this type"
  | enumElements => "enum values must be scalars"

inductive Error where
  | unknownRule (rule : String)
  | unsupported (rule typeText : String) (why : Obstacle)
  | invalidParam (rule param : String) (why : Fault)
  | inapplicable (rule typeText : String)
  deriving Repr

def Error.message : Error → String
  | unknownRule rule => s!"unknown rule '{rule}'"
  | unsupported rule typeText why =>
    s!"rule '{rule}' cannot render a literal for {typeText}: {why.message}"
  | invalidParam rule param why =>
    s!"rule '{rule}' has invalid parameter '{param}': {why.message}"
  | inapplicable rule typeText => s!"rule '{rule}' does not apply to {typeText}"

/-- The rule at fault. -/
def Error.rule : Error → String
  | unknownRule rule | unsupported rule _ _ | invalidParam rule _ _ | inapplicable rule _ => rule

end TagSchema.Emit
