import TagSchema.Emit.Base
import TagSchema.Emit.Literal
import TagSchema.Emit.Settings

/-!
# Schema expressions

A field's schema is a base and a chain of calls, one for each rule in the order of the tag. Three
rules may replace the base instead: an enumeration, before a time, before an identifier.
-/

namespace TagSchema.Emit

open TagSchema.Go (Expr)

structure Call where
  method : String
  args : List Expr
  deriving Repr, Inhabited

def Call.render (c : Call) : String :=
  "." ++ c.method ++ "(" ++ Expr.commas (Expr.renderAll c.args) ++ ")"

structure Expression where
  base : Base
  calls : List Call
  deriving Repr, Inhabited

def Expression.render (schema : String) (e : Expression) : String :=
  e.base.render schema ++ String.join (e.calls.map Call.render)

/-- The call of a rule's method. -/
def Call.ofKind (k : Rule.Kind) (args : List Expr) : Call := ⟨k.method.getD "", args⟩

def optionalCall : Call := ⟨"Optional", []⟩

/-- The rules with their kinds; the first one without a kind is at fault. -/
def kinds (rules : List Rule) : Except Error (List (Rule × Rule.Kind)) :=
  rules.mapM fun r =>
    match r.kind? with
    | some k => .ok (r, k)
    | none => .error (.unknownRule r.name)

/-- What stands in for the leaf's own base. -/
def leafBase? (leaf : Shape) (rules : List (Rule × Rule.Kind)) : Except Error (Option Base) :=
  match rules.find? (·.2 == .enum) with
  | some (r, _) => do return some (.enum (← enumExprs r leaf))
  | none =>
    if rules.any (·.2 == .time) then .ok (some .time)
    else if rules.any (·.2 == .uuid) && leaf == .primitive .string then .ok (some .uuid)
    else .ok none

/-- The schema types that a field's calls can count on. -/
structure Families where
  /-- The base is `UUID`, so that the rule of that name calls nothing. -/
  uuid : Bool
  text : Bool
  number : Bool
  sized : Bool
  deriving DecidableEq, Repr

def Families.ofField (f : Field) (leaf : Option Base) : Families :=
  let uuid := match leaf with
    | some .uuid => true
    | _ => false
  let text := f.shape.pointee == .primitive .string && (leaf.isNone || uuid)
  { uuid, text
    number := f.shape.primitive?.any (·.isNumeric)
    sized := text || match f.shape.pointee with
      | .slice _ | .map .. => true
      | _ => false }

def demand (applies : Bool) (r : Rule) (f : Field) : Except Error Unit :=
  if applies then .ok () else .error (.inapplicable r.name f.typeText)

def checkedParam {α : Type} (r : Rule) (e : Except Fault α) : Except Error α :=
  e.mapError (.invalidParam r.name r.joined)

def sizeArg (r : Rule) : Except Error Expr := checkedParam r (sizeExpr r.joined)

/-- `min` and `max` bound the value of a number and the length of all else. -/
def limitArg (r : Rule) (f : Field) (has : Families) : Except Error Expr :=
  match f.shape.pointee with
  | .primitive .string => do
    demand has.text r f
    sizeArg r
  | .slice _ | .map .. => sizeArg r
  | .primitive k => checkedParam r (boundExpr k r.joined)
  | _ => checkedParam r (.error (.noBound f.typeText))

def orderArg (r : Rule) (f : Field) : Except Error Expr :=
  match f.shape.primitive?.filter (·.isNumeric) with
  | some k => checkedParam r (boundExpr k r.joined)
  | none => checkedParam r (.error (.notNumeric f.typeText))

/-- The name that the generated file gives the package of regular expressions. -/
def regexPackage : String := "regex"

def regexArg (r : Rule) : Except Error Expr :=
  match Regex.read r.joined with
  | .ok _ => .ok (.call (regexPackage ++ ".MustCompile") [.text r.joined])
  | .error f => checkedParam r (.error (.pattern f))

def functionArg (r : Rule) : Except Error Expr :=
  if Go.isIdentifier r.joined then .ok (.word r.joined) else checkedParam r (.error .notFunction)

/-- The arguments of a rule's call; `none` for a rule that calls nothing. -/
def ruleArgs (f : Field) (has : Families) (r : Rule) (k : Rule.Kind) :
    Except Error (Option (List Expr)) := do
  match k with
  | .required | .enum | .time => return none
  | .nilable => return some []
  | .min | .max => return some [← limitArg r f has]
  | .length | .size =>
    demand has.sized r f
    return some [← sizeArg r]
  | .gt | .gte | .lt | .lte | .multipleOf => return some [← orderArg r f]
  | .includes | .startsWith | .endsWith =>
    demand has.text r f
    return some [.text r.joined]
  | .regex =>
    demand has.text r f
    return some [← regexArg r]
  | .default | .prefault => return some [← valueExpr r f]
  | .refine | .check => return some [← functionArg r]
  | .positive | .negative | .nonPositive | .nonNegative =>
    demand has.number r f
    return some []
  | .uuid =>
    if has.uuid then return none
    demand has.text r f
    return some []
  | _ =>
    demand has.text r f
    return some []

def ruleCall (f : Field) (has : Families) (r : Rule) (k : Rule.Kind) :
    Except Error (Option Call) := do
  return (← ruleArgs f has r k).map (Call.ofKind k)

/-- The schema expression of a field of `r`. -/
def Expression.ofField (r : Record) (f : Field) : Except Error Expression := do
  let rules ← kinds f.rules
  let leaf ← leafBase? f.shape.leaf rules
  let has := Families.ofField f leaf
  let calls ← rules.mapM fun (rule, k) => ruleCall f has rule k
  let marker := if f.optional && !rules.any (·.2 == .nilable) then [optionalCall] else []
  return { base := .ofField r f leaf, calls := calls.filterMap id ++ marker }

/-- The text of a field's schema expression. -/
def fieldText (s : Settings) (r : Record) (f : Field) : Except Error String := do
  return (← Expression.ofField r f).render s.schemaAlias

end TagSchema.Emit
