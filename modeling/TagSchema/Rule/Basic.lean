import TagSchema.Rule.Kind

/-!
# Rules

A rule is one entry of a tag: a name and its parameters, in the order they were written.
-/

namespace TagSchema

structure Rule where
  name : String
  params : List String
  deriving DecidableEq, Repr

namespace Rule

/-- The reserved kind, if the name is one. -/
def kind? (r : Rule) : Option Kind := Kind.ofName? r.name

/-- The first parameter. -/
def param? (r : Rule) : Option String := r.params.head?

/-- All parameters, with one space between. -/
def joined (r : Rule) : String := " ".intercalate r.params

/-- Whether some rule of the list has the kind. -/
def hasKind (k : Kind) (rs : List Rule) : Bool := rs.any fun r => r.kind? == some k

end Rule

end TagSchema
