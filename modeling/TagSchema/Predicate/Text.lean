import TagSchema.Regex.Matcher
import TagSchema.Regex.Reader
import TagSchema.Text.Trim
import TagSchema.Value.Basic

/-!
# Form of text

Predicates and transformations of strings. A predicate fails for every other value, and a
transformation leaves it as it is.
-/

namespace TagSchema.Predicate

def withText (v : Value) (p : List Char → Bool) : Bool := v.string?.any fun s => p s.toList

/-- Holds no uppercase character. -/
def lowercase (v : Value) : Bool := withText v fun cs => !cs.any Text.isUppercase

/-- Holds no lowercase character. -/
def uppercase (v : Value) : Bool := withText v fun cs => !cs.any Text.isLowercase

def containsText (needle : List Char) : List Char → Bool
  | [] => needle.isEmpty
  | c :: cs => needle.isPrefixOf (c :: cs) || containsText needle cs

def includes (v : Value) (needle : String) : Bool := withText v (containsText needle.toList)

def startsWith (v : Value) (head : String) : Bool := withText v fun cs => head.toList.isPrefixOf cs

def endsWith (v : Value) (tail : String) : Bool := withText v fun cs => tail.toList.isSuffixOf cs

def matchesPattern (v : Value) (r : Regex) : Bool := v.string?.any r.isMatch

/-- Matches the pattern that the source describes; a malformed one matches nothing. -/
def regex (v : Value) (source : String) : Bool :=
  match Regex.read source with
  | .ok r => matchesPattern v r
  | .error _ => false

def mapText (f : String → String) (v : Value) : Value :=
  match v.string? with
  | some s => .string (f s)
  | none => v

def trim (v : Value) : Value := mapText Text.trim v
def toLowerCase (v : Value) : Value := mapText Text.toLower v
def toUpperCase (v : Value) : Value := mapText Text.toUpper v

end TagSchema.Predicate
