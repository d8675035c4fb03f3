import TagSchema.Rule.Basic
import TagSchema.Tag.Token
import TagSchema.Tag.Param

/-!
# Tags

A tag is the text of an ordered rule list. `parse` reads it and `write` gives it back, with a
parameter quoted only where it would not survive as it stands.
-/

namespace TagSchema.Tag

open TagSchema.Text (allBlank trimChars)

def isNameChar (c : Char) : Bool := c.isAlphanum || c == '_'

/-- The text before and after the first `=`. -/
def splitEquals (token : List Char) : List Char × Option (List Char) :=
  match token.dropWhile (· != '=') with
  | _ :: body => (token.takeWhile (· != '='), some body)
  | [] => (token, none)

/-- The parameters of the named rule, from the text after its `=` if there is one. -/
def parseParams (name : List Char) (body : Option (List Char)) : Except Error (List String) :=
  match body.map trimChars with
  | none =>
    if (Rule.Kind.ofName? (String.ofList name)).any (·.takesParam) then
      .error (.missingParam (String.ofList name))
    else .ok []
  | some [] => .error (.missingParam (String.ofList name))
  | some body => .ok ((params name body).map String.ofList)

def parseToken (token : List Char) : Except Error Rule := do
  let (before, body) := splitEquals token
  let name := trimChars before
  if name.isEmpty then throw (.emptyName (String.ofList token))
  if !name.all isNameChar then throw (.badFormat (String.ofList token) .nameCharacters)
  let params ← parseParams name body
  if !params.isEmpty && params.all (allBlank ·.toList) then
    throw (.badFormat (String.ofList token) .emptyParam)
  return { name := String.ofList name, params }

/-- The rules of a tag, in order; a blank tag has none. -/
def parseChars (tag : List Char) : Except Error (List Rule) := do
  if allBlank tag then return []
  (← split tag).mapM parseToken

def parse (tag : String) : Except Error (List Rule) := parseChars tag.toList

/-- A lone parameter; JSON-shaped text stands as it is when the lexer keeps it whole. -/
def writeLone (param : List Char) : List Char :=
  if isJsonShaped param && isVerbatim param then param else writeWord param

def writeRuleChars (r : Rule) : List Char :=
  match r.params with
  | [] => r.name.toList
  | [p] => r.name.toList ++ '=' :: writeLone p.toList
  | ps => r.name.toList ++ '=' :: [' '].intercalate (ps.map (writeWord ·.toList))

def writeChars (rs : List Rule) : List Char := [','].intercalate (rs.map writeRuleChars)

def writeRule (r : Rule) : String := String.ofList (writeRuleChars r)

def write (rs : List Rule) : String := String.ofList (writeChars rs)

end TagSchema.Tag
