import TagSchema.Text.Case
import TagSchema.Text.Fields
import TagSchema.Text.Trim

/-!
# Names in Go source
-/

namespace TagSchema.Go

open TagSchema.Text

def keywords : List String := [
  "break", "case", "chan", "const", "continue", "default", "defer", "else", "fallthrough", "for",
  "func", "go", "goto", "if", "import", "interface", "map", "package", "range", "return", "select",
  "struct", "switch", "type", "var"]

def isKeyword (word : String) : Bool := keywords.contains word

def startsName (c : Char) : Bool := isAlphabetic c || c == '_'

def continuesName (c : Char) : Bool := isAlphanumeric c || c == '_'

def isSimpleIdentifier (cs : List Char) : Bool :=
  match cs with
  | c :: rest => startsName c && rest.all continuesName && !isKeyword (String.ofList cs)
  | [] => false

/-- An identifier, or two with a point between. -/
def isIdentifier (text : String) : Bool :=
  let parts := fields '.' text.toList
  parts.length ≤ 2 && parts.all isSimpleIdentifier

/-- Only names that begin with a capital are visible outside their package. -/
def isExported (name : String) : Bool := name.toList.head?.any isUppercase

/-- A type name without its arguments. -/
def baseChars (name : List Char) : List Char := trimChars (name.takeWhile (· != '['))

def baseName (name : String) : String := String.ofList (baseChars name.toList)

/-- The capitals that follow a small letter or a digit, in lower case. -/
def wordInitials : List Char → List Char
  | c :: d :: cs =>
    (if isUppercase d && (isLowercase c || c.isDigit) then lowerChar d else []) ++
      wordInitials (d :: cs)
  | _ => []

/-- The initials of a name's words; a name that begins with two capitals counts as one word. -/
def initials (name : List Char) : List Char :=
  match name with
  | c :: d :: _ =>
    if !isAlphabetic c then []
    else lowerChar c ++ (if isUppercase d then [] else wordInitials name)
  | [c] => if isAlphabetic c then lowerChar c else []
  | [] => []

/-- A short name for a method's receiver; `x` where the initials spell a keyword or nothing. -/
def receiverName (typeName : String) : String :=
  let name := String.ofList (initials (baseChars typeName.toList))
  if name.isEmpty || isKeyword name then "x" else name

end TagSchema.Go
