/-!
# Tag errors

Why a tag is not a rule list.
-/

namespace TagSchema.Tag

inductive FormatFault where
  | nameCharacters | emptyParam
  deriving DecidableEq, Repr

def FormatFault.message : FormatFault → String
  | nameCharacters => "rule names are alphanumeric"
  | emptyParam => "parameter is empty"

inductive Error where
  | emptyName (token : String)
  | missingParam (rule : String)
  | badFormat (token : String) (fault : FormatFault)
  | unterminatedQuote (quote : Char)
  | unbalanced (delimiter : Char)
  deriving DecidableEq, Repr

def Error.message : Error → String
  | emptyName token => s!"empty rule name in token '{token}'"
  | missingParam rule => s!"rule '{rule}' requires a parameter"
  | badFormat token fault => s!"invalid rule format '{token}': {fault.message}"
  | unterminatedQuote quote => s!"unterminated {quote} quote in tag"
  | unbalanced delimiter => s!"unbalanced '{delimiter}' in tag"

/-- The error's cause without the text it quotes. -/
inductive Error.Cause where
  | emptyName | missingParam | badFormat | unterminatedQuote | unbalanced
  deriving DecidableEq, Repr

def Error.cause : Error → Cause
  | .emptyName _ => .emptyName
  | .missingParam _ => .missingParam
  | .badFormat _ _ => .badFormat
  | .unterminatedQuote _ => .unterminatedQuote
  | .unbalanced _ => .unbalanced

end TagSchema.Tag
