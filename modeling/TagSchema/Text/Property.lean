import TagSchema.Text.Category
import TagSchema.Text.Property.Tables

/-!
# Character properties

The derived Unicode properties, each from general categories and a contributory table.
-/

namespace TagSchema.Text

/-- Unicode `White_Space`. -/
def isBlank (c : Char) : Bool :=
  c == ' ' || ('\t' ≤ c && c ≤ '\r') || c == '\x85' || c == '\xa0' || c == '\u1680' ||
    ('\u2000' ≤ c && c ≤ '\u200a') || c == '\u2028' || c == '\u2029' || c == '\u202f' ||
    c == '\u205f' || c == '\u3000'

def isAlphabetic (c : Char) : Bool :=
  if c.toNat < 0x80 then c.isAlpha
  else hasCategory Category.letters c || Category.nl.has c ||
    Run.contains otherAlphabetic c.toNat

def isNumeric (c : Char) : Bool :=
  if c.toNat < 0x80 then c.isDigit else hasCategory Category.numbers c

def isAlphanumeric (c : Char) : Bool := isAlphabetic c || isNumeric c

def isLowercase (c : Char) : Bool :=
  if c.toNat < 0x80 then c.isLower
  else Category.ll.has c || Run.contains otherLowercase c.toNat

def isUppercase (c : Char) : Bool :=
  if c.toNat < 0x80 then c.isUpper
  else Category.lu.has c || Run.contains otherUppercase c.toNat

def isCased (c : Char) : Bool := isLowercase c || isUppercase c || Category.lt.has c

def isCaseIgnorable (c : Char) : Bool :=
  hasCategory [.mn, .me, .cf, .lm, .sk] c || Run.contains midWord c.toNat

def extendsGrapheme (c : Char) : Bool :=
  hasCategory [.mn, .me] c || Run.contains otherGraphemeExtend c.toNat

/-- Assigned, and neither a control, a format, private use nor a separator other than the space. -/
def isPrintable (c : Char) : Bool :=
  if c.toNat < 0x7F then ' ' ≤ c
  else hasCategory
    (Category.letters ++ Category.marks ++ Category.numbers ++ Category.punctuation ++
      Category.symbols) c

/-- A letter, mark, decimal number, connector or joiner. -/
def isWordChar (c : Char) : Bool :=
  if c.toNat < 0x80 then c.isAlphanum || c == '_'
  else isAlphabetic c || hasCategory (Category.marks ++ [.nd, .pc]) c || c == '\u200c' ||
    c == '\u200d'

/-- The properties that have a name in patterns. -/
inductive Property where
  | whiteSpace | alphabetic | lowercase | uppercase | cased | caseIgnorable | graphemeExtend
  | pictographic | emojiComponent | emoji | emojiPresentation | emojiModifier | emojiModifierBase
  | joinControl | word
  deriving DecidableEq, Repr

def Property.has : Property → Char → Bool
  | whiteSpace, c => isBlank c
  | alphabetic, c => isAlphabetic c
  | lowercase, c => isLowercase c
  | uppercase, c => isUppercase c
  | cased, c => isCased c
  | caseIgnorable, c => isCaseIgnorable c
  | graphemeExtend, c => extendsGrapheme c
  | pictographic, c => Run.contains Text.pictographic c.toNat
  | emojiComponent, c => Run.contains emojiParts c.toNat
  | emoji, c => Run.contains emojis c.toNat
  | emojiPresentation, c => Run.contains emojiPresentations c.toNat
  | emojiModifier, c => Run.contains emojiModifiers c.toNat
  | emojiModifierBase, c => Run.contains emojiModifierBases c.toNat
  | joinControl, c => c == '\u200c' || c == '\u200d'
  | word, c => isWordChar c

end TagSchema.Text
