import TagSchema.Regex.CharSet

/-!
# Class names

The names of character classes in pattern source: Unicode general categories, properties and
scripts, compared without regard to case, spaces, hyphens and underscores, and the ASCII classes.
-/

namespace TagSchema.Regex

open TagSchema.Text

/-- Lower case, without separators and without a leading `is`. -/
def looseName (name : List Char) : String :=
  let stripped := match name with
    | i :: s :: rest =>
      if i.toLower == 'i' && s.toLower == 's' && rest.map Char.toLower != ['c'] then rest else name
    | _ => name
  let isKept (c : Char) : Bool := c.toNat < 0x80 && !(c == ' ' || c == '_' || c == '-')
  String.ofList ((stripped.filter isKept).map Char.toLower)

open Category in
def categoryNames : List (List String × List Category) := [
  (["lu", "uppercaseletter"], [lu]), (["ll", "lowercaseletter"], [ll]),
  (["lt", "titlecaseletter"], [lt]), (["lc", "casedletter"], casedLetters),
  (["lm", "modifierletter"], [lm]), (["lo", "otherletter"], [lo]), (["l", "letter"], letters),
  (["mn", "nonspacingmark"], [mn]), (["mc", "spacingmark"], [mc]), (["me", "enclosingmark"], [me]),
  (["m", "mark", "combiningmark"], marks), (["nd", "decimalnumber", "digit"], [nd]),
  (["nl", "letternumber"], [nl]), (["no", "othernumber"], [no]), (["n", "number"], numbers),
  (["pc", "connectorpunctuation"], [pc]), (["pd", "dashpunctuation"], [pd]),
  (["ps", "openpunctuation"], [ps]), (["pe", "closepunctuation"], [pe]),
  (["pi", "initialpunctuation"], [pi]), (["pf", "finalpunctuation"], [pf]),
  (["po", "otherpunctuation"], [po]), (["p", "punctuation", "punct"], punctuation),
  (["sm", "mathsymbol"], [sm]), (["sc", "currencysymbol"], [sc]), (["sk", "modifiersymbol"], [sk]),
  (["so", "othersymbol"], [so]), (["s", "symbol"], symbols), (["zs", "spaceseparator"], [zs]),
  (["zl", "lineseparator"], [zl]), (["zp", "paragraphseparator"], [zp]),
  (["z", "separator"], separators), (["cc", "control", "cntrl"], [cc]), (["cf", "format"], [cf]),
  (["cs", "surrogate"], [cs]), (["co", "privateuse"], [co])]

open Property in
def propertyNames : List (List String × Property) := [
  (["whitespace", "wspace", "space"], whiteSpace), (["alphabetic", "alpha"], alphabetic),
  (["lowercase", "lower"], lowercase), (["uppercase", "upper"], uppercase), (["cased"], cased),
  (["caseignorable", "ci"], caseIgnorable), (["graphemeextend", "grext"], graphemeExtend),
  (["extendedpictographic", "extpict"], pictographic),
  (["emojicomponent", "ecomp"], emojiComponent), (["emoji"], emoji),
  (["emojipresentation", "epres"], emojiPresentation), (["emojimodifier", "emod"], emojiModifier),
  (["emojimodifierbase", "ebase"], emojiModifierBase), (["joincontrol", "joinc"], joinControl)]

open Script in
def scriptNames : List (List String × Script) := [
  (["latin", "latn"], latin), (["greek", "grek"], greek), (["cyrillic", "cyrl"], cyrillic),
  (["han", "hani"], han), (["hiragana", "hira"], hiragana), (["katakana", "kana"], katakana),
  (["arabic", "arab"], arabic), (["hebrew", "hebr"], hebrew), (["thai"], thai),
  (["hangul", "hang"], hangul), (["devanagari", "deva"], devanagari),
  (["armenian", "armn"], armenian), (["georgian", "geor"], georgian),
  (["common", "zyyy"], common)]

/-- What stands beside a name in a table of aliases. -/
def lookupAlias {α : Type} (rows : List (List String × α)) (name : String) : Option α :=
  (rows.find? (·.1.contains name)).map (·.2)

def category? (name : String) : Option CharSet :=
  if name == "any" then some .anything
  else if name == "ascii" then some (.range '\x00' '\x7f')
  else if name == "assigned" then some (.categories Category.assigned)
  else if name == "cn" || name == "unassigned" then some (.compl (.categories Category.assigned))
  else if name == "c" || name == "other" then
    some (.compl (.categories (Category.letters ++ Category.marks ++ Category.numbers ++
      Category.punctuation ++ Category.symbols ++ Category.separators)))
  else (lookupAlias categoryNames name).map .categories

def script? (name : String) : Option CharSet := (lookupAlias scriptNames name).map .script

/-- A lone name: a property, a general category, or a script. -/
def named? (name : String) : Option CharSet :=
  ((lookupAlias propertyNames name).map .property <|> category? name) <|> script? name

/-- A name with a value. -/
def valued? (name value : String) : Option CharSet :=
  if ["gc", "generalcategory"].contains name then category? value
  else if ["sc", "script", "scx", "scriptextensions"].contains name then script? value
  else none

/-- The text in the braces of a Unicode class. -/
def unicodeClass? (text : List Char) : Option CharSet :=
  let name := text.takeWhile fun c => c != ':' && c != '='
  match text.drop name.length with
  | [] => named? (looseName text)
  | '=' :: value =>
    if name.getLast? == some '!' then
      (valued? (looseName name.dropLast) (looseName value)).map .compl
    else valued? (looseName name) (looseName value)
  | _ :: value => valued? (looseName name) (looseName value)

def asciiNames : List (String × CharSet) := [
  ("alnum", .letterOrDigit), ("alpha", .letter), ("ascii", .range '\x00' '\x7f'),
  ("blank", .oneOf ['\t', ' ']), ("cntrl", .ranges [('\x00', '\x1f'), ('\x7f', '\x7f')]),
  ("digit", .digit), ("graph", .range '!' '~'), ("lower", .lower), ("print", .range ' ' '~'),
  ("punct", .ranges [('!', '/'), (':', '@'), ('[', '\x60'), ('\x7b', '~')]),
  ("space", .oneOf ['\t', '\n', '\x0b', '\x0c', '\r', ' ']), ("upper", .upper),
  ("word", .union .letterOrDigit (.single '_')), ("xdigit", .hexDigit)]

/-- The class a letter after a backslash stands for; a capital letter stands for its complement. -/
def perlClass? (unicode : Bool) (c : Char) : Option CharSet :=
  let base : Char → Option CharSet
    | 'd' => some (if unicode then .categories [.nd] else .digit)
    | 's' => some (if unicode then .space else .oneOf ['\t', '\n', '\x0b', '\x0c', '\r', ' '])
    | 'w' => some (if unicode then .property .word else .union .letterOrDigit (.single '_'))
    | _ => none
  if c.isUpper then (base c.toLower).map .compl else base c

end TagSchema.Regex
