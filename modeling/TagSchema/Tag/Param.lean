import TagSchema.Text.Trim

/-!
# Tag parameters

The text after a rule's `=` is a JSON-shaped literal, one quoted literal, a list of words, or one
plain value. `quote` writes a parameter that cannot stand as it is, and `unescape` reads it.
-/

namespace TagSchema.Tag

open TagSchema.Text (isBlank)

def isQuote (c : Char) : Bool := c == '\'' || c == '"'

/-- Decodes the escapes of a quoted parameter; an unknown escape keeps its backslash. -/
def unescape : List Char → List Char
  | '\\' :: c :: cs =>
    (if c == 'n' then ['\n']
      else if c == 't' then ['\t']
      else if isQuote c || c == '\\' || c == ',' then [c]
      else ['\\', c]) ++ unescape cs
  | c :: cs => c :: unescape cs
  | [] => []

/-- The text before a closing `q` that ends the list; a backslash guards the next character. -/
def closedBy (q : Char) : List Char → Option (List Char)
  | [] => none
  | ['\\'] => none
  | '\\' :: c :: cs => (closedBy q cs).map fun inner => '\\' :: c :: inner
  | c :: cs =>
    if c == q then if cs.isEmpty then some [] else none
    else (closedBy q cs).map (c :: ·)

/-- The content of one quoted literal that spans the whole text. -/
def betweenQuotes : List Char → Option (List Char)
  | q :: cs => if isQuote q then closedBy q cs else none
  | [] => none

/-- A word with its quotes, if it is one quoted literal, taken off. -/
def decodeWord (word : List Char) : List Char :=
  match betweenQuotes word with
  | some inner => unescape inner
  | none => word

/-- The finished word in front of the words that follow it. -/
def pushWord (current : List Char) (words : List (List Char)) : List (List Char) :=
  if current.isEmpty then words else decodeWord current :: words

/-- The words of a body whose first word has begun with `current`, inside `quote` if there is
one. -/
def wordsFrom (quote : Option Char) (current : List Char) : List Char → List (List Char)
  | [] => pushWord current []
  | ['\\'] => pushWord (current ++ ['\\']) []
  | '\\' :: c :: cs => wordsFrom quote (current ++ ['\\', c]) cs
  | c :: cs =>
    match quote with
    | some q => wordsFrom (if c == q then none else some q) (current ++ [c]) cs
    | none =>
      if isQuote c then wordsFrom (some c) (current ++ [c]) cs
      else if isBlank c then pushWord current (wordsFrom none [] cs)
      else wordsFrom none (current ++ [c]) cs

def words (body : List Char) : List (List Char) := wordsFrom none [] body

/-- Enclosed in brackets or in braces. -/
def isJsonShaped (text : List Char) : Bool :=
  (text.head? == some '[' && text.getLast? == some ']') ||
    (text.head? == some '{' && text.getLast? == some '}')

/-- The parameters in the body of the rule `name`; a regular expression is never cut into words. -/
def params (name : List Char) (body : List Char) : List (List Char) :=
  if isJsonShaped body then [body]
  else match betweenQuotes body with
    | some inner => [unescape inner]
    | none =>
      if name != "regex".toList && body.any isBlank then words body
      else [body]

/-- Whether a parameter cannot be written as it is. -/
def mustQuote (param : List Char) : Bool :=
  param.isEmpty ||
    param.any fun c => isBlank c || isQuote c || c ∈ ['\\', ',', '[', ']', '{', '}']

def escapeChar (c : Char) : List Char :=
  if c == '\\' then ['\\', '\\']
  else if c == '\'' then ['\\', '\'']
  else if c == '\n' then ['\\', 'n']
  else if c == '\t' then ['\\', 't']
  else [c]

def quote (param : List Char) : List Char := '\'' :: param.flatMap escapeChar ++ ['\'']

def writeWord (param : List Char) : List Char :=
  if mustQuote param then quote param else param

theorem unescape_escapeChar_append (c : Char) (cs : List Char) :
    unescape (escapeChar c ++ cs) = c :: unescape cs := by
  unfold escapeChar
  split
  · rename_i h; simp [unescape, isQuote, beq_iff_eq.1 h]
  split
  · rename_i h; simp [unescape, isQuote, beq_iff_eq.1 h]
  split
  · rename_i h; simp [unescape, beq_iff_eq.1 h]
  split
  · rename_i h; simp [unescape, beq_iff_eq.1 h]
  · rename_i h _ _ _
    have hc : c ≠ '\\' := by simpa using h
    rw [List.singleton_append, unescape]
    intro d ds e
    exact absurd e hc

theorem unescape_escape (param : List Char) : unescape (param.flatMap escapeChar) = param := by
  induction param with
  | nil => simp [unescape]
  | cons c cs ih => simp [List.flatMap_cons, unescape_escapeChar_append, ih]

end TagSchema.Tag
