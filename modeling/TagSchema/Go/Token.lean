import TagSchema.Text.Category

/-!
# Tokens of Go source

A token keeps the blank space and the comments in front of it, so that the source of any run of
tokens can be given back. Line breaks are no tokens: a token says whether one stands in front of it.
-/

namespace TagSchema.Go

open TagSchema.Text (Category hasCategory)

structure Comment where
  text : List Char
  firstRow : Nat
  lastRow : Nat
  deriving DecidableEq, Repr

namespace Token

inductive Kind where
  | word | text
  /-- A number or a character. -/
  | number
  | mark
  /-- A literal or comment without an end, or a character outside the language. -/
  | fault
  deriving DecidableEq, Repr

end Token

structure Token where
  kind : Token.Kind
  text : String
  row : Nat
  /-- Everything between the token before and this one. -/
  gap : List Char
  comments : List Comment
  /-- Whether a line break outside comments stands in front. -/
  onNewLine : Bool
  deriving DecidableEq, Repr

namespace Token

def isSpace (c : Char) : Bool := c == ' ' || ('\t' ≤ c && c ≤ '\r') || c == '\ufeff'

def startsWord (c : Char) : Bool :=
  if c.toNat < 0x80 then c.isAlpha || c == '_' else hasCategory (Category.letters ++ [.nl]) c

def continuesWord (c : Char) : Bool :=
  if c.toNat < 0x80 then c.isAlphanum || c == '_'
  else hasCategory (Category.letters ++ [.nl, .mn, .mc, .nd, .pc]) c

/-- The number of characters up to and with the closing quote; a backslash hides the next one. -/
def quotedExtent (quote : Char) : List Char → Option Nat
  | [] => none
  | '\\' :: _ :: cs => (quotedExtent quote cs).map (· + 2)
  | c :: cs =>
    if c == quote then some 1
    else if c == '\n' then none
    else (quotedExtent quote cs).map (· + 1)

/-- The number of characters up to and with the next backquote. -/
def rawExtent (cs : List Char) : Option Nat :=
  let body := cs.takeWhile (· != '\x60')
  if body.length < cs.length then some (body.length + 1) else none

/-- The number of characters up to the end of a block comment. -/
def blockExtent : List Char → Option Nat
  | '*' :: '/' :: _ => some 2
  | _ :: cs => (blockExtent cs).map (· + 1)
  | [] => none

/-- The number of characters that continue a number. -/
def numberExtent : List Char → Nat
  | [] => 0
  | [c] => if continuesWord c || c == '.' then 1 else 0
  | c :: d :: cs =>
    if (c == 'e' || c == 'E' || c == 'p' || c == 'P') && (d == '+' || d == '-') then
      numberExtent cs + 2
    else if continuesWord c || c == '.' then numberExtent (d :: cs) + 1
    else 0

/-- What begins at a character: blank space, a comment or a token. -/
inductive Piece where
  | space
  | comment
  | token (k : Kind)
  deriving DecidableEq, Repr

def closed (p : Piece) : Option Nat → Piece × Nat
  | some n => (p, n)
  | none => (.token .fault, 0)

/-- What begins with `c`, and how many of the characters after it belong to it. -/
def piece (c : Char) (cs : List Char) : Piece × Nat :=
  if isSpace c then (.space, 0)
  else if startsWord c then (.token .word, (cs.takeWhile continuesWord).length)
  else if c.isDigit then (.token .number, numberExtent cs)
  else if c == '"' then closed (.token .text) (quotedExtent '"' cs)
  else if c == '\x60' then closed (.token .text) (rawExtent cs)
  else if c == '\'' then closed (.token .number) (quotedExtent '\'' cs)
  else match c, cs with
    | '/', '/' :: _ => (.comment, (cs.takeWhile (· != '\n')).length)
    | '/', '*' :: body => closed .comment ((blockExtent body).map (· + 1))
    | '<', '-' :: _ => (.token .mark, 1)
    | '.', '.' :: '.' :: _ => (.token .mark, 2)
    | _, _ => if ' ' < c && c < '\x7f' then (.token .mark, 0) else (.token .fault, 0)

def breaks (cs : List Char) : Nat := cs.count '\n'

/-- What has been passed since the last token. -/
structure Gap where
  row : Nat
  text : List Char
  comments : List Comment
  onNewLine : Bool

namespace Gap

def start (row : Nat) : Gap := ⟨row, [], [], false⟩

def addSpace (g : Gap) (c : Char) : Gap :=
  { g with row := g.row + breaks [c], text := g.text ++ [c], onNewLine := g.onNewLine || c == '\n' }

def addComment (g : Gap) (cs : List Char) : Gap :=
  let last := g.row + breaks cs
  { g with
    row := last, text := g.text ++ cs
    comments := g.comments ++ [⟨cs, g.row, last⟩] }

/-- The token of the text `cs` behind the gap. -/
def token (g : Gap) (k : Kind) (cs : List Char) : Token :=
  ⟨k, String.ofList cs, g.row, g.text, g.comments, g.onNewLine⟩

end Gap

def scanFrom (g : Gap) (cs : List Char) : List Token :=
  match cs with
  | [] => []
  | c :: rest =>
    let (p, n) := piece c rest
    let lexeme := c :: rest.take n
    match p with
    | .space => scanFrom (g.addSpace c) (rest.drop n)
    | .comment => scanFrom (g.addComment lexeme) (rest.drop n)
    | .token k => g.token k lexeme :: scanFrom (.start (g.row + breaks lexeme)) (rest.drop n)
termination_by cs.length
decreasing_by all_goals simp only [List.length_drop, List.length_cons]; omega

/-- The tokens of a source text. -/
def scan (source : String) : List Token := scanFrom (.start 0) source.toList

def isMark (t : Token) (s : String) : Bool := t.kind == .mark && t.text == s

def isWord (t : Token) (s : String) : Bool := t.kind == .word && t.text == s

/-- The source of a run of tokens, without what stands in front of it. -/
def source : List Token → String
  | [] => ""
  | t :: ts => t.text ++ String.join (ts.map fun u => String.ofList u.gap ++ u.text)

end Token

end TagSchema.Go
