import TagSchema.Regex.CharSet

/-!
# Regular expressions

Patterns and what they match. `Spans r before text after` says that `r` matches `text` where it
stands between `before` and `after`.
-/

namespace TagSchema

namespace Regex

/-- What a position between two characters must satisfy. -/
inductive Anchor where
  | textStart | textEnd
  | lineStart (crlf : Bool) | lineEnd (crlf : Bool)
  | wordBoundary (ascii : Bool) | notWordBoundary (ascii : Bool)
  | wordStart (ascii : Bool) | wordEnd (ascii : Bool)
  | wordStartHalf (ascii : Bool) | wordEndHalf (ascii : Bool)
  deriving DecidableEq, Repr

def isWord (ascii : Bool) (c : Char) : Bool :=
  if ascii then c.isAlphanum || c == '_' else Text.isWordChar c

/-- Whether the anchor holds between the character before and the character after a position. -/
def Anchor.holds (a : Anchor) (before after : Option Char) : Bool :=
  let word (ascii : Bool) (c : Option Char) : Bool := c.any (isWord ascii)
  match a with
  | .textStart => before.isNone
  | .textEnd => after.isNone
  | .lineStart false => before.isNone || before == some '\n'
  | .lineEnd false => after.isNone || after == some '\n'
  | .lineStart true =>
    before.isNone || before == some '\n' || (before == some '\r' && after != some '\n')
  | .lineEnd true =>
    after.isNone || after == some '\r' || (after == some '\n' && before != some '\r')
  | .wordBoundary ascii => word ascii before != word ascii after
  | .notWordBoundary ascii => word ascii before == word ascii after
  | .wordStart ascii => !word ascii before && word ascii after
  | .wordEnd ascii => word ascii before && !word ascii after
  | .wordStartHalf ascii => !word ascii before
  | .wordEndHalf ascii => !word ascii after

end Regex

inductive Regex where
  | empty
  | set (s : Regex.CharSet)
  | anchor (a : Regex.Anchor)
  | cat (a b : Regex)
  | alt (a b : Regex)
  | rep (a : Regex) (least : Nat) (most : Option Nat)
  deriving DecidableEq, Repr

namespace Regex

/-- `n` repetitions are admitted. -/
def admits (least : Nat) (most : Option Nat) (n : Nat) : Prop := least ≤ n ∧ ∀ m ∈ most, n ≤ m

mutual

inductive Spans : Regex → List Char → List Char → List Char → Prop where
  | empty {before after} : Spans .empty before [] after
  | set {s c before after} : s.has c = true → Spans (.set s) before [c] after
  | anchor {a before after} :
    a.holds before.getLast? after.head? = true → Spans (.anchor a) before [] after
  | cat {a b before s t after} :
    Spans a before s (t ++ after) → Spans b (before ++ s) t after →
      Spans (.cat a b) before (s ++ t) after
  | altLeft {a b before s after} : Spans a before s after → Spans (.alt a b) before s after
  | altRight {a b before s after} : Spans b before s after → Spans (.alt a b) before s after
  | rep {a least most n before s after} :
    admits least most n → SpansTimes a n before s after → Spans (.rep a least most) before s after

/-- `n` matches of one pattern in a row. -/
inductive SpansTimes : Regex → Nat → List Char → List Char → List Char → Prop where
  | zero {a before after} : SpansTimes a 0 before [] after
  | succ {a n before s t after} :
    Spans a before s (t ++ after) → SpansTimes a n (before ++ s) t after →
      SpansTimes a (n + 1) before (s ++ t) after

end

/-- The pattern matches somewhere in the text. -/
def Occurs (r : Regex) (text : List Char) : Prop :=
  ∃ before s after, text = before ++ s ++ after ∧ Spans r before s after

/-! ### Building patterns -/

instance : Append Regex := ⟨cat⟩
instance : OrOp Regex := ⟨alt⟩

def chars (s : CharSet) : Regex := .set s

def char (c : Char) : Regex := .set (.single c)

/-- The characters one after another. -/
def literal : List Char → Regex
  | [] => .empty
  | [c] => char c
  | c :: cs => .cat (char c) (literal cs)

/-- The text itself. -/
def text (s : String) : Regex := literal s.toList

def star (r : Regex) : Regex := .rep r 0 none
def plus (r : Regex) : Regex := .rep r 1 none
def optional (r : Regex) : Regex := .rep r 0 (some 1)
def times (n : Nat) (r : Regex) : Regex := .rep r n (some n)
def between (least most : Nat) (r : Regex) : Regex := .rep r least (some most)
def atLeast (n : Nat) (r : Regex) : Regex := .rep r n none

/-- One of the patterns. -/
def anyOf : List Regex → Regex
  | [] => .set .nothing
  | [r] => r
  | r :: rs => .alt r (anyOf rs)

/-- The pattern must match the whole text. -/
def whole (r : Regex) : Regex := .anchor .textStart ++ r ++ .anchor .textEnd

end Regex

end TagSchema
