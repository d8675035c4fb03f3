import TagSchema.Regex.Basic

/-!
# Matching

A pattern maps a set of positions in a text, those where a match may begin, to the positions where
such a match ends. Sets of positions are bits of a natural number; on a given text every character
set and every anchor is itself such a set.
-/

namespace TagSchema.Regex

/-- A pattern on a fixed text: `here` keeps positions, `move` takes them past one character. -/
inductive Masked where
  | here (positions : Nat)
  | move (positions : Nat)
  | cat (a b : Masked)
  | alt (a b : Masked)
  | rep (a : Masked) (least : Nat) (most : Nat)

/-- The positions `i`, `i + 1`, … of the characters that satisfy `p`. -/
def positionsOf (p : Char → Bool) (i : Nat) : List Char → Nat
  | [] => 0
  | c :: cs => (if p c then 1 <<< i else 0) ||| positionsOf p (i + 1) cs

/-- The positions `i`, `i + 1`, … where the anchor holds, after the character `before`. -/
def anchorPositions (a : Anchor) (before : Option Char) (i : Nat) : List Char → Nat
  | [] => if a.holds before none then 1 <<< i else 0
  | c :: cs =>
    (if a.holds before (some c) then 1 <<< i else 0) ||| anchorPositions a (some c) (i + 1) cs

/-- All positions of a text of the given length. -/
def allPositions (length : Nat) : Nat := Nat.pow 2 (length + 1) - 1

/-- The pattern on the text; an open repetition needs no more rounds than the
text has positions. -/
def onText (cs : List Char) : Regex → Masked
  | .empty => .here (allPositions cs.length)
  | .set s => .move (positionsOf s.has 0 cs)
  | .anchor a => .here (anchorPositions a none 0 cs)
  | .cat a b => .cat (onText cs a) (onText cs b)
  | .alt a b => .alt (onText cs a) (onText cs b)
  | .rep a least most =>
    match most with
    | none => .rep (onText cs a) least (cs.length + 1)
    | some m => if m < least then .here 0 else .rep (onText cs a) least (m - least)

/-- `n` rounds of `f`, or fewer once nothing changes. -/
def iterate (f : Nat → Nat) : Nat → Nat → Nat
  | 0, s => s
  | n + 1, s => let t := f s; if t = s then s else iterate f n t

/-- Everything within `n` rounds of `f`. -/
def spread (f : Nat → Nat) : Nat → Nat → Nat
  | 0, s => s
  | n + 1, s => let t := s ||| f s; if t = s then s else spread f n t

/-- The ends of the matches that begin at the given positions. -/
def Masked.ends : Masked → Nat → Nat
  | .here p, s => s &&& p
  | .move p, s => (s &&& p) <<< 1
  | .cat a b, s => b.ends (a.ends s)
  | .alt a b, s => a.ends s ||| b.ends s
  | .rep a least more, s => spread a.ends more (iterate a.ends least s)

/-- Whether the pattern matches somewhere in the text. -/
def isMatch (r : Regex) (s : String) : Bool :=
  let cs := s.toList
  (onText cs r).ends (allPositions cs.length) != 0

end TagSchema.Regex
