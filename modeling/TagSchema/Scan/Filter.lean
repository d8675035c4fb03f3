import TagSchema.Regex.Matcher

/-!
# Path filters

A filter is a pattern for paths. `?` stands for one character and `*` for any number of them within
a name, brackets list characters, and `**` in place of a name stands for any number of directories.
-/

namespace TagSchema.Scan

open TagSchema.Regex (CharSet)

namespace Filter

inductive Piece where
  | char (c : Char)
  | one
  | run
  /-- Any number of directories. -/
  | deep
  | among (s : CharSet)
  deriving DecidableEq, Repr

/-- The ranges between brackets; a character alone is a range. -/
def ranges : List Char → List (Char × Char)
  | a :: '-' :: b :: cs => (a, b) :: ranges cs
  | a :: cs => (a, a) :: ranges cs
  | [] => []

/-- The characters up to a closing bracket, which is not the first of them, and the text behind
it. -/
def bracketed : List Char → Option (List Char × List Char)
  | [] => none
  | c :: cs =>
    let body := cs.takeWhile (· != ']')
    match cs.drop body.length with
    | _ :: rest => some (c :: body, rest)
    | [] => none

/-- The set behind an opening bracket, and the text behind it. -/
def set? : List Char → Option (CharSet × List Char)
  | '!' :: cs => (bracketed cs).map fun (body, rest) => (.compl (.ranges (ranges body)), rest)
  | cs => (bracketed cs).map fun (body, rest) => (.ranges (ranges body), rest)

theorem bracketed_length {cs body rest : List Char} (h : bracketed cs = some (body, rest)) :
    rest.length < cs.length := by
  cases cs with
  | nil => simp [bracketed] at h
  | cons c cs =>
    simp only [bracketed] at h
    split at h
    · rename_i d after hd
      cases h
      have := congrArg List.length hd
      simp at this ⊢
      omega
    · simp at h

theorem set?_length {cs rest : List Char} {s : CharSet} (h : set? cs = some (s, rest)) :
    rest.length < cs.length := by
  unfold set? at h
  split at h
  · obtain ⟨⟨b, r⟩, hb, he⟩ := Option.map_eq_some_iff.1 h
    cases he
    have := bracketed_length hb
    simp only [List.length_cons]
    omega
  · obtain ⟨⟨b, r⟩, hb, he⟩ := Option.map_eq_some_iff.1 h
    cases he
    exact bracketed_length hb

/-- The pieces of a pattern. Two stars must fill the place of a name: `atName` says whether a name
could begin here. -/
def readPieces (atName : Bool) (cs : List Char) : Option (List Piece) :=
  match cs with
  | [] => some []
  | '?' :: rest => (readPieces false rest).map (.one :: ·)
  | '*' :: '*' :: '*' :: _ => none
  | ['*', '*'] => if atName then some [.deep] else none
  | '*' :: '*' :: '/' :: rest => if atName then (readPieces true rest).map (.deep :: ·) else none
  | '*' :: '*' :: _ => none
  | '*' :: rest => (readPieces false rest).map (.run :: ·)
  | '[' :: rest =>
    match h : set? rest with
    | none => none
    | some (s, after) =>
      have := set?_length h
      (readPieces false after).map (.among s :: ·)
  | c :: rest => (readPieces (c == '/') rest).map (.char c :: ·)
termination_by cs.length

def slash : CharSet := .single '/'

/-- The characters of names. -/
def nameChar : CharSet := .compl slash

/-- What stands for nothing as well as for any rest of a path. -/
def Piece.isRun : Piece → Bool
  | run | deep => true
  | _ => false

/-- Any text up to and with a slash, or nothing. -/
def directories : Regex := .alt .empty ((Regex.chars .anything).star ++ Regex.char '/')

def regexOf : List Piece → Regex
  | [] => .empty
  | .char c :: ps => Regex.char c ++ regexOf ps
  | .one :: ps => Regex.chars nameChar ++ regexOf ps
  | .run :: ps => (Regex.chars nameChar).star ++ regexOf ps
  | .among s :: ps => Regex.chars (.inter s nameChar) ++ regexOf ps
  | .deep :: ps =>
    if ps.all Piece.isRun then (Regex.chars .anything).star else directories ++ regexOf ps

end Filter

structure Filter where
  pieces : List Filter.Piece
  deriving DecidableEq, Repr

namespace Filter

/-- Reads a pattern; misplaced stars and open brackets are refused. -/
def read? (pattern : String) : Option Filter := (readPieces true pattern.toList).map .mk

/-- Whether the pattern matches all of a path. -/
def accepts (f : Filter) (path : String) : Bool := (regexOf f.pieces).whole.isMatch path

end Filter

end TagSchema.Scan
