import TagSchema.Number.Digits

/-!
# Go string literals

An interpreted literal stands between double quotes and spells control characters with escapes; a
raw literal stands between backquotes and has none. `quote` writes the interpreted form and
`unquote` reads both.
-/

namespace TagSchema.Go

open TagSchema.Number (readNat)

def isControl (c : Char) : Bool := c < ' ' || ('\x7f' ≤ c && c ≤ '\x9f')

/-- The low `width` hex digits of `n`. -/
def hexDigits (width n : Nat) : List Char :=
  let ds := Nat.toDigits 16 n
  List.replicate (width - ds.length) '0' ++ ds

/-- The escapes of one letter, with the characters that they stand for. -/
def letterEscapes : List (Char × Char) :=
  [('a', '\x07'), ('b', '\x08'), ('f', '\x0c'), ('n', '\n'), ('r', '\r'), ('t', '\t'),
    ('v', '\x0b'), ('\\', '\\'), ('"', '"')]

def quoteChar (c : Char) : List Char :=
  match letterEscapes.find? (·.2 == c) with
  | some (letter, _) => ['\\', letter]
  | none =>
    if !isControl c then [c]
    else if c.toNat < 0x80 then '\\' :: 'x' :: hexDigits 2 c.toNat
    else '\\' :: 'u' :: hexDigits 4 c.toNat

def quoteChars (cs : List Char) : List Char := '"' :: cs.flatMap quoteChar ++ ['"']

/-- The interpreted literal of a text. -/
def quote (s : String) : String := String.ofList (quoteChars s.toList)

/-- The character of a code point, unless it is a surrogate or out of range. -/
def scalar? (n : Nat) : Option Char := if n.isValidChar then some (Char.ofNat n) else none

/-- A character below 256, by exactly `width` digits, and the text after them. -/
def readCode (base width limit : Nat) (cs : List Char) : Option (Char × List Char) :=
  if (cs.take width).length = width then
    match readNat base (cs.take width) with
    | some n => if n < limit then (scalar? n).map fun c => (c, cs.drop width) else none
    | none => none
  else none

/-- The character that an escape stands for, and the text after it. -/
def unescape : List Char → Option (Char × List Char)
  | [] => none
  | c :: cs =>
    match letterEscapes.lookup c with
    | some value => some (value, cs)
    | none =>
      if c == 'x' then readCode 16 2 0x100 cs
      else if c == 'u' then readCode 16 4 0x110000 cs
      else if c == 'U' then readCode 16 8 0x110000 cs
      else if '0' ≤ c && c ≤ '7' then readCode 8 3 0x100 (c :: cs)
      else none

theorem readCode_length {base width limit : Nat} {cs rest : List Char} {c : Char}
    (h : readCode base width limit cs = some (c, rest)) : rest.length ≤ cs.length := by
  simp only [readCode] at h
  split at h
  · split at h
    · split at h
      · obtain ⟨_, _, he⟩ := Option.map_eq_some_iff.1 h
        cases he
        simp
      · simp at h
    · simp at h
  · simp at h

theorem unescape_length {cs rest : List Char} {c : Char} (h : unescape cs = some (c, rest)) :
    rest.length ≤ cs.length := by
  cases cs with
  | nil => simp [unescape] at h
  | cons d ds =>
    simp only [unescape] at h
    split at h
    · simp_all
    · repeat' split at h
      · exact Nat.le_succ_of_le (readCode_length h)
      · exact Nat.le_succ_of_le (readCode_length h)
      · exact Nat.le_succ_of_le (readCode_length h)
      · exact readCode_length h
      · simp at h

/-- The text between the quotes of an interpreted literal. -/
def unquoteBody (cs : List Char) : Option (List Char) :=
  match cs with
  | [] => some []
  | c :: rest =>
    if c == '"' || c == '\n' then none
    else if c == '\\' then
      match h : unescape rest with
      | none => none
      | some (value, after) =>
        have := unescape_length h
        (unquoteBody after).map (value :: ·)
    else (unquoteBody rest).map (c :: ·)
termination_by cs.length

/-- The text between two delimiters. -/
def between? (delimiter : Char) (cs : List Char) : Option (List Char) :=
  match cs with
  | c :: rest =>
    if c == delimiter && rest.getLast? == some delimiter then some rest.dropLast else none
  | [] => none

def rawDelimiter : Char := '\x60'

def unquoteChars (literal : List Char) : Option (List Char) :=
  match between? rawDelimiter literal with
  | some body =>
    if body.contains rawDelimiter then none else some (body.filter (· != '\r'))
  | none => (between? '"' literal).bind unquoteBody

/-- The text that a literal stands for; carriage returns of a raw literal do not count. -/
def unquote (literal : String) : Option String := (unquoteChars literal.toList).map String.ofList

end TagSchema.Go
