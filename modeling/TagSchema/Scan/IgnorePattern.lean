import TagSchema.Regex.Matcher

/-!
# Patterns of ignore files

A pattern is matched byte by byte. `?` and `*` stay within a name, `**` with slashes around it
crosses directories, braces hold alternatives, brackets list characters and a backslash takes the
next character as it is.
-/

namespace TagSchema.Scan.IgnorePattern

open TagSchema.Regex (CharSet)

inductive Token where
  | plain (r : Regex)
  /-- `**` in front: any directories or none. -/
  | anywhere
  /-- `**` at the end: anything inside. -/
  | inside
  /-- `**` between slashes. -/
  | between
  deriving DecidableEq, Repr

/-- The bytes of a text, each as the character with its number. -/
def bytesOf (s : String) : List Char := s.toUTF8.toList.map fun b => Char.ofNat b.toNat

def slash : Regex := .char '/'

def anything : Regex := (Regex.chars .anything).star

def nameByte : Regex := .chars (.compl (.single '/'))

def Token.regex : Token → Regex
  | plain r => r
  | anywhere => .alt slash.optional (anything ++ slash)
  | inside => slash ++ anything
  | between => .alt slash (slash ++ anything ++ slash)

/-- One pattern after another, those that match nothing but the empty text left out. -/
def sequence (rs : List Regex) : Regex :=
  match rs.filter (· != .empty) with
  | [] => .empty
  | r :: rs => rs.foldl (· ++ ·) r

/-- One of the branches; empty branches do not count. -/
def alternatives (branches : List (List Token)) : Regex :=
  match (branches.map fun b => sequence (b.map Token.regex)).filter (· != .empty) with
  | [] => .empty
  | rs => .anyOf rs

def literal (c : Char) : Token := .plain (.literal (bytesOf (String.singleton c)))

def star : Token := .plain nameByte.star

/-- The ranges between brackets up to the closing one, and the text behind it. A range that descends
is refused; `none` stands for brackets that are not closed. -/
def ranges (done : List (Char × Char)) (open_ : Bool) :
    List Char → Option (Option (List (Char × Char) × List Char))
  | [] => some none
  | c :: cs =>
    if c == ']' && !done.isEmpty then
      some (some (if open_ then done ++ [('-', '-')] else done, cs))
    else if c == '-' && !done.isEmpty && !open_ then ranges done true cs
    else if open_ then
      match done.getLast? with
      | some (lo, _) => if c < lo then none else ranges (done.dropLast ++ [(lo, c)]) false cs
      | none => none
    else ranges (done ++ [(c, c)]) false cs

/-- The bytes of a range: those of its ends, and what lies between the inner ones. -/
def rangeSet (r : Char × Char) : CharSet :=
  let lo := bytesOf (String.singleton r.1)
  let hi := bytesOf (String.singleton r.2)
  if r.1 = r.2 then .oneOf lo
  else .union (.oneOf (lo ++ hi)) (.range (lo.getLast?.getD r.1) (hi.headD r.2))

def setOf : List (Char × Char) → CharSet
  | [] => .nothing
  | r :: rs => .union (rangeSet r) (setOf rs)

/-- What stands behind an opening bracket, and the text behind it. -/
def bracket? (cs : List Char) : Option (Token × List Char) :=
  let negated := cs.head? == some '!' || cs.head? == some '^'
  match ranges [] false (if negated then cs.drop 1 else cs) with
  | none => none
  | some none => some (literal '[', cs)
  | some (some (rs, rest)) =>
    some (.plain (.chars (if negated then .compl (setOf rs) else setOf rs)), rest)

theorem ranges_length {done rs : List (Char × Char)} {open_ : Bool} {cs rest : List Char}
    (h : ranges done open_ cs = some (some (rs, rest))) : rest.length < cs.length := by
  fun_induction ranges done open_ cs <;> grind

theorem bracket?_length {cs rest : List Char} {t : Token} (h : bracket? cs = some (t, rest)) :
    rest.length ≤ cs.length := by
  simp only [bracket?] at h
  split at h
  · simp at h
  · cases h
    exact Nat.le_refl _
  · rename_i hr
    cases h
    have := ranges_length hr
    split at this
    · simp only [List.length_drop] at this
      omega
    · omega

/-- A group of alternatives that is still open. -/
structure Group where
  /-- What stands before the group, the last token first. -/
  before : List Token
  branches : List (List Token)

/-- Two stars with no name around them; `done` holds the tokens before them, the last one first, and
`atEnd` says whether nothing follows. -/
def crossing (atEnd : Bool) : List Token → List Token
  | .anywhere :: done => .anywhere :: done
  | _ :: done => (if atEnd then .inside else .between) :: done
  | [] => [.anywhere]

/-- The tokens behind those of `done`; `prev` is the character before the rest. -/
def tokens (prev : Option Char) (done : List Token) (groups : List Group) (cs : List Char) :
    Option (List Token) :=
  match cs with
  | [] => if groups.isEmpty then some done.reverse else none
  | '?' :: rest => tokens (some '?') (.plain nameByte :: done) groups rest
  | ['*', '*'] =>
    let crosses := done.isEmpty || prev == some '/'
    tokens (some '*') (if crosses then crossing true done else star :: star :: done) groups []
  | '*' :: '*' :: c :: rest =>
    if c == '/' && (done.isEmpty || prev == some '/') then
      tokens (some '/') (crossing false done) groups rest
    else
      let ends := !groups.isEmpty && (c == ',' || c == '\x7d')
      let done := if ends && !done.isEmpty && prev == some '/' then crossing true done
        else star :: star :: done
      tokens (some '*') done groups (c :: rest)
  | '*' :: rest => tokens (some '*') (star :: done) groups rest
  | '[' :: rest =>
    match h : bracket? rest with
    | none => none
    | some (t, after) =>
      have := bracket?_length h
      tokens (if after.length = rest.length then some '[' else some ']') (t :: done) groups after
  | '\x7b' :: rest => tokens (some '\x7b') [] (⟨done, []⟩ :: groups) rest
  | '\x7d' :: rest =>
    match groups with
    | [] => none
    | g :: groups =>
      let group := Token.plain (alternatives (g.branches ++ [done.reverse]))
      tokens (some '\x7d') (group :: g.before) groups rest
  | ',' :: rest =>
    match groups with
    | [] => tokens (some ',') (literal ',' :: done) [] rest
    | g :: groups =>
      let wider := { g with branches := g.branches ++ [done.reverse] }
      tokens (some ',') [] (wider :: groups) rest
  | ['\\'] => none
  | '\\' :: c :: rest => tokens (some c) (literal c :: done) groups rest
  | c :: rest => tokens (some c) (literal c :: done) groups rest
termination_by cs.length
decreasing_by all_goals simp_wf <;> omega

/-- The pattern of a source text; two stars alone match everything. -/
def read? (source : String) : Option Regex :=
  (tokens none [] [] source.toList).map fun ts =>
    if ts = [.anywhere] then anything else sequence (ts.map Token.regex)

/-- Whether a pattern matches all of a path. -/
def accepts (r : Regex) (path : String) : Bool :=
  r.whole.isMatch (String.ofList (bytesOf path))

end TagSchema.Scan.IgnorePattern
