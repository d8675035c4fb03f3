import TagSchema.Go.Quoted

/-!
# Struct tags

A struct tag is a list of `key:"value"` pairs with spaces between. Scanning stops for good at the
first place that does not look like a pair.
-/

namespace TagSchema.Go.StructTag

def isKeyChar (c : Char) : Bool := ' ' < c && c != ':' && c != '"' && c != '\x7f'

/-- The text up to and with the closing quote, and the text after it; a backslash hides the
character behind it. -/
def splitValue : List Char → Option (List Char × List Char)
  | [] => none
  | '"' :: rest => some (['"'], rest)
  | '\\' :: c :: rest => (splitValue rest).map fun (value, after) => ('\\' :: c :: value, after)
  | c :: rest => (splitValue rest).map fun (value, after) => (c :: value, after)

structure Pair where
  key : List Char
  /-- The value with its quotes. -/
  literal : List Char
  deriving DecidableEq, Repr

/-- The first pair, and the text after it. -/
def nextPair (cs : List Char) : Option (Pair × List Char) :=
  let cs := cs.dropWhile (· == ' ')
  let key := cs.takeWhile isKeyChar
  match key, cs.dropWhile isKeyChar with
  | [], _ => none
  | key, ':' :: '"' :: rest =>
    (splitValue rest).map fun (value, after) => (⟨key, '"' :: value⟩, after)
  | _, _ => none

theorem splitValue_length {cs value after : List Char} (h : splitValue cs = some (value, after)) :
    after.length < cs.length := by
  fun_induction splitValue cs generalizing value after with
  | case1 => simp at h
  | case2 rest => simp_all
  | case3 c rest ih =>
    obtain ⟨⟨v, a⟩, hv, he⟩ := Option.map_eq_some_iff.1 h
    cases he
    have := ih hv
    simp; omega
  | case4 c rest _ _ ih =>
    obtain ⟨⟨v, a⟩, hv, he⟩ := Option.map_eq_some_iff.1 h
    cases he
    have := ih hv
    simp; omega

theorem nextPair_length {cs after : List Char} {p : Pair} (h : nextPair cs = some (p, after)) :
    after.length < cs.length := by
  simp only [nextPair] at h
  split at h
  · simp at h
  · rename_i rest hrest _
    obtain ⟨⟨v, a⟩, hv, he⟩ := Option.map_eq_some_iff.1 h
    cases he
    have h₁ : a.length < rest.length := splitValue_length hv
    change a.length < cs.length
    have h₂ := (List.dropWhile_suffix (l := cs) (· == ' ')).length_le
    have h₃ := (List.dropWhile_suffix (l := cs.dropWhile (· == ' ')) isKeyChar).length_le
    rw [hrest] at h₃
    simp only [List.length_cons] at h₃
    omega
  · simp at h

/-- The pairs in front of the first malformed place. -/
def pairs (cs : List Char) : List Pair :=
  match h : nextPair cs with
  | none => []
  | some (p, after) =>
    have := nextPair_length h
    p :: pairs after
termination_by cs.length

/-- The value of the first pair with the key; none if that value is no literal. -/
def lookup (tag key : String) : Option String :=
  match (pairs tag.toList).find? (·.key == key.toList) with
  | some p => (unquoteChars p.literal).map String.ofList
  | none => none

end TagSchema.Go.StructTag
