import Mathlib.Data.List.TakeWhile
import TagSchema.Go.StructTag

/-!
# Written struct tags

By convention a struct tag is keys with quoted values behind them, and spaces between the pairs.
`lookup_written` says that a look-up gives back what is written first under the key, and that text
behind the pairs does not matter to the keys that they have.
-/

namespace TagSchema.Go.StructTag

/-- Text in which every quote stands behind a backslash, and behind every backslash there is a
character that it hides. -/
inductive Body : List Char → Prop where
  | empty : Body []
  | plain {c : Char} {cs : List Char} (quote : c ≠ '"') (backslash : c ≠ '\\') :
      Body cs → Body (c :: cs)
  | escape {c : Char} {cs : List Char} : Body cs → Body ('\\' :: c :: cs)

theorem splitValue_body {body : List Char} (h : Body body) (rest : List Char) :
    splitValue (body ++ '"' :: rest) = some (body ++ ['"'], rest) := by
  induction h with
  | empty => rfl
  | @plain c cs quote backslash _ ih =>
    rw [List.cons_append, splitValue.eq_4 _ _ quote fun d _ same _ => backslash same, ih]
    rfl
  | escape _ ih =>
    rw [List.cons_append, List.cons_append, splitValue, ih]
    rfl

/-- A pair with the spaces before it. -/
structure Written where
  spaces : Nat
  key : String
  /-- The value with its quotes. -/
  literal : String

namespace Written

def text (w : Written) : String :=
  String.ofList (List.replicate w.spaces ' ') ++ w.key ++ ":" ++ w.literal

structure IsConventional (w : Written) : Prop where
  filled : w.key ≠ ""
  key : ∀ c ∈ w.key.toList, ' ' < c ∧ c ≠ ':' ∧ c ≠ '"' ∧ c ≠ '\x7f'
  literal : ∃ body, Body body ∧ w.literal.toList = '"' :: (body ++ ['"'])

def pair (w : Written) : Pair := ⟨w.key.toList, w.literal.toList⟩

end Written

/-- The text of pairs, and what follows them. -/
def written : List Written → String → String
  | [], rest => rest
  | w :: ws, rest => w.text ++ written ws rest

theorem isKeyChar_iff {c : Char} :
    isKeyChar c = true ↔ ' ' < c ∧ c ≠ ':' ∧ c ≠ '"' ∧ c ≠ '\x7f' := by
  simp [isKeyChar, and_assoc]

theorem nextPair_text {w : Written} (h : w.IsConventional) (rest : List Char) :
    nextPair (w.text.toList ++ rest) = some (w.pair, rest) := by
  obtain ⟨body, closed, literal⟩ := h.literal
  have keyed : ∀ c ∈ w.key.toList, isKeyChar c = true := fun c member =>
    isKeyChar_iff.mpr (h.key c member)
  have noSpace : ∀ c ∈ w.key.toList.head?, (c == ' ') = false := by
    intro c member
    have ⟨low, _⟩ := h.key c (List.mem_of_mem_head? member)
    rw [beq_eq_false_iff_ne]
    rintro rfl
    exact absurd low (by decide)
  have filled : w.key.toList ≠ [] := String.toList_eq_nil_iff.not.mpr h.filled
  have text : w.text.toList ++ rest =
      List.replicate w.spaces ' ' ++ (w.key.toList ++ ':' :: '"' :: (body ++ '"' :: rest)) := by
    simp [Written.text, literal]
  have unspaced : (w.text.toList ++ rest).dropWhile (· == ' ') =
      w.key.toList ++ ':' :: '"' :: (body ++ '"' :: rest) := by
    obtain ⟨c, cs, key⟩ := List.exists_cons_of_ne_nil filled
    have spaces : ∀ d ∈ List.replicate w.spaces ' ', (d == ' ') = true := by
      intro d member
      simp [List.eq_of_mem_replicate member]
    rw [text, List.dropWhile_append_of_pos spaces, key, List.cons_append, List.dropWhile_cons,
      noSpace c (by rw [key]; rfl)]
    rfl
  have colon : isKeyChar ':' = false := by decide
  have name : (w.key.toList ++ ':' :: '"' :: (body ++ '"' :: rest)).takeWhile isKeyChar =
      w.key.toList := by
    rw [List.takeWhile_append_of_pos keyed, List.takeWhile_cons_of_neg (by rw [colon]; decide),
      List.append_nil]
  have value : (w.key.toList ++ ':' :: '"' :: (body ++ '"' :: rest)).dropWhile isKeyChar =
      ':' :: '"' :: (body ++ '"' :: rest) := by
    rw [List.dropWhile_append_of_pos keyed, List.dropWhile_cons_of_neg (by rw [colon]; decide)]
  simp only [nextPair, unspaced, name, value, splitValue_body closed]
  simp [Written.pair, literal]

theorem pairs_written {ws : List Written} (h : ∀ w ∈ ws, w.IsConventional) (rest : String) :
    pairs (written ws rest).toList = ws.map Written.pair ++ pairs rest.toList := by
  induction ws with
  | nil => rfl
  | cons w ws ih =>
    rw [List.forall_mem_cons] at h
    have first : nextPair (written (w :: ws) rest).toList =
        some (w.pair, (written ws rest).toList) := by
      rw [written, String.toList_append, nextPair_text h.1]
    rw [pairs]
    split
    · rename_i none
      rw [first] at none
      cases none
    · rename_i p after found
      rw [first] at found
      cases found
      rw [ih h.2, List.map_cons, List.cons_append]

theorem pairs_spaces (spaces : Nat) : pairs (List.replicate spaces ' ') = [] := by
  have blank : (List.replicate spaces ' ').dropWhile (· == ' ') = [] := by
    rw [List.dropWhile_eq_nil_iff]
    intro c member
    rw [List.eq_of_mem_replicate member]
    rfl
  have none : nextPair (List.replicate spaces ' ') = .none := by
    simp only [nextPair, blank]
    rfl
  rw [pairs]
  split
  · rfl
  · rename_i found
    rw [none] at found
    cases found

theorem find?_pairs_eq_none {ws : List Written} {key : String} (other : ∀ w ∈ ws, w.key ≠ key) :
    (ws.map Written.pair).find? (·.key == key.toList) = none := by
  rw [List.find?_eq_none]
  intro p member
  obtain ⟨w, inside, rfl⟩ := List.mem_map.mp member
  simpa [Written.pair, String.toList_inj] using other w inside

/-- A look-up in written pairs finds the value that stands first under the key, whatever text
follows the pairs; it finds nothing where no pair has the key and only spaces follow. -/
theorem lookup_written {ws : List Written} (conventional : ∀ w ∈ ws, w.IsConventional)
    (key : String) :
    (∀ before w after, ws = before ++ w :: after → w.key = key → (∀ v ∈ before, v.key ≠ key) →
      ∀ rest, lookup (written ws rest) key = unquote w.literal) ∧
    ((∀ w ∈ ws, w.key ≠ key) → ∀ spaces,
      lookup (written ws (String.ofList (List.replicate spaces ' '))) key = none) := by
  constructor
  · rintro before w after rfl same other rest
    have found : (pairs (written (before ++ w :: after) rest).toList).find?
        (·.key == key.toList) = some w.pair := by
      rw [pairs_written conventional, List.map_append, List.append_assoc, List.find?_append,
        find?_pairs_eq_none other, Option.none_or, List.map_cons, List.cons_append,
        List.find?_cons_of_pos (by rw [Written.pair, same]; exact beq_self_eq_true _)]
    rw [lookup, found]
    rfl
  · intro other spaces
    have missing : (pairs (written ws (String.ofList (List.replicate spaces ' '))).toList).find?
        (·.key == key.toList) = none := by
      rw [pairs_written conventional, String.toList_ofList, pairs_spaces, List.append_nil,
        find?_pairs_eq_none other]
    rw [lookup, missing]

/-- The tag `  json:"a\"é"gozod:"" json:"b"`. -/
def twice : List Written :=
  [⟨2, "json", "\"a\\\"é\""⟩, ⟨0, "gozod", "\"\""⟩, ⟨1, "json", "\"b\""⟩]

theorem lookup_twice : (∀ w ∈ twice, w.IsConventional) ∧
    lookup (written twice " gozod:\"x\" json") "json" = some "a\"é" ∧
    lookup (written twice "gozod:\"") "gozod" = some "" ∧
    lookup (written twice "  ") "yaml" = none := by
  have conventional : ∀ w ∈ twice, w.IsConventional := by
    have value : Body ['a', '\\', '"', 'é'] :=
      .plain (by decide) (by decide) (.escape (.plain (by decide) (by decide) .empty))
    have other : Body ['b'] := .plain (by decide) (by decide) .empty
    have key {name : String} (checked : name.toList.all isKeyChar = true) :
        ∀ c ∈ name.toList, ' ' < c ∧ c ≠ ':' ∧ c ≠ '"' ∧ c ≠ '\x7f' := fun c member =>
      isKeyChar_iff.mp (List.all_eq_true.mp checked c member)
    simp only [twice, List.forall_mem_cons]
    exact ⟨⟨by decide, key (by decide), _, value, rfl⟩,
      ⟨by decide, key (by decide), _, .empty, rfl⟩,
      ⟨by decide, key (by decide), _, other, rfl⟩, nofun⟩
  have reads (key : String) := lookup_written conventional key
  refine ⟨conventional, ?_, ?_, ?_⟩
  · rw [(reads "json").1 [] _ _ rfl rfl (by decide)]
    decide +kernel
  · rw [(reads "gozod").1 [_] _ _ rfl rfl (by decide)]
    decide +kernel
  · exact (reads "yaml").2 (by decide) 2

end TagSchema.Go.StructTag
