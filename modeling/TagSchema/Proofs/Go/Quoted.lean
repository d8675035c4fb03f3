import TagSchema.Proofs.Go.StructTag

/-!
# Written string literals

`unquote_quote` says that a quoted text is one interpreted literal, which is read back as the text.
-/

namespace TagSchema.Go

open TagSchema.Number (readNat)
open StructTag (Body)

/-- A printable character that an interpreted literal may hold as it is. -/
def isPlain (c : Char) : Bool := !isControl c && c != '"' && c != '\\'

theorem isPlain_iff {c : Char} :
    isPlain c = true ↔ isControl c = false ∧ c ≠ '"' ∧ c ≠ '\\' := by
  simp [isPlain, and_assoc]

/-! ### Escapes -/

theorem readCode_append {base width limit n : Nat} {ds : List Char} (count : ds.length = width)
    (read : readNat base ds = some n) (small : n < limit) (valid : n.isValidChar)
    (rest : List Char) : readCode base width limit (ds ++ rest) = some (Char.ofNat n, rest) := by
  rw [readCode, List.take_left' count, List.drop_left' count, if_pos count, read]
  dsimp only
  rw [if_pos small, scalar?, if_pos valid]
  rfl

theorem hexDigits_control : ∀ n < 0xA0, isControl (Char.ofNat n) = true →
    ((hexDigits 2 n).length = 2 ∧ readNat 16 (hexDigits 2 n) = some n) ∧
      (hexDigits 4 n).length = 4 ∧ readNat 16 (hexDigits 4 n) = some n := by
  decide +kernel

theorem isPlain_hexDigits : ∀ n < 0xA0,
    (hexDigits 2 n).all isPlain = true ∧ (hexDigits 4 n).all isPlain = true := by
  decide +kernel

theorem toNat_of_isControl {c : Char} (h : isControl c = true) : c.toNat < 0xA0 := by
  simp only [isControl, Bool.or_eq_true, Bool.and_eq_true, decide_eq_true_eq, Char.lt_def,
    Char.le_def, UInt32.lt_iff_toNat_lt, UInt32.le_iff_toNat_le] at h
  have bounds : (' '.val.toNat = 0x20) ∧ ('\x9f'.val.toNat = 0x9f) := ⟨rfl, rfl⟩
  show c.val.toNat < 0xA0
  omega

/-- The escapes of a control character are read back. -/
theorem unescape_control {c : Char} (control : isControl c = true) (rest : List Char) :
    unescape ('x' :: (hexDigits 2 c.toNat ++ rest)) = some (c, rest) ∧
      unescape ('u' :: (hexDigits 4 c.toNat ++ rest)) = some (c, rest) := by
  have low := toNat_of_isControl control
  have digits := hexDigits_control c.toNat low (by rw [Char.ofNat_toNat]; exact control)
  have noLetter : letterEscapes.lookup 'x' = none ∧ letterEscapes.lookup 'u' = none := by decide
  constructor
  · rw [unescape, noLetter.1]
    dsimp only
    rw [if_pos (by decide), readCode_append digits.1.1 digits.1.2 (by omega) (.inl (by omega)),
      Char.ofNat_toNat]
  · rw [unescape, noLetter.2]
    dsimp only
    rw [if_neg (by decide), if_pos (by decide), readCode_append digits.2.1 digits.2.2 (by omega)
      (.inl (by omega)), Char.ofNat_toNat]

/-- Two ways to write a character: behind a backslash, as plain characters that are read back, or as
it is. -/
theorem quoteChar_cases (c : Char) :
    (∃ d ds, quoteChar c = '\\' :: d :: ds ∧ isControl d = false ∧ (∀ x ∈ ds, isPlain x = true) ∧
      ∀ rest, unescape (d :: (ds ++ rest)) = some (c, rest)) ∨
    (quoteChar c = [c] ∧ isControl c = false ∧ c ≠ '"' ∧ c ≠ '\\') := by
  have letters : ∀ e ∈ letterEscapes,
      letterEscapes.lookup e.1 = some e.2 ∧ isControl e.1 = false := by decide
  unfold quoteChar
  split
  · rename_i letter value found
    have known := letters _ (List.mem_of_find?_eq_some found)
    have same : value = c := by simpa using List.find?_some found
    refine .inl ⟨letter, [], rfl, known.2, by simp, ?_⟩
    intro rest
    rw [unescape, List.nil_append, known.1, same]
  · rename_i unlisted
    have ordinary : c ≠ '"' ∧ c ≠ '\\' := by
      constructor <;>
      · rintro rfl
        exact absurd unlisted (by decide)
    split
    · rename_i printable
      exact .inr ⟨rfl, by simpa using printable, ordinary⟩
    · rename_i control
      have control : isControl c = true := by simpa using control
      have digits := isPlain_hexDigits c.toNat (toNat_of_isControl control)
      rw [List.all_eq_true, List.all_eq_true] at digits
      split
      · exact .inl ⟨'x', _, rfl, rfl, digits.1, fun rest => (unescape_control control rest).1⟩
      · exact .inl ⟨'u', _, rfl, rfl, digits.2, fun rest => (unescape_control control rest).2⟩

/-! ### Reading back -/

theorem unquoteBody_escape {value : Char} {cs rest : List Char}
    (h : unescape cs = some (value, rest)) :
    unquoteBody ('\\' :: cs) = (unquoteBody rest).map (value :: ·) := by
  rw [unquoteBody, if_neg (by decide), if_pos (by decide)]
  split
  · rename_i bad
    rw [h] at bad
    cases bad
  · rename_i again
    rw [h] at again
    obtain ⟨rfl, rfl⟩ := Prod.mk.inj (Option.some.inj again)
    rfl

theorem unquoteBody_quoteChar (c : Char) (rest : List Char) :
    unquoteBody (quoteChar c ++ rest) = (unquoteBody rest).map (c :: ·) := by
  rcases quoteChar_cases c with ⟨d, ds, escaped, -, -, read⟩ | ⟨plain, control, quote, slash⟩
  · rw [escaped]
    exact unquoteBody_escape (read rest)
  · have newline : c ≠ '\n' := by
      rintro rfl
      cases control
    rw [plain, List.singleton_append, unquoteBody, if_neg (by simp [quote, newline]),
      if_neg (by simpa using slash)]

theorem unquoteBody_quoted (cs : List Char) : unquoteBody (cs.flatMap quoteChar) = some cs := by
  induction cs with
  | nil => rw [List.flatMap_nil, unquoteBody]
  | cons c cs ih => rw [List.flatMap_cons, unquoteBody_quoteChar, ih, Option.map_some]

theorem unquoteChars_quoteChars (cs : List Char) : unquoteChars (quoteChars cs) = some cs := by
  have notRaw : between? rawDelimiter (quoteChars cs) = none := rfl
  have inside : between? '"' (quoteChars cs) = some (cs.flatMap quoteChar) := by
    simp [quoteChars, between?]
  rw [unquoteChars, notRaw, inside]
  exact unquoteBody_quoted cs

/-! ### One literal -/

theorem body_append {as bs : List Char} (first : Body as) (later : Body bs) : Body (as ++ bs) := by
  induction first with
  | empty => exact later
  | plain quote backslash _ ih => exact .plain quote backslash ih
  | escape _ ih => exact .escape ih

theorem body_of_isPlain {cs : List Char} (h : ∀ c ∈ cs, isPlain c = true) : Body cs := by
  induction cs with
  | nil => exact .empty
  | cons c cs ih =>
    rw [List.forall_mem_cons, isPlain_iff] at h
    exact .plain h.1.2.1 h.1.2.2 (ih h.2)

theorem body_quoteChar (c : Char) : Body (quoteChar c) := by
  rcases quoteChar_cases c with ⟨d, ds, escaped, -, plain, -⟩ | ⟨plain, -, quote, slash⟩
  · rw [escaped]
    exact .escape (body_of_isPlain plain)
  · rw [plain]
    exact .plain quote slash .empty

theorem body_quoted (cs : List Char) : Body (cs.flatMap quoteChar) := by
  induction cs with
  | nil => exact .empty
  | cons c cs ih => exact body_append (body_quoteChar c) ih

theorem printable_quoteChar (c : Char) : ∀ x ∈ quoteChar c, isControl x = false := by
  rcases quoteChar_cases c with ⟨d, ds, escaped, control, plain, -⟩ | ⟨plain, control, -⟩
  · rw [escaped, List.forall_mem_cons, List.forall_mem_cons]
    exact ⟨rfl, control, fun x member => (isPlain_iff.mp (plain x member)).1⟩
  · rw [plain, List.forall_mem_singleton]
    exact control

theorem printable_quoteChars (cs : List Char) : ∀ x ∈ quoteChars cs, isControl x = false := by
  intro x member
  rw [quoteChars, List.mem_append, List.mem_cons, List.mem_flatMap, List.mem_singleton] at member
  rcases member with (rfl | ⟨c, -, inside⟩) | rfl
  · rfl
  · exact printable_quoteChar c x inside
  · rfl

/-- A quoted text is one interpreted literal without control characters or line feeds. Between its
two quotes there is none that no backslash hides, and it is read back as the text, so that different
texts have different literals. -/
theorem unquote_quote :
    (∀ s : String, unquote (quote s) = some s ∧
      (∀ c ∈ (quote s).toList, isControl c = false) ∧ '\n' ∉ (quote s).toList ∧
      ∃ body, Body body ∧ (quote s).toList = '"' :: (body ++ ['"'])) ∧
    Function.Injective quote := by
  have reads (s : String) : unquote (quote s) = some s := by
    rw [unquote, quote, String.toList_ofList, unquoteChars_quoteChars, Option.map_some,
      String.ofList_toList]
  constructor
  · intro s
    have printable : ∀ c ∈ (quote s).toList, isControl c = false := by
      rw [quote, String.toList_ofList]
      exact printable_quoteChars s.toList
    refine ⟨reads s, printable, fun member => absurd (printable _ member) (by decide), ?_⟩
    refine ⟨s.toList.flatMap quoteChar, body_quoted s.toList, ?_⟩
    rw [quote, String.toList_ofList, quoteChars, List.cons_append]
  · intro s t same
    have both := reads s
    rw [same, reads t] at both
    exact (Option.some.inj both).symm

/-- A bell, a delete and a next-line character, and quotes behind backslashes. -/
example : (quote "\x07\x7f\u0085\\\"\\").toList = "\"\\a\\x7f\\u0085\\\\\\\"\\\\\"".toList := by
  decide +kernel

end TagSchema.Go
