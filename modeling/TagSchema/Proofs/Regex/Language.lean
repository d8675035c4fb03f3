import Mathlib.Computability.Language
import TagSchema.Proofs.Regex.Matcher

/-!
# The language of a pattern

Without anchors, what a pattern matches does not depend on where it stands: `spans_iff_mem`. A
pattern of whole texts matches those of its language and no other: `isMatch_whole`.
-/

namespace TagSchema.Regex

variable {a b r : Regex} {before u after : List Char}

/-- The pattern asks nothing about the positions between characters. -/
def isPlain : Regex → Bool
  | .empty | .set _ => true
  | .anchor _ => false
  | .cat a b | .alt a b => a.isPlain && b.isPlain
  | .rep a _ _ => a.isPlain

/-- What a pattern without anchors matches. -/
def language : Regex → Language Char
  | .empty => 1
  | .set s => {u | ∃ c, u = [c] ∧ s.has c = true}
  | .anchor _ => 0
  | .cat a b => a.language * b.language
  | .alt a b => a.language + b.language
  | .rep a least most => {u | ∃ n, admits least most n ∧ u ∈ a.language ^ n}

theorem spansTimes_iff_mem {n : Nat}
    (once : ∀ {before u after}, Spans r before u after ↔ u ∈ r.language) :
    SpansTimes r n before u after ↔ u ∈ r.language ^ n := by
  induction n generalizing before u with
  | zero => rw [spansTimes_zero, pow_zero, Language.mem_one]
  | succ n ih =>
    rw [spansTimes_succ, pow_succ', Language.mem_mul]
    simp only [once, ih]
    constructor
    · rintro ⟨s, t, rfl, first, rest⟩
      exact ⟨s, first, t, rest, rfl⟩
    · rintro ⟨s, first, t, rest, rfl⟩
      exact ⟨s, t, rfl, first, rest⟩

theorem spans_iff_mem (plain : r.isPlain = true) : Spans r before u after ↔ u ∈ r.language := by
  induction r generalizing before u after with
  | empty => rw [spans_empty, language, Language.mem_one]
  | set s => exact spans_set
  | anchor => cases plain
  | cat a b first second =>
    rw [isPlain, Bool.and_eq_true] at plain
    rw [spans_cat, language, Language.mem_mul]
    simp only [first plain.1, second plain.2]
    constructor
    · rintro ⟨s, t, rfl, left, right⟩
      exact ⟨s, left, t, right, rfl⟩
    · rintro ⟨s, left, t, right, rfl⟩
      exact ⟨s, t, rfl, left, right⟩
  | alt a b left right =>
    rw [isPlain, Bool.and_eq_true] at plain
    rw [spans_alt, left plain.1, right plain.2, language, Language.mem_add]
  | rep a least most once =>
    rw [spans_rep]
    simp only [spansTimes_iff_mem (once plain)]
    rfl

/-! ### Patterns that are put together -/

theorem mem_append : u ∈ (a ++ b).language ↔ ∃ s ∈ a.language, ∃ t ∈ b.language, s ++ t = u :=
  Language.mem_mul

theorem mem_or : u ∈ (a ||| b).language ↔ u ∈ a.language ∨ u ∈ b.language := Language.mem_add _ _ _

theorem has_range {lo hi c : Char} :
    (CharSet.range lo hi).has c = true ↔ lo.toNat ≤ c.toNat ∧ c.toNat ≤ hi.toNat := by
  rw [CharSet.has, Bool.and_eq_true, decide_eq_true_eq, decide_eq_true_eq]
  exact Iff.rfl

theorem mem_chars {s : CharSet} : u ∈ (chars s).language ↔ ∃ c, u = [c] ∧ s.has c = true := Iff.rfl

theorem mem_char {c : Char} : u ∈ (char c).language ↔ u = [c] := by
  rw [show char c = chars (.single c) from rfl, mem_chars]
  simp only [CharSet.has_single, beq_iff_eq]
  constructor
  · rintro ⟨_, whole, rfl⟩
    exact whole
  · intro whole
    exact ⟨c, whole, rfl⟩

theorem mem_append_char {c : Char} :
    u ∈ (r ++ char c).language ↔ ∃ s, s ∈ r.language ∧ u = s ++ [c] := by
  simp only [mem_append, mem_char, exists_eq_left, eq_comm]

theorem mem_char_append {c : Char} :
    u ∈ (char c ++ r).language ↔ ∃ s, s ∈ r.language ∧ u = c :: s := by
  simp only [mem_append, mem_char, exists_eq_left, List.singleton_append, eq_comm]

/-- A character between two patterns. -/
theorem mem_append_char_append {c : Char} : u ∈ (a ++ char c ++ b).language ↔
    ∃ s t, u = s ++ c :: t ∧ s ∈ a.language ∧ t ∈ b.language := by
  simp only [mem_append (b := b), mem_append_char]
  constructor
  · rintro ⟨_, ⟨s, first, rfl⟩, t, second, rfl⟩
    exact ⟨s, t, by simp, first, second⟩
  · rintro ⟨s, t, rfl, first, second⟩
    exact ⟨_, ⟨s, first, rfl⟩, t, second, by simp⟩

theorem mem_literal {cs : List Char} : u ∈ (literal cs).language ↔ u = cs := by
  induction cs generalizing u with
  | nil => exact Language.mem_one _
  | cons c cs ih =>
    cases cs with
    | nil => exact mem_char
    | cons d ds =>
      change u ∈ (char c).language * (literal (d :: ds)).language ↔ _
      rw [Language.mem_mul]
      simp only [mem_char, ih, exists_eq_left, List.singleton_append, eq_comm]

theorem isPlain_literal (cs : List Char) : (literal cs).isPlain = true := by
  induction cs with
  | nil => rfl
  | cons c cs ih =>
    cases cs with
    | nil => rfl
    | cons d ds => exact ih

theorem mem_text {s : String} : u ∈ (text s).language ↔ u = s.toList := mem_literal

theorem mem_anyOf {rs : List Regex} : u ∈ (anyOf rs).language ↔ ∃ r ∈ rs, u ∈ r.language := by
  induction rs with
  | nil =>
    change (∃ c, u = [c] ∧ CharSet.nothing.has c = true) ↔ _
    simp [CharSet.has]
  | cons r rs ih =>
    cases rs with
    | nil => simp [anyOf]
    | cons r' rs =>
      change u ∈ r.language + (anyOf (r' :: rs)).language ↔ _
      rw [Language.mem_add, ih]
      exact (List.exists_mem_cons_iff (u ∈ ·.language) r _).symm

theorem mem_anyOf_of_getElem? {rs : List Regex} (i : Nat) (found : rs[i]? = some r)
    (h : u ∈ r.language) : u ∈ (anyOf rs).language :=
  mem_anyOf.mpr ⟨r, List.mem_of_getElem? found, h⟩

theorem mem_rep {least : Nat} {most : Option Nat} : u ∈ (rep r least most).language ↔
    ∃ ss : List (List Char), admits least most ss.length ∧ (∀ s ∈ ss, s ∈ r.language) ∧
      u = ss.flatten := by
  rw [language]
  change (∃ n, admits least most n ∧ u ∈ r.language ^ n) ↔ _
  simp only [Language.mem_pow]
  constructor
  · rintro ⟨n, count, ss, whole, rfl, parts⟩
    exact ⟨ss, count, parts, whole⟩
  · rintro ⟨ss, count, parts, whole⟩
    exact ⟨_, count, ss, whole, rfl, parts⟩

theorem admits_some {least most n : Nat} :
    admits least (some most) n ↔ least ≤ n ∧ n ≤ most := by
  simp only [admits, Option.mem_some_iff, forall_eq']

theorem mem_between {least most : Nat} : u ∈ (between least most r).language ↔
    ∃ ss : List (List Char), (least ≤ ss.length ∧ ss.length ≤ most) ∧
      (∀ s ∈ ss, s ∈ r.language) ∧ u = ss.flatten := by
  rw [between, mem_rep]
  simp only [admits_some]

/-- Repetitions of a pattern whose matches are the values of `f` with the property `P`. -/
theorem mem_rep_map {β : Type} {f : β → List Char} {P : β → Prop} {least : Nat}
    {most : Option Nat} (once : ∀ s, s ∈ r.language ↔ ∃ x, P x ∧ s = f x) :
    u ∈ (rep r least most).language ↔
      ∃ xs : List β, admits least most xs.length ∧ (∀ x ∈ xs, P x) ∧ u = xs.flatMap f := by
  have row (ss : List (List Char)) (each : ∀ s ∈ ss, s ∈ r.language) :
      ∃ xs : List β, (∀ x ∈ xs, P x) ∧ ss = xs.map f := by
    induction ss with
    | nil => exact ⟨[], by simp, rfl⟩
    | cons s ss ih =>
      rw [List.forall_mem_cons, once] at each
      obtain ⟨⟨x, first, rfl⟩, each⟩ := each
      obtain ⟨xs, rest, rfl⟩ := ih each
      exact ⟨x :: xs, List.forall_mem_cons.mpr ⟨first, rest⟩, rfl⟩
  rw [mem_rep]
  constructor
  · rintro ⟨ss, count, each, rfl⟩
    obtain ⟨xs, parts, rfl⟩ := row ss each
    rw [List.length_map] at count
    exact ⟨xs, count, parts, List.flatMap_def.symm⟩
  · rintro ⟨xs, count, parts, rfl⟩
    refine ⟨xs.map f, by rwa [List.length_map], ?_, List.flatMap_def⟩
    exact List.forall_mem_map.mpr fun x member => (once _).mpr ⟨x, parts x member, rfl⟩

theorem mem_between_map {β : Type} {f : β → List Char} {P : β → Prop} {least most : Nat}
    (once : ∀ s, s ∈ r.language ↔ ∃ x, P x ∧ s = f x) : u ∈ (between least most r).language ↔
      ∃ xs : List β, (least ≤ xs.length ∧ xs.length ≤ most) ∧ (∀ x ∈ xs, P x) ∧
        u = xs.flatMap f := by
  rw [between, mem_rep_map once]
  simp only [admits_some]

theorem mem_rep_chars {s : CharSet} {least : Nat} {most : Option Nat} :
    u ∈ (rep (chars s) least most).language ↔
      admits least most u.length ∧ ∀ c ∈ u, s.has c = true := by
  rw [mem_rep_map (f := fun c => [c]) (P := fun c => s.has c = true)
    fun s => mem_chars.trans (exists_congr fun _ => and_comm)]
  simp only [List.flatMap_singleton', exists_eq_right_right']

theorem mem_between_chars {s : CharSet} {least most : Nat} :
    u ∈ (between least most (chars s)).language ↔
      (least ≤ u.length ∧ u.length ≤ most) ∧ ∀ c ∈ u, s.has c = true := by
  rw [between, mem_rep_chars, admits_some]

theorem mem_times_chars {s : CharSet} {n : Nat} : u ∈ (times n (chars s)).language ↔
    u.length = n ∧ ∀ c ∈ u, s.has c = true := by
  rw [show times n (chars s) = between n n (chars s) from rfl, mem_between_chars,
    ← Nat.le_antisymm_iff, eq_comm]

theorem language_between_one : (between 1 1 r).language = r.language := by
  ext u
  rw [mem_between]
  constructor
  · rintro ⟨ss, ⟨some, few⟩, parts, rfl⟩
    match ss, some, few with
    | [s], _, _ => simpa using parts
  · intro h
    exact ⟨[u], ⟨le_rfl, le_rfl⟩, List.forall_mem_singleton.mpr h, by simp⟩

theorem mem_optional : u ∈ (optional r).language ↔ u = [] ∨ u ∈ r.language := by
  rw [show optional r = between 0 1 r from rfl, mem_between]
  constructor
  · rintro ⟨ss, ⟨-, few⟩, parts, rfl⟩
    match ss, few with
    | [], _ => exact .inl rfl
    | [s], _ => exact .inr (by simpa using parts)
  · rintro (rfl | h)
    · exact ⟨[], by simp, by simp, rfl⟩
    · exact ⟨[u], by simp, by simpa using h, by simp⟩

/-! ### Patterns of finitely many texts -/

/-- The characters of a set that is made of ranges. -/
def CharSet.elements : CharSet → Option (List Char)
  | .nothing => some []
  | .range lo hi =>
    some (((List.range (hi.toNat + 1)).map Char.ofNat).filter fun c => lo ≤ c && c ≤ hi)
  | .union a b => do return (← a.elements) ++ (← b.elements)
  | _ => none

theorem CharSet.mem_elements {s : CharSet} {cs : List Char} {c : Char} (h : s.elements = some cs) :
    c ∈ cs ↔ s.has c = true := by
  induction s generalizing cs with
  | nothing =>
    obtain rfl := Option.some.inj h
    simp [has]
  | range lo hi =>
    obtain rfl := Option.some.inj h
    rw [List.mem_filter, has]
    refine and_iff_right_of_imp fun within => ?_
    have below : c.toNat ≤ hi.toNat := (has_range.mp within).2
    exact List.mem_map.mpr ⟨c.toNat, List.mem_range.mpr (by omega), Char.ofNat_toNat c⟩
  | union a b first second =>
    simp only [elements, Option.bind_eq_bind, Option.bind_eq_some_iff, Option.pure_def,
      Option.some.injEq] at h
    obtain ⟨as, left, bs, right, rfl⟩ := h
    rw [List.mem_append, first left, second right, has, Bool.or_eq_true]
  | _ => cases h

/-- What a pattern matches, if it has no anchor or repetition and its sets are made of ranges. -/
def words : Regex → Option (List (List Char))
  | .empty => some [[]]
  | .set s => s.elements.map (·.map ([·]))
  | .cat a b => do
    let us ← a.words
    let vs ← b.words
    return us.flatMap fun u => vs.map (u ++ ·)
  | .alt a b => do return (← a.words) ++ (← b.words)
  | .anchor _ | .rep .. => none

theorem mem_words {ws : List (List Char)} (h : r.words = some ws) : u ∈ r.language ↔ u ∈ ws := by
  induction r generalizing u ws with
  | empty =>
    obtain rfl := Option.some.inj h
    rw [language, Language.mem_one, List.mem_singleton]
  | set s =>
    obtain ⟨cs, listed, rfl⟩ := Option.map_eq_some_iff.mp h
    simp only [List.mem_map, CharSet.mem_elements listed, and_comm, eq_comm (b := u)]
    exact mem_chars
  | cat a b first second =>
    simp only [words, Option.bind_eq_bind, Option.bind_eq_some_iff, Option.pure_def,
      Option.some.injEq] at h
    obtain ⟨us, left, vs, right, rfl⟩ := h
    rw [language, Language.mem_mul]
    simp only [first left, second right, List.mem_flatMap, List.mem_map]
  | alt a b first second =>
    simp only [words, Option.bind_eq_bind, Option.bind_eq_some_iff, Option.pure_def,
      Option.some.injEq] at h
    obtain ⟨us, left, vs, right, rfl⟩ := h
    rw [language, Language.mem_add, first left, second right, List.mem_append]
  | anchor | rep => cases h

/-! ### Patterns of whole texts -/

theorem occurs_whole {cs : List Char} : (whole r).Occurs cs ↔ Spans r [] cs [] := by
  have parts {before u after : List Char} : Spans (whole r) before u after ↔
      before = [] ∧ after = [] ∧ Spans r before u after := by
    change Spans (.cat (.cat (.anchor .textStart) r) (.anchor .textEnd)) before u after ↔ _
    simp only [spans_cat, spans_anchor, Anchor.holds]
    constructor
    · rintro ⟨_, _, rfl, ⟨_, t, rfl, ⟨rfl, start⟩, middle⟩, rfl, stop⟩
      exact ⟨by simpa using start, by simpa using stop, by simpa using middle⟩
    · rintro ⟨rfl, rfl, middle⟩
      exact ⟨u, [], by simp, ⟨[], u, rfl, ⟨rfl, rfl⟩, middle⟩, rfl, rfl⟩
  simp only [Occurs, parts]
  constructor
  · rintro ⟨_, s, _, rfl, rfl, rfl, spans⟩
    simpa using spans
  · intro spans
    exact ⟨[], cs, [], by simp, rfl, rfl, spans⟩

theorem occurs_or {cs : List Char} : (a ||| b).Occurs cs ↔ a.Occurs cs ∨ b.Occurs cs := by
  change (∃ before s after, _ ∧ Spans (.alt a b) before s after) ↔ _
  simp only [Occurs, spans_alt, and_or_left, exists_or]

theorem isMatch_whole (plain : r.isPlain = true) {s : String} :
    (whole r).isMatch s = true ↔ s.toList ∈ r.language := by
  rw [isMatch_iff_occurs, occurs_whole, spans_iff_mem plain]

end TagSchema.Regex
