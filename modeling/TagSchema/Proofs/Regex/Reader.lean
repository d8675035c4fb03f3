import TagSchema.Proofs.Number.Spelling
import TagSchema.Proofs.Regex.Language
import TagSchema.Proofs.Regex.Alike
import TagSchema.Regex.Reader

/-!
# Reading pattern source

The reader takes a text apart from left to right, so what it makes of a part does not depend on what
follows: `Reads`. A text that spells a pattern is read as one that matches alike, alone
(`Spells.parse`) and between anchors (`Spells.anchored`).
-/

namespace TagSchema.Regex

/-! ### Single steps -/

section Steps

variable {fuel depth : Nat} {names : List String} {done : List Regex} {items : List (Option Regex)}
  {c : Char} {cs rest : List Char} {r : Regex}

/-- Repetition, alternatives and groups are no atoms. -/
def isOperator (c : Char) : Bool := [')', '|', '*', '+', '?', '\x7b', '('].contains c

theorem step_atom (ordinary : isOperator c = false) (h : readAtom {} (c :: cs) = some (r, rest)) :
    readAlternatives (fuel + 1) depth ⟨{}, names, c :: cs⟩ done items =
      readAlternatives fuel depth ⟨{}, names, rest⟩ done (some r :: items) := by
  rw [readAlternatives]
  simp only [Flags.skip, Bool.false_eq_true, if_false]
  split
  all_goals first
    | rename_i same
      obtain ⟨rfl, -⟩ := List.cons.inj same
      exact absurd ordinary (by decide)
    | skip
  · contradiction
  · rw [h]
    rfl

theorem step_or : readAlternatives (fuel + 1) depth ⟨{}, names, '|' :: cs⟩ done items =
    readAlternatives fuel depth ⟨{}, names, cs⟩ (concatenate items :: done) [] := rfl

theorem step_close : readAlternatives (fuel + 1) depth ⟨{}, names, ')' :: cs⟩ done items =
    some (anyOf (concatenate items :: done).reverse, ⟨{}, names, ')' :: cs⟩) := rfl

theorem step_end : readAlternatives (fuel + 1) depth ⟨{}, names, []⟩ done items =
    some (anyOf (concatenate items :: done).reverse, ⟨{}, names, []⟩) := rfl

theorem step_counted {least : Nat} {most : Option Nat}
    (h : readBounds {} cs = some (least, most, rest)) :
    readAlternatives (fuel + 1) depth ⟨{}, names, '\x7b' :: cs⟩ done (some r :: items) =
      readAlternatives fuel depth ⟨{}, names, dropLazy rest⟩ done
        (some (.rep r least most) :: items) := by
  rw [readAlternatives]
  simp only [Flags.skip, Bool.false_eq_true, if_false, repeatLast, h]
  rfl

theorem step_group (h : readAlternatives fuel depth ⟨{}, names, cs⟩ [] [] =
      some (r, ⟨{}, names, ')' :: rest⟩)) :
    readAlternatives (fuel + 1) (depth + 1) ⟨{}, names, '(' :: '?' :: ':' :: cs⟩ done items =
      readAlternatives fuel (depth + 1) ⟨{}, names, rest⟩ done (some r :: items) := by
  have head : readGroupHead {} ('?' :: ':' :: cs) = some (⟨{}, none, false⟩, cs) := rfl
  rw [readAlternatives]
  simp only [Flags.skip, Bool.false_eq_true, if_false, head]
  simp [h]

theorem dropLazy_of_ne (h : cs.head? ≠ some '?') : dropLazy cs = cs := by
  unfold dropLazy
  split
  · exact absurd rfl h
  · rfl

end Steps

/-! ### Texts in front of others -/

/-- The patterns one after another. -/
def row : List Regex → Regex
  | [] => .empty
  | [r] => r
  | r :: rs => .cat r (row rs)

theorem concatenate_row (rs : List Regex) : concatenate (rs.map some).reverse = row rs := by
  have foldl_row (init : List Regex) (last : Regex) :
      init.reverse.foldl (fun after before => Regex.cat before after) last =
        row (init ++ [last]) := by
    induction init with
    | nil => rfl
    | cons r init ih =>
      rw [List.reverse_cons, List.foldl_append, ih]
      cases init <;> rfl
  rw [concatenate, ← List.map_reverse, List.filterMap_map]
  rcases rs.eq_nil_or_concat' with rfl | ⟨init, last, rfl⟩
  · rfl
  · rw [List.reverse_concat]
    simpa using foldl_row init last

theorem alike_row_append (rs ss : List Regex) :
    Alike (row (rs ++ ss)) (.cat (row rs) (row ss)) := by
  have alike_cons (r : Regex) (ss : List Regex) : Alike (row (r :: ss)) (.cat r (row ss)) := by
    cases ss with
    | nil => exact (Alike.cat_empty r).symm
    | cons s ss => exact Alike.refl _
  induction rs with
  | nil => exact (Alike.empty_cat _).symm
  | cons r rs ih =>
    have inner : Alike (.cat r (row (rs ++ ss))) (.cat r (.cat (row rs) (row ss))) :=
      (Alike.refl r).cat ih
    have outer : Alike (.cat r (.cat (row rs) (row ss))) (.cat (row (r :: rs)) (row ss)) :=
      (Alike.cat_assoc r _ _).symm.trans ((alike_cons r rs).symm.cat (Alike.refl _))
    exact (alike_cons r _).trans (inner.trans outer)

/-- In front of any text, but for the mark of a lazy repetition, the reader takes `cs` for the
patterns `rs`, if it may open as many more groups as `levels`. -/
def Reads (levels : Nat) (cs : List Char) (rs : List Regex) : Prop :=
  ∀ depth names rest done items, levels ≤ depth → rest.head? ≠ some '?' →
    ∀ fuel, 2 * (cs ++ rest).length < fuel →
      ∃ fuel', 2 * rest.length < fuel' ∧
        readAlternatives fuel depth ⟨{}, names, cs ++ rest⟩ done items =
          readAlternatives fuel' depth ⟨{}, names, rest⟩ done ((rs.map some).reverse ++ items)

namespace Reads

variable {n : Nat} {cs ds : List Char} {r : Regex} {rs ss : List Regex}

theorem nil : Reads n [] [] := by
  intro depth names rest done items _ _ fuel enough
  exact ⟨fuel, enough, rfl⟩

theorem mono {m : Nat} (h : Reads m cs rs) (le : m ≤ n) : Reads n cs rs := by
  intro depth names rest done items deep
  exact h depth names rest done items (Nat.le_trans le deep)

/-- A lazy mark needs something in front of it that it belongs to. -/
theorem head_ne (h : Reads n cs rs) : cs.head? ≠ some '?' := by
  intro lazy
  obtain ⟨ds, rfl⟩ := List.head?_eq_some_iff.mp lazy
  obtain ⟨fuel, enough, reads⟩ :=
    h n [] [] [] [] le_rfl nofun (2 * ('?' :: ds).length + 1) (by rw [List.append_nil]; omega)
  obtain ⟨fuel, rfl⟩ := Nat.exists_eq_add_of_le' (show 1 ≤ fuel from enough)
  rw [step_end] at reads
  cases reads

theorem append (first : Reads n cs rs) (second : Reads n ds ss) :
    Reads n (cs ++ ds) (rs ++ ss) := by
  intro depth names rest done items deep tail fuel enough
  rw [List.append_assoc] at enough ⊢
  have greedy := second.head_ne
  have between : (ds ++ rest).head? ≠ some '?' := by
    cases ds with
    | nil => exact tail
    | cons d ds => exact greedy
  obtain ⟨fuel', enough', left⟩ := first depth names _ done items deep between fuel enough
  obtain ⟨fuel'', enough'', right⟩ := second depth names rest done _ deep tail fuel' enough'
  refine ⟨fuel'', enough'', left.trans (right.trans ?_)⟩
  rw [List.map_append, List.reverse_append, List.append_assoc]

/-- A closed text is read by evaluation; `slack` is fuel that no step needs. -/
theorem of_steps (steps slack : Nat) (few : steps + slack ≤ 2 * cs.length)
    (h : ∀ depth names rest done items fuel, dropLazy rest = rest →
      readAlternatives (fuel + (steps + slack)) (depth + n) ⟨{}, names, cs ++ rest⟩ done items =
        readAlternatives (fuel + slack) (depth + n) ⟨{}, names, rest⟩ done
          ((rs.map some).reverse ++ items)) : Reads n cs rs := by
  intro depth names rest done items deep tail fuel enough
  rw [List.length_append] at enough
  obtain ⟨depth, rfl⟩ := Nat.exists_eq_add_of_le' deep
  obtain ⟨fuel, rfl⟩ := Nat.exists_eq_add_of_le' (show steps + slack ≤ fuel by omega)
  exact ⟨fuel + slack, by omega, h depth names rest done items fuel (dropLazy_of_ne tail)⟩

theorem atom {c : Char} (ordinary : isOperator c = false)
    (h : ∀ rest, readAtom {} (c :: (cs ++ rest)) = some (r, rest)) : Reads n (c :: cs) [r] := by
  intro depth names rest done items _ _ fuel enough
  obtain ⟨fuel, rfl⟩ := Nat.exists_eq_add_of_lt enough
  refine ⟨_, ?_, step_atom ordinary (h rest)⟩
  simp only [List.length_append, List.length_cons]
  omega

theorem counted {least : Nat} {most : Option Nat} (h : Reads n cs [r])
    (bounds : ∀ rest, readBounds {} (ds ++ rest) = some (least, most, rest)) :
    Reads n (cs ++ '\x7b' :: ds) [.rep r least most] := by
  intro depth names rest done items deep tail fuel enough
  rw [List.append_assoc] at enough ⊢
  have between : ('\x7b' :: ds ++ rest).head? ≠ some '?' := by simp
  obtain ⟨fuel', enough', left⟩ := h depth names _ done items deep between fuel enough
  rw [List.cons_append, List.length_cons, List.length_append] at enough'
  obtain ⟨fuel', rfl⟩ := Nat.exists_eq_add_of_lt (Nat.zero_lt_of_lt enough')
  rw [Nat.zero_add] at left
  refine ⟨fuel', by omega, left.trans ?_⟩
  rw [List.cons_append, List.map_singleton, List.reverse_singleton, List.singleton_append,
    step_counted (bounds rest), dropLazy_of_ne tail]
  rfl

theorem group (h : Reads n cs rs) :
    Reads (n + 1) (['(', '?', ':'] ++ cs ++ [')']) [row rs] := by
  intro depth names rest done items deep tail fuel enough
  rw [List.append_assoc, List.append_assoc] at enough ⊢
  simp only [List.length_append, List.length_cons, List.length_nil] at enough
  obtain ⟨depth, rfl⟩ := Nat.exists_eq_add_of_le' (Nat.le_trans (Nat.le_add_left 1 n) deep)
  obtain ⟨fuel, rfl⟩ := Nat.exists_eq_add_of_le' (show 1 ≤ fuel by omega)
  have closing : (')' :: rest).head? ≠ some '?' := by simp
  obtain ⟨fuel', enough', inner⟩ :=
    h depth names (')' :: rest) [] [] (by omega) closing fuel (by
      simp only [List.length_append, List.length_cons]
      omega)
  obtain ⟨fuel', rfl⟩ := Nat.exists_eq_add_of_le' (show 1 ≤ fuel' by omega)
  rw [step_close, List.append_nil, concatenate_row] at inner
  exact ⟨fuel, by omega, step_group inner⟩

end Reads

/-- The text is read as a pattern that matches as `r` does. -/
def Spells (levels : Nat) (cs : List Char) (r : Regex) : Prop :=
  ∃ rs, Reads levels cs rs ∧ Alike (row rs) r

/-- The text is one item, to which a repetition after it applies. -/
def SpellsItem (levels : Nat) (cs : List Char) (r : Regex) : Prop :=
  ∃ i, Reads levels cs [i] ∧ Alike i r

section Spells

variable {n : Nat} {cs ds : List Char} {r s : Regex}

theorem SpellsItem.spells (h : SpellsItem n cs r) : Spells n cs r := by
  obtain ⟨i, reads, alike⟩ := h
  exact ⟨[i], reads, alike⟩

theorem SpellsItem.of_atom {c : Char} (ordinary : isOperator c = false)
    (h : ∀ rest, readAtom {} (c :: (cs ++ rest)) = some (s, rest))
    (same : s.canonical = r.canonical) : SpellsItem n (c :: cs) r :=
  ⟨s, .atom ordinary h, alike_of_canonical same⟩

theorem SpellsItem.counted {least : Nat} {most : Option Nat} (h : SpellsItem n cs r)
    (bounds : ∀ rest, readBounds {} (ds ++ rest) = some (least, most, rest)) :
    SpellsItem n (cs ++ '\x7b' :: ds) (.rep r least most) := by
  obtain ⟨i, reads, alike⟩ := h
  exact ⟨_, reads.counted bounds, alike.rep least most⟩

theorem Spells.group (h : Spells n cs r) :
    SpellsItem (n + 1) (['(', '?', ':'] ++ cs ++ [')']) r := by
  obtain ⟨rs, reads, alike⟩ := h
  exact ⟨row rs, reads.group, alike⟩

theorem Spells.append (first : Spells n cs r) (second : Spells n ds s) :
    Spells n (cs ++ ds) (r ++ s) := by
  obtain ⟨rs, readsFirst, alikeFirst⟩ := first
  obtain ⟨ss, readsSecond, alikeSecond⟩ := second
  exact ⟨rs ++ ss, readsFirst.append readsSecond,
    (alike_row_append rs ss).trans (alikeFirst.cat alikeSecond)⟩

theorem Spells.alike (h : Spells n cs r) (same : Alike r s) : Spells n cs s := by
  obtain ⟨rs, reads, alike⟩ := h
  exact ⟨rs, reads, alike.trans same⟩

theorem Spells.anchored (h : Spells n cs r) : Spells n ('^' :: cs ++ ['$']) (whole r) := by
  have start : Reads n ['^'] [.anchor .textStart] := .atom (by decide) fun _ => rfl
  have stop : Reads n ['$'] [.anchor .textEnd] := .atom (by decide) fun _ => rfl
  exact (Spells.append ⟨_, start, .refl _⟩ h).append ⟨_, stop, .refl _⟩

theorem Spells.mono {m : Nat} (h : Spells m cs r) (le : m ≤ n) : Spells n cs r := by
  obtain ⟨rs, reads, alike⟩ := h
  exact ⟨rs, reads.mono le, alike⟩

/-- The items in a row. -/
def factors : Regex → List Regex
  | .cat a b => a :: factors b
  | r => [r]

/-- The items that a closed text is read as. -/
def itemsOf (cs : List Char) : List Regex := factors ((parse? cs).getD .empty)

theorem Spells.of_steps (n steps slack : Nat) (few : steps + slack ≤ 2 * cs.length)
    (h : ∀ depth names rest done items fuel, dropLazy rest = rest →
      readAlternatives (fuel + (steps + slack)) (depth + n) ⟨{}, names, cs ++ rest⟩ done items =
        readAlternatives (fuel + slack) (depth + n) ⟨{}, names, rest⟩ done
          (((itemsOf cs).map some).reverse ++ items))
    (same : (row (itemsOf cs)).canonical = r.canonical) : Spells n cs r :=
  ⟨itemsOf cs, .of_steps steps slack few h, alike_of_canonical same⟩

/-! ### Whole texts -/

theorem Reads.parse {rs : List Regex} (h : Reads maxGroups cs rs) : parse? cs = some (row rs) := by
  obtain ⟨fuel, enough, reads⟩ := h maxGroups [] [] [] [] le_rfl nofun (2 * cs.length + 1) (by simp)
  obtain ⟨fuel, rfl⟩ := Nat.exists_eq_add_of_le' (show 1 ≤ fuel from enough)
  rw [List.append_nil] at reads
  rw [parse?, reads, List.append_nil, step_end, concatenate_row]
  rfl

theorem Reads.parse_or {rs ss : List Regex} (first : Reads maxGroups cs rs)
    (second : Reads maxGroups ds ss) :
    parse? (cs ++ '|' :: ds) = some (.alt (row rs) (row ss)) := by
  obtain ⟨fuel, enough, left⟩ := first maxGroups [] ('|' :: ds) [] [] le_rfl (by simp)
    (2 * (cs ++ '|' :: ds).length + 1) (Nat.lt_succ_self _)
  rw [List.length_cons] at enough
  obtain ⟨fuel, rfl⟩ := Nat.exists_eq_add_of_le' (show 1 ≤ fuel by omega)
  obtain ⟨fuel', enough', right⟩ := second maxGroups [] [] [concatenate (rs.map some).reverse] []
    le_rfl nofun fuel (by rw [List.append_nil]; omega)
  obtain ⟨fuel', rfl⟩ := Nat.exists_eq_add_of_le' (show 1 ≤ fuel' from enough')
  rw [List.append_nil] at right
  rw [parse?, left, step_or, List.append_nil, right, List.append_nil, step_end, concatenate_row,
    concatenate_row]
  rfl

theorem Spells.parse (h : Spells maxGroups cs r) : ∃ a, parse? cs = some a ∧ Alike a r := by
  obtain ⟨rs, reads, alike⟩ := h
  exact ⟨row rs, reads.parse, alike⟩

theorem Spells.parse_or (first : Spells maxGroups cs r) (second : Spells maxGroups ds s) :
    ∃ a, parse? (cs ++ '|' :: ds) = some a ∧ Alike a (r ||| s) := by
  obtain ⟨rs, readsFirst, alikeFirst⟩ := first
  obtain ⟨ss, readsSecond, alikeSecond⟩ := second
  exact ⟨_, readsFirst.parse_or readsSecond, alikeFirst.alt alikeSecond⟩

end Spells

/-! ### Characters -/

theorem readEscape_of_isMeta {c : Char} (special : isMeta c = true) (rest : List Char) :
    readEscape {} (c :: rest) = some (.char c, rest) := by
  have noClass : perlClass? true c = none := by
    have all : "\\.+*?()|[]\x7b\x7d^$#&-~".toList.all (perlClass? true · == none) = true := by
      decide
    exact beq_iff_eq.mp (List.all_eq_true.mp all c (List.contains_iff_mem.mp special))
  have escapable : isEscapable c = true := by rw [isEscapable, special, Bool.true_or]
  unfold readEscape
  dsimp only
  split
  all_goals first
    | exact absurd special (by decide)
    | skip
  simp only [noClass, escapable, if_true]

theorem readAtom_of_not_isMeta {c : Char} (ordinary : isMeta c = false) (rest : List Char) :
    readAtom {} (c :: rest) = some (char c, rest) := by
  unfold readAtom
  split
  · contradiction
  all_goals
    rename_i same
    obtain ⟨rfl, rfl⟩ := List.cons.inj same
    first
      | exact absurd ordinary (by decide)
      | rfl

theorem isOperator_of_not_isMeta {c : Char} (ordinary : isMeta c = false) :
    isOperator c = false := by
  by_contra operator
  rw [Bool.not_eq_false, isOperator, List.contains_iff_mem] at operator
  have all : [')', '|', '*', '+', '?', '\x7b', '('].all isMeta = true := by decide
  rw [List.all_eq_true.mp all c operator] at ordinary
  cases ordinary

/-- A character stands for itself where a backslash precedes it if it means something else. -/
theorem Spells.char (c : Char) : Spells 0 (if isMeta c then ['\\', c] else [c]) (.char c) := by
  split
  · rename_i special
    have reads : Reads 0 ['\\', c] [.char c] := .atom (by decide) fun rest => by
      change (readEscape {} (c :: rest) >>= _) = _
      rw [readEscape_of_isMeta special]
      rfl
    exact ⟨_, reads, .refl _⟩
  · rename_i ordinary
    rw [Bool.not_eq_true] at ordinary
    exact ⟨_, .atom (isOperator_of_not_isMeta ordinary) (readAtom_of_not_isMeta ordinary), .refl _⟩

/-! ### Counts -/

section Counts

open Number (digits)

theorem dropBlanks_cons {c : Char} (solid : Text.isBlank c = false) (cs : List Char) :
    dropBlanks (c :: cs) = c :: cs :=
  List.dropWhile_cons_of_neg (by rw [solid]; decide)

theorem readCount_digits {n : Nat} {c : Char} (small : n < Nat.pow 2 32) (stop : c.isDigit = false)
    (solid : Text.isBlank c = false) (rest : List Char) :
    readCount {} (digits n ++ c :: rest) = some (n, c :: rest) := by
  have digit : ∀ d ∈ digits n, d.isDigit = true :=
    fun d => Nat.isDigit_of_mem_toDigits (by decide) (by decide)
  have value : Nat.ofDigitChars 10 (digits n) 0 = n :=
    Nat.ofDigitChars_toDigits (by decide) (by decide)
  have filled : digits n ≠ [] := Nat.toDigits_ne_nil
  have front : dropBlanks (digits n ++ c :: rest) = digits n ++ c :: rest := by
    obtain ⟨d, ds, same⟩ := List.exists_cons_of_ne_nil filled
    rw [same] at digit ⊢
    exact dropBlanks_cons (Number.isBlank_of_isDigit (digit d List.mem_cons_self)) _
  have taken : (digits n ++ c :: rest).takeWhile Char.isDigit = digits n := by
    rw [List.takeWhile_append_of_pos digit, List.takeWhile_cons_of_neg (by rw [stop]; decide),
      List.append_nil]
  rw [readCount, front]
  simp only [taken, List.isEmpty_iff, filled, if_false, Number.readDigits_eq digit, value,
    List.drop_left, Flags.skip, Bool.false_eq_true, dropBlanks_cons solid]
  exact if_pos small

theorem readBounds_times {n : Nat} (small : n < Nat.pow 2 32) (rest : List Char) :
    readBounds {} (digits n ++ ['\x7d'] ++ rest) = some (n, some n, rest) := by
  rw [List.append_assoc, List.singleton_append, readBounds, Flags.skip, if_neg (by decide),
    readCount_digits small rfl rfl]
  rfl

theorem SpellsItem.times {levels n : Nat} {cs : List Char} {r : Regex}
    (h : SpellsItem levels cs r) (small : n < Nat.pow 2 32) :
    SpellsItem levels (cs ++ '\x7b' :: (digits n ++ ['\x7d'])) (.times n r) :=
  h.counted (readBounds_times small)

theorem readBounds_atLeast {n : Nat} (small : n < Nat.pow 2 32) (rest : List Char) :
    readBounds {} (digits n ++ [',', '\x7d'] ++ rest) = some (n, none, rest) := by
  rw [List.append_assoc, List.cons_append, readBounds, Flags.skip, if_neg (by decide),
    readCount_digits small rfl rfl]
  rfl

theorem readBounds_between {least most : Nat} (small : most < Nat.pow 2 32) (le : least ≤ most)
    (rest : List Char) :
    readBounds {} (digits least ++ ',' :: digits most ++ ['\x7d'] ++ rest) =
      some (least, some most, rest) := by
  obtain ⟨d, ds, first⟩ : ∃ d ds, digits most = d :: ds :=
    List.exists_cons_of_ne_nil Nat.toDigits_ne_nil
  have digit : d.isDigit = true :=
    Nat.isDigit_of_mem_toDigits (by decide) (by decide) (first ▸ List.mem_cons_self)
  have text : digits least ++ ',' :: digits most ++ ['\x7d'] ++ rest =
      digits least ++ ',' :: (digits most ++ '\x7d' :: rest) := by simp
  rw [text, readBounds, Flags.skip, if_neg (by decide),
    readCount_digits (Nat.lt_of_le_of_lt le small) rfl rfl, Option.bind_eq_bind, Option.bind_some]
  have counted : readCount {} (digits most ++ '\x7d' :: rest) = some (most, '\x7d' :: rest) :=
    readCount_digits small rfl rfl rest
  rw [first] at counted ⊢
  simp only [Flags.skip, Bool.false_eq_true, if_false]
  split
  · rename_i same
    obtain ⟨rfl, -⟩ := List.cons.inj same
    cases digit
  · rw [counted]
    exact if_neg (Nat.not_lt.mpr le)

end Counts

end TagSchema.Regex
