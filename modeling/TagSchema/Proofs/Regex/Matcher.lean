import Mathlib.Logic.Function.Iterate
import TagSchema.Regex.Matcher

/-!
# What the matcher decides

On a text, a pattern leads from one position to another. The matcher takes a set of positions to all
that the pattern leads to from there, `follows_ends`, so it finds a match exactly where there is
one: `isMatch_iff_occurs`.
-/

namespace TagSchema.Regex

variable {a b r : Regex} {before u after cs : List Char} {i j k m n : Nat}

/-! ### What a match consists of -/

theorem spans_empty : Spans .empty before u after ↔ u = [] :=
  ⟨fun | .empty => rfl, fun h => h ▸ .empty⟩

theorem spans_set {s : CharSet} :
    Spans (.set s) before u after ↔ ∃ c, u = [c] ∧ s.has c = true :=
  ⟨fun | .set h => ⟨_, rfl, h⟩, fun ⟨_, same, h⟩ => same ▸ .set h⟩

theorem spans_anchor {anchor : Anchor} :
    Spans (.anchor anchor) before u after ↔
      u = [] ∧ anchor.holds before.getLast? after.head? = true :=
  ⟨fun | .anchor h => ⟨rfl, h⟩, fun ⟨same, h⟩ => same ▸ .anchor h⟩

theorem spans_cat : Spans (.cat a b) before u after ↔
    ∃ s t, u = s ++ t ∧ Spans a before s (t ++ after) ∧ Spans b (before ++ s) t after :=
  ⟨fun | .cat left right => ⟨_, _, rfl, left, right⟩,
    fun ⟨_, _, same, left, right⟩ => same ▸ .cat left right⟩

theorem spans_alt :
    Spans (.alt a b) before u after ↔ Spans a before u after ∨ Spans b before u after :=
  ⟨fun | .altLeft h => .inl h | .altRight h => .inr h,
    fun | .inl h => .altLeft h | .inr h => .altRight h⟩

theorem spans_rep {least : Nat} {most : Option Nat} : Spans (.rep a least most) before u after ↔
    ∃ n, admits least most n ∧ SpansTimes a n before u after :=
  ⟨fun | .rep count h => ⟨_, count, h⟩, fun ⟨_, count, h⟩ => .rep count h⟩

theorem spansTimes_zero : SpansTimes a 0 before u after ↔ u = [] :=
  ⟨fun | .zero => rfl, fun h => h ▸ .zero⟩

theorem spansTimes_succ : SpansTimes a (n + 1) before u after ↔
    ∃ s t, u = s ++ t ∧ Spans a before s (t ++ after) ∧ SpansTimes a n (before ++ s) t after :=
  ⟨fun | .succ first rest => ⟨_, _, rfl, first, rest⟩,
    fun ⟨_, _, same, first, rest⟩ => same ▸ .succ first rest⟩

/-! ### Positions -/

/-- A part of the text that stands there as `P` wants it leads from its start to its end. -/
def Between (P : List Char → List Char → List Char → Prop) (cs : List Char) (i j : Nat) : Prop :=
  ∃ before u after, cs = before ++ u ++ after ∧ i = before.length ∧ j = i + u.length ∧
    P before u after

def Leads (r : Regex) : List Char → Nat → Nat → Prop := Between (Spans r)

def LeadsTimes (r : Regex) (n : Nat) : List Char → Nat → Nat → Prop := Between (SpansTimes r n)

namespace Between

variable {P Q R : List Char → List Char → List Char → Prop}

theorem start_le (h : Between P cs i j) : i ≤ j := by
  obtain ⟨before, u, after, -, -, stop, -⟩ := h
  omega

theorem stop_le (h : Between P cs i j) : j ≤ cs.length := by
  obtain ⟨before, u, after, rfl, start, stop, -⟩ := h
  rw [List.length_append, List.length_append]
  omega

theorem of_nil (h : ∀ before u after, P before u after ↔ u = []) :
    Between P cs i j ↔ i = j ∧ i ≤ cs.length := by
  constructor
  · rintro ⟨before, u, after, rfl, rfl, rfl, here⟩
    rw [(h _ _ _).mp here]
    simp
  · rintro ⟨rfl, bound⟩
    exact ⟨cs.take i, [], cs.drop i, by simp, by simp [bound], rfl, (h _ _ _).mpr rfl⟩

theorem of_append (h : ∀ before u after, R before u after ↔
      ∃ s t, u = s ++ t ∧ P before s (t ++ after) ∧ Q (before ++ s) t after) :
    Between R cs i j ↔ ∃ k, Between P cs i k ∧ Between Q cs k j := by
  constructor
  · rintro ⟨before, u, after, rfl, rfl, rfl, here⟩
    obtain ⟨s, t, rfl, first, second⟩ := (h _ _ _).mp here
    exact ⟨before.length + s.length, ⟨before, s, t ++ after, by simp, rfl, rfl, first⟩,
      ⟨before ++ s, t, after, by simp, by simp, by simp [Nat.add_assoc], second⟩⟩
  · rintro ⟨k, ⟨before, s, rest, rfl, rfl, rfl, first⟩, ⟨front, t, after, same, start, rfl, second⟩⟩
    rw [List.append_assoc front] at same
    obtain ⟨rfl, rfl⟩ := List.append_inj same (by rw [List.length_append, start])
    exact ⟨before, s ++ t, after, by simp, rfl, by simp [Nat.add_assoc],
      (h _ _ _).mpr ⟨s, t, rfl, first, second⟩⟩

end Between

theorem leads_cat : Leads (.cat a b) cs i j ↔ ∃ k, Leads a cs i k ∧ Leads b cs k j :=
  Between.of_append fun _ _ _ => spans_cat

theorem leads_alt : Leads (.alt a b) cs i j ↔ Leads a cs i j ∨ Leads b cs i j := by
  simp only [Leads, Between, spans_alt, and_or_left, exists_or]

theorem leads_rep {least : Nat} {most : Option Nat} : Leads (.rep a least most) cs i j ↔
    ∃ n, admits least most n ∧ LeadsTimes a n cs i j := by
  simp only [Leads, LeadsTimes, Between, spans_rep]
  constructor
  · rintro ⟨before, u, after, whole, start, stop, n, count, here⟩
    exact ⟨n, count, before, u, after, whole, start, stop, here⟩
  · rintro ⟨n, count, before, u, after, whole, start, stop, here⟩
    exact ⟨before, u, after, whole, start, stop, n, count, here⟩

theorem leadsTimes_zero : LeadsTimes a 0 cs i j ↔ i = j ∧ i ≤ cs.length :=
  Between.of_nil fun _ _ _ => spansTimes_zero

theorem leadsTimes_succ :
    LeadsTimes a (n + 1) cs i j ↔ ∃ k, Leads a cs i k ∧ LeadsTimes a n cs k j :=
  Between.of_append fun _ _ _ => spansTimes_succ

theorem leadsTimes_add :
    LeadsTimes a (m + n) cs i j ↔ ∃ k, LeadsTimes a m cs i k ∧ LeadsTimes a n cs k j := by
  induction m generalizing i with
  | zero =>
    rw [Nat.zero_add]
    constructor
    · intro h
      exact ⟨i, leadsTimes_zero.mpr ⟨rfl, Nat.le_trans h.start_le h.stop_le⟩, h⟩
    · rintro ⟨k, here, h⟩
      rwa [(leadsTimes_zero.mp here).1]
  | succ m ih =>
    rw [Nat.succ_add, leadsTimes_succ]
    simp only [ih, leadsTimes_succ]
    constructor
    · rintro ⟨l, first, k, rest, last⟩
      exact ⟨k, ⟨l, first, rest⟩, last⟩
    · rintro ⟨k, ⟨l, first, rest⟩, last⟩
      exact ⟨l, first, k, rest, last⟩

/-- Rounds that match nothing can be left out. -/
theorem LeadsTimes.few (h : LeadsTimes a n cs i j) : ∃ m ≤ j - i, LeadsTimes a m cs i j := by
  induction n generalizing i with
  | zero => exact ⟨0, Nat.zero_le _, h⟩
  | succ n ih =>
    obtain ⟨k, first, rest⟩ := leadsTimes_succ.mp h
    obtain ⟨m, few, rest⟩ := ih rest
    rcases Nat.eq_or_lt_of_le first.start_le with rfl | further
    · exact ⟨m, few, rest⟩
    · have := rest.start_le
      exact ⟨m + 1, by omega, leadsTimes_succ.mpr ⟨k, first, rest⟩⟩

/-! ### Sets of positions -/

theorem testBit_bit {p : Bool} :
    (if p then 1 <<< i else 0).testBit j = true ↔ p = true ∧ i = j := by
  rw [Nat.one_shiftLeft]
  cases p
  · simp
  · simp [Nat.testBit_two_pow]

theorem testBit_positionsOf {p : Char → Bool} : (positionsOf p i cs).testBit j = true ↔
    ∃ before c after, cs = before ++ c :: after ∧ j = i + before.length ∧ p c = true := by
  induction cs generalizing i with
  | nil => simp [positionsOf]
  | cons d cs ih =>
    rw [positionsOf, Nat.testBit_or, Bool.or_eq_true, testBit_bit, ih]
    constructor
    · rintro (⟨holds, rfl⟩ | ⟨before, c, after, rfl, place, holds⟩)
      · exact ⟨[], d, cs, rfl, rfl, holds⟩
      · exact ⟨d :: before, c, after, rfl, by rw [place, List.length_cons]; omega, holds⟩
    · rintro ⟨before, c, after, whole, place, holds⟩
      rcases List.cons_eq_append_iff.mp whole with ⟨rfl, same⟩ | ⟨rest, rfl, same⟩
      · obtain ⟨rfl, -⟩ := List.cons.inj same
        exact .inl ⟨holds, place.symm⟩
      · exact .inr ⟨rest, c, after, same, by rw [place, List.length_cons]; omega, holds⟩

theorem testBit_anchorPositions {anchor : Anchor} {prev : Option Char} :
    (anchorPositions anchor prev i cs).testBit j = true ↔
      ∃ before after, cs = before ++ after ∧ j = i + before.length ∧
        anchor.holds (before.getLast?.or prev) after.head? = true := by
  induction cs generalizing i prev with
  | nil =>
    rw [anchorPositions, testBit_bit]
    constructor
    · rintro ⟨holds, rfl⟩
      exact ⟨[], [], rfl, rfl, holds⟩
    · rintro ⟨before, after, whole, place, holds⟩
      obtain ⟨rfl, rfl⟩ := List.append_eq_nil_iff.mp whole.symm
      exact ⟨holds, place.symm⟩
  | cons d cs ih =>
    rw [anchorPositions, Nat.testBit_or, Bool.or_eq_true, testBit_bit, ih]
    have last (before : List Char) :
        (d :: before).getLast?.or prev = before.getLast?.or (some d) := by
      rw [List.getLast?_cons]
      cases before.getLast? <;> rfl
    constructor
    · rintro (⟨holds, rfl⟩ | ⟨before, after, rfl, place, holds⟩)
      · exact ⟨[], d :: cs, rfl, rfl, holds⟩
      · exact ⟨d :: before, after, rfl, by rw [place, List.length_cons]; omega, by rwa [last]⟩
    · rintro ⟨before, after, whole, place, holds⟩
      rcases List.cons_eq_append_iff.mp whole with ⟨rfl, rfl⟩ | ⟨rest, rfl, same⟩
      · exact .inl ⟨holds, place.symm⟩
      · rw [last] at holds
        exact .inr ⟨rest, after, same, by rw [place, List.length_cons]; omega, holds⟩

theorem testBit_allPositions : (allPositions n).testBit i = true ↔ i ≤ n := by
  rw [allPositions, show Nat.pow 2 (n + 1) = 2 ^ (n + 1) from rfl, Nat.testBit_two_pow_sub_one,
    decide_eq_true_iff, Nat.lt_succ_iff]

/-! ### The matcher -/

def Inside (cs : List Char) (p : Nat) : Prop := ∀ i, p.testBit i = true → i ≤ cs.length

/-- `f` takes the positions in a set to those that `R` leads to. -/
def Follows (cs : List Char) (f : Nat → Nat) (R : Nat → Nat → Prop) : Prop :=
  ∀ p, Inside cs p → ∀ j, (f p).testBit j = true ↔ ∃ i, p.testBit i = true ∧ R i j

namespace Follows

variable {f g : Nat → Nat} {R S : Nat → Nat → Prop}

theorem comp (hf : Follows cs f R) (hg : Follows cs g S) (bound : ∀ i j, R i j → j ≤ cs.length) :
    Follows cs (fun p => g (f p)) fun i j => ∃ k, R i k ∧ S k j := by
  intro p inside j
  have inner : Inside cs (f p) := by
    intro k here
    obtain ⟨i, -, leads⟩ := (hf p inside k).mp here
    exact bound i k leads
  rw [hg (f p) inner]
  simp only [hf p inside]
  constructor
  · rintro ⟨k, ⟨i, start, first⟩, second⟩
    exact ⟨i, start, k, first, second⟩
  · rintro ⟨i, start, k, first, second⟩
    exact ⟨k, ⟨i, start, first⟩, second⟩

theorem iterate (step : Follows cs f (Leads a cs)) :
    Follows cs (f^[n]) (LeadsTimes a n cs) := by
  induction n with
  | zero =>
    intro p inside j
    simp only [leadsTimes_zero, Function.iterate_zero, id_eq]
    constructor
    · intro here
      exact ⟨j, here, rfl, inside j here⟩
    · rintro ⟨i, here, rfl, -⟩
      exact here
  | succ n ih =>
    intro p inside j
    have both := (step.comp ih fun _ _ h => h.stop_le) p inside j
    simpa only [leadsTimes_succ, Function.iterate_succ_apply] using both

theorem spread (step : Follows cs f (Leads a cs)) :
    Follows cs (Regex.spread f n) fun i j => ∃ m ≤ n, LeadsTimes a m cs i j := by
  induction n with
  | zero =>
    intro p inside j
    have none := step.iterate (n := 0) p inside j
    simpa [Regex.spread] using none
  | succ n ih =>
    intro p inside j
    have grown (k : Nat) : (p ||| f p).testBit k = true ↔
        p.testBit k = true ∨ ∃ i, p.testBit i = true ∧ Leads a cs i k := by
      rw [Nat.testBit_or, Bool.or_eq_true, step p inside]
    simp only [Regex.spread]
    split
    · rename_i closed
      rw [closed] at grown
      constructor
      · intro here
        exact ⟨j, here, 0, Nat.zero_le _, leadsTimes_zero.mpr ⟨rfl, inside j here⟩⟩
      · rintro ⟨i, start, m, -, leads⟩
        induction m generalizing i with
        | zero => rwa [← (leadsTimes_zero.mp leads).1]
        | succ m closure =>
          obtain ⟨k, first, rest⟩ := leadsTimes_succ.mp leads
          exact closure k ((grown k).mpr (.inr ⟨i, start, first⟩)) rest
    · have within : Inside cs (p ||| f p) := by
        intro k here
        rcases (grown k).mp here with here | ⟨i, -, leads⟩
        · exact inside k here
        · exact leads.stop_le
      rw [ih _ within]
      simp only [grown]
      constructor
      · rintro ⟨k, here | ⟨i, start, first⟩, m, few, rest⟩
        · exact ⟨k, here, m, Nat.le_succ_of_le few, rest⟩
        · exact ⟨i, start, m + 1, Nat.succ_le_succ few, leadsTimes_succ.mpr ⟨k, first, rest⟩⟩
      · rintro ⟨i, start, m, few, leads⟩
        cases m with
        | zero => exact ⟨i, .inl start, 0, Nat.zero_le _, leads⟩
        | succ m =>
          obtain ⟨k, first, rest⟩ := leadsTimes_succ.mp leads
          exact ⟨k, .inr ⟨i, start, first⟩, m, Nat.le_of_succ_le_succ few, rest⟩

end Follows

theorem iterate_eq (f : Nat → Nat) (n s : Nat) : iterate f n s = f^[n] s := by
  induction n generalizing s with
  | zero => rfl
  | succ n ih =>
    rw [iterate, Function.iterate_succ_apply]
    split
    · rename_i fixed
      rw [fixed, Function.iterate_fixed fixed]
    · exact ih _

/-- Repetitions between two numbers of rounds, `more` of which go beyond the least. -/
theorem follows_rep {f : Nat → Nat} {least more : Nat} (step : Follows cs f (Leads a cs)) :
    Follows cs (fun p => spread f more (iterate f least p)) fun i j =>
      ∃ m ≤ more, LeadsTimes a (least + m) cs i j := by
  have rounds := step.iterate (n := least).comp (step.spread (n := more)) fun _ _ h => h.stop_le
  intro p inside j
  simp only [iterate_eq, rounds p inside j, leadsTimes_add]
  constructor
  · rintro ⟨i, start, k, first, m, few, rest⟩
    exact ⟨i, start, m, few, k, first, rest⟩
  · rintro ⟨i, start, m, few, k, first, rest⟩
    exact ⟨i, start, k, first, m, few, rest⟩

theorem follows_ends (r : Regex) : Follows cs (onText cs r).ends (Leads r cs) := by
  induction r with
  | empty =>
    intro p inside j
    simp only [onText, Masked.ends, Nat.testBit_and, Bool.and_eq_true, testBit_allPositions,
      Leads, Between.of_nil fun _ _ _ => spans_empty]
    constructor
    · rintro ⟨here, bound⟩
      exact ⟨j, here, rfl, bound⟩
    · rintro ⟨i, here, rfl, bound⟩
      exact ⟨here, bound⟩
  | set s =>
    intro p inside j
    rw [onText, Masked.ends, Nat.testBit_shiftLeft]
    simp only [Nat.testBit_and, Bool.and_eq_true, decide_eq_true_eq, testBit_positionsOf,
      Nat.zero_add]
    constructor
    · rintro ⟨further, here, before, c, after, rfl, place, holds⟩
      exact ⟨j - 1, here, before, [c], after, by simp, place, by simp; omega,
        spans_set.mpr ⟨c, rfl, holds⟩⟩
    · rintro ⟨i, here, before, u, after, rfl, place, rfl, spans⟩
      obtain ⟨c, rfl, holds⟩ := spans_set.mp spans
      exact ⟨by simp, by simpa using here, before, c, after, by simp, by simpa using place, holds⟩
  | anchor anchor =>
    intro p inside j
    rw [onText, Masked.ends]
    simp only [Nat.testBit_and, Bool.and_eq_true, testBit_anchorPositions, Nat.zero_add,
      Option.or_none]
    constructor
    · rintro ⟨here, before, after, rfl, place, holds⟩
      exact ⟨j, here, before, [], after, by simp, place, rfl, spans_anchor.mpr ⟨rfl, holds⟩⟩
    · rintro ⟨i, here, before, u, after, rfl, place, rfl, spans⟩
      obtain ⟨rfl, holds⟩ := spans_anchor.mp spans
      exact ⟨here, before, after, by simp, place, holds⟩
  | cat a b first second =>
    intro p inside j
    simp only [leads_cat]
    exact (first.comp second fun _ _ h => h.stop_le) p inside j
  | alt a b left right =>
    intro p inside j
    rw [onText, Masked.ends, Nat.testBit_or, Bool.or_eq_true, left p inside, right p inside]
    simp only [leads_alt, and_or_left, exists_or]
  | rep a least most step =>
    intro p inside j
    simp only [leads_rep, admits]
    cases most with
    | none =>
      rw [onText, Masked.ends, follows_rep step p inside]
      constructor
      · rintro ⟨i, start, m, -, leads⟩
        exact ⟨i, start, least + m, ⟨Nat.le_add_right _ _, nofun⟩, leads⟩
      · rintro ⟨i, start, n, ⟨enough, -⟩, leads⟩
        obtain ⟨m, rfl⟩ := Nat.exists_eq_add_of_le enough
        obtain ⟨k, first, rest⟩ := leadsTimes_add.mp leads
        obtain ⟨m, few, rest⟩ := rest.few
        have := leads.stop_le
        exact ⟨i, start, m, by omega, leadsTimes_add.mpr ⟨k, first, rest⟩⟩
    | some most =>
      rw [onText]
      split
      · rename_i none
        rw [Masked.ends, Nat.and_zero, Nat.zero_testBit]
        simp only [Bool.false_eq_true, false_iff]
        rintro ⟨i, -, n, ⟨enough, atMost⟩, -⟩
        have := atMost most rfl
        omega
      · rw [Masked.ends, follows_rep step p inside]
        constructor
        · rintro ⟨i, start, m, few, leads⟩
          refine ⟨i, start, least + m, ⟨Nat.le_add_right _ _, ?_⟩, leads⟩
          rintro _ ⟨⟩
          omega
        · rintro ⟨i, start, n, ⟨enough, atMost⟩, leads⟩
          obtain ⟨m, rfl⟩ := Nat.exists_eq_add_of_le enough
          have := atMost most rfl
          exact ⟨i, start, m, by omega, leads⟩

/-- The matcher answers yes exactly if the pattern matches somewhere in the text. -/
theorem isMatch_iff_occurs (r : Regex) (s : String) : r.isMatch s = true ↔ r.Occurs s.toList := by
  have follows := follows_ends r (allPositions s.toList.length) fun _ => testBit_allPositions.mp
  have found : r.isMatch s = true ↔
      ∃ j, ((onText s.toList r).ends (allPositions s.toList.length)).testBit j = true := by
    rw [isMatch, bne_iff_ne]
    constructor
    · exact Nat.exists_testBit_of_ne_zero
    · rintro ⟨j, here⟩ none
      rw [none, Nat.zero_testBit] at here
      cases here
  rw [found]
  simp only [follows, testBit_allPositions]
  constructor
  · rintro ⟨j, i, -, before, u, after, whole, -, -, spans⟩
    exact ⟨before, u, after, whole, spans⟩
  · rintro ⟨before, u, after, whole, spans⟩
    refine ⟨_, before.length, ?_, before, u, after, whole, rfl, rfl, spans⟩
    simp [whole]

end TagSchema.Regex
