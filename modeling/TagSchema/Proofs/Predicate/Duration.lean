import TagSchema.Predicate.Iso
import TagSchema.Proofs.Pattern.Iso

/-!
# Durations

The pattern of durations lets every component be left out. The tests beside it refuse exactly the
texts that have no component, or none after `T`: `isoDuration_iff`.
-/

namespace TagSchema.Pattern

open Regex

variable {u : List Char}

/-! ### Components -/

def IsDigits (ds : List Char) : Prop := ds ≠ [] ∧ ∀ c ∈ ds, c.isDigit = true

/-- An amount of a unit of time. -/
structure Component where
  amount : List Char
  unit : Char

namespace Component

def text (c : Component) : List Char := c.amount ++ [c.unit]

/-- The amount is digits; one of seconds may have a fraction. -/
def IsWellFormed (c : Component) : Prop :=
  IsDigits c.amount ∨ c.unit = 'S' ∧ ∃ whole mark fraction, (mark = '.' ∨ mark = ',') ∧
    IsDigits whole ∧ IsDigits fraction ∧ c.amount = whole ++ mark :: fraction

end Component

/-- Components of the units, in their order and each at most once. -/
structure IsSelection (units : List Char) (cs : List Component) : Prop where
  ordered : (cs.map Component.unit).Sublist units
  wellFormed : ∀ c ∈ cs, c.IsWellFormed

def dateUnits : List Char := ['Y', 'M', 'D']
def timeUnits : List Char := ['H', 'M', 'S']

/-- Weeks alone, or components of a date and, after `T`, of a time, at least one of them. -/
inductive IsDuration : List Char → Prop
  | weeks {amount : List Char} : IsDigits amount → IsDuration ('P' :: amount ++ ['W'])
  | days {dates : List Component} : IsSelection dateUnits dates → dates ≠ [] →
      IsDuration ('P' :: dates.flatMap Component.text)
  | times {dates times : List Component} : IsSelection dateUnits dates →
      IsSelection timeUnits times → times ≠ [] →
      IsDuration ('P' :: dates.flatMap Component.text ++ 'T' :: times.flatMap Component.text)

/-! ### Selections -/

/-- The text of a selection. -/
def Selects (units : List Char) (u : List Char) : Prop :=
  ∃ cs, IsSelection units cs ∧ u = cs.flatMap Component.text

theorem selects_append {units units' : List Char} : Selects (units ++ units') u ↔
    ∃ s, Selects units s ∧ ∃ t, Selects units' t ∧ s ++ t = u := by
  constructor
  · rintro ⟨_, ⟨ordered, each⟩, rfl⟩
    obtain ⟨_, _, whole, front, back⟩ := List.sublist_append_iff.mp ordered
    obtain ⟨cs, ds, rfl, rfl, rfl⟩ := List.map_eq_append_iff.mp whole
    rw [List.forall_mem_append] at each
    exact ⟨_, ⟨cs, ⟨front, each.1⟩, rfl⟩, _, ⟨ds, ⟨back, each.2⟩, rfl⟩, List.flatMap_append.symm⟩
  · rintro ⟨_, ⟨cs, ⟨front, each⟩, rfl⟩, _, ⟨ds, ⟨back, each'⟩, rfl⟩, rfl⟩
    refine ⟨cs ++ ds, ⟨?_, List.forall_mem_append.mpr ⟨each, each'⟩⟩, List.flatMap_append.symm⟩
    rw [List.map_append]
    exact front.append back

/-- A pattern of one component, if it may be left out. -/
theorem mem_optional_component {r : Regex} {unit : Char} (once : ∀ s, s ∈ r.language ↔
    ∃ amount, Component.IsWellFormed ⟨amount, unit⟩ ∧ s = amount ++ [unit]) :
    u ∈ (optional r).language ↔ Selects [unit] u := by
  rw [mem_optional, once]
  constructor
  · rintro (rfl | ⟨amount, wellFormed, rfl⟩)
    · exact ⟨[], ⟨List.nil_sublist _, by simp⟩, rfl⟩
    · exact ⟨[⟨amount, unit⟩], ⟨List.Sublist.refl _, by simpa using wellFormed⟩,
        by simp [Component.text]⟩
  · rintro ⟨cs, ⟨ordered, each⟩, rfl⟩
    rcases List.sublist_singleton.mp ordered with none | one
    · rw [List.map_eq_nil_iff] at none
      exact .inl (by rw [none]; rfl)
    · obtain ⟨⟨amount, _⟩, rfl, rfl⟩ := List.map_eq_singleton_iff.mp one
      exact .inr ⟨amount, each _ List.mem_cons_self, by simp [Component.text]⟩

/-! ### The pattern -/

theorem mem_digitRun : u ∈ (plus digit).language ↔ IsDigits u := by
  rw [plus, digit, mem_rep_chars, IsDigits]
  simp only [has_digit, admits, ← List.length_pos_iff]
  refine and_congr_left fun _ => and_iff_left ?_
  intro most bounded
  cases bounded

theorem mem_component {unit : Char} (other : unit ≠ 'S') :
    u ∈ (component unit).language ↔ Selects [unit] u := by
  refine mem_optional_component fun s => ?_
  rw [mem_append_char]
  simp only [mem_digitRun, Component.IsWellFormed, other, false_and, or_false]

theorem mem_secondsAmount : u ∈ (plus digit ++ optional (pointOrComma ++ plus digit)).language ↔
    Component.IsWellFormed ⟨u, 'S'⟩ := by
  simp only [mem_append, mem_optional, pointOrComma, mem_chars, CharSet.has_oneOf, mem_digitRun,
    Component.IsWellFormed, true_and, List.mem_cons, List.not_mem_nil, or_false]
  constructor
  · rintro ⟨whole, digits, _, rfl | ⟨_, ⟨mark, rfl, isMark⟩, fraction, digits', rfl⟩, rfl⟩
    · exact .inl (by rwa [List.append_nil])
    · exact .inr ⟨whole, mark, fraction, isMark, digits, digits', rfl⟩
  · rintro (digits | ⟨whole, mark, fraction, isMark, digits, digits', rfl⟩)
    · exact ⟨u, digits, [], .inl rfl, List.append_nil u⟩
    · exact ⟨whole, digits, _, .inr ⟨_, ⟨mark, rfl, isMark⟩, fraction, digits', rfl⟩, rfl⟩

theorem mem_seconds :
    u ∈ (optional (plus digit ++ optional (pointOrComma ++ plus digit) ++ char 'S')).language ↔
      Selects ['S'] u := by
  refine mem_optional_component fun s => ?_
  rw [mem_append_char]
  simp only [mem_secondsAmount]

theorem mem_dateComponents :
    u ∈ (component 'Y' ++ component 'M' ++ component 'D').language ↔ Selects dateUnits u := by
  rw [show dateUnits = ['Y'] ++ ['M'] ++ ['D'] from rfl]
  simp only [mem_append, selects_append, mem_component (show 'Y' ≠ 'S' by decide),
    mem_component (show 'M' ≠ 'S' by decide), mem_component (show 'D' ≠ 'S' by decide)]

theorem mem_timePart : u ∈ (optional (char 'T' ++ component 'H' ++ component 'M' ++
    optional (plus digit ++ optional (pointOrComma ++ plus digit) ++ char 'S'))).language ↔
      u = [] ∨ ∃ s, Selects timeUnits s ∧ u = 'T' :: s := by
  rw [show timeUnits = ['H'] ++ (['M'] ++ ['S']) from rfl]
  have nested (a b c d : Regex) :
      (a ++ b ++ c ++ d).language = (a ++ (b ++ (c ++ d))).language := by
    change a.language * b.language * c.language * d.language = _
    rw [mul_assoc, mul_assoc]
    rfl
  rw [mem_optional, nested, mem_char_append]
  simp only [mem_append, selects_append, mem_component (show 'H' ≠ 'S' by decide),
    mem_component (show 'M' ≠ 'S' by decide), mem_seconds]

theorem isMatch_duration {s : String} : duration.isMatch s = true ↔
    (∃ amount, IsDigits amount ∧ s.toList = 'P' :: amount ++ ['W']) ∨
    ∃ dates, IsSelection dateUnits dates ∧ (s.toList = 'P' :: dates.flatMap Component.text ∨
      ∃ times, IsSelection timeUnits times ∧
        s.toList = 'P' :: dates.flatMap Component.text ++ 'T' :: times.flatMap Component.text) := by
  rw [duration, isMatch_whole rfl, mem_char_append]
  simp only [mem_or, mem_append_char, mem_digitRun, mem_append (b := optional _),
    mem_dateComponents, mem_timePart, Selects]
  constructor
  · rintro ⟨_, ⟨amount, digits, rfl⟩ |
      ⟨_, ⟨dates, selection, rfl⟩, _, rfl | ⟨_, ⟨times, selection', rfl⟩, rfl⟩, rfl⟩, same⟩
    · exact .inl ⟨amount, digits, same⟩
    · exact .inr ⟨dates, selection, .inl (by rwa [List.append_nil] at same)⟩
    · exact .inr ⟨dates, selection, .inr ⟨times, selection', same⟩⟩
  · rintro (⟨amount, digits, same⟩ | ⟨dates, selection, same | ⟨times, selection', same⟩⟩)
    · exact ⟨_, .inl ⟨amount, digits, rfl⟩, same⟩
    · exact ⟨_, .inr ⟨_, ⟨dates, selection, rfl⟩, [], .inl rfl, List.append_nil _⟩, same⟩
    · exact ⟨_, .inr ⟨_, ⟨dates, selection, rfl⟩, _, .inr ⟨_, ⟨times, selection', rfl⟩, rfl⟩, rfl⟩,
        same⟩

/-! ### Components at the end -/

/-- A text that ends in components ends in a unit of theirs. -/
theorem IsSelection.getLast? {units : List Char} {cs : List Component}
    (selection : IsSelection units cs) (present : cs ≠ []) (before : List Char) :
    ∃ unit ∈ units, (before ++ cs.flatMap Component.text).getLast? = some unit := by
  rcases cs.eq_nil_or_concat' with rfl | ⟨cs, c, rfl⟩
  · exact absurd rfl present
  · refine ⟨c.unit, selection.ordered.subset (List.mem_map_of_mem (by simp)), ?_⟩
    rw [List.flatMap_append, List.flatMap_singleton, Component.text, ← List.append_assoc,
      ← List.append_assoc, List.getLast?_concat]

theorem IsDuration.getLast? (h : IsDuration u) :
    ∃ unit ∈ 'W' :: dateUnits ++ timeUnits, u.getLast? = some unit := by
  cases h with
  | weeks digits => exact ⟨'W', by decide, List.getLast?_concat⟩
  | days selection present =>
    obtain ⟨unit, member, last⟩ := selection.getLast? present ['P']
    exact ⟨unit, List.mem_append_left _ (.tail _ member), last⟩
  | times selection selection' present =>
    obtain ⟨unit, member, last⟩ := selection'.getLast? present ('P' :: _ ++ ['T'])
    exact ⟨unit, List.mem_append_right _ member, by simpa using last⟩

end TagSchema.Pattern

namespace TagSchema.Predicate

open Pattern

theorem isoDuration_iff (s : String) : isoDuration (.string s) = true ↔ IsDuration s.toList := by
  have tests : isoDuration (.string s) = true ↔
      (s ≠ "P" ∧ s.toList.getLast? ≠ some 'T') ∧ duration.isMatch s = true := by
    change (s != "P" && s.toList.getLast? != some 'T' && duration.isMatch s) = true ↔ _
    rw [Bool.and_eq_true, Bool.and_eq_true, bne_iff_ne, bne_iff_ne]
  rw [tests, isMatch_duration, ← String.toList_inj.ne]
  generalize s.toList = u
  constructor
  · rintro ⟨⟨more, last⟩, ⟨amount, digits, rfl⟩ |
      ⟨dates, selection, rfl | ⟨times, selection', rfl⟩⟩⟩
    · exact .weeks digits
    · refine .days selection ?_
      rintro rfl
      exact more rfl
    · refine .times selection selection' ?_
      rintro rfl
      exact last List.getLast?_concat
  · intro h
    obtain ⟨unit, member, last⟩ := h.getLast?
    refine ⟨⟨?_, ?_⟩, ?_⟩
    · rintro rfl
      cases last
      exact absurd member (by decide)
    · rw [last]
      rintro ⟨⟩
      exact absurd member (by decide)
    · cases h with
      | weeks digits => exact .inl ⟨_, digits, rfl⟩
      | days selection _ => exact .inr ⟨_, selection, .inl rfl⟩
      | times selection selection' _ => exact .inr ⟨_, selection, .inr ⟨_, selection', rfl⟩⟩

end TagSchema.Predicate
