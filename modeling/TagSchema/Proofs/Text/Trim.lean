import Mathlib.Data.List.TakeWhile
import TagSchema.Text.Trim

/-!
# Text without surrounding blanks

Trimming leaves exactly the text that neither begins nor ends with a blank.
-/

namespace TagSchema.Text

/-- The code points of blanks. -/
def blankCodes : List Nat :=
  List.range' 9 5 ++ List.range' 0x2000 11 ++
    [32, 0x85, 0xA0, 0x1680, 0x2028, 0x2029, 0x202F, 0x205F, 0x3000]

theorem mem_blankCodes {c : Char} (h : isBlank c = true) : c.toNat ∈ blankCodes := by
  simp only [isBlank, Bool.or_eq_true, Bool.and_eq_true, decide_eq_true_eq, beq_iff_eq,
    Char.le_def, UInt32.le_iff_toNat_le, ← Char.toNat_inj] at h
  simp only [blankCodes, List.mem_append, List.mem_range'_1, List.mem_cons, List.not_mem_nil]
  simp at h
  omega

theorem code_of_isBlank {c : Char} (h : isBlank c = true) :
    c.toNat = 32 ∨ 9 ≤ c.toNat ∧ c.toNat ≤ 13 ∨ 0x85 ≤ c.toNat := by
  have early : ∀ n ∈ blankCodes, n = 32 ∨ 9 ≤ n ∧ n ≤ 13 ∨ 0x85 ≤ n := by decide
  exact early _ (mem_blankCodes h)

/-- Neither the first nor the last character is a blank. -/
def Bare (cs : List Char) : Prop :=
  (∀ c ∈ cs.head?, isBlank c = false) ∧ ∀ c ∈ cs.getLast?, isBlank c = false

theorem trimStart_of_head {cs : List Char} (h : ∀ c ∈ cs.head?, isBlank c = false) :
    trimStart cs = cs := by
  cases cs with
  | nil => rfl
  | cons c cs => simp [trimStart, h c rfl]

theorem trimEnd_of_last {cs : List Char} (h : ∀ c ∈ cs.getLast?, isBlank c = false) :
    trimEnd cs = cs := by
  have reversed : trimStart cs.reverse = cs.reverse := trimStart_of_head (by simpa using h)
  simp only [trimStart] at reversed
  simp [trimEnd, reversed]

theorem trimChars_of_bare {cs : List Char} (h : Bare cs) : trimChars cs = cs := by
  rw [trimChars, trimStart_of_head h.1, trimEnd_of_last h.2]

theorem bare_of_no_blank {cs : List Char} (h : ∀ c ∈ cs, isBlank c = false) : Bare cs :=
  ⟨fun c hc => h c (List.mem_of_mem_head? hc), fun c hc => h c (List.mem_of_getLast? hc)⟩

theorem trimEnd_prefix (cs : List Char) : trimEnd cs <+: cs := by
  have suffixed : cs.reverse.dropWhile isBlank <:+ cs.reverse := List.dropWhile_suffix _
  rw [← List.reverse_suffix]
  simpa [trimEnd] using suffixed

theorem head_trimStart (cs : List Char) : ∀ c ∈ (trimStart cs).head?, isBlank c = false := by
  intro c hc
  have := List.head?_dropWhile_not isBlank cs
  simp only [trimStart] at hc
  rw [hc] at this
  simpa using this

theorem last_trimEnd (cs : List Char) : ∀ c ∈ (trimEnd cs).getLast?, isBlank c = false := by
  intro c hc
  rw [trimEnd, List.getLast?_reverse] at hc
  exact head_trimStart cs.reverse c hc

theorem head_trimChars (cs : List Char) : ∀ c ∈ (trimChars cs).head?, isBlank c = false := by
  intro c hc
  refine head_trimStart cs c ?_
  obtain ⟨rest, whole⟩ : trimChars cs <+: trimStart cs := trimEnd_prefix _
  cases found : trimChars cs with
  | nil => simp [found] at hc
  | cons d ds =>
    rw [found] at hc whole
    simpa [← whole] using hc

theorem trimChars_bare (cs : List Char) : Bare (trimChars cs) :=
  ⟨head_trimChars cs, last_trimEnd (trimStart cs)⟩

theorem allBlank_eq_false_iff {cs : List Char} :
    allBlank cs = false ↔ ∃ c ∈ cs, isBlank c = false := by
  simp [allBlank]

theorem trimEnd_append_of_ne_nil {cs : List Char} (ds : List Char) (h : trimEnd cs ≠ []) :
    trimEnd (ds ++ cs) = ds ++ trimEnd cs := by
  have kept : (cs.reverse.dropWhile isBlank).isEmpty = false := by
    simpa [trimEnd] using h
  simp [trimEnd, List.dropWhile_append, kept]

theorem trimEnd_append_cons {c : Char} (solid : isBlank c = false) (ds cs : List Char) :
    trimEnd (ds ++ c :: cs) = ds ++ c :: trimEnd cs := by
  have last : trimEnd (c :: cs) = c :: trimEnd cs := by
    rw [trimEnd, List.reverse_cons, List.dropWhile_append, trimEnd]
    split
    · rename_i empty
      rw [List.isEmpty_iff.mp empty]
      simp [solid]
    · simp
  rw [trimEnd_append_of_ne_nil ds (by rw [last]; exact List.cons_ne_nil _ _), last]

theorem trimStart_prefix {cs ds : List Char} (h : cs <+: ds) : trimStart cs <+: trimStart ds := by
  obtain ⟨rest, rfl⟩ := h
  rw [trimStart, trimStart, List.dropWhile_append]
  split
  · rename_i empty
    rw [List.isEmpty_iff.mp empty]
    exact List.nil_prefix
  · exact List.prefix_append _ _

theorem trimStart_append_of_ne_nil {cs : List Char} (ds : List Char) (h : trimStart cs ≠ []) :
    trimStart (cs ++ ds) = trimStart cs ++ ds := by
  have kept : (cs.dropWhile isBlank).isEmpty = false := by
    rw [Bool.eq_false_iff, Ne, List.isEmpty_iff]
    exact h
  rw [trimStart, List.dropWhile_append, kept]
  rfl

theorem trimStart_of_allBlank {cs : List Char} (h : allBlank cs = true) : trimStart cs = [] :=
  List.dropWhile_eq_nil_iff.mpr (List.all_eq_true.mp h)

theorem trimChars_eq_nil_iff {cs : List Char} : trimChars cs = [] ↔ allBlank cs = true := by
  constructor
  · intro h
    have blank := List.dropWhile_eq_nil_iff.mp (List.reverse_eq_nil_iff.mp h)
    cases start : trimStart cs with
    | nil => exact List.all_eq_true.mpr (List.dropWhile_eq_nil_iff.mp start)
    | cons c rest =>
      have solid := head_trimStart cs c (by rw [start]; rfl)
      rw [blank c (by rw [start]; simp)] at solid
      cases solid
  · intro blank
    rw [trimChars, trimStart_of_allBlank blank]
    rfl

theorem trimChars_blank_append {bs : List Char} (cs : List Char) (h : allBlank bs = true) :
    trimChars (bs ++ cs) = trimChars cs := by
  rw [trimChars, trimStart_append_blank cs h, trimChars]

theorem trimChars_append_blank {bs : List Char} (cs : List Char) (h : allBlank bs = true) :
    trimChars (cs ++ bs) = trimChars cs := by
  cases blank : allBlank cs with
  | true =>
    rw [trimChars_blank_append bs blank, trimChars, trimStart_of_allBlank h, trimChars,
      trimStart_of_allBlank blank]
  | false =>
    have started : trimStart cs ≠ [] := by
      obtain ⟨c, member, solid⟩ := allBlank_eq_false_iff.mp blank
      intro empty
      rw [List.dropWhile_eq_nil_iff.mp empty c member] at solid
      cases solid
    rw [trimChars, trimStart_append_of_ne_nil bs started, trimEnd_append_blank _ h, trimChars]

/-- A space stays between two parts that are not blank. -/
theorem space_mem_trimChars {cs ds : List Char} (filled : trimChars cs ≠ [])
    (solid : allBlank ds = false) : ' ' ∈ trimChars (cs ++ ' ' :: ds) := by
  have started : trimStart cs ≠ [] := by
    intro empty
    rw [trimChars, empty] at filled
    exact filled rfl
  have kept : trimEnd ds ≠ [] := by
    obtain ⟨c, member, solid⟩ := allBlank_eq_false_iff.mp solid
    intro empty
    have all := List.dropWhile_eq_nil_iff.mp (List.reverse_eq_nil_iff.mp empty)
    rw [all c (List.mem_reverse.mpr member)] at solid
    cases solid
  rw [trimChars, trimStart_append_of_ne_nil _ started, List.append_cons,
    trimEnd_append_of_ne_nil _ kept]
  simp

/-- What trimming leaves of a text whose first part is not blank is that part or holds a space. -/
theorem trimChars_first {cs : List Char} (ds : List Char) (filled : trimChars cs ≠ [])
    (noSpace : ' ' ∉ trimChars (cs ++ ' ' :: ds)) : trimChars (cs ++ ' ' :: ds) = trimChars cs := by
  cases blank : allBlank ds with
  | true =>
    refine trimChars_append_blank cs ?_
    rw [allBlank, List.all_cons, Bool.and_eq_true]
    exact ⟨by decide, blank⟩
  | false => exact (noSpace (space_mem_trimChars filled blank)).elim

end TagSchema.Text
