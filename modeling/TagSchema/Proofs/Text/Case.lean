import Mathlib.Data.List.Chain
import TagSchema.Text.Case

/-!
# Letters in lower case

The small forms of a letter are letters, but for those of the capital I with a dot:
`isAlphabetic_lowerChar`. The tables settle it run by run (`Run.isCovered`).
-/

namespace TagSchema.Text

/-! ### Runs among runs -/

namespace Run

theorem has_iff {r : Run} {n : Nat} :
    r.has n = true ↔ r.first ≤ n ∧ n ≤ r.last ∧ (n - r.first) % r.step = 0 := by
  simp only [has, Bool.and_eq_true, decide_eq_true_eq, beq_iff_eq, and_assoc]

/-- Whether a run holds another one. Whole tables are compared, for which `Nat.ble` is fast. -/
def covers (r s : Run) : Bool :=
  Nat.ble r.first s.first && Nat.ble s.last r.last && (s.first - r.first) % r.step == 0 &&
    (s.first == s.last || s.step % r.step == 0)

theorem has_of_covers {r s : Run} {n : Nat} (h : r.covers s = true) (member : s.has n = true) :
    r.has n = true := by
  simp only [covers, Bool.and_eq_true, Bool.or_eq_true, Nat.ble_eq, beq_iff_eq] at h
  obtain ⟨⟨⟨low, high⟩, start⟩, aligned⟩ := h
  obtain ⟨above, below, step⟩ := has_iff.mp member
  refine has_iff.mpr ⟨by omega, by omega, ?_⟩
  have apart : n - r.first = (n - s.first) + (s.first - r.first) := by omega
  have inside : r.step ∣ n - s.first := by
    rcases aligned with single | aligned
    · rw [show n - s.first = 0 by omega]
      exact Nat.dvd_zero _
    · exact Nat.dvd_trans (Nat.dvd_of_mod_eq_zero aligned) (Nat.dvd_of_mod_eq_zero step)
  rw [apart]
  exact Nat.mod_eq_zero_of_dvd (Nat.dvd_add inside (Nat.dvd_of_mod_eq_zero start))

/-- The run without its last code point. -/
def init (r : Run) : Run := { r with last := r.last - r.step }

theorem has_init {r : Run} {n : Nat} (aligned : (r.last - r.first) % r.step = 0)
    (h : r.has n = true) (other : n ≠ r.last) : r.init.has n = true := by
  obtain ⟨low, high, step⟩ := has_iff.mp h
  refine has_iff.mpr ⟨low, ?_, step⟩
  show n ≤ r.last - r.step
  have apart : r.last - r.first = (n - r.first) + (r.last - n) := by omega
  have whole : r.step ∣ r.last - n := by
    have both := Nat.dvd_of_mod_eq_zero aligned
    rw [apart] at both
    exact (Nat.dvd_add_right (Nat.dvd_of_mod_eq_zero step)).mp both
  have far := Nat.le_of_dvd (by omega) whole
  omega

/-- Whether one of the runs holds all of `s` but the last `n` code points, and some hold these. -/
def isCovered (rs : List Run) : Nat → Run → Bool
  | 0, s => rs.any (·.covers s)
  | n + 1, s => rs.any (·.covers s) ||
    ((s.last - s.first) % s.step == 0 && rs.any (·.has s.last) && isCovered rs n s.init)

theorem exists_has_of_isCovered {rs : List Run} {k n : Nat} {s : Run}
    (h : isCovered rs k s = true) (member : s.has n = true) : ∃ r ∈ rs, r.has n = true := by
  have single {s : Run} (h : rs.any (·.covers s) = true) (member : s.has n = true) :
      ∃ r ∈ rs, r.has n = true := by
    obtain ⟨r, listed, covered⟩ := List.any_eq_true.mp h
    exact ⟨r, listed, has_of_covers covered member⟩
  induction k generalizing s with
  | zero => exact single h member
  | succ k ih =>
    rw [isCovered, Bool.or_eq_true, Bool.and_eq_true, Bool.and_eq_true, beq_iff_eq] at h
    rcases h with h | ⟨⟨aligned, last⟩, before⟩
    · exact single h member
    · by_cases ends : n = s.last
      · subst ends
        exact List.any_eq_true.mp last
      · exact ih before (has_init aligned member ends)

theorem exists_has_of_contains {rs : List Run} {n : Nat} (h : contains rs n = true) :
    ∃ r ∈ rs, r.has n = true := by
  induction rs with
  | nil => cases h
  | cons r rs ih =>
    rw [contains] at h
    split at h
    · cases h
    · rcases Bool.or_eq_true_iff.mp h with h | h
      · exact ⟨r, List.mem_cons_self, h⟩
      · obtain ⟨s, member, listed⟩ := ih h
        exact ⟨s, List.mem_cons_of_mem _ member, listed⟩

theorem contains_of_has {rs : List Run} {r : Run} {n : Nat}
    (chain : rs.IsChain (·.first < ·.first)) (member : r ∈ rs) (h : r.has n = true) :
    contains rs n = true := by
  have ascending : Ascending rs :=
    (List.isChain_iff_pairwise (R := fun a b : Run => a.first < b.first)).mp chain
  rw [contains_eq_any ascending]
  exact List.any_eq_true.mpr ⟨r, member, h⟩

end Run

/-! ### Tables -/

/-- The runs of the letters that other letters are mapped to. -/
def smallLetters : List Run := lowercaseLetters ++ letterNumbers ++ otherAlphabetic

theorem isAlphabetic_of_smallLetters {c : Char} {r : Run} (member : r ∈ smallLetters)
    (h : r.has c.toNat = true) : isAlphabetic c = true := by
  have chains : lowercaseLetters.IsChain (·.first < ·.first) ∧
      letterNumbers.IsChain (·.first < ·.first) ∧ otherAlphabetic.IsChain (·.first < ·.first) := by
    decide +kernel
  have ascii : ∀ r ∈ smallLetters, r.first < 0x80 → 0x61 ≤ r.first ∧ r.last ≤ 0x7A := by
    decide +kernel
  rw [isAlphabetic]
  split
  · rename_i low
    have range := Run.has_iff.mp h
    have bounds := ascii r member (by omega)
    have lower : c.isLower = true := by
      show (decide ('a'.val ≤ c.val) && decide (c.val ≤ 'z'.val)) = true
      rw [Bool.and_eq_true, decide_eq_true_eq, decide_eq_true_eq, UInt32.le_iff_toNat_le,
        UInt32.le_iff_toNat_le]
      exact (show 97 ≤ c.toNat ∧ c.toNat ≤ 122 by omega)
    exact Bool.or_eq_true_iff.mpr (.inr lower)
  · rcases List.mem_append.mp member with member | member
    · rcases List.mem_append.mp member with member | member
      · have found : Category.ll.has c = true := Run.contains_of_has chains.1 member h
        simp [hasCategory, Category.letters, found]
      · have found : Category.nl.has c = true := Run.contains_of_has chains.2.1 member h
        rw [found, Bool.or_true, Bool.true_or]
    · rw [Run.contains_of_has chains.2.2 member h, Bool.or_true]

/-- Where a shift moves its run. -/
def Shift.target (s : Shift) : Run where
  first := ((s.run.first : Int) + s.distance).toNat
  last := ((s.run.last : Int) + s.distance).toNat
  step := s.run.step

/-- No code point is moved below zero or onto a surrogate. -/
def Shift.isSafe (s : Shift) : Bool :=
  0 ≤ (s.run.first : Int) + s.distance &&
    (s.target.last < 0xD800 || (0xDFFF < s.target.first && s.target.last < 0x110000))

theorem Shift.has_target {s : Shift} {c : Char} (safe : s.isSafe = true)
    (within : s.run.has c.toNat = true) :
    s.target.has (Char.ofNat ((c.toNat : Int) + s.distance).toNat).toNat = true := by
  simp only [isSafe, Bool.and_eq_true, Bool.or_eq_true, decide_eq_true_eq] at safe
  obtain ⟨positive, valid⟩ := safe
  obtain ⟨low, high, step⟩ := Run.has_iff.mp within
  have first : s.target.first ≤ ((c.toNat : Int) + s.distance).toNat :=
    Int.toNat_le_toNat (by omega)
  have last : ((c.toNat : Int) + s.distance).toNat ≤ s.target.last :=
    Int.toNat_le_toNat (by omega)
  have inside : ((c.toNat : Int) + s.distance).toNat.isValidChar := by
    unfold Nat.isValidChar
    omega
  have kept : (Char.ofNat ((c.toNat : Int) + s.distance).toNat).toNat =
      ((c.toNat : Int) + s.distance).toNat := by
    rw [Char.ofNat, dif_pos inside]
    rfl
  rw [kept]
  have apart : ((c.toNat : Int) + s.distance).toNat - ((s.run.first : Int) + s.distance).toNat =
      c.toNat - s.run.first := by omega
  exact Run.has_iff.mpr ⟨first, last, apart ▸ step⟩

/-- A character that is moved ends up in the target of a row. -/
theorem Shift.apply_cases {rows : List Shift} (safe : rows.all isSafe = true) (c : Char) :
    apply rows c = c ∨ ∃ s ∈ rows, s.target.has (apply rows c).toNat = true := by
  rw [apply]
  split
  · rename_i s found
    have member := List.mem_of_find?_eq_some found
    have within : s.run.has c.toNat = true := by simpa using List.find?_some found
    exact .inr ⟨s, member, has_target (List.all_eq_true.mp safe s member) within⟩
  · exact .inl rfl

/-- The mapping to lower case leads to small letters, and so do capitals that are no letters. -/
theorem lowerShifts_small : lowerShifts.all Shift.isSafe = true ∧
    (lowerShifts.all fun s => Run.isCovered smallLetters 2 s.target) = true ∧
    (otherUppercase.all fun r => Run.isCovered smallLetters 0 r) = true ∧
    ∀ n < 128, (Char.ofNat n).isAlpha = true →
      (Char.ofNat n).toLower.isAlpha = true ∧ (Char.ofNat n).toLower.toNat < 128 := by
  decide +kernel

/-! ### Letters -/

theorem isAlphabetic_of_isUppercase {c : Char} (h : isUppercase c = true) :
    isAlphabetic c = true := by
  unfold isUppercase at h
  split at h
  · rename_i ascii
    rw [isAlphabetic, if_pos ascii]
    exact Bool.or_eq_true_iff.mpr (.inl h)
  · rename_i wide
    rcases Bool.or_eq_true_iff.mp h with h | h
    · have letter : hasCategory Category.letters c = true := by
        simp [hasCategory, Category.letters, h]
      rw [isAlphabetic, if_neg wide, letter]
      rfl
    · obtain ⟨r, member, within⟩ := Run.exists_has_of_contains h
      obtain ⟨small, listed, found⟩ := Run.exists_has_of_isCovered
        (List.all_eq_true.mp lowerShifts_small.2.2.1 r member) within
      exact isAlphabetic_of_smallLetters listed found

theorem isAlphabetic_apply_lowerShifts {c : Char} (h : isAlphabetic c = true) :
    isAlphabetic (Shift.apply lowerShifts c) = true := by
  rcases Shift.apply_cases lowerShifts_small.1 c with same | ⟨s, member, moved⟩
  · rwa [same]
  · obtain ⟨small, listed, covered⟩ := Run.exists_has_of_isCovered
      (List.all_eq_true.mp lowerShifts_small.2.1 s member) moved
    exact isAlphabetic_of_smallLetters listed covered

theorem isAlphabetic_lowerChar {c d : Char} (letter : isAlphabetic c = true) (other : c ≠ '\u0130')
    (h : d ∈ lowerChar c) : isAlphabetic d = true := by
  unfold lowerChar at h
  split at h
  · rename_i ascii
    rw [List.mem_singleton.mp h]
    rw [isAlphabetic, if_pos ascii] at letter
    have small := lowerShifts_small.2.2.2 c.toNat ascii
    rw [Char.ofNat_toNat] at small
    have ⟨alpha, low⟩ := small letter
    rw [isAlphabetic, if_pos low, alpha]
  · rw [if_neg (by simpa using other)] at h
    rw [List.mem_singleton.mp h]
    exact isAlphabetic_apply_lowerShifts letter

end TagSchema.Text
