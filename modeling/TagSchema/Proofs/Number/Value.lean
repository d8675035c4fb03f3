import Mathlib.Algebra.Order.Field.Rat
import Mathlib.Tactic.Positivity
import TagSchema.Proofs.Number.Rounding

/-!
# The number that a double stands for

`value?_ofRatio_exact` and `value?_ofRatio_nearest` say of rational numbers what holds of units: a
quotient that is a double is read as it is, and no double is nearer to a quotient than the one it is
rounded to. `inDouble` is the integer that becomes of an integer in double width.
-/

namespace TagSchema.Number

theorem zpow_parts {b : ℚ} (b_ne : b ≠ 0) (k : Int) : b ^ k = b ^ k.toNat / b ^ (-k).toNat := by
  rw [← zpow_natCast_sub_natCast₀ b_ne]
  congr 1
  omega

namespace Decoded

/-- The number that a finite pattern stands for. -/
def value? : Decoded → Option ℚ
  | finite negative m e => some (signed negative m * 2 ^ e)
  | _ => none

theorem signed_mul (negative : Bool) (m n : Nat) :
    signed negative (m * n) = signed negative m * n := by
  cases negative <;> simp [signed]

theorem natAbs_signed (negative : Bool) (n : Nat) : (signed negative n).natAbs = n := by
  cases negative <;> simp [signed]

theorem signed_natAbs (z : Int) : signed (z < 0) z.natAbs = z := by
  by_cases negative : z < 0
  · simp only [signed, negative, decide_true, if_true]
    omega
  · simp only [signed, negative, decide_false, Bool.false_eq_true, if_false]
    omega

theorem ratio_eq (m : Nat) (e : Int) : ratio m e = (m * 2 ^ e.toNat, 2 ^ (-e).toNat) := by
  unfold ratio
  split
  · have whole : (-e).toNat = 0 := by omega
    rw [whole]
    rfl
  · have part : e.toNat = 0 := by omega
    rw [part, Nat.pow_zero, Nat.mul_one]
    rfl

theorem ratio_positive (m : Nat) (e : Int) : 0 < (ratio m e).2 := by
  rw [ratio_eq]
  exact Nat.two_pow_pos _

theorem value?_ratio (negative : Bool) (m : Nat) (e : Int) :
    (finite negative m e).value? =
      some ((signed negative (ratio m e).1 : ℚ) / (ratio m e).2) := by
  rw [value?, zpow_parts two_ne_zero, ratio_eq, signed_mul, ← mul_div_assoc]
  push_cast
  rfl

theorem value?_integer_iff {negative : Bool} {m : Nat} {e z : Int} :
    (finite negative m e).value? = some (z : ℚ) ↔
      signed negative (ratio m e).1 = z * (ratio m e).2 := by
  have positive : ((ratio m e).2 : ℚ) ≠ 0 := Nat.cast_ne_zero.mpr (ratio_positive m e).ne'
  rw [value?_ratio, Option.some.injEq, div_eq_iff positive]
  exact_mod_cast Iff.rfl

theorem ratio_of_integer {negative : Bool} {m : Nat} {e z : Int}
    (value : (finite negative m e).value? = some (z : ℚ)) :
    (ratio m e).1 = z.natAbs * (ratio m e).2 := by
  rw [value?_integer_iff] at value
  rw [← natAbs_signed negative (ratio m e).1, value, Int.natAbs_mul, Int.natAbs_natCast]

theorem whole?_eq_some_iff {d : Decoded} {z : Int} :
    d.whole? = some z ↔ d.value? = some (z : ℚ) := by
  cases d with
  | nan _ | infinite _ => exact iff_of_false nofun nofun
  | finite negative m e =>
    have positive := ratio_positive m e
    constructor
    · intro h
      simp only [whole?] at h
      split at h
      · rename_i divides
        rw [value?_integer_iff, ← Option.some.inj h, ← signed_mul,
          Nat.div_mul_cancel (Nat.dvd_of_mod_eq_zero divides)]
      · cases h
    · intro value
      have size := ratio_of_integer value
      rw [value?_integer_iff, size, signed_mul] at value
      simp only [whole?, size, Nat.mul_mod_left, if_true, Nat.mul_div_cancel _ positive]
      exact congrArg some (Int.eq_of_mul_eq_mul_right (by omega) value)

theorem compare_mul_right {a b : Int} {c : Nat} (positive : 0 < c) :
    compare (a * c) (b * c) = compare a b := by
  have scale : 0 < (c : Int) := Int.natCast_pos.mpr positive
  rcases Int.lt_trichotomy a b with below | rfl | above
  · rw [Int.compare_eq_lt.mpr below, Int.compare_eq_lt]
    exact Int.mul_lt_mul_of_pos_right below scale
  · rw [Int.compare_eq_eq.mpr rfl, Int.compare_eq_eq.mpr rfl]
  · rw [Int.compare_eq_gt.mpr above, Int.compare_eq_gt]
    exact Int.mul_lt_mul_of_pos_right above scale

/-- Doubles that are integers compare as integers. -/
theorem compare?_integer {a b : Decoded} {x y : Int} (first : a.value? = some (x : ℚ))
    (second : b.value? = some (y : ℚ)) : a.compare? b = some (compare x y) := by
  cases a with
  | nan _ | infinite _ => cases first
  | finite s m e =>
    cases b with
    | nan _ | infinite _ => cases second
    | finite t n f =>
      rw [value?_integer_iff] at first second
      simp only [compare?, compareRatio, first, second]
      rw [Int.mul_assoc, Int.mul_assoc, Int.mul_comm ((ratio n f).2 : Int), ← Int.natCast_mul,
        compare_mul_right (Nat.mul_pos (ratio_positive m e) (ratio_positive n f))]

/-! ### Distances -/

theorem abs_signed_sub (negative : Bool) (a b : Nat) :
    |signed negative a - signed negative b| = gap a b := by
  unfold gap
  rw [abs_eq_max_neg]
  cases negative <;> simp only [signed, Bool.false_eq_true, if_true, if_false] <;> omega

theorem gap_le_abs (s t : Bool) (a b : Nat) : (gap a b : Int) ≤ |signed s a - signed t b| := by
  unfold gap
  rw [abs_eq_max_neg]
  cases s <;> cases t <;> simp only [signed, Bool.false_eq_true, if_true, if_false] <;> omega

end Decoded

open Decoded (signed signed_mul signed_natAbs natAbs_signed abs_signed_sub gap_le_abs)

/-- A finite double is worth its units. -/
theorem Measures.value {x : Binary64} {s : Bool} {u : Nat} (h : Measures x s u) :
    x.decode.value? = some ((signed s u : ℚ) / (2 ^ 1074 : Nat)) := by
  obtain @⟨m, p, decoded, _⟩ := h
  have place : (p : Int) - 1074 = p - (1074 : Nat) := rfl
  rw [decoded, Decoded.value?, signed_mul, place, zpow_natCast_sub_natCast₀ two_ne_zero,
    Int.cast_mul, Int.cast_natCast, Nat.cast_pow, Nat.cast_pow, Nat.cast_ofNat, mul_div_assoc]

theorem isFinite_of_value {l : Layout} {x : Binary l} {q : ℚ} (h : x.decode.value? = some q) :
    x.isFinite = true := by
  unfold Binary.isFinite
  cases decoded : x.decode with
  | nan _ | infinite _ =>
    rw [decoded] at h
    cases h
  | finite _ _ _ => rfl

theorem exists_value_of_isFinite {l : Layout} {x : Binary l} (h : x.isFinite = true) :
    ∃ q, x.decode.value? = some q := by
  unfold Binary.isFinite at h
  split at h
  · rename_i decoded
    rw [decoded]
    exact ⟨_, rfl⟩
  · cases h

/-- The numbers of double width. -/
def IsDouble (q : ℚ) : Prop := ∃ x : Binary64, x.decode.value? = some q

theorem exists_measures_of_value {x : Binary64} {q : ℚ} (h : x.decode.value? = some q) :
    ∃ s u, Measures x s u ∧ q = (signed s u : ℚ) / (2 ^ 1074 : Nat) := by
  cases decoded : x.decode with
  | nan _ | infinite _ =>
    rw [decoded] at h
    cases h
  | finite s m e =>
    obtain ⟨p, _, measured⟩ := Binary.exists_measures decoded
    rw [measured.value] at h
    exact ⟨s, _, measured, (Option.some.inj h).symm⟩

theorem units_ne : (2 ^ 1074 : Nat) ≠ 0 := pow_ne_zero 1074 two_ne_zero

theorem signed_div_eq {a b c d : Nat} (negative : Bool) (b_ne : b ≠ 0) (d_ne : d ≠ 0)
    (same : a * d = c * b) : (signed negative a : ℚ) / b = signed negative c / d := by
  have cross : signed negative a * d = signed negative c * b := by
    rw [← signed_mul, ← signed_mul, same]
  rw [div_eq_div_iff (Nat.cast_ne_zero.mpr b_ne) (Nat.cast_ne_zero.mpr d_ne)]
  exact_mod_cast cross

theorem Measures.integer {x : Binary64} {s : Bool} {k : Nat} (h : Measures x s (k * 2 ^ 1074)) :
    x.decode.value? = some (signed s k : ℚ) := by
  have same : (signed s (k * 2 ^ 1074) : ℚ) / (2 ^ 1074 : Nat) = signed s k / (1 : Nat) :=
    signed_div_eq s units_ne one_ne_zero (Nat.mul_one _)
  rw [h.value, same, Nat.cast_one, div_one]

theorem cross_of_signed_div {a b c d : Nat} {s t : Bool} (b_ne : b ≠ 0) (d_ne : d ≠ 0)
    (same : (signed s a : ℚ) / b = signed t c / d) : a * d = c * b := by
  rw [div_eq_div_iff (Nat.cast_ne_zero.mpr b_ne) (Nat.cast_ne_zero.mpr d_ne)] at same
  have cross : signed s (a * d) = signed t (c * b) := by
    rw [signed_mul, signed_mul]
    exact_mod_cast same
  rw [← natAbs_signed s (a * d), cross, natAbs_signed]

/-- The distance of two quotients, in units of the product of their denominators. -/
theorem abs_signed_div_sub {b d : Nat} (s t : Bool) (a c : Nat) (b_ne : b ≠ 0) (d_ne : d ≠ 0) :
    |(signed s a : ℚ) / b - signed t c / d| =
      (|signed s (a * d) - signed t (c * b)| : Int) / (b * d : Nat) := by
  have b_ne := Nat.cast_ne_zero (R := ℚ).mpr b_ne
  have d_ne := Nat.cast_ne_zero (R := ℚ).mpr d_ne
  rw [div_sub_div _ _ b_ne d_ne, abs_div, signed_mul, signed_mul]
  push_cast
  rw [abs_of_nonneg (by positivity : (0 : ℚ) ≤ b * d), mul_comm (b : ℚ) (signed t c : ℚ)]

namespace Binary

variable {num den : Nat} {negative : Bool} {y : Binary64}

theorem value?_ofRatio_exact (den_ne : den ≠ 0)
    (same : y.decode.value? = some ((signed negative num : ℚ) / den)) :
    (ofRatio negative num den : Binary64).decode.value? =
      some ((signed negative num : ℚ) / den) := by
  obtain ⟨s, u, measured, value⟩ := exists_measures_of_value same
  have cross : num * 2 ^ 1074 = den * u := by
    rw [cross_of_signed_div den_ne units_ne value, Nat.mul_comm]
  obtain @⟨m, p, _, canonical⟩ := measured
  rw [(measures_ofRatio_exact negative den_ne canonical cross).value, Option.some.injEq]
  exact signed_div_eq negative units_ne den_ne (by rw [cross, Nat.mul_comm])

theorem sign_of_measures {s : Bool} {u : Nat} (den_ne : den ≠ 0)
    (rounded : Measures (ofRatio negative num den) s u) : s = negative := by
  by_cases num_zero : num = 0
  · have zero : Measures (ofRatio negative num den) negative 0 := by
      rw [num_zero]
      exact measures_zero negative
    exact (rounded.unique zero).1
  · obtain ⟨_, _, infinite | measured⟩ := ofRatio_cases negative num_zero den_ne
    · exact (not_measures_infinity (infinite.1 ▸ rounded)).elim
    · exact (rounded.unique measured).1

theorem value?_ofRatio_nearest {r p : ℚ} (den_ne : den ≠ 0)
    (rounded : (ofRatio negative num den : Binary64).decode.value? = some r)
    (other : y.decode.value? = some p) :
    |r - signed negative num / den| ≤ |p - signed negative num / den| := by
  obtain ⟨s, u, measured, rfl⟩ := exists_measures_of_value rounded
  obtain ⟨t, w, against, rfl⟩ := exists_measures_of_value other
  have nearest := ofRatio_nearest den_ne measured against
  obtain rfl := sign_of_measures den_ne measured
  rw [abs_signed_div_sub _ _ _ _ units_ne den_ne, abs_signed_div_sub _ _ _ _ units_ne den_ne]
  refine div_le_div_of_nonneg_right (Int.cast_le.mpr ?_) (Nat.cast_nonneg _)
  rw [abs_sub_comm, abs_sub_comm (signed t _), Nat.mul_comm u, Nat.mul_comm w]
  calc |signed s (num * 2 ^ 1074) - signed s (den * u)| = gap (num * 2 ^ 1074) (den * u) :=
        abs_signed_sub _ _ _
    _ ≤ gap (num * 2 ^ 1074) (den * w) := Int.ofNat_le.mpr nearest
    _ ≤ |signed s (num * 2 ^ 1074) - signed t (den * w)| := gap_le_abs _ _ _ _

theorem convert_eq {l m : Layout} {x : Binary l} {s : Bool} {n : Nat} {e : Int}
    (h : x.decode = .finite s n e) :
    (x.convert : Binary m) = ofRatio s (Decoded.ratio n e).1 (Decoded.ratio n e).2 := by
  unfold convert Decoded.ratio
  rw [h]
  dsimp only
  split <;> rfl

theorem mul_pow_eq (m : Nat) {a b c k p : Nat} (exponents : a + b = c + (k + p)) :
    m * 2 ^ a * 2 ^ b = 2 ^ c * (m * 2 ^ k * 2 ^ p) := by
  rw [Nat.mul_assoc, ← Nat.pow_add, exponents, Nat.pow_add, Nat.pow_add]
  ring

/-- The significands of single width are brought to 53 binary digits. -/
theorem canonical_of_single {m : Nat} {e : Int} (small : m < 2 ^ 24) (low : -149 ≤ e)
    (high : e ≤ 104) : ∃ n p, Canonical n p ∧
      (Decoded.ratio m e).1 * 2 ^ 1074 = (Decoded.ratio m e).2 * (n * 2 ^ p) := by
  by_cases zero : m = 0
  · refine ⟨0, 0, ⟨by decide, .inr rfl, by decide⟩, ?_⟩
    rw [zero, Decoded.ratio_eq, Nat.zero_mul, Nat.zero_mul, Nat.zero_mul, Nat.mul_zero]
  · have reached := Nat.log2_self_le zero
    have missed := Nat.lt_log2_self (n := m)
    have log : m.log2 < 24 := (Nat.log2_lt zero).mpr small
    obtain ⟨k, places⟩ : ∃ k, m.log2 + k = 52 := ⟨52 - m.log2, by omega⟩
    obtain ⟨p, place⟩ : ∃ p : Nat, (p : Int) = e - k + 1074 := ⟨(e - k + 1074).toNat, by omega⟩
    refine ⟨m * 2 ^ k, p, ⟨?_, .inl ?_, by omega⟩, ?_⟩
    · calc m * 2 ^ k < 2 ^ (m.log2 + 1) * 2 ^ k :=
            Nat.mul_lt_mul_of_pos_right missed (Nat.two_pow_pos k)
        _ = 2 ^ 53 := by rw [← Nat.pow_add, Nat.add_right_comm, places]
    · calc 2 ^ 52 = 2 ^ m.log2 * 2 ^ k := by rw [← Nat.pow_add, places]
        _ ≤ m * 2 ^ k := Nat.mul_le_mul_right _ reached
    · rw [Decoded.ratio_eq]
      exact mul_pow_eq m (by omega)

/-- Widening is exact. -/
theorem value?_convert {x : Binary32} {q : ℚ} (h : x.decode.value? = some q) :
    (x.convert : Binary64).decode.value? = some q := by
  cases decoded : x.decode with
  | nan _ | infinite _ =>
    rw [decoded] at h
    cases h
  | finite s m e =>
    obtain ⟨small, r, exponent, _, bound⟩ := decode_bounds decoded
    have low : Layout.single.minExponent = -149 := by decide
    have high : Layout.single.topField - 2 = 253 := rfl
    obtain ⟨n, p, canonical, same⟩ := canonical_of_single (e := e) small (by omega) (by omega)
    have den_ne := (Decoded.ratio_positive m e).ne'
    rw [convert_eq decoded, (measures_ofRatio_exact s den_ne canonical same).value, ← h, decoded,
      Decoded.value?_ratio, Option.some.injEq]
    exact signed_div_eq s units_ne den_ne (by rw [same, Nat.mul_comm])

/-! ### Integers -/

theorem exponent_le_of_pow_le {n j k c : Nat} (reached : 2 ^ j ≤ n * 2 ^ c) (bound : n ≤ 2 ^ k) :
    j ≤ k + c := by
  have below : 2 ^ j ≤ 2 ^ (k + c) := by
    rw [Nat.pow_add]
    exact Nat.le_trans reached (Nat.mul_le_mul_right _ bound)
  exact (Nat.pow_le_pow_iff_right (by decide)).mp below

/-- An integer has no digits after its point, wherever it is rounded. -/
theorem roundQuotient_whole (n c p : Nat) :
    ∃ k, roundQuotient (n * 2 ^ c) (2 ^ p) * 2 ^ p = k * 2 ^ c := by
  by_cases large : c ≤ p
  · obtain ⟨r, rfl⟩ := Nat.exists_eq_add_of_le' large
    exact ⟨_, by rw [Nat.pow_add, Nat.mul_assoc]⟩
  · obtain ⟨r, rfl⟩ := Nat.exists_eq_add_of_le (Nat.le_of_not_le large)
    have divided : n * 2 ^ (p + r) = 2 ^ p * (n * 2 ^ r) := by
      rw [Nat.pow_add, Nat.mul_left_comm]
    exact ⟨n, by rw [divided, roundQuotient_exact (Nat.two_pow_pos p), Nat.mul_comm]⟩

/-- An integer of 128 bits is an integer in double width. -/
theorem integer_of_ofInt {z : Int} (bound : z.natAbs ≤ 2 ^ 128) :
    ∃ k : Int, (ofInt z : Binary64).decode.value? = some (k : ℚ) := by
  by_cases num_zero : z.natAbs = 0
  · have measured : Measures (ofInt z) (z < 0) (0 * 2 ^ 1074) := by
      rw [ofInt, num_zero, Nat.zero_mul]
      exact measures_zero _
    exact ⟨_, measured.integer⟩
  · obtain ⟨p, last, rounded⟩ := ofRatio_cases (z < 0) num_zero Nat.one_ne_zero
    have ⟨carry, _⟩ := roundQuotient_bounds Nat.one_pos last
    have place : p ≤ 1150 := by
      rcases last.below with lowest | reached
      · omega
      · rw [Nat.one_mul] at reached
        have exponents := exponent_le_of_pow_le reached bound
        omega
    have measured := rounded.resolve_left (by omega)
    obtain ⟨k, whole⟩ := roundQuotient_whole z.natAbs 1074 p
    rw [Nat.one_mul, whole] at measured
    exact ⟨_, measured.integer⟩

end Binary

/-- The integer that becomes of an integer in double width. -/
def inDouble (z : Int) : Int := ((Binary.ofInt z : Binary64).decode.whole?).getD z

variable {a b z : Int}

theorem value?_inDouble (bound : z.natAbs ≤ 2 ^ 128) :
    (Binary.ofInt z : Binary64).decode.value? = some (inDouble z : ℚ) := by
  obtain ⟨k, value⟩ := Binary.integer_of_ofInt bound
  have whole := Decoded.whole?_eq_some_iff.mpr value
  rw [value, inDouble, whole, Option.getD_some]

/-- Of two doubles that are integers neither is nearer than the one an integer is rounded to. -/
theorem inDouble_nearest (first : a.natAbs ≤ 2 ^ 128) (second : b.natAbs ≤ 2 ^ 128) :
    |inDouble a - a| ≤ |inDouble b - a| := by
  have nearest := Binary.value?_ofRatio_nearest one_ne_zero (value?_inDouble first)
    (value?_inDouble second)
  rw [signed_natAbs, Nat.cast_one, div_one] at nearest
  exact_mod_cast nearest

/-- Rounding keeps the order of integers. -/
theorem inDouble_mono (first : a.natAbs ≤ 2 ^ 128) (second : b.natAbs ≤ 2 ^ 128) (le : a ≤ b) :
    inDouble a ≤ inDouble b := by
  have ofFirst := inDouble_nearest first second
  have ofSecond := inDouble_nearest second first
  by_contra descends
  have same : a = b := by
    rw [abs_eq_max_neg, abs_eq_max_neg] at ofFirst ofSecond
    omega
  rw [same] at descends
  exact descends (Int.le_refl _)

end TagSchema.Number
