import Mathlib.Tactic.Ring
import Mathlib.Tactic.Linarith
import TagSchema.Number.Read

/-!
# Rounding to double width

A double is a whole number of units of `2 ^ (-1074)`, so that it is compared with a quotient
`num / den` by way of `num * 2 ^ 1074` and `den` times its units. `measures_ofRatio_exact`: a
quotient that is a double is read as it is. `ofRatio_nearest`: no double is nearer to a quotient
than the one it is rounded to.
-/

namespace TagSchema.Number

/-! ### Quotients of whole numbers -/

theorem roundQuotient_cases (num den : Nat) :
    (Binary.roundQuotient num den = num / den ∧ 2 * (num % den) ≤ den) ∨
      (Binary.roundQuotient num den = num / den + 1 ∧ den ≤ 2 * (num % den)) := by
  simp only [Binary.roundQuotient, Bool.or_eq_true, Bool.and_eq_true, decide_eq_true_eq, beq_iff_eq]
  split
  · exact .inr ⟨rfl, by omega⟩
  · exact .inl ⟨rfl, by omega⟩

theorem roundQuotient_scale (num den : Nat) {c : Nat} (positive : 0 < c) :
    Binary.roundQuotient (num * c) (den * c) = Binary.roundQuotient num den := by
  have past : den * c < 2 * (num % den * c) ↔ den < 2 * (num % den) := by
    rw [← Nat.mul_assoc, Nat.mul_lt_mul_right positive]
  have tie : den * c = 2 * (num % den * c) ↔ den = 2 * (num % den) := by
    rw [← Nat.mul_assoc, Nat.mul_right_cancel_iff positive]
  have same : (den * c == 2 * (num % den * c)) = (den == 2 * (num % den)) := by
    rw [Bool.eq_iff_iff, beq_iff_eq, beq_iff_eq, tie]
  simp only [Binary.roundQuotient, Nat.mul_div_mul_right _ _ positive, Nat.mul_mod_mul_right, past,
    same]

theorem roundQuotient_exact {den : Nat} (positive : 0 < den) (k : Nat) :
    Binary.roundQuotient (den * k) den = k := by
  rcases roundQuotient_cases (den * k) den with ⟨rounded, _⟩ | ⟨_, large⟩
  · rw [rounded, Nat.mul_div_cancel_left k positive]
  · rw [Nat.mul_mod_right] at large
    omega

theorem le_roundQuotient (num den : Nat) : num / den ≤ Binary.roundQuotient num den := by
  rcases roundQuotient_cases num den with ⟨rounded, _⟩ | ⟨rounded, _⟩ <;> omega

/-- The distance of two whole numbers. -/
def gap (a b : Nat) : Nat := a - b + (b - a)

theorem roundQuotient_nearest {num den : Nat} (positive : 0 < den) (k : Nat) :
    gap num (den * Binary.roundQuotient num den) ≤ gap num (den * k) := by
  have whole := Nat.div_add_mod num den
  have part := Nat.mod_lt num positive
  -- A multiple is at most the quotient times the divisor, or at least one divisor above it.
  have side : den * k ≤ den * (num / den) ∨ den * (num / den) + den ≤ den * k := by
    rcases Nat.lt_or_ge (num / den) k with above | below
    · exact .inr (Nat.mul_le_mul_left den above)
    · exact .inl (Nat.mul_le_mul_left den below)
  unfold gap
  rcases roundQuotient_cases num den with ⟨rounded, half⟩ | ⟨rounded, half⟩
  · rw [rounded]
    omega
  · rw [rounded, Nat.mul_add_one]
    omega

/-! ### The last place -/

theorem le_of_powLe {k : Int} {num den c j : Nat} (h : Binary.powLe k num den = true)
    (le : (j : Int) ≤ k + c) : den * 2 ^ j ≤ num * 2 ^ c := by
  unfold Binary.powLe at h
  split at h
  · rename_i positive
    have reached : den * 2 ^ k.toNat ≤ num := of_decide_eq_true h
    calc den * 2 ^ j ≤ den * 2 ^ (k.toNat + c) :=
          Nat.mul_le_mul_left _ (Nat.pow_le_pow_right (by decide) (by omega))
      _ = den * 2 ^ k.toNat * 2 ^ c := by rw [Nat.pow_add, Nat.mul_assoc]
      _ ≤ num * 2 ^ c := Nat.mul_le_mul_right _ reached
  · rename_i negative
    have reached : den ≤ num * 2 ^ (-k).toNat := of_decide_eq_true h
    calc den * 2 ^ j ≤ num * 2 ^ (-k).toNat * 2 ^ j := Nat.mul_le_mul_right _ reached
      _ = num * 2 ^ ((-k).toNat + j) := by rw [Nat.pow_add, Nat.mul_assoc]
      _ ≤ num * 2 ^ c := Nat.mul_le_mul_left _ (Nat.pow_le_pow_right (by decide) (by omega))

theorem lt_of_not_powLe {k : Int} {num den c j : Nat} (h : Binary.powLe k num den = false)
    (le : k + c ≤ j) : num * 2 ^ c < den * 2 ^ j := by
  unfold Binary.powLe at h
  split at h
  · rename_i positive
    have missed : num < den * 2 ^ k.toNat := Nat.lt_of_not_le (of_decide_eq_false h)
    calc num * 2 ^ c < den * 2 ^ k.toNat * 2 ^ c :=
          Nat.mul_lt_mul_of_pos_right missed (Nat.two_pow_pos c)
      _ = den * 2 ^ (k.toNat + c) := by rw [Nat.pow_add, Nat.mul_assoc]
      _ ≤ den * 2 ^ j := Nat.mul_le_mul_left _ (Nat.pow_le_pow_right (by decide) (by omega))
  · rename_i negative
    have missed : num * 2 ^ (-k).toNat < den := Nat.lt_of_not_le (of_decide_eq_false h)
    calc num * 2 ^ c ≤ num * 2 ^ ((-k).toNat + j) :=
          Nat.mul_le_mul_left _ (Nat.pow_le_pow_right (by decide) (by omega))
      _ = num * 2 ^ (-k).toNat * 2 ^ j := by rw [Nat.pow_add, Nat.mul_assoc]
      _ < den * 2 ^ j := Nat.mul_lt_mul_of_pos_right missed (Nat.two_pow_pos j)

theorem exponent_lt_of_mul_pow_lt {num den k c j : Nat} (reached : den * 2 ^ k ≤ num)
    (above : num * 2 ^ c < den * 2 ^ j) : k + c < j := by
  have below : den * 2 ^ (k + c) < den * 2 ^ j := by
    rw [Nat.pow_add, ← Nat.mul_assoc]
    exact Nat.lt_of_le_of_lt (Nat.mul_le_mul_right _ reached) above
  exact (Nat.pow_lt_pow_iff_right (by decide)).mp (Nat.lt_of_mul_lt_mul_left below)

theorem floorLog2_spec {num den : Nat} (num_ne : num ≠ 0) (den_ne : den ≠ 0) :
    Binary.powLe (Binary.floorLog2 num den) num den = true ∧
      Binary.powLe (Binary.floorLog2 num den + 1) num den = false := by
  have numLow := Nat.log2_self_le num_ne
  have numHigh := Nat.lt_log2_self (n := num)
  have denLow := Nat.log2_self_le den_ne
  have denHigh := Nat.lt_log2_self (n := den)
  have reached : Binary.powLe ((num.log2 : Int) - den.log2 - 1) num den = true := by
    by_contra missed
    have beyond := lt_of_not_powLe (c := den.log2 + 1) (j := num.log2)
      (Bool.eq_false_iff.mpr missed) (by omega)
    have within : den * 2 ^ num.log2 ≤ num * 2 ^ (den.log2 + 1) := by
      rw [Nat.mul_comm num]
      exact Nat.mul_le_mul (Nat.le_of_lt denHigh) numLow
    omega
  have missed : Binary.powLe ((num.log2 : Int) - den.log2 + 1) num den = false := by
    by_contra h
    have within := le_of_powLe (c := den.log2) (j := num.log2 + 1)
      (Bool.not_eq_false _ ▸ h) (by omega)
    have beyond : num * 2 ^ den.log2 < den * 2 ^ (num.log2 + 1) := by
      rw [Nat.mul_comm den]
      exact Nat.mul_lt_mul_of_lt_of_le numHigh denLow (Nat.pos_of_ne_zero den_ne)
    omega
  simp only [Binary.floorLog2]
  split
  · rename_i here
    exact ⟨here, missed⟩
  · rename_i here
    rw [Int.sub_add_cancel]
    exact ⟨reached, Bool.eq_false_iff.mpr here⟩

/-- From the place `p` up a quotient has 53 binary digits, or `p` is the lowest place. -/
structure LastPlace (num den p : Nat) : Prop where
  above : num * 2 ^ 1074 < den * 2 ^ (p + 53)
  below : p = 0 ∨ den * 2 ^ (p + 52) ≤ num * 2 ^ 1074

theorem LastPlace.unique {num den p r : Nat} (first : LastPlace num den p)
    (second : LastPlace num den r) : p = r := by
  have bounded {p r : Nat} (first : LastPlace num den p)
      (second : LastPlace num den r) : r ≤ p := by
    rcases second.below with lowest | reached
    · omega
    · have strict := Nat.lt_of_mul_lt_mul_left (Nat.lt_of_le_of_lt reached first.above)
      have exponents := (Nat.pow_lt_pow_iff_right (by decide)).mp strict
      omega
  exact Nat.le_antisymm (bounded second first) (bounded first second)

theorem lastPlace_floorLog2 {num den : Nat} (num_ne : num ≠ 0) (den_ne : den ≠ 0) :
    LastPlace num den (max (-1074) (Binary.floorLog2 num den - 52) + 1074).toNat := by
  have ⟨reached, missed⟩ := floorLog2_spec num_ne den_ne
  refine ⟨lt_of_not_powLe missed (by omega), ?_⟩
  by_cases lowest : Binary.floorLog2 num den - 52 ≤ -1074
  · exact .inl (by omega)
  · exact .inr (le_of_powLe reached (by omega))

namespace Binary

theorem minExponent_double : Layout.double.minExponent = -1074 := by decide

/-- A quotient is rounded at its last place, and carries into the exponent field as it may. -/
theorem ofRatio_eq {num den : Nat} (negative : Bool) (num_ne : num ≠ 0) (den_ne : den ≠ 0) :
    ∃ p, LastPlace num den p ∧ (ofRatio negative num den : Binary64) = ofBits negative
      (min (2047 * 2 ^ 52) (p * 2 ^ 52 + roundQuotient (num * 2 ^ 1074) (den * 2 ^ p))) := by
  refine ⟨_, lastPlace_floorLog2 num_ne den_ne, ?_⟩
  have bits : Layout.double.fractionBits = 52 := rfl
  have top : Layout.double.infinityBits = 2047 * 2 ^ 52 := rfl
  simp only [ofRatio, if_neg num_ne, minExponent_double, bits, top, Nat.pow_eq, Int.sub_neg]
  generalize exponent : max (-1074) (floorLog2 num den - 52) = e
  have low : -1074 ≤ e := by omega
  -- Numerator and denominator are scaled so that no exponent is negative.
  have scaled : (if 0 ≤ e then roundQuotient num (den * 2 ^ e.toNat)
      else roundQuotient (num * 2 ^ (-e).toNat) den) =
        roundQuotient (num * 2 ^ 1074) (den * 2 ^ (e + 1074).toNat) := by
    split
    · rename_i positive
      have exponents : (e + 1074).toNat = e.toNat + 1074 := by omega
      rw [exponents, Nat.pow_add, ← Nat.mul_assoc, roundQuotient_scale _ _ (Nat.two_pow_pos 1074)]
    · rename_i negative
      have exponents : 1074 = (-e).toNat + (e + 1074).toNat := by omega
      have numerator : num * 2 ^ 1074 = num * 2 ^ (-e).toNat * 2 ^ (e + 1074).toNat := by
        rw [Nat.mul_assoc, ← Nat.pow_add, ← exponents]
      rw [numerator, roundQuotient_scale _ _ (Nat.two_pow_pos _)]
  rw [scaled]

/-! ### Bits -/

theorem magnitude_ofBits {negative : Bool} {m : Nat} (h : m < 2 ^ 63) :
    (ofBits negative m : Binary64).magnitude = m := by
  cases negative <;> simp [magnitude, ofBits, Layout.signBit, Layout.double] <;> omega

theorem isNegative_ofBits {negative : Bool} {m : Nat} (h : m < 2 ^ 63) :
    (ofBits negative m : Binary64).isNegative = negative := by
  cases negative <;> simp [isNegative, ofBits, Layout.signBit, Layout.double] <;> omega

end Binary

/-- A significand and the place of its last bit, as a finite double has them. -/
structure Canonical (m p : Nat) : Prop where
  lt : m < 2 ^ 53
  normal : 2 ^ 52 ≤ m ∨ p = 0
  le : p ≤ 2045

/-- A finite double of `u` units. -/
inductive Measures (x : Binary64) (negative : Bool) : Nat → Prop
  | intro {m p : Nat} (decoded : x.decode = .finite negative m ((p : Int) - 1074))
      (canonical : Canonical m p) : Measures x negative (m * 2 ^ p)

namespace Binary

theorem measures_ofBits {negative : Bool} {p q : Nat} (normal : 2 ^ 52 ≤ q ∨ p = 0)
    (carry : q ≤ 2 ^ 53) (finite : p * 2 ^ 52 + q < 2047 * 2 ^ 52) :
    Measures (ofBits negative (p * 2 ^ 52 + q)) negative (q * 2 ^ p) := by
  have place : Nat.pow 2 Layout.double.fractionBits = 2 ^ 52 := rfl
  have top : Layout.double.topField = 2047 := rfl
  have small : p * 2 ^ 52 + q < 2 ^ 63 := by omega
  have magnitude : (ofBits negative (p * 2 ^ 52 + q) : Binary64).magnitude = p * 2 ^ 52 + q :=
    magnitude_ofBits small
  have sign : (ofBits negative (p * 2 ^ 52 + q) : Binary64).isNegative = negative :=
    isNegative_ofBits small
  have decoded : (ofBits negative (p * 2 ^ 52 + q) : Binary64).decode =
      if (p * 2 ^ 52 + q) / 2 ^ 52 = 0 then .finite negative ((p * 2 ^ 52 + q) % 2 ^ 52) (-1074)
      else .finite negative (2 ^ 52 + (p * 2 ^ 52 + q) % 2 ^ 52)
        (-1074 + (((p * 2 ^ 52 + q) / 2 ^ 52 - 1 : Nat) : Int)) := by
    rw [decode, magnitude, sign, place, top, minExponent_double, if_neg (by omega)]
  by_cases subnormal : q < 2 ^ 52
  · obtain rfl : p = 0 := by omega
    refine .intro ?_ ⟨by omega, .inr rfl, by omega⟩
    rw [decoded, if_pos (by omega)]
    congr 1
    omega
  · by_cases carried : q = 2 ^ 53
    · have units : q * 2 ^ p = 2 ^ 52 * 2 ^ (p + 1) := by
        rw [carried, ← Nat.pow_add, ← Nat.pow_add]
        congr 1
        omega
      rw [units]
      refine .intro ?_ ⟨by decide, .inl (by decide), by omega⟩
      rw [decoded, if_neg (by omega)]
      congr 1 <;> omega
    · refine .intro ?_ ⟨by omega, .inl (by omega), by omega⟩
      rw [decoded, if_neg (by omega)]
      congr 1 <;> omega

theorem decode_bounds {l : Layout} {x : Binary l} {negative : Bool} {m : Nat} {e : Int}
    (h : x.decode = .finite negative m e) :
    m < 2 ^ (l.fractionBits + 1) ∧ ∃ p : Nat, e = l.minExponent + p ∧
      (2 ^ l.fractionBits ≤ m ∨ p = 0) ∧ p ≤ l.topField - 2 := by
  have positive : 0 < 2 ^ l.fractionBits := Nat.two_pow_pos _
  have fraction : x.magnitude % 2 ^ l.fractionBits < 2 ^ l.fractionBits := Nat.mod_lt _ positive
  have field : x.magnitude / 2 ^ l.fractionBits < 2 ^ l.exponentBits := by
    rw [Nat.div_lt_iff_lt_mul positive, ← Nat.pow_add]
    exact Nat.mod_lt _ (Nat.two_pow_pos _)
  have top : l.topField = 2 ^ l.exponentBits - 1 := rfl
  rw [Nat.pow_succ]
  simp only [decode, Nat.pow_eq] at h
  split at h
  · split at h <;> cases h
  · split at h
    · cases h
      exact ⟨by omega, 0, by omega, .inr rfl, Nat.zero_le _⟩
    · cases h
      exact ⟨by omega, _, rfl, .inl (by omega), by omega⟩

theorem canonical_of_decode {x : Binary64} {negative : Bool} {m : Nat} {e : Int}
    (h : x.decode = .finite negative m e) : ∃ p : Nat, e = (p : Int) - 1074 ∧ Canonical m p := by
  obtain ⟨small, p, exponent, normal, bound⟩ := decode_bounds h
  have low := minExponent_double
  have place : e = (p : Int) - 1074 := by omega
  exact ⟨p, place, small, normal, bound⟩

theorem exists_measures {x : Binary64} {negative : Bool} {m : Nat} {e : Int}
    (h : x.decode = .finite negative m e) :
    ∃ p : Nat, e = (p : Int) - 1074 ∧ Measures x negative (m * 2 ^ p) := by
  obtain ⟨p, place, canonical⟩ := canonical_of_decode h
  exact ⟨p, place, .intro (place ▸ h) canonical⟩

/-! ### Quotients as doubles -/

theorem roundQuotient_bounds {num den p : Nat} (positive : 0 < den) (last : LastPlace num den p) :
    roundQuotient (num * 2 ^ 1074) (den * 2 ^ p) ≤ 2 ^ 53 ∧
      (2 ^ 52 ≤ roundQuotient (num * 2 ^ 1074) (den * 2 ^ p) ∨ p = 0) := by
  have divisor : 0 < den * 2 ^ p := Nat.mul_pos positive (Nat.two_pow_pos p)
  have small : num * 2 ^ 1074 / (den * 2 ^ p) < 2 ^ 53 := by
    rw [Nat.div_lt_iff_lt_mul divisor, Nat.mul_left_comm, ← Nat.pow_add, Nat.add_comm]
    exact last.above
  constructor
  · rcases roundQuotient_cases (num * 2 ^ 1074) (den * 2 ^ p) with ⟨rounded, _⟩ | ⟨rounded, _⟩ <;>
      omega
  · rcases last.below with lowest | reached
    · exact .inr lowest
    · refine .inl (Nat.le_trans ?_ (le_roundQuotient _ _))
      rw [Nat.le_div_iff_mul_le divisor, Nat.mul_left_comm, ← Nat.pow_add, Nat.add_comm]
      exact reached

theorem measures_zero (negative : Bool) : Measures (zero negative) negative 0 :=
  measures_ofBits (p := 0) (q := 0) (.inr rfl) (by decide) (by decide)

theorem ofRatio_cases {num den : Nat} (negative : Bool) (num_ne : num ≠ 0) (den_ne : den ≠ 0) :
    ∃ p, LastPlace num den p ∧
      ((ofRatio negative num den : Binary64) = infinity negative ∧
          2047 * 2 ^ 52 ≤ p * 2 ^ 52 + roundQuotient (num * 2 ^ 1074) (den * 2 ^ p) ∨
        Measures (ofRatio negative num den) negative
          (roundQuotient (num * 2 ^ 1074) (den * 2 ^ p) * 2 ^ p)) := by
  obtain ⟨p, last, bits⟩ := ofRatio_eq negative num_ne den_ne
  have ⟨carry, normal⟩ := roundQuotient_bounds (Nat.pos_of_ne_zero den_ne) last
  refine ⟨p, last, ?_⟩
  rw [bits]
  by_cases finite : p * 2 ^ 52 + roundQuotient (num * 2 ^ 1074) (den * 2 ^ p) < 2047 * 2 ^ 52
  · rw [Nat.min_eq_right (Nat.le_of_lt finite)]
    exact .inr (measures_ofBits normal carry finite)
  · rw [Nat.min_eq_left (Nat.le_of_not_lt finite)]
    exact .inl ⟨rfl, Nat.le_of_not_lt finite⟩

end Binary

theorem Measures.unique {x : Binary64} {s t : Bool} {u w : Nat} (first : Measures x s u)
    (second : Measures x t w) : s = t ∧ u = w := by
  obtain @⟨m, p, decoded, _⟩ := first
  obtain @⟨n, r, again, _⟩ := second
  rw [decoded] at again
  injection again with sign significand exponent
  have place : p = r := by omega
  exact ⟨sign, by rw [significand, place]⟩

namespace Binary

theorem not_measures_infinity {negative s : Bool} {u : Nat} :
    ¬ Measures (infinity negative) s u := by
  intro ⟨decoded, _⟩
  cases negative <;> cases decoded

theorem lastPlace_of_canonical {num den m p : Nat} (den_ne : den ≠ 0) (canonical : Canonical m p)
    (same : num * 2 ^ 1074 = den * (m * 2 ^ p)) : LastPlace num den p := by
  have grouped (k : Nat) : den * 2 ^ (p + k) = den * (2 ^ k * 2 ^ p) := by
    rw [Nat.pow_add, Nat.mul_comm (2 ^ p)]
  constructor
  · rw [same, grouped]
    exact Nat.mul_lt_mul_of_pos_left
      (Nat.mul_lt_mul_of_pos_right canonical.lt (Nat.two_pow_pos p)) (Nat.pos_of_ne_zero den_ne)
  · rcases canonical.normal with normal | lowest
    · rw [same, grouped]
      exact .inr (Nat.mul_le_mul_left _ (Nat.mul_le_mul_right _ normal))
    · exact .inl lowest

theorem measures_ofRatio_exact {num den m p : Nat} (negative : Bool) (den_ne : den ≠ 0)
    (canonical : Canonical m p) (same : num * 2 ^ 1074 = den * (m * 2 ^ p)) :
    Measures (ofRatio negative num den) negative (m * 2 ^ p) := by
  by_cases num_zero : num = 0
  · have none : m * 2 ^ p = 0 := by
      rw [num_zero, Nat.zero_mul] at same
      exact (Nat.mul_eq_zero.mp same.symm).resolve_left den_ne
    rw [none, num_zero]
    exact measures_zero negative
  · have last := lastPlace_of_canonical den_ne canonical same
    have exact' : roundQuotient (num * 2 ^ 1074) (den * 2 ^ p) = m := by
      have grouped : den * (m * 2 ^ p) = den * 2 ^ p * m := by
        rw [Nat.mul_comm m, Nat.mul_assoc]
      rw [same, grouped]
      exact roundQuotient_exact (Nat.mul_pos (Nat.pos_of_ne_zero den_ne) (Nat.two_pow_pos p)) m
    obtain ⟨r, place, rounded⟩ := ofRatio_cases negative num_zero den_ne
    obtain rfl := place.unique last
    rw [exact'] at rounded
    rcases rounded with ⟨_, large⟩ | measured
    · have small := canonical.lt
      have low := canonical.le
      omega
    · exact measured

theorem ofRatio_nearest {num den u w : Nat} {negative s t : Bool} {y : Binary64} (den_ne : den ≠ 0)
    (rounded : Measures (ofRatio negative num den) s u) (other : Measures y t w) :
    gap (num * 2 ^ 1074) (den * u) ≤ gap (num * 2 ^ 1074) (den * w) := by
  by_cases num_zero : num = 0
  · have zero : Measures (ofRatio negative num den) negative 0 := by
      rw [num_zero]
      exact measures_zero negative
    have ⟨_, nothing⟩ := rounded.unique zero
    rw [nothing, num_zero, Nat.zero_mul, Nat.mul_zero]
    exact Nat.zero_le _
  · obtain ⟨p, last, infinite | measured⟩ := ofRatio_cases negative num_zero den_ne
    · exact (not_measures_infinity (infinite.1 ▸ rounded)).elim
    · obtain ⟨_, rfl⟩ := rounded.unique measured
      have divisor : 0 < den * 2 ^ p := Nat.mul_pos (Nat.pos_of_ne_zero den_ne) (Nat.two_pow_pos p)
      have nearest (k : Nat) : gap (num * 2 ^ 1074)
          (den * 2 ^ p * roundQuotient (num * 2 ^ 1074) (den * 2 ^ p)) ≤
            gap (num * 2 ^ 1074) (den * 2 ^ p * k) := roundQuotient_nearest divisor k
      have grouped : den * (roundQuotient (num * 2 ^ 1074) (den * 2 ^ p) * 2 ^ p) =
          den * 2 ^ p * roundQuotient (num * 2 ^ 1074) (den * 2 ^ p) := by
        rw [Nat.mul_comm (roundQuotient _ _), Nat.mul_assoc]
      rw [grouped]
      obtain @⟨m, r, _, canonical⟩ := other
      by_cases aligned : p ≤ r
      · have multiple : den * (m * 2 ^ r) = den * 2 ^ p * (m * 2 ^ (r - p)) := by
          rw [← Nat.add_sub_cancel' aligned, Nat.pow_add, Nat.add_sub_cancel_left]
          ring
        rw [multiple]
        exact nearest _
      · -- A double below the last place is below every number with 53 digits from there on.
        have reached := last.below.resolve_left (by omega)
        have below : den * (m * 2 ^ r) ≤ den * 2 ^ (p + 52) := by
          refine Nat.mul_le_mul_left _ ?_
          calc m * 2 ^ r ≤ 2 ^ 53 * 2 ^ r := Nat.mul_le_mul_right _ (Nat.le_of_lt canonical.lt)
            _ = 2 ^ (53 + r) := by rw [← Nat.pow_add]
            _ ≤ 2 ^ (p + 52) := Nat.pow_le_pow_right (by decide) (by omega)
        have first := nearest (2 ^ 52)
        have lowest : den * 2 ^ p * 2 ^ 52 = den * 2 ^ (p + 52) := by
          rw [Nat.mul_assoc, ← Nat.pow_add]
        rw [lowest] at first
        unfold gap at first ⊢
        omega

/-- Rounding leaves a whole number from `2 ^ 127` on there, or makes it infinite. -/
theorem decode_ofRatio_large {negative : Bool} {n : Nat} (large : 2 ^ 127 ≤ n) :
    (∃ s, (ofRatio negative n 1 : Binary64).decode = .infinite s) ∨
      ∃ s m e, (ofRatio negative n 1 : Binary64).decode = .finite s m e ∧ 2 ^ 52 ≤ m ∧ 75 ≤ e := by
  have positive : n ≠ 0 := by omega
  obtain ⟨p, last, ⟨infinite, _⟩ | measured⟩ := ofRatio_cases negative positive Nat.one_ne_zero
  · rw [infinite]
    exact .inl ⟨negative, by cases negative <;> rfl⟩
  · have place := exponent_lt_of_mul_pow_lt (by rwa [Nat.one_mul]) last.above
    have digits := (roundQuotient_bounds Nat.one_pos last).2.resolve_right (by omega)
    generalize roundQuotient (n * 2 ^ 1074) (1 * 2 ^ p) = q at measured digits
    generalize units : q * 2 ^ p = u at measured
    obtain @⟨m, r, decoded, canonical⟩ := measured
    -- The significand is short, so that the place cannot be below that of the rounding.
    have aligned : p + 52 < r + 53 := by
      refine (Nat.pow_lt_pow_iff_right (by decide : 1 < 2)).mp ?_
      calc 2 ^ (p + 52) = 2 ^ 52 * 2 ^ p := by rw [Nat.pow_add, Nat.mul_comm]
        _ ≤ m * 2 ^ r := units ▸ Nat.mul_le_mul_right _ digits
        _ < 2 ^ 53 * 2 ^ r := Nat.mul_lt_mul_of_pos_right canonical.lt (Nat.two_pow_pos r)
        _ = 2 ^ (r + 53) := by rw [Nat.pow_add, Nat.mul_comm]
    exact .inr ⟨_, _, _, decoded, canonical.normal.resolve_right (by omega), by omega⟩

end Binary

end TagSchema.Number
