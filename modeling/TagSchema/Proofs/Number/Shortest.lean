import Mathlib.Tactic.FieldSimp
import TagSchema.Number.Text
import TagSchema.Proofs.Number.Literal

/-!
# Decimals of doubles

`read?_text`: what is printed for a finite double is read as the same double. A quotient in the
interval around a double is rounded to it (`measures_ofRatio_near`), and the search for the shortest
decimal ends in that interval (`shortest_within`).
-/

namespace TagSchema.Number

open Decoded (signed)

/-! ### Quotients near a double -/

/-- A quotient is rounded to every whole number that it lies within a half of, at a tie if that
number is even. -/
theorem roundQuotient_of_near {num den k : Nat} (positive : 0 < den)
    (near : 2 * gap num (den * k) < den ∨ 2 * gap num (den * k) = den ∧ k % 2 = 0) :
    Binary.roundQuotient num den = k := by
  have whole := Nat.div_add_mod num den
  have part := Nat.mod_lt num positive
  unfold gap at near
  simp only [Binary.roundQuotient, Bool.or_eq_true, Bool.and_eq_true, decide_eq_true_eq, beq_iff_eq]
  generalize num / den = q at *
  generalize num % den = r at *
  rcases Nat.lt_trichotomy q k with below | rfl | above
  · have reached : den * (q + 1) ≤ den * k := Nat.mul_le_mul_left den below
    rw [Nat.mul_add_one] at reached
    by_cases next : k = q + 1
    · rw [next, Nat.mul_add_one] at near
      split <;> omega
    · have beyond : den * (q + 2) ≤ den * k := Nat.mul_le_mul_left den (by omega)
      rw [Nat.mul_add] at beyond
      omega
  · split <;> omega
  · have reached : den * (k + 1) ≤ den * q := Nat.mul_le_mul_left den above
    rw [Nat.mul_add_one] at reached
    omega

/-- Whether `x` lies between `lo` and `hi`, the ends counted in or out. -/
def Between {α : Type} [LE α] [LT α] (closed : Bool) (lo x hi : α) : Prop :=
  if closed then lo ≤ x ∧ x ≤ hi else lo < x ∧ x < hi

theorem between_iff {α : Type} [Preorder α] {closed : Bool} {lo x hi : α} :
    Between closed lo x hi ↔ lo ≤ x ∧ x ≤ hi ∧ (closed = false → lo < x ∧ x < hi) := by
  unfold Between
  cases closed with
  | true => simp
  | false => exact ⟨fun h => ⟨le_of_lt h.1, le_of_lt h.2, fun _ => h⟩, fun h => h.2.2 rfl⟩

theorem between_mul_iff {closed : Bool} {a x b c : ℚ} (positive : 0 < c) :
    Between closed (a * c) (x * c) (b * c) ↔ Between closed a x b := by
  rw [between_iff, between_iff]
  simp only [mul_le_mul_iff_of_pos_right positive, mul_lt_mul_iff_of_pos_right positive]

theorem between_natCast {closed : Bool} {a x b : Nat} :
    Between closed (a : ℚ) x b ↔ Between closed a x b := by
  rw [between_iff, between_iff]
  simp only [Nat.cast_le, Nat.cast_lt]

namespace Interval

theorem below_around (m p : Nat) : (around .double m ((p : Int) - 1074)).below =
    if m = 2 ^ 52 ∧ 0 < p then 1 else 2 := by
  have bits : Nat.pow 2 Layout.double.fractionBits = 2 ^ 52 := rfl
  have place : (-1074 < (p : Int) - 1074) ↔ 0 < p := by omega
  simp only [around, bits, Binary.minExponent_double, Bool.and_eq_true, decide_eq_true_eq, place]

end Interval

namespace Binary

variable {num den m p : Nat}

/-- Where the interval around a significand reaches below its last place, the significand is the
lowest of that place, and a quotient there rounds to as much in the place below. -/
theorem rounds_below {r : Nat} (den_ne : den ≠ 0) (normal : 2 ^ 52 ≤ m)
    (low : 4 * (m * (den * 2 ^ (r + 1))) - (if m = 2 ^ 52 ∧ 0 < r + 1 then 1 else 2) *
      (den * 2 ^ (r + 1)) ≤ 4 * (num * 2 ^ 1074))
    (outside : num * 2 ^ 1074 < 2 ^ 52 * (den * 2 ^ (r + 1))) :
    m = 2 ^ 52 ∧ LastPlace num den r ∧ roundQuotient (num * 2 ^ 1074) (den * 2 ^ r) = 2 ^ 53 := by
  have positive : 0 < den * 2 ^ r := Nat.mul_pos (Nat.pos_of_ne_zero den_ne) (Nat.two_pow_pos r)
  have lowest : m = 2 ^ 52 := by
    by_contra other
    have larger : (2 ^ 52 + 1) * (den * 2 ^ (r + 1)) ≤ m * (den * 2 ^ (r + 1)) :=
      Nat.mul_le_mul_right _ (by omega)
    rw [if_neg fun h => other h.1] at low
    omega
  have half : den * 2 ^ (r + 1) = 2 * (den * 2 ^ r) := by
    rw [Nat.pow_succ]
    ring
  rw [if_pos ⟨lowest, Nat.succ_pos r⟩, lowest, half] at low
  rw [half] at outside
  refine ⟨lowest, ⟨?_, .inr ?_⟩, roundQuotient_of_near positive ?_⟩
  · rw [Nat.pow_add, ← Nat.mul_assoc]
    omega
  · rw [Nat.pow_add, ← Nat.mul_assoc]
    omega
  · unfold gap
    omega

/-- From the interval around a significand a quotient comes down to the significand's last place, or
to the place below it where the significand is the lowest of its place. -/
theorem rounds_near (den_ne : den ≠ 0) (canonical : Canonical m p)
    (near : Between (m % 2 == 0)
      ((4 * m - (Interval.around .double m ((p : Int) - 1074)).below) * (den * 2 ^ p))
      (4 * (num * 2 ^ 1074)) ((4 * m + 2) * (den * 2 ^ p))) :
    ∃ q r, LastPlace num den r ∧ roundQuotient (num * 2 ^ 1074) (den * 2 ^ r) = q ∧
      q * 2 ^ r = m * 2 ^ p ∧ r * 2 ^ 52 + q < 2047 * 2 ^ 52 := by
  have lt := canonical.lt
  have top := canonical.le
  have ⟨low, high, isOpen⟩ := between_iff.mp near
  have strict (odd : m % 2 = 1) := isOpen (by rw [odd]; rfl)
  rw [Interval.below_around, Nat.sub_mul, Nat.mul_assoc] at low strict
  rw [Nat.add_mul, Nat.mul_assoc] at high strict
  have grouped (k : Nat) : den * 2 ^ (p + k) = 2 ^ k * (den * 2 ^ p) := by
    rw [Nat.pow_add]
    ring
  by_cases inside : p = 0 ∨ den * 2 ^ (p + 52) ≤ num * 2 ^ 1074
  · have positive : 0 < den * 2 ^ p := Nat.mul_pos (Nat.pos_of_ne_zero den_ne) (Nat.two_pow_pos p)
    have size : m * (den * 2 ^ p) + den * 2 ^ p ≤ 2 ^ 53 * (den * 2 ^ p) := by
      rw [← Nat.add_one_mul]
      exact Nat.mul_le_mul_right _ lt
    have reach : (if m = 2 ^ 52 ∧ 0 < p then 1 else 2) * (den * 2 ^ p) ≤ 2 * (den * 2 ^ p) := by
      refine Nat.mul_le_mul_right _ ?_
      split <;> omega
    refine ⟨m, p, ⟨?_, inside⟩, roundQuotient_of_near positive ?_, rfl, by omega⟩
    · rw [grouped]
      omega
    · rw [Nat.mul_comm (den * 2 ^ p) m]
      unfold gap
      rcases Nat.mod_two_eq_zero_or_one m with even | odd
      · omega
      · have := strict odd
        omega
  · rw [not_or, Nat.not_le, grouped] at inside
    have normal := canonical.normal.resolve_right inside.1
    obtain ⟨r, rfl⟩ := Nat.exists_eq_add_one_of_ne_zero inside.1
    obtain ⟨lowest, place, rounded⟩ := rounds_below den_ne normal low inside.2
    refine ⟨2 ^ 53, r, place, rounded, ?_, by omega⟩
    rw [lowest, Nat.pow_succ 2 r]
    ring

/-- A quotient in the interval around a double is rounded to it. -/
theorem measures_ofRatio_near (negative : Bool) (den_ne : den ≠ 0) (filled : m ≠ 0)
    (canonical : Canonical m p)
    (near : Between (m % 2 == 0)
      ((4 * m - (Interval.around .double m ((p : Int) - 1074)).below) * (den * 2 ^ p))
      (4 * (num * 2 ^ 1074)) ((4 * m + 2) * (den * 2 ^ p))) :
    Measures (ofRatio negative num den) negative (m * 2 ^ p) := by
  obtain ⟨q, r, last, rounded, units, finite⟩ := rounds_near den_ne canonical near
  have num_ne : num ≠ 0 := by
    intro zero
    have small := (between_iff.mp near).1
    rw [zero, Nat.zero_mul, Nat.mul_zero, Nat.le_zero, Nat.mul_eq_zero, Interval.below_around]
      at small
    have unit_ne : den * 2 ^ p ≠ 0 := Nat.mul_ne_zero den_ne (Nat.two_pow_pos p).ne'
    have nothing := small.resolve_right unit_ne
    split at nothing <;> omega
  obtain ⟨place, found, result⟩ := ofRatio_cases negative num_ne den_ne
  obtain rfl := found.unique last
  rw [rounded, units] at result
  exact result.resolve_left (by omega)

/-! ### Patterns of one value -/

theorem eq_of_parts {l : Layout} {x y : Binary l} (sign : x.isNegative = y.isNegative)
    (same : x.magnitude = y.magnitude) : x = y := by
  have parts (z : Binary l) :
      z.bits.toNat = (if z.isNegative then l.signBit else 0) + z.magnitude := by
    have bound := z.bits.isLt
    have width : 2 ^ (1 + l.exponentBits + l.fractionBits) = 2 * l.signBit := by
      rw [Nat.add_assoc, Nat.pow_add]
      rfl
    rw [width] at bound
    unfold isNegative magnitude
    split
    · rename_i large
      have large : l.signBit ≤ z.bits.toNat := of_decide_eq_true large
      have rest := Nat.mod_eq_of_lt (show z.bits.toNat - l.signBit < l.signBit by omega)
      rw [Nat.mod_eq_sub_mod large, rest]
      omega
    · rename_i small
      have small : ¬ l.signBit ≤ z.bits.toNat := fun large => small (decide_eq_true large)
      rw [Nat.mod_eq_of_lt (by omega)]
      omega
  have bits : x.bits = y.bits := BitVec.eq_of_toNat_eq (by rw [parts x, parts y, sign, same])
  cases x
  cases y
  exact congrArg _ bits

theorem parts_of_decode {x : Binary64} {negative : Bool}
    (decoded : x.decode = .finite negative m ((p : Int) - 1074)) :
    x.isNegative = negative ∧ x.magnitude = p * 2 ^ 52 + m := by
  have bits : Nat.pow 2 Layout.double.fractionBits = 2 ^ 52 := rfl
  have whole := Nat.div_add_mod x.magnitude (2 ^ 52)
  simp only [decode, bits, minExponent_double] at decoded
  split at decoded
  · split at decoded <;> cases decoded
  · split at decoded
    · injection decoded with sign significand exponent
      refine ⟨sign, ?_⟩
      omega
    · injection decoded with sign significand exponent
      refine ⟨sign, ?_⟩
      omega

end Binary

theorem Canonical.unique {m n p r : Nat} (first : Canonical m p) (second : Canonical n r)
    (same : m * 2 ^ p = n * 2 ^ r) : m = n ∧ p = r := by
  have units (k : Nat) : k * 2 ^ 1074 = 2 ^ 1074 * k := Nat.mul_comm _ _
  have place : p = r :=
    (Binary.lastPlace_of_canonical units_ne first (units _)).unique
      (Binary.lastPlace_of_canonical units_ne second (by rw [same, units]))
  rw [place] at same
  exact ⟨Nat.eq_of_mul_eq_mul_right (Nat.two_pow_pos r) same, place⟩

/-- A sign and a number of units make a double. -/
theorem Measures.eq {x y : Binary64} {negative : Bool} {u : Nat} (first : Measures x negative u)
    (second : Measures y negative u) : x = y := by
  obtain @⟨m, p, decoded, canonical⟩ := first
  generalize units : m * 2 ^ p = u at second
  obtain @⟨n, r, again, other⟩ := second
  obtain ⟨rfl, rfl⟩ := canonical.unique other units
  have ⟨sign, magnitude⟩ := Binary.parts_of_decode decoded
  have ⟨sign', magnitude'⟩ := Binary.parts_of_decode again
  exact Binary.eq_of_parts (sign.trans sign'.symm) (magnitude.trans magnitude'.symm)

/-! ### Decimals in an interval -/

namespace Interval

variable {i : Interval} {k : Int} {d n : Nat}

/-- The reals of an interval. -/
def Within (i : Interval) (q : ℚ) : Prop :=
  Between i.closed (((i.quarters - i.below : Nat) : ℚ) * 2 ^ i.exponent) q
    (((i.quarters + i.above : Nat) : ℚ) * 2 ^ i.exponent)

/-- A quarter of the last place and a multiple of `10 ^ k` in a common measure. -/
def quarterOf (e k : Int) : Nat := 2 ^ e.toNat * 10 ^ (-k).toNat

def stepOf (e k : Int) : Nat := 2 ^ (-e).toNat * 10 ^ k.toNat

theorem onGrid_eq (quarters : Nat) (e k : Int) :
    onGrid quarters e k = (quarters * quarterOf e k, stepOf e k) := by
  have whole {j : Int} (h : 0 ≤ j) : (-j).toNat = 0 := by omega
  have part {j : Int} (h : ¬ 0 ≤ j) : j.toNat = 0 := by omega
  unfold onGrid quarterOf stepOf
  by_cases he : 0 ≤ e <;> by_cases hk : 0 ≤ k <;>
    simp [he, hk, whole, part, Nat.mul_assoc]

theorem quarterOf_positive (e k : Int) : 0 < quarterOf e k :=
  Nat.mul_pos (Nat.two_pow_pos _) (Nat.pow_pos (by decide))

theorem stepOf_positive (e k : Int) : 0 < stepOf e k :=
  Nat.mul_pos (Nat.two_pow_pos _) (Nat.pow_pos (by decide))

/-- The measure that quarters and steps have in common. -/
theorem exists_measure (e k : Int) : ∃ u : ℚ, 0 < u ∧ (2 : ℚ) ^ e = quarterOf e k * u ∧
    (10 : ℚ) ^ k = stepOf e k * u := by
  have two : (0 : ℚ) < 2 ^ (-e).toNat := by positivity
  have ten : (0 : ℚ) < 10 ^ (-k).toNat := by positivity
  refine ⟨1 / (2 ^ (-e).toNat * 10 ^ (-k).toNat), by positivity, ?_, ?_⟩
  · rw [zpow_parts two_ne_zero, quarterOf]
    push_cast
    field_simp
  · rw [zpow_parts (by norm_num : (10 : ℚ) ≠ 0), stepOf]
    push_cast
    field_simp

theorem fits_iff {closed : Bool} {gap room : Nat} :
    (gap < room || closed && gap == room) = true ↔
      gap ≤ room ∧ (closed = false → gap < room) := by
  rw [Bool.or_eq_true, Bool.and_eq_true, decide_eq_true_eq, beq_iff_eq]
  cases closed with
  | true => simp [Nat.le_iff_lt_or_eq]
  | false => simpa using Nat.le_of_lt

theorem neighbour?_between (found : i.neighbour? k = some d) (below : 0 < i.below)
    (above : 0 < i.above) (room : i.below ≤ i.quarters) :
    Between i.closed ((i.quarters - i.below) * quarterOf i.exponent k) (d * stepOf i.exponent k)
      ((i.quarters + i.above) * quarterOf i.exponent k) := by
  have quarter := quarterOf_positive i.exponent k
  have low := Nat.mul_pos below quarter
  have high := Nat.mul_pos above quarter
  have fits := Nat.mul_le_mul_right (quarterOf i.exponent k) room
  simp only [neighbour?, onGrid_eq] at found
  have part := Nat.mod_lt (i.quarters * quarterOf i.exponent k) (stepOf_positive i.exponent k)
  have whole := Nat.div_add_mod (i.quarters * quarterOf i.exponent k) (stepOf i.exponent k)
  rw [Nat.sub_mul, Nat.add_mul]
  generalize i.quarters * quarterOf i.exponent k / stepOf i.exponent k = down at found whole
  generalize i.quarters * quarterOf i.exponent k % stepOf i.exponent k = rest at found whole part
  rw [Nat.mul_comm] at whole
  generalize i.quarters * quarterOf i.exponent k = middle at *
  generalize stepOf i.exponent k = step at *
  split at found
  · rename_i up
    obtain ⟨near, strict⟩ := fits_iff.mp (Bool.and_eq_true_iff.mp up).1
    obtain rfl := Option.some.inj found
    rw [between_iff, Nat.add_one_mul]
    refine ⟨by omega, by omega, fun isOpen => ?_⟩
    have := strict isOpen
    omega
  · split at found
    · rename_i down'
      obtain ⟨near, strict⟩ := fits_iff.mp down'
      obtain rfl := Option.some.inj found
      rw [between_iff]
      refine ⟨by omega, by omega, fun isOpen => ?_⟩
      have := strict isOpen
      omega
    · cases found

/-- The ends of an interval and a multiple of `10 ^ k` compare as the whole numbers that they are in
a common measure. -/
theorem within_iff {e : Int} {closed : Bool} {lo hi : Nat} :
    Between closed ((lo : ℚ) * 2 ^ e) (d * 10 ^ k) (hi * 2 ^ e) ↔
      Between closed (lo * quarterOf e k) (d * stepOf e k) (hi * quarterOf e k) := by
  obtain ⟨u, positive, two, ten⟩ := exists_measure e k
  have scaled (a b : Nat) : (a : ℚ) * (b * u) = (a * b : Nat) * u := by
    rw [Nat.cast_mul, mul_assoc]
  rw [two, ten, scaled, scaled, scaled, between_mul_iff positive, between_natCast]

/-- An interval with something on either side of its middle. -/
structure Proper (i : Interval) : Prop where
  below : 0 < i.below
  above : 0 < i.above
  room : i.below ≤ i.quarters

theorem neighbour?_within (proper : i.Proper) (found : i.neighbour? k = some d) :
    i.Within (d * 10 ^ k) :=
  within_iff.mpr (neighbour?_between found proper.below proper.above proper.room)

/-- A grid that is finer than the upper half has a point in the interval. -/
theorem isSome_neighbour? (proper : i.Proper) (fine : (10 : ℚ) ^ k ≤ i.above * 2 ^ i.exponent) :
    (i.neighbour? k).isSome = true := by
  have quarter := quarterOf_positive i.exponent k
  have low := Nat.mul_pos proper.below quarter
  have step := stepOf_positive i.exponent k
  have part := Nat.mod_lt (i.quarters * quarterOf i.exponent k) step
  have narrow : stepOf i.exponent k ≤ i.above * quarterOf i.exponent k := by
    obtain ⟨u, positive, two, ten⟩ := exists_measure i.exponent k
    rw [two, ten, ← mul_assoc, mul_le_mul_iff_of_pos_right positive] at fine
    exact_mod_cast fine
  simp only [neighbour?, onGrid_eq]
  generalize i.quarters * quarterOf i.exponent k % stepOf i.exponent k = rest at *
  by_cases whole : rest = 0
  · have down : (decide (rest < i.below * quarterOf i.exponent k) ||
        i.closed && rest == i.below * quarterOf i.exponent k) = true :=
      fits_iff.mpr ⟨by omega, fun _ => by omega⟩
    rw [down]
    split <;> rfl
  · have up : (decide (stepOf i.exponent k - rest < i.above * quarterOf i.exponent k) ||
        i.closed && stepOf i.exponent k - rest == i.above * quarterOf i.exponent k) = true :=
      fits_iff.mpr ⟨by omega, fun _ => by omega⟩
    rw [up]
    split
    · rfl
    · split
      · rfl
      · rename_i one two
        simp [two] at one

/-- The search ends in the interval if it reaches a grid that is fine enough. -/
theorem search_within (proper : i.Proper)
    (fine : (10 : ℚ) ^ (k - n) ≤ i.above * 2 ^ i.exponent) :
    i.Within ((i.search (n + 1) k).digits * 10 ^ (i.search (n + 1) k).exponent) := by
  induction n generalizing k with
  | zero =>
    rw [Nat.cast_zero, Int.sub_zero] at fine
    obtain ⟨d, found⟩ := Option.isSome_iff_exists.mp (isSome_neighbour? proper fine)
    rw [search, found]
    exact neighbour?_within proper found
  | succ n ih =>
    rw [search]
    cases found : i.neighbour? k with
    | some d => exact neighbour?_within proper found
    | none =>
      refine ih ?_
      have grid : k - 1 - (n : Int) = k - ((n + 1 : Nat) : Int) := by omega
      rw [grid]
      exact fine

end Interval

/-! ### Where the search begins -/

theorem ten_pow_le_two_pow {j k : Nat} (h : 10 * k ≤ 3 * j) : 10 ^ k ≤ 2 ^ j := by
  refine (Nat.pow_le_pow_iff_left (by decide : 3 ≠ 0)).mp ?_
  calc (10 ^ k) ^ 3 = (10 ^ 3) ^ k := Nat.pow_right_comm 10 k 3
    _ ≤ (2 ^ 10) ^ k := Nat.pow_le_pow_left (by decide) k
    _ = 2 ^ (10 * k) := by rw [Nat.pow_mul]
    _ ≤ 2 ^ (j * 3) := Nat.pow_le_pow_right (by decide) (by omega)
    _ = (2 ^ j) ^ 3 := by rw [Nat.pow_mul]

theorem two_pow_le_ten_pow {j k : Nat} (h : 28 * j ≤ 93 * k) : 2 ^ j ≤ 10 ^ k := by
  refine (Nat.pow_le_pow_iff_left (by decide : 28 ≠ 0)).mp ?_
  calc (2 ^ j) ^ 28 = 2 ^ (j * 28) := by rw [Nat.pow_mul]
    _ ≤ 2 ^ (93 * k) := Nat.pow_le_pow_right (by decide) (by omega)
    _ = (2 ^ 93) ^ k := by rw [Nat.pow_mul]
    _ ≤ (10 ^ 28) ^ k := Nat.pow_le_pow_left (by decide) k
    _ = (10 ^ k) ^ 28 := Nat.pow_right_comm 10 28 k

/-- In the range of exponents the logarithm of two is near enough to 0.30103. -/
theorem ten_zpow_le_two_zpow {j k : Int} (low : -1100 ≤ j) (high : j ≤ 1100)
    (h : 100000 * k + 200000 ≤ 30103 * j) : (10 : ℚ) ^ k ≤ 2 ^ j := by
  rw [zpow_parts two_ne_zero, zpow_parts (by norm_num : (10 : ℚ) ≠ 0),
    div_le_div_iff₀ (by positivity) (by positivity)]
  have whole : 10 ^ k.toNat * 2 ^ (-j).toNat ≤ 2 ^ j.toNat * 10 ^ (-k).toNat := by
    by_cases positive : 0 ≤ k
    · have none : (-j).toNat = 0 := by omega
      rw [none, Nat.pow_zero, Nat.mul_one]
      exact Nat.le_trans (ten_pow_le_two_pow (by omega)) (Nat.le_mul_of_pos_right _ (by positivity))
    · have none : k.toNat = 0 := by omega
      rw [none, Nat.pow_zero, Nat.one_mul]
      exact Nat.le_trans (two_pow_le_ten_pow (by omega)) (Nat.le_mul_of_pos_left _ (by positivity))
  exact_mod_cast whole

theorem decimalExponent_le (num den : Nat) :
    decimalExponent num den ≤ Binary.floorLog2 num den * 30103 / 100000 + 2 := by
  unfold decimalExponent
  dsimp only
  split
  · omega
  · split <;> omega

/-- The leading bit of a significand stands at most 52 places before its last. -/
theorem floorLog2_ratio_le {m p : Nat} {e : Int} (filled : m ≠ 0) (canonical : Canonical m p)
    (place : e = (p : Int) - 1074) :
    Binary.floorLog2 (Decoded.ratio m e).1 (Decoded.ratio m e).2 ≤ e + 52 := by
  have den_ne := (Decoded.ratio_positive m e).ne'
  have same : (Decoded.ratio m e).1 * 2 ^ 1074 = (Decoded.ratio m e).2 * (m * 2 ^ p) := by
    have exponents : e.toNat + 1074 = (-e).toNat + (0 + p) := by omega
    have moved := Binary.mul_pow_eq m exponents
    rw [Nat.pow_zero, Nat.mul_one] at moved
    rw [Decoded.ratio_eq]
    exact moved
  have num_ne : (Decoded.ratio m e).1 ≠ 0 := by
    rw [Decoded.ratio_eq]
    exact Nat.mul_ne_zero filled (Nat.two_pow_pos _).ne'
  have last := (lastPlace_floorLog2 num_ne den_ne).unique
    (Binary.lastPlace_of_canonical den_ne canonical same)
  omega

theorem shortest_eq (l : Layout) (m : Nat) (e : Int) :
    shortest l m e = (Interval.around l m e).search 20
      (decimalExponent (Decoded.ratio m e).1 (Decoded.ratio m e).2 - 1) := rfl

/-- A double has a decimal within its interval, and the search finds one. -/
theorem shortest_within {m p : Nat} {e : Int} (filled : m ≠ 0) (canonical : Canonical m p)
    (place : e = (p : Int) - 1074) :
    (Interval.around .double m e).Within
      ((shortest .double m e).digits * 10 ^ (shortest .double m e).exponent) := by
  have top := canonical.le
  have normal := canonical.normal
  have below := Interval.below_around m p
  rw [← place] at below
  have quarters : (Interval.around .double m e).quarters = 4 * m := rfl
  have proper : (Interval.around .double m e).Proper := by
    refine ⟨?_, Nat.two_pos, ?_⟩
    · rw [below]
      split <;> omega
    · rw [below, quarters]
      split <;> omega
  have start := decimalExponent_le (Decoded.ratio m e).1 (Decoded.ratio m e).2
  have log := floorLog2_ratio_le filled canonical place
  rw [shortest_eq]
  refine Interval.search_within (n := 19) proper ?_
  have half : ((Interval.around .double m e).above : ℚ) * 2 ^ (Interval.around .double m e).exponent
      = 2 ^ (e - 1) := by
    have parts : e - 1 = 1 + (e - 2) := by omega
    rw [parts, zpow_one_add₀ two_ne_zero]
    rfl
  rw [half]
  exact ten_zpow_le_two_zpow (by omega) (by omega) (by omega)

/-! ### Layouts -/

namespace Decimal

theorem stripZeros_value (n : Nat) (d : Decimal) :
    ((d.stripZeros n).digits : ℚ) * 10 ^ (d.stripZeros n).exponent =
      d.digits * 10 ^ d.exponent := by
  induction n generalizing d with
  | zero => rfl
  | succ n ih =>
    unfold stripZeros
    split
    · rename_i zero
      rw [Bool.and_eq_true, decide_eq_true_eq] at zero
      have tens : d.digits = d.digits / 10 * 10 :=
        (Nat.div_mul_cancel (Nat.dvd_of_mod_eq_zero zero.1)).symm
      have ten : (10 : ℚ) ^ (d.exponent + 1) = 10 * 10 ^ d.exponent := by
        rw [zpow_add_one₀ (by norm_num), mul_comm]
      rw [ih]
      dsimp only
      rw [ten, ← mul_assoc]
      conv_rhs => rw [tens]
      push_cast
      rfl
    · rfl

/-- Digits before the point and after it. -/
theorem exists_mantissa (d : Decimal) : ∃ whole fraction, Mantissa whole fraction d.positional ∧
    whole ++ fraction ≠ [] ∧ (∀ c ∈ whole ++ fraction, c.isDigit = true) ∧
    Nat.ofDigitChars 10 (whole ++ fraction) 0 = d.digits * 10 ^ d.exponent.toNat ∧
    fraction.length = (-d.exponent).toNat := by
  have digits : ∀ c ∈ Number.digits d.digits, c.isDigit = true :=
    fun c member => Nat.isDigit_of_mem_toDigits (by decide) (by decide) member
  have filled : Number.digits d.digits ≠ [] := Nat.toDigits_ne_nil
  have read : Nat.ofDigitChars 10 (Number.digits d.digits) 0 = d.digits :=
    Nat.ofDigitChars_toDigits (by decide) (by decide)
  have zeros {n : Nat} : ∀ c ∈ List.replicate n '0', c.isDigit = true := by
    intro c member
    rw [List.eq_of_mem_replicate member]
    rfl
  unfold positional
  dsimp only
  split
  · have part : (-d.exponent).toNat = 0 := by omega
    refine ⟨_, [], .plain, ?_, ?_, ?_, part.symm⟩ <;> rw [List.append_nil]
    · simp [filled]
    · exact List.forall_mem_append.mpr ⟨digits, zeros⟩
    · rw [Nat.ofDigitChars_append, read, Nat.ofDigitChars_replicate_zero, Nat.mul_comm]
  · have whole : d.exponent.toNat = 0 := by omega
    generalize (-d.exponent).toNat = places
    generalize padding : places + 1 - (Number.digits d.digits).length = missing
    generalize padded : List.replicate missing '0' ++ Number.digits d.digits = cs
    have length : cs.length = missing + (Number.digits d.digits).length := by
      rw [← padded, List.length_append, List.length_replicate]
    refine ⟨_, _, .pointed _, ?_, ?_, ?_, ?_⟩
    · rw [List.take_append_drop, ← padded]
      simp [filled]
    · rw [List.take_append_drop, ← padded]
      exact List.forall_mem_append.mpr ⟨zeros, digits⟩
    · rw [List.take_append_drop, ← padded, Nat.ofDigitChars_append, Nat.ofDigitChars_replicate_zero,
        Nat.mul_zero, read, whole, Nat.pow_zero, Nat.mul_one]
    · rw [List.length_drop]
      omega

theorem read?_positional {d : Decimal} {negative : Bool} {s : String}
    (signed : SignedDigits d.positional negative s.toList) :
    Binary.read? s = some (Binary.ofRatio negative (d.digits * 10 ^ d.exponent.toNat)
      (10 ^ (-d.exponent).toNat) : Binary64) := by
  obtain ⟨whole, fraction, pointed, filled, digits, value, places⟩ := d.exists_mantissa
  rw [← List.append_nil d.positional] at signed
  rw [Binary.read?, numeral_eq filled digits pointed .none signed, value, places]
  have none : (0 - ((-d.exponent).toNat : Int)).toNat = 0 := by omega
  have all : (-(0 - ((-d.exponent).toNat : Int))).toNat = (-d.exponent).toNat := by omega
  rw [Option.map_some, Binary.ofNumeral, Binary.ofDecimal_eq_ofRatio, none, all, Nat.pow_zero,
    Nat.mul_one]

end Decimal

namespace Binary

/-- The digits that a finite double is written with. -/
theorem toList_text {x : Binary64} {negative : Bool} {m : Nat} {e : Int}
    (decoded : x.decode = .finite negative m e) :
    x.text.toList = (if negative then ['-'] else []) ++
      (if m = 0 then ⟨0, 0⟩ else (shortest .double m e).stripZeros 20 : Decimal).positional := by
  unfold text textWith
  rw [decoded]
  exact String.toList_ofList

theorem measures_shortest {m p : Nat} {e : Int} (negative : Bool) (filled : m ≠ 0)
    (canonical : Canonical m p) (place : e = (p : Int) - 1074) {d : Decimal}
    (value : (d.digits : ℚ) * 10 ^ d.exponent =
      (shortest .double m e).digits * 10 ^ (shortest .double m e).exponent) :
    Measures (ofRatio negative (d.digits * 10 ^ d.exponent.toNat) (10 ^ (-d.exponent).toNat))
      negative (m * 2 ^ p) := by
  have within := shortest_within filled canonical place
  refine measures_ofRatio_near negative (pow_ne_zero _ (by decide)) filled canonical ?_
  have positive : (0 : ℚ) < 10 ^ (-d.exponent).toNat * (4 * 2 ^ 1074) := by positivity
  have quarter : (2 : ℚ) ^ (e - 2) * (4 * 2 ^ 1074) = 2 ^ p := by
    have four : (4 : ℚ) = 2 ^ (2 : Int) := by norm_num
    have units : (2 : ℚ) ^ 1074 = 2 ^ (1074 : Int) := (zpow_natCast 2 1074).symm
    rw [four, units, ← zpow_add₀ two_ne_zero, ← zpow_add₀ two_ne_zero, ← zpow_natCast]
    congr 1
    omega
  have ends (a : Nat) : (a : ℚ) * 2 ^ (e - 2) * (10 ^ (-d.exponent).toNat * (4 * 2 ^ 1074)) =
      (a * (10 ^ (-d.exponent).toNat * 2 ^ p) : Nat) := by
    rw [mul_assoc, mul_left_comm (2 ^ (e - 2) : ℚ), quarter]
    push_cast
    rfl
  have middle : (d.digits * 10 ^ d.exponent : ℚ) * (10 ^ (-d.exponent).toNat * (4 * 2 ^ 1074)) =
      (4 * (d.digits * 10 ^ d.exponent.toNat * 2 ^ 1074) : Nat) := by
    rw [zpow_parts (by norm_num : (10 : ℚ) ≠ 0), Nat.cast_mul, Nat.cast_mul, Nat.cast_pow 2]
    push_cast
    generalize (2 : ℚ) ^ 1074 = units
    field_simp
  rw [Interval.Within, ← value, ← between_mul_iff positive] at within
  rw [← place]
  exact between_natCast.mp (by rw [← ends, ← ends, ← middle]; exact within)

/-- A double is read back from its digits, with any sign that they are given. -/
theorem read?_digits {x : Binary64} {negative : Bool} {m : Nat} {e : Int} {s : String}
    (decoded : x.decode = .finite negative m e)
    (signed : SignedDigits
      (if m = 0 then ⟨0, 0⟩ else (shortest .double m e).stripZeros 20 : Decimal).positional negative
      s.toList) : Binary.read? s = some x := by
  obtain ⟨p, place, canonical⟩ := canonical_of_decode decoded
  have measured : Measures x negative (m * 2 ^ p) := .intro (place ▸ decoded) canonical
  rw [Decimal.read?_positional signed, Option.some.injEq]
  refine Measures.eq ?_ measured
  split
  · rename_i zero
    rw [zero, Nat.zero_mul, Nat.zero_mul, ofRatio_zero]
    exact measures_zero negative
  · rename_i filled
    exact measures_shortest negative filled canonical place (Decimal.stripZeros_value _ _)

theorem exists_digits {x : Binary64} (finite : x.isFinite = true) :
    ∃ ds, x.text.toList = (if x.isNegative then ['-'] else []) ++ ds ∧
      ∀ s : String, SignedDigits ds x.isNegative s.toList → read? s = some x := by
  unfold isFinite at finite
  split at finite
  · rename_i negative m e decoded
    obtain ⟨p, place, _⟩ := canonical_of_decode decoded
    obtain rfl := (parts_of_decode (place ▸ decoded)).1
    exact ⟨_, toList_text decoded, fun s signed => read?_digits decoded signed⟩
  · cases finite

/-- What is printed for a finite double is read as it, the sign of zero included. -/
theorem read?_text {x : Binary64} (finite : x.isFinite = true) : read? x.text = some x := by
  obtain ⟨ds, text, readBack⟩ := exists_digits finite
  refine readBack _ ?_
  rw [text]
  cases x.isNegative with
  | true => exact .minus
  | false => exact .bare

end Binary

end TagSchema.Number
