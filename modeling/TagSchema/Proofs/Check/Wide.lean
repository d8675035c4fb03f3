import TagSchema.Proofs.Check.Integer
import TagSchema.Proofs.Coerce.Integer
import TagSchema.Proofs.Number.Literal

/-!
# Bounds beyond 64 bits

A rule holds a number of up to 64 bits as it is, and a larger one in double width. `run_wide_iff`: a
check compares integers as they are exactly where the rounding makes no difference.
-/

namespace TagSchema

open TagSchema.Number
open TagSchema.Coerce (IntegerType)

/-- The numbers that a rule of the kind looks at. -/
def Rule.Kind.Reads (ns : List Int) (n : Int) (k : Rule.Kind) : Prop :=
  if k = .enum then n ∈ ns else ns.head? = some n

/-- What a rule for the numbers `ns` asks of `z`. -/
def Rule.Kind.AsksOf (ns : List Int) (z : Int) (k : Rule.Kind) : Prop :=
  ∃ n, k.Reads ns n ∧ k.Asks n z

/-- Rounding brings `z` to the other side of the bound `n`, or changes what divides it. -/
def Rule.Kind.Blurs (n z : Int) : Rule.Kind → Prop
  | .min | .gte | .lt => z < n ∧ inDouble z = inDouble n
  | .max | .lte | .gt => n < z ∧ inDouble z = inDouble n
  | .multipleOf => ¬ (inDouble n ≠ 0 ∧ inDouble n ∣ inDouble z ↔ n ≠ 0 ∧ n ∣ z)
  | .enum => z ≠ n ∧ inDouble z = inDouble n
  | _ => False

namespace Check

variable {v : Value} {n z : Int} {k : Rule.Kind} {ns : List Int}

/-- A number of up to 64 bits, with a sign or without. -/
def Fits (n : Int) : Prop := -2 ^ 63 ≤ n ∧ n < 2 ^ 64

instance (n : Int) : Decidable (Fits n) := inferInstanceAs (Decidable (_ ∧ _))

/-- What a check against `n` makes of an integer. -/
def seen (n z : Int) : Int := if Fits n then z else inDouble z

/-! ### Remainders in double width -/

theorem units_of_value {negative : Bool} {m : Nat} {e i : Int} (le : i ≤ e)
    (value : (Decoded.finite negative m e).value? = some (z : ℚ)) :
    m * 2 ^ (e - i).toNat * 2 ^ i.toNat = z.natAbs * 2 ^ (-i).toNat := by
  have size : m * 2 ^ e.toNat = z.natAbs * 2 ^ (-e).toNat := by
    have ratio := Decoded.ratio_of_integer value
    rwa [Decoded.ratio_eq] at ratio
  have exponents : (e - i).toNat + i.toNat + (-e).toNat = e.toNat + (-i).toNat := by omega
  apply Nat.mul_right_cancel (Nat.two_pow_pos (-e).toNat)
  calc m * 2 ^ (e - i).toNat * 2 ^ i.toNat * 2 ^ (-e).toNat =
        m * 2 ^ ((e - i).toNat + i.toNat + (-e).toNat) := by
        rw [Nat.pow_add, Nat.pow_add]
        ring
    _ = m * 2 ^ e.toNat * 2 ^ (-i).toNat := by rw [exponents, Nat.pow_add, Nat.mul_assoc]
    _ = z.natAbs * 2 ^ (-i).toNat * 2 ^ (-e).toNat := by rw [size, Nat.mul_right_comm]

/-- The remainder of integers is one, so that only none at all is below the tolerance. -/
theorem remainderIsSmall_iff {s t : Bool} {m w : Nat} {e f x y : Int}
    (first : (Decoded.finite s m e).value? = some (x : ℚ))
    (second : (Decoded.finite t w f).value? = some (y : ℚ)) :
    Predicate.remainderIsSmall m e w f = true ↔ y ∣ x := by
  have tolerance : Predicate.tolerance.decode = .finite false 7737125245533627 (-86) := by
    decide +kernel
  have small : Decoded.ratio 7737125245533627 (-86) = (7737125245533627, 2 ^ 86) := rfl
  have ofFirst := units_of_value (Int.min_le_left e f) first
  have ofSecond := units_of_value (Int.min_le_right e f) second
  simp only [Predicate.remainderIsSmall, tolerance, small, Decoded.ratio_eq, Nat.pow_eq]
  generalize min e f = k at *
  have remainder : m * 2 ^ (e - k).toNat % (w * 2 ^ (f - k).toNat) * 2 ^ k.toNat =
      x.natAbs % y.natAbs * 2 ^ (-k).toNat := by
    rw [← Nat.mul_mod_mul_right, ofFirst, ofSecond, Nat.mul_mod_mul_right]
  rw [remainder, Nat.mul_right_comm, decide_eq_true_eq,
    Nat.mul_lt_mul_right (Nat.two_pow_pos _), ← Int.natAbs_dvd_natAbs, Nat.dvd_iff_mod_eq_zero]
  omega

theorem dividesApproximately_iff {a b : Decoded} {x y : Int} (first : a.value? = some (x : ℚ))
    (second : b.value? = some (y : ℚ)) :
    Predicate.dividesApproximately a b = true ↔ y ≠ 0 ∧ y ∣ x := by
  cases a with
  | nan _ | infinite _ => cases first
  | finite s m e =>
    cases b with
    | nan _ | infinite _ => cases second
    | finite t w f =>
      have zero : w ≠ 0 ↔ y ≠ 0 := by
        have units := units_of_value (Int.le_refl f) second
        rw [Int.sub_self, Int.toNat_zero, Nat.pow_zero, Nat.mul_one] at units
        refine not_congr ⟨fun nothing => ?_, fun nothing => ?_⟩
        · rw [nothing, Nat.zero_mul] at units
          have size := (Nat.mul_eq_zero.mp units.symm).resolve_right (Nat.two_pow_pos _).ne'
          omega
        · rw [nothing, Int.natAbs_zero, Nat.zero_mul] at units
          exact (Nat.mul_eq_zero.mp units).resolve_right (Nat.two_pow_pos _).ne'
      rw [Predicate.dividesApproximately, Bool.and_eq_true, remainderIsSmall_iff first second,
        bne_iff_ne, zero]

/-! ### Numbers beyond 64 bits -/

theorem toDouble_of_integer? (value : v.integer? = some z) :
    Coerce.toDouble v = .ok (Binary.ofInt z) := by
  have through {w : Value} (found : v.indirect = some w) : Coerce.toDouble v = Coerce.toDouble w :=
    Value.eq_of_indirect (f := Coerce.toDouble) (fun _ => rfl) found
  unfold Value.integer? at value
  split at value
  · rename_i x found
    rw [through found, ← Option.some.inj value]
    rfl
  · rename_i x found
    rw [through found, ← Option.some.inj value]
    have positive : decide ((x.toNat : Int) < 0) = false := decide_eq_false (by omega)
    rw [Binary.ofInt, positive]
    rfl
  · rename_i x found
    rw [through found, ← Option.some.inj value]
    rfl
  · cases value

theorem stands_of_double {x : Binary64} {y : Int} (value : v.integer? = some z)
    (limit : x.decode.value? = some (y : ℚ)) : Stands v (.float64 x) (inDouble z) y := by
  have fits := (Coerce.wide_of_integer? (.integer .i128) value).2.2
  rw [Coerce.wide_contains_iff] at fits
  have rounded := value?_inDouble (z := z) (by omega)
  have double := toDouble_of_integer? value
  have numeric := isNumeric_of_integer? value
  obtain ⟨_, word, _⟩ := Value.exists_word_of_integer? value
  have noWord : (Value.float64 x).word? = none := rfl
  have number : (Value.float64 x).isNumeric = true := rfl
  have itself : Coerce.toDouble (.float64 x) = .ok x := rfl
  constructor
  · simp only [Predicate.compare?, word, noWord, numeric, number, Bool.and_self, if_true, double,
      itself]
    exact Decoded.compare?_integer rounded limit
  · simp only [Predicate.multipleOf, word, noWord, numeric, number, Bool.and_self, if_true, double,
      itself]
    exact dividesApproximately_iff rounded limit

theorem readNumber?_beyond {p : String} (spelled : Spells p n) (beyond : ¬ Fits n)
    (bound : n.natAbs ≤ 2 ^ 128) : readNumber? p = some (.float64 (Binary.ofInt n)) := by
  have signedRange : Range.signed 64 = ⟨-2 ^ 63, 2 ^ 63 - 1⟩ := rfl
  have unsignedRange : Range.unsigned 64 = ⟨0, 2 ^ 64 - 1⟩ := rfl
  have finite := isFinite_of_value (value?_inDouble bound)
  have n_ne : n ≠ 0 := by
    rintro rfl
    exact beyond (by decide)
  have noSigned : (Range.signed 64).contains n = false := by
    rw [Bool.eq_false_iff, ne_eq, Range.contains_iff, signedRange]
    unfold Fits at beyond
    dsimp only
    omega
  have noUnsigned : (Range.unsigned 64).contains n = false := by
    rw [Bool.eq_false_iff, ne_eq, Range.contains_iff, unsignedRange]
    unfold Fits at beyond
    dsimp only
    omega
  rw [readNumber?, Range.read?_of_outside (by decide) spelled noSigned,
    Range.read?_of_outside (by decide) spelled noUnsigned]
  simp only [readBinary_of_spells spelled n_ne, finite, if_true]

/-- A check reads a parameter as the number that it spells, or as the double next to it. -/
theorem stands_seen {p : String} (spelled : Spells p n) (wide : Coerce.wide.contains n = true)
    (value : v.integer? = some z) :
    ∃ w, readNumber? (Text.trim p) = some w ∧ Stands v w (seen n z) (seen n n) := by
  rw [trim_of_spells spelled]
  unfold seen
  by_cases fits : Fits n
  · obtain ⟨w, found, limit⟩ := readNumber?_of_spells spelled fits.1 fits.2
    rw [if_pos fits, if_pos fits]
    exact ⟨w, found, stands_of_integers value limit⟩
  · rw [Coerce.wide_contains_iff] at wide
    have bound : n.natAbs ≤ 2 ^ 128 := by omega
    rw [if_neg fits, if_neg fits]
    exact ⟨_, readNumber?_beyond spelled fits bound, stands_of_double value (value?_inDouble bound)⟩

/-! ### Rules -/

theorem checkKind_seen {r : Rule} (compares : k.comparesNumbers = true)
    (spelled : List.Forall₂ Spells r.params ns) (wide : ∀ n ∈ ns, Coerce.wide.contains n = true)
    (value : v.integer? = some z) :
    checkKind k r v = .ok () ↔ ∃ n, k.Reads ns n ∧ k.Asks (seen n n) (seen n z) := by
  have numeric := isNumeric_of_integer? value
  unfold Rule.Kind.Reads
  by_cases enum : k = .enum
  · subst enum
    have reads : List.Forall₂ (fun p n => ∃ w, readNumber? (Text.trim p) = some w ∧
        Stands v w (seen n z) (seen n n)) r.params ns :=
      (((List.forall₂_and_left _ _).mpr ⟨wide, spelled.flip⟩).imp fun _ _ param =>
        stands_seen param.2 param.1 value).flip
    exact require_ok_iff.trans (isListed_iff numeric reads)
  · simp only [if_neg enum]
    cases params : r.params with
    | nil =>
      rw [params] at spelled
      cases spelled
      have raw : rawParam r = "" := by
        rw [rawParam, Rule.param?, params]
        rfl
      rw [checkKind_number compares enum numeric, checkNumber, numberOf, raw, readNumber?_empty]
      refine iff_of_false (fun passed => ?_) (fun asked => ?_)
      · cases passed
      · obtain ⟨_, nothing, _⟩ := asked
        cases nothing
    | cons p ps =>
      rw [params] at spelled
      cases spelled with
      | @cons _ n _ ms first later =>
        have raw : rawParam r = Text.trim p := by
          rw [rawParam, Rule.param?, params]
          rfl
        obtain ⟨w, found, stands⟩ := stands_seen first (wide n List.mem_cons_self) value
        rw [← raw] at found
        rw [checkKind_number_iff compares enum numeric found stands]
        simp

theorem blurs_iff (compares : k.comparesNumbers = true) (first : n.natAbs ≤ 2 ^ 128)
    (second : z.natAbs ≤ 2 ^ 128) :
    k.Blurs n z ↔ ¬ (k.Asks (inDouble n) (inDouble z) ↔ k.Asks n z) := by
  have above := inDouble_mono (a := n) (b := z) first second
  have below := inDouble_mono (a := z) (b := n) second first
  cases k with
  | min | gte | lt | max | lte | gt =>
    simp only [Rule.Kind.Blurs, Rule.Kind.Asks]
    omega
  | enum =>
    have same : z = n → inDouble z = inDouble n := congrArg inDouble
    simp only [Rule.Kind.Blurs, Rule.Kind.Asks]
    omega
  | multipleOf => exact Iff.rfl
  | _ => cases compares

/-- A rule goes wrong about an integer where the number that it looks at does not fit and the
rounding shows; an enumeration that lists the integer does not. -/
def Misjudges (k : Rule.Kind) (ns : List Int) (z : Int) : Prop :=
  ∃ n, k.Reads ns n ∧ ¬ Fits n ∧ k.Blurs n z ∧ (k = .enum → z ∉ ns)

theorem asks_seen_iff (compares : k.comparesNumbers = true) (first : n.natAbs ≤ 2 ^ 128)
    (second : z.natAbs ≤ 2 ^ 128) :
    (k.Asks (seen n n) (seen n z) ↔ k.Asks n z) ↔ ¬ (¬ Fits n ∧ k.Blurs n z) := by
  unfold seen
  by_cases fits : Fits n
  · rw [if_pos fits, if_pos fits]
    exact iff_of_true Iff.rfl fun h => h.1 fits
  · rw [if_neg fits, if_neg fits, blurs_iff compares first second]
    simp [fits]

theorem asksOf_seen_iff (compares : k.comparesNumbers = true) (first : ∀ n ∈ ns, n.natAbs ≤ 2 ^ 128)
    (second : z.natAbs ≤ 2 ^ 128) :
    ((∃ n, k.Reads ns n ∧ k.Asks (seen n n) (seen n z)) ↔ k.AsksOf ns z) ↔ ¬ Misjudges k ns z := by
  unfold Misjudges Rule.Kind.AsksOf Rule.Kind.Reads
  by_cases enum : k = .enum
  · subst enum
    simp only [if_true, Rule.Kind.Asks, Rule.Kind.Blurs]
    constructor
    · rintro agrees ⟨n, member, beyond, blurred, absent⟩
      have listed : seen n z = seen n n := by
        rw [seen, seen, if_neg beyond, if_neg beyond]
        exact blurred.2
      obtain ⟨m, there, rfl⟩ := agrees.mp ⟨n, member, listed⟩
      exact absent trivial there
    · intro clear
      constructor
      · rintro ⟨n, member, same⟩
        by_contra absent
        have other : z ≠ n := fun here => absent ⟨n, member, here⟩
        by_cases fits : Fits n
        · rw [seen, seen, if_pos fits, if_pos fits] at same
          exact other same
        · rw [seen, seen, if_neg fits, if_neg fits] at same
          exact clear ⟨n, member, fits, ⟨other, same⟩, fun _ there => absent ⟨z, there, rfl⟩⟩
      · rintro ⟨n, member, rfl⟩
        exact ⟨z, member, rfl⟩
  · simp only [if_neg enum]
    cases ns with
    | nil => simp
    | cons n ms =>
      have single := asks_seen_iff compares (first n List.mem_cons_self) second
      simpa [enum] using single

/-- A check sees an integer in double width wherever the number of the rule has more than 64 bits.
It finds what the rule asks of the integers themselves exactly if the rounding leaves their order
and their divisors alone. -/
theorem run_wide_iff {rule : Rule} (kind : rule.kind? = some k)
    (compares : k.comparesNumbers = true) (spelled : List.Forall₂ Spells rule.params ns)
    (wide : ∀ n ∈ ns, IntegerType.i128.range.contains n = true) (value : v.integer? = some z) :
    ((run [rule] v).isOk = true ↔ ∃ n, k.Reads ns n ∧ k.Asks (seen n n) (seen n z)) ∧
      (((run [rule] v).isOk = true ↔ k.AsksOf ns z) ↔ ¬ Misjudges k ns z) := by
  have seen : (run [rule] v).isOk = true ↔ ∃ n, k.Reads ns n ∧ k.Asks (seen n n) (seen n z) := by
    rw [run_single_iff (isNil_of_integer? value), checkRule, kind]
    exact checkKind_seen compares spelled wide value
  have fits := (Coerce.wide_of_integer? (.integer .i128) value).2.2
  rw [Coerce.wide_contains_iff] at fits
  refine ⟨seen, ?_⟩
  rw [seen]
  refine asksOf_seen_iff compares (fun n member => ?_) (by omega)
  have bound := Coerce.wide_contains_iff.mp (wide n member)
  omega

theorem spells_decimal {p : String} {n : Int} (text : p = integerText n) : Spells p n :=
  text ▸ spells_integerText n

/-- The largest number that fits, and the first integer above it. -/
theorem run_largest : Rule.kind? ⟨"max", ["18446744073709551615"]⟩ = some .max ∧
    Spells "18446744073709551615" (2 ^ 64 - 1) ∧
    (Value.bigInt 18446744073709551616).integer? = some (2 ^ 64) ∧
    ((run [⟨"max", ["18446744073709551615"]⟩] (.bigInt 18446744073709551616)).isOk = true ↔
      Rule.Kind.max.AsksOf [2 ^ 64 - 1] (2 ^ 64)) := by
  have spelled : Spells "18446744073709551615" (2 ^ 64 - 1) := spells_decimal (by decide +kernel)
  have value : (Value.bigInt 18446744073709551616).integer? = some (2 ^ 64) := by decide +kernel
  have fits : Fits (2 ^ 64 - 1) := by decide
  have wide : ∀ n ∈ [(2 ^ 64 - 1 : Int)], IntegerType.i128.range.contains n = true := by decide
  refine ⟨rfl, spelled, value, (run_wide_iff rfl rfl (.cons spelled .nil) wide value).2.mpr ?_⟩
  rintro ⟨n, read, beyond, _⟩
  obtain rfl := Option.some.inj read
  exact beyond fits

/-- One more than the smallest number that does not fit passes for it. -/
theorem run_beyond_largest : Rule.kind? ⟨"max", ["18446744073709551616"]⟩ = some .max ∧
    Spells "18446744073709551616" (2 ^ 64) ∧
    (Value.bigInt 18446744073709551617).integer? = some (2 ^ 64 + 1) ∧
    (run [⟨"max", ["18446744073709551616"]⟩] (.bigInt 18446744073709551617)).isOk = true ∧
    ¬ Rule.Kind.max.AsksOf [2 ^ 64] (2 ^ 64 + 1) := by
  refine ⟨rfl, spells_decimal (by decide +kernel), by decide +kernel, by decide +kernel, ?_⟩
  rintro ⟨n, read, asked⟩
  obtain rfl := Option.some.inj read
  have within : (2 ^ 64 + 1 : Int) ≤ 2 ^ 64 := asked
  omega

end Check

end TagSchema
