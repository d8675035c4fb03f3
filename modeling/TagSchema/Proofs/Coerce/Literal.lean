import TagSchema.Coerce.Literal
import TagSchema.Proofs.Number.Literal

/-!
# Narrowing to literals

`toLiteral_normal`: narrowing keeps every number but the integers in text that neither 64 bits nor a
double hold, and narrows no further what it has narrowed, up to the strings that are not `Settled`.
-/

namespace TagSchema.Coerce

open TagSchema.Number

variable {l : Layout} {v : Value} {s : String} {q r : ℚ} {n z : Int}

/-- The number that a value holds. -/
inductive Holds : Value → ℚ → Prop
  | int (n : Int64) : Holds (.int n) n.toInt
  | uint (n : UInt64) : Holds (.uint n) n.toNat
  | bigInt (n : BitVec 128) : Holds (.bigInt n) n.toInt
  | float64 {x : Binary64} {q : ℚ} (value : x.decode.value? = some q) : Holds (.float64 x) q
  | float32 {x : Binary32} {q : ℚ} (value : x.decode.value? = some q) : Holds (.float32 x) q

/-- The number that a literal stands for, a truth value for one or zero. -/
inductive StandsFor : Value → ℚ → Prop
  | number {v : Value} {q : ℚ} (holds : Holds v q) : StandsFor v q
  | one : StandsFor (.bool true) 1
  | zero : StandsFor (.bool false) 0

theorem Holds.unique (first : Holds v q) (second : Holds v r) : q = r := by
  cases first with
  | int | uint | bigInt =>
    cases second
    rfl
  | float64 value | float32 value =>
    cases second with
    | _ value' => exact Option.some.inj (value.symm.trans value')

theorem StandsFor.unique (first : StandsFor v q) (second : StandsFor v r) : q = r := by
  cases first with
  | number holds =>
    cases second with
    | number holds' => exact holds.unique holds'
    | one | zero => cases holds
  | one | zero =>
    cases second with
    | number holds => cases holds
    | _ => rfl

/-! ### Numbers -/

/-- What becomes of a floating-point number that is narrowed. -/
inductive Narrowed (x : Binary l) : Option Value → Prop
  | one (value : x.decode.value? = some 1) : Narrowed x (some (.bool true))
  | zero (value : x.decode.value? = some 0) : Narrowed x (some (.bool false))
  | whole {n : Int} (value : x.decode.value? = some (n : ℚ)) (noTruth : n ≠ 0 ∧ n ≠ 1)
      (small : n.natAbs < 9200000000000000000) : Narrowed x (some (.int (Int64.ofInt n)))
  | kept (large : ∀ n : Int, x.decode.value? = some (n : ℚ) → 9200000000000000000 ≤ n.natAbs) :
      Narrowed x none

theorem narrowed (x : Binary l) : Narrowed x (narrowNumber x) := by
  unfold narrowNumber
  split
  · rename_i n whole
    have value := Decoded.whole?_eq_some_iff.mp whole
    split
    · rename_i one
      exact .one (by rw [value, one, Int.cast_one])
    · split
      · rename_i zero
        exact .zero (by rw [value, zero, Int.cast_zero])
      · split
        · rename_i noOne noZero small
          exact .whole value ⟨noZero, noOne⟩ small
        · rename_i large
          refine .kept fun m same => ?_
          rw [value, Option.some.injEq, Int.cast_inj] at same
          omega
  · rename_i fraction
    refine .kept fun n value => ?_
    rw [Decoded.whole?_eq_some_iff.mpr value] at fraction
    cases fraction

theorem toLiteral_int_iff {k : Int64} :
    toLiteral (.int k) = .int k ↔ k.toInt ≠ 0 ∧ k.toInt ≠ 1 := by
  have value (n : Int64) : k.toInt ≠ n.toInt ↔ k ≠ n := Int64.toInt_inj.not
  have zero : (0 : Int64).toInt = 0 := rfl
  have one : (1 : Int64).toInt = 1 := rfl
  rw [← zero, ← one, value, value, toLiteral]
  split
  · rename_i same
    exact iff_of_false nofun fun h => h.2 same
  · split
    · rename_i same
      exact iff_of_false nofun fun h => h.1 same
    · rename_i noOne noZero
      exact iff_of_true rfl ⟨noZero, noOne⟩

theorem toInt_of_narrowed (small : n.natAbs < 9200000000000000000) :
    (Int64.ofInt n).toInt = n :=
  Int64.toInt_ofInt_of_le (by omega) (by omega)

/-- A number that is kept is kept again, and truth values and integers are not narrowed further. -/
theorem toLiteral_idempotent (noText : ∀ s, v ≠ .string s) :
    toLiteral (toLiteral v) = toLiteral v := by
  have float {l : Layout} {w : Value} {result : Option Value} {x : Binary l}
      (narrow : toLiteral w = result.getD w) (h : Narrowed x result) :
      toLiteral (toLiteral w) = toLiteral w := by
    rw [narrow]
    cases h with
    | one | zero => rfl
    | whole value noTruth small => exact toLiteral_int_iff.mpr (by rwa [toInt_of_narrowed small])
    | kept => exact narrow
  cases v with
  | string s => exact (noText s rfl).elim
  | float64 x => exact float rfl (narrowed x)
  | float32 x => exact float rfl (narrowed x)
  | int k | uint k =>
    by_cases one : k = 1
    · rw [toLiteral, if_pos one]
      rfl
    · by_cases zero : k = 0
      · rw [toLiteral, if_neg one, if_pos zero]
        rfl
      · rw [toLiteral, if_neg one, if_neg zero, toLiteral, if_neg one, if_neg zero]
  | _ => rfl

theorem Narrowed.standsFor {x : Binary l} {result : Option Value} (h : Narrowed x result)
    (value : x.decode.value? = some q) (holds : Holds v q) : StandsFor (result.getD v) q := by
  cases h with
  | one value' =>
    rw [value', Option.some.injEq] at value
    exact value ▸ .one
  | zero value' =>
    rw [value', Option.some.injEq] at value
    exact value ▸ .zero
  | @whole n value' noTruth small =>
    rw [value', Option.some.injEq] at value
    have int := Holds.int (Int64.ofInt n)
    rw [toInt_of_narrowed small, value] at int
    exact .number int
  | kept => exact .number holds

/-- Numbers are kept. -/
theorem standsFor_toLiteral (holds : Holds v q) : StandsFor (toLiteral v) q := by
  cases holds with
  | float64 value => exact (narrowed _).standsFor value (.float64 value)
  | float32 value => exact (narrowed _).standsFor value (.float32 value)
  | bigInt k => exact .number (.bigInt k)
  | int k =>
    rw [toLiteral]
    split
    · rename_i one
      subst one
      exact .one
    · split
      · rename_i zero
        subst zero
        exact .zero
      · exact .number (.int k)
  | uint k =>
    rw [toLiteral]
    split
    · rename_i one
      subst one
      exact .one
    · split
      · rename_i zero
        subst zero
        exact .zero
      · exact .number (.uint k)

/-! ### Text -/

/-- What becomes of text: a truth value, an integer of 64 bits or a finite double, the first of them
that it can be read as. -/
inductive ReadAs (s : String) : Value → Prop
  | truth {b : Bool} (named : goBool? s = some b) : ReadAs s (.bool b)
  | integer {n : Int} (unnamed : goBool? s = none) (spelled : Spells s n)
      (fits : (Range.signed 64).contains n = true) : ReadAs s (.int (Int64.ofInt n))
  | double {x : Binary64} (unnamed : goBool? s = none)
      (outside : ∀ n, Spells s n → (Range.signed 64).contains n = false)
      (read : Binary.read? s = some x) (finite : x.isFinite = true) : ReadAs s (.float64 x)
  | text (unnamed : goBool? s = none)
      (outside : ∀ n, Spells s n → (Range.signed 64).contains n = false)
      (noDouble : ∀ x : Binary64, Binary.read? s = some x → x.isFinite = false) :
      ReadAs s (.string s)

theorem signed_contains_iff : (Range.signed 64).contains n = true ↔ -2 ^ 63 ≤ n ∧ n < 2 ^ 63 := by
  have low : (Range.signed 64).lo = -2 ^ 63 := rfl
  have high : (Range.signed 64).hi = 2 ^ 63 - 1 := rfl
  rw [Range.contains_iff, low, high, Int.le_sub_one_iff]

theorem signed_zero : (Range.signed 64).contains 0 = true := by decide

theorem outside_of_read? (none : (Range.signed 64).read? s = none) :
    ∀ n, Spells s n → (Range.signed 64).contains n = false := by
  intro n spelled
  rw [Bool.eq_false_iff]
  intro fits
  rw [Range.read?_of_spells signed_zero spelled fits (by decide)] at none
  cases none

theorem readAs_toLiteral (s : String) : ReadAs s (toLiteral (.string s)) := by
  rw [toLiteral, literalOfString]
  split
  · rename_i named
    exact .truth named
  · rename_i unnamed
    split
    · rename_i read
      obtain ⟨spelled, fits⟩ := spells_of_read? signed_zero read
      exact .integer unnamed spelled fits
    · rename_i none
      have outside := outside_of_read? none
      split
      · rename_i x read
        split
        · rename_i finite
          exact .double unnamed outside read finite
        · rename_i infinite
          refine .text unnamed outside fun y again => ?_
          rw [read, Option.some.injEq] at again
          rwa [← again, ← Bool.not_eq_true]
      · rename_i noDouble
        refine .text unnamed outside fun y again => ?_
        rw [noDouble] at again
        cases again

/-- A string whose literal is narrowed no further: an integer in it is neither one nor zero, and a
double in it has a fraction or is too large for an integer. -/
structure Settled (s : String) : Prop where
  integer : ∀ n, Spells s n → n ≠ 0 ∧ n ≠ 1
  double : (∀ n, ¬ Spells s n) → ∀ x : Binary64, Binary.read? s = some x →
    ∀ n : Int, x.decode.value? = some (n : ℚ) → 9200000000000000000 ≤ n.natAbs

theorem value_of_spells {x : Binary64} (spelled : Spells s z) (z_ne : z ≠ 0)
    (read : Binary.read? s = some x) (value : x.decode.value? = some r) :
    (IsDouble z → r = z) ∧ ∀ p, IsDouble p → |r - z| ≤ |p - z| := by
  rw [readBinary_of_spells spelled z_ne, Option.some.injEq] at read
  rw [← read] at value
  have whole : (z : ℚ) = (Decoded.signed (z < 0) z.natAbs : ℚ) / (1 : Nat) := by
    rw [Decoded.signed_natAbs, Nat.cast_one, div_one]
  constructor
  · rintro ⟨y, exact'⟩
    rw [whole] at exact'
    have same := Binary.value?_ofRatio_exact one_ne_zero exact'
    rw [← whole] at same
    exact Option.some.inj (value.symm.trans same)
  · rintro p ⟨y, other⟩
    rw [whole]
    exact Binary.value?_ofRatio_nearest one_ne_zero value other

theorem isDouble_limits : IsDouble (2 ^ 63 : Int) ∧ IsDouble (-2 ^ 63 : Int) :=
  ⟨⟨Binary.ofInt (2 ^ 63), Decoded.whole?_eq_some_iff.mp (by decide +kernel)⟩,
    ⟨Binary.ofInt (-2 ^ 63), Decoded.whole?_eq_some_iff.mp (by decide +kernel)⟩⟩

/-- Integers that 64 bits do not hold stay beyond them as doubles. -/
theorem large_of_outside {x : Binary64} (spelled : Spells s z)
    (outside : (Range.signed 64).contains z = false) (read : Binary.read? s = some x)
    (value : x.decode.value? = some (n : ℚ)) : 2 ^ 63 ≤ n.natAbs := by
  rw [Bool.eq_false_iff, ne_eq, signed_contains_iff, not_and_or] at outside
  have nearest := (value_of_spells spelled (by omega) read value).2
  obtain ⟨above, below⟩ := isDouble_limits
  have low := neg_abs_le (n - z)
  have high := le_abs_self (n - z)
  rcases outside with lower | upper
  · have gap : |n - z| ≤ |-2 ^ 63 - z| := by exact_mod_cast nearest _ below
    rw [abs_of_pos (by omega : 0 < -2 ^ 63 - z)] at gap
    omega
  · have gap : |n - z| ≤ |2 ^ 63 - z| := by exact_mod_cast nearest _ above
    rw [abs_of_nonpos (by omega : 2 ^ 63 - z ≤ 0)] at gap
    omega

theorem toLiteral_double_iff {x : Binary64} : toLiteral (.float64 x) = .float64 x ↔
    ∀ n : Int, x.decode.value? = some (n : ℚ) → 9200000000000000000 ≤ n.natAbs := by
  have narrowing := narrowed x
  rw [toLiteral]
  cases found : narrowNumber x with
  | none =>
    rw [found] at narrowing
    cases narrowing with
    | kept large => exact iff_of_true rfl large
  | some v =>
    rw [found] at narrowing
    refine iff_of_false ?_ ?_
    · cases narrowing <;> nofun
    · intro large
      cases narrowing with
      | one value => exact absurd (large 1 (by rw [value, Int.cast_one])) (by decide)
      | zero value => exact absurd (large 0 (by rw [value, Int.cast_zero])) (by decide)
      | whole value noTruth small =>
        have := large _ value
        omega

theorem toLiteral_text_iff :
    toLiteral (toLiteral (.string s)) = toLiteral (.string s) ↔
      (goBool? s).isSome = true ∨ Settled s := by
  have beyond (outside : ∀ n, Spells s n → (Range.signed 64).contains n = false) (n : Int)
      (spelled : Spells s n) : n ≠ 0 ∧ n ≠ 1 := by
    have out := outside n spelled
    constructor
    · rintro rfl
      cases out
    · rintro rfl
      cases out
  have reading := readAs_toLiteral s
  generalize same : toLiteral (.string s) = v at reading
  cases reading with
  | truth named =>
    rw [named]
    exact iff_of_true rfl (.inl rfl)
  | @integer n unnamed spelled fits =>
    have ⟨low, high⟩ := signed_contains_iff.mp fits
    rw [toLiteral_int_iff, Int64.toInt_ofInt_of_le low high, unnamed]
    constructor
    · intro noTruth
      refine .inr ⟨fun m other => spelled.unique other ▸ noTruth, fun noInteger => ?_⟩
      exact (noInteger n spelled).elim
    · intro h
      exact (h.resolve_left nofun).integer n spelled
  | @double x unnamed outside read finite =>
    rw [toLiteral_double_iff, unnamed]
    constructor
    · intro large
      refine .inr ⟨beyond outside, fun _ y again => ?_⟩
      rw [read, Option.some.injEq] at again
      rwa [← again]
    · intro h n value
      by_cases spelled : ∃ z, Spells s z
      · obtain ⟨z, spelled⟩ := spelled
        have := large_of_outside spelled (outside z spelled) read value
        omega
      · exact (h.resolve_left nofun).double (not_exists.mp spelled) x read n value
  | text unnamed outside noDouble =>
    refine iff_of_true same (.inr ⟨beyond outside, fun _ x read n value => ?_⟩)
    have finite := isFinite_of_value value
    rw [noDouble x read] at finite
    cases finite

/-- No spelling of a truth value spells an integer, but for one and zero. -/
theorem value_of_goBool? {b : Bool} (named : goBool? s = some b) (spelled : Spells s z) :
    z = if b then 1 else 0 := by
  have digit (name : String) {names : List String} {n : Int} (member : names.contains s = true)
      (read : (Range.signed 64).read? name = some n)
      (letters : ∀ other ∈ names, other = name ∨ Numeral.read? other.toList = none) : z = n := by
    rcases letters s (List.contains_iff_mem.mp member) with rfl | unread
    · exact spelled.unique (spells_of_read? signed_zero read).1
    · obtain ⟨_, _, _, numeral, _⟩ := numeral_of_literal (literal_of_spells spelled)
      rw [unread] at numeral
      cases numeral
  unfold goBool? at named
  split at named
  · rename_i member
    cases named
    exact digit "1" member (by decide) (by decide)
  · split at named
    · rename_i member
      cases named
      exact digit "0" member (by decide) (by decide)
    · cases named

theorem StandsFor.exact (stands : StandsFor v z) : (∀ r, StandsFor v r → r = z) ∧
    ∀ r p, StandsFor v r → IsDouble p → |r - z| ≤ |p - z| := by
  refine ⟨fun r other => other.unique stands, fun r p other _ => ?_⟩
  rw [other.unique stands, sub_self, abs_zero]
  exact abs_nonneg _

/-- An integer in text that is read as a double. -/
theorem standsFor_double {x : Binary64} (spelled : Spells s z) (z_ne : z ≠ 0)
    (read : Binary.read? s = some x) (finite : x.isFinite = true) :
    ((∀ r, StandsFor (.float64 x) r → r = z) ↔ IsDouble z) ∧
      ∀ r p, StandsFor (.float64 x) r → IsDouble p → |r - z| ≤ |p - z| := by
  have rounded {r : ℚ} (stands : StandsFor (.float64 x) r) := by
    cases stands with
    | number holds =>
      cases holds with
      | float64 value => exact value_of_spells spelled z_ne read value
  refine ⟨⟨fun exact' => ?_, fun double r stands => (rounded stands).1 double⟩,
    fun r p stands => (rounded stands).2 p⟩
  obtain ⟨r, value⟩ := exists_value_of_isFinite finite
  exact ⟨x, exact' r (.number (.float64 value)) ▸ value⟩

/-- An integer in text is kept if 64 bits or a double hold it, and rounded to a double otherwise. -/
theorem toLiteral_spelled (spelled : Spells s z) :
    ((∀ r, StandsFor (toLiteral (.string s)) r → r = z) ↔
      (Range.signed 64).contains z = true ∨ IsDouble z ∨ toLiteral (.string s) = .string s) ∧
    ∀ r p, StandsFor (toLiteral (.string s)) r → IsDouble p → |r - z| ≤ |p - z| := by
  have reading := readAs_toLiteral s
  generalize toLiteral (.string s) = v at reading
  cases reading with
  | @truth b named =>
    obtain rfl := value_of_goBool? named spelled
    have stands : StandsFor (.bool b) ((if b then 1 else 0 : Int) : ℚ) := by
      cases b with
      | true => simpa using StandsFor.one
      | false => simpa using StandsFor.zero
    have fits : (Range.signed 64).contains (if b then 1 else 0) = true := by
      cases b <;> decide
    exact ⟨iff_of_true stands.exact.1 (.inl fits), stands.exact.2⟩
  | @integer n unnamed other fits =>
    obtain rfl := spelled.unique other
    have ⟨low, high⟩ := signed_contains_iff.mp fits
    have int := Holds.int (Int64.ofInt z)
    rw [Int64.toInt_ofInt_of_le low high] at int
    exact ⟨iff_of_true (StandsFor.number int).exact.1 (.inl fits), (StandsFor.number int).exact.2⟩
  | @double x unnamed outside read finite =>
    have out := outside z spelled
    have z_ne : z ≠ 0 := by
      rintro rfl
      cases out
    have ⟨exact', nearest⟩ := standsFor_double spelled z_ne read finite
    refine ⟨exact'.trans ⟨fun double => .inr (.inl double), ?_⟩, nearest⟩
    rintro (fits | double | same)
    · rw [out] at fits
      cases fits
    · exact double
    · cases same
  | text unnamed outside noDouble =>
    have nothing (r : ℚ) : ¬ StandsFor (.string s) r := by
      rintro (⟨⟨⟩⟩)
    exact ⟨iff_of_true (fun r stands => (nothing r stands).elim) (.inr (.inr rfl)),
      fun r p stands => (nothing r stands).elim⟩

/-- The second narrowing is the last one. -/
theorem toLiteral_twice (v : Value) :
    toLiteral (toLiteral (toLiteral v)) = toLiteral (toLiteral v) := by
  by_cases text : ∃ s, v = .string s
  · obtain ⟨s, rfl⟩ := text
    have reading := readAs_toLiteral s
    generalize same : toLiteral (.string s) = v at reading
    cases reading with
    | text => rw [same, same]
    | truth | integer | double => exact toLiteral_idempotent nofun
  · have same := toLiteral_idempotent (not_exists.mp text)
    rw [same, same]

/-- Narrowing as a normal form: which values it does not settle at once, and which numbers it does
not keep. -/
theorem toLiteral_normal :
    (∀ v, toLiteral (toLiteral v) = toLiteral v ↔
      ∀ s, v = .string s → (goBool? s).isSome = true ∨ Settled s) ∧
    (∀ v, toLiteral (toLiteral (toLiteral v)) = toLiteral (toLiteral v)) ∧
    (∀ v q, Holds v q → ∀ r, StandsFor (toLiteral v) r ↔ r = q) ∧
    ∀ s z, Spells s z →
      ((∀ r, StandsFor (toLiteral (.string s)) r → r = z) ↔
        (Range.signed 64).contains z = true ∨ IsDouble z ∨ toLiteral (.string s) = .string s) ∧
      ∀ r p, StandsFor (toLiteral (.string s)) r → IsDouble p → |r - z| ≤ |p - z| := by
  refine ⟨fun v => ?_, toLiteral_twice, fun v q holds r => ?_, fun s z => toLiteral_spelled⟩
  · cases v with
    | string s => simp [toLiteral_text_iff]
    | _ => exact iff_of_true (toLiteral_idempotent nofun) nofun
  · have kept := standsFor_toLiteral holds
    exact ⟨fun stands => stands.unique kept, fun same => same ▸ kept⟩

theorem toLiteral_normal_four :
    StandsFor (toLiteral (.float64 (Binary.ofInt 4))) (4 : Int) ∧
      ∀ r, StandsFor (toLiteral (.string "9223372036854775808")) r →
        r = (9223372036854775808 : Int) := by
  have four : Holds (.float64 (Binary.ofInt 4)) (4 : Int) :=
    .float64 (Decoded.whole?_eq_some_iff.mp (by decide +kernel))
  have spelled : Spells "9223372036854775808" 9223372036854775808 :=
    (spells_of_read? (r := .signed 128) (by decide) (by decide +kernel)).1
  exact ⟨(toLiteral_normal.2.2.1 _ _ four _).mpr rfl,
    (toLiteral_normal.2.2.2 _ _ spelled).1.mpr (.inr (.inl isDouble_limits.1))⟩

/-- A whole number with a point becomes a double and the double an integer, and an integer that
neither 64 bits nor a double hold becomes another one. -/
theorem toLiteral_rounded :
    toLiteral (toLiteral (.string "4.0")) ≠ toLiteral (.string "4.0") ∧
      Spells "9223372036854775809" 9223372036854775809 ∧
      StandsFor (toLiteral (.string "9223372036854775809")) (9223372036854775808 : Int) := by
  have double {s : String} {x : Binary64} (unnamed : goBool? s = none)
      (noInteger : (Range.signed 64).read? s = none) (read : Binary.read? s = some x)
      (finite : x.isFinite = true) : toLiteral (.string s) = .float64 x := by
    simp only [toLiteral, literalOfString, unnamed, noInteger, read, finite, if_true]
  have four : toLiteral (.string "4.0") = .float64 (Binary.ofInt 4) :=
    double (by decide) (by decide) (by decide +kernel) (by decide +kernel)
  have large : toLiteral (.string "9223372036854775809") = .float64 (Binary.ofInt (2 ^ 63)) :=
    double (by decide) (by decide) (by decide +kernel) (by decide +kernel)
  refine ⟨?_, (spells_of_read? (r := .signed 128) (by decide) (by decide +kernel)).1, ?_⟩
  · rw [four, ne_eq, toLiteral_double_iff]
    intro large
    exact absurd (large 4 (Decoded.whole?_eq_some_iff.mp (by decide +kernel))) (by decide)
  · rw [large]
    exact .number (.float64 (Decoded.whole?_eq_some_iff.mp (by decide +kernel)))

end TagSchema.Coerce
