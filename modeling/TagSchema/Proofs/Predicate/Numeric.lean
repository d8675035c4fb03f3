import Mathlib.Order.Compare
import TagSchema.Predicate.Numeric

/-!
# Order and divisibility of integers

Integers of every kind meet as words of 128 bits. `relations_iff` says that order and divisibility
of the words are those of the integers, also where a quotient is too large for a word, and that
nothing holds of a value that is no number.
-/

namespace TagSchema

namespace Value

/-- The value is an integer behind any number of pointers. -/
inductive Denotes : Value → Int → Prop where
  | int (n : Int64) : Denotes (.int n) n.toInt
  | uint (n : UInt64) : Denotes (.uint n) n.toNat
  | bigInt (n : BitVec 128) : Denotes (.bigInt n) n.toInt
  | pointer {v : Value} {z : Int} (target : Denotes v z) : Denotes (.pointer v) z

/-- The value is a number of some kind behind any number of pointers. -/
inductive IsNumber : Value → Prop where
  | int (n : Int64) : IsNumber (.int n)
  | uint (n : UInt64) : IsNumber (.uint n)
  | float32 (x : Number.Binary32) : IsNumber (.float32 x)
  | float64 (x : Number.Binary64) : IsNumber (.float64 x)
  | bigInt (n : BitVec 128) : IsNumber (.bigInt n)
  | pointer {v : Value} (target : IsNumber v) : IsNumber (.pointer v)

variable {v : Value} {z : Int}

theorem Denotes.integer? (denotes : Denotes v z) : v.integer? = some z := by
  induction denotes with
  | pointer _ ih => exact ih
  | _ => rfl

theorem isNumber_of_isNumeric : ∀ {v : Value}, v.isNumeric = true → IsNumber v
  | .pointer _, h => .pointer (isNumber_of_isNumeric h)
  | .int n, _ => .int n
  | .uint n, _ => .uint n
  | .float32 x, _ => .float32 x
  | .float64 x, _ => .float64 x
  | .bigInt n, _ => .bigInt n

/-! ### Words -/

/-- A word holds the integer that it was made of. -/
theorem integer?_eq_toInt (v : Value) : v.integer? = v.word?.map BitVec.toInt := by
  unfold Value.integer? word?
  cases v.indirect with
  | none => rfl
  | some w =>
    cases w with
    | int n =>
      show some n.toInt = some (n.toBitVec.signExtend 128).toInt
      rw [BitVec.toInt_signExtend_of_le (by decide)]
      rfl
    | uint n =>
      show some (n.toNat : Int) = some (n.toBitVec.setWidth 128).toInt
      have width := n.toNat_lt
      have same : (n.toBitVec.setWidth 128).toNat = n.toNat :=
        BitVec.toNat_setWidth_of_le (by decide)
      rw [BitVec.toInt_eq_toNat_of_lt (by omega), same]
    | _ => rfl

theorem exists_word_of_integer? (value : v.integer? = some z) :
    ∃ w, v.word? = some w ∧ w.toInt = z := by
  rw [integer?_eq_toInt] at value
  exact Option.map_eq_some_iff.mp value

theorem isNumeric_of_word? {w : BitVec 128} (word : v.word? = some w) : v.isNumeric = true := by
  unfold word? at word
  unfold isNumeric
  split at word
  · rename_i behind
    rw [behind]
  · rename_i behind
    rw [behind]
  · rename_i behind
    rw [behind]
  · cases word

end Value

namespace Predicate

variable {v limit : Value} {a b : Int}

/-! ### Integers -/

/-- The division that has no remainder for the size of its quotient is one that leaves nothing. -/
theorem remainder?_zero_iff {a d : BitVec 128} (divisor : d ≠ 0) :
    (remainder? a d).all (· == 0) = true ↔ d.toInt ∣ a.toInt := by
  unfold remainder?
  split
  · -- The divisor is minus one, of which every integer is a multiple.
    rename_i cause
    obtain ⟨-, rfl⟩ := cause.resolve_left divisor
    have unit : (-1 : BitVec 128).toInt = -1 := by decide
    rw [unit]
    simp
  · rw [Option.all_some, beq_iff_eq, ← BitVec.toInt_inj, BitVec.toInt_srem,
      Int.dvd_iff_tmod_eq_zero]
    rfl

theorem compare?_integers (value : v.integer? = some a) (bound : limit.integer? = some b) :
    compare? v limit = some (compare a b) := by
  obtain ⟨x, word, rfl⟩ := Value.exists_word_of_integer? value
  obtain ⟨y, word', rfl⟩ := Value.exists_word_of_integer? bound
  rw [compare?, word, word']

theorem multipleOf_integers_iff (value : v.integer? = some a) (divisor : limit.integer? = some b) :
    multipleOf v limit = true ↔ b ≠ 0 ∧ b ∣ a := by
  obtain ⟨x, word, rfl⟩ := Value.exists_word_of_integer? value
  obtain ⟨y, word', rfl⟩ := Value.exists_word_of_integer? divisor
  have zero : y = 0 ↔ y.toInt = 0 := BitVec.toInt_inj.symm
  rw [multipleOf, word, word', Bool.and_eq_true, bne_iff_ne, ne_eq, zero]
  exact and_congr_right fun some => remainder?_zero_iff (mt zero.mp some)

section

variable (order : compare? v limit = some (compare a b))

include order

theorem lt_iff : lt v limit = true ↔ a < b := by
  rw [lt, order, beq_iff_eq, Option.some.injEq, Int.compare_eq_lt]

theorem lte_iff : lte v limit = true ↔ a ≤ b := by
  rw [lte, order, Option.any_some, bne_iff_ne, Int.compare_ne_gt]

theorem gt_iff : gt v limit = true ↔ b < a := by
  rw [gt, order, beq_iff_eq, Option.some.injEq, Int.compare_eq_gt]

theorem gte_iff : gte v limit = true ↔ b ≤ a := by
  rw [gte, order, Option.any_some, bne_iff_ne, Int.compare_ne_lt]

end

/-! ### Values that are no numbers -/

theorem compare?_of_not_numeric (h : (v.isNumeric && limit.isNumeric) = false) :
    compare? v limit = none := by
  unfold compare?
  split
  · rename_i word word'
    rw [Value.isNumeric_of_word? word, Value.isNumeric_of_word? word'] at h
    cases h
  · rw [h, if_neg Bool.false_ne_true]

theorem multipleOf_of_not_numeric (h : (v.isNumeric && limit.isNumeric) = false) :
    multipleOf v limit = false := by
  unfold multipleOf
  split
  · rename_i word word'
    rw [Value.isNumeric_of_word? word, Value.isNumeric_of_word? word'] at h
    cases h
  · rw [h, if_neg Bool.false_ne_true]

/-- Integers of every kind are in their order, and multiples of their divisors; what is no number is
in no order and a multiple of nothing. -/
theorem relations_iff (v limit : Value) :
    (∀ a b, v.Denotes a → limit.Denotes b →
      (lt v limit = true ↔ a < b) ∧ (lte v limit = true ↔ a ≤ b) ∧
      (gt v limit = true ↔ a > b) ∧ (gte v limit = true ↔ a ≥ b) ∧
      (multipleOf v limit = true ↔ b ≠ 0 ∧ b ∣ a)) ∧
    (¬ v.IsNumber ∨ ¬ limit.IsNumber →
      lt v limit = false ∧ lte v limit = false ∧ gt v limit = false ∧ gte v limit = false ∧
      multipleOf v limit = false) := by
  constructor
  · intro a b value bound
    have order := compare?_integers value.integer? bound.integer?
    exact ⟨lt_iff order, lte_iff order, gt_iff order, gte_iff order,
      multipleOf_integers_iff value.integer? bound.integer?⟩
  · intro none
    have numeric : (v.isNumeric && limit.isNumeric) = false := by
      have noNumber {w : Value} (h : ¬ w.IsNumber) : w.isNumeric = false :=
        Bool.eq_false_iff.mpr (mt Value.isNumber_of_isNumeric h)
      exact Bool.and_eq_false_iff.mpr (none.imp noNumber noNumber)
    rw [lt, lte, gt, gte, compare?_of_not_numeric numeric]
    exact ⟨rfl, rfl, rfl, rfl, multipleOf_of_not_numeric numeric⟩

/-- The least word behind a pointer is a multiple of minus one, though its quotient is too large; a
nil pointer is a multiple of nothing. -/
theorem relations_least : (∃ a b, (Value.pointer (.bigInt (.intMin 128))).Denotes a ∧
      (Value.int (-1)).Denotes b ∧ a < b ∧ b ∣ a) ∧
    lt (.pointer (.bigInt (.intMin 128))) (.int (-1)) = true ∧
    multipleOf (.pointer (.bigInt (.intMin 128))) (.int (-1)) = true ∧
    ¬ (Value.pointer .nilPointer).IsNumber ∧
    multipleOf (.pointer .nilPointer) (.int (-1)) = false := by
  have value : (Value.pointer (.bigInt (.intMin 128))).Denotes (-2 ^ 127) :=
    .pointer (.bigInt (.intMin 128))
  have divisor : (Value.int (-1)).Denotes (-1) := .int (-1)
  have nowhere : ¬ (Value.pointer .nilPointer).IsNumber := by
    rintro (_ | _ | _ | _ | _ | target)
    cases target
  obtain ⟨less, _, _, _, divides⟩ := (relations_iff _ _).1 _ _ value divisor
  obtain ⟨_, _, _, _, undivided⟩ := (relations_iff _ (.int (-1))).2 (.inl nowhere)
  exact ⟨⟨_, _, value, divisor, by decide, by decide⟩, less.mpr (by decide),
    divides.mpr ⟨by decide, by decide⟩, nowhere, undivided⟩

end Predicate

end TagSchema
