import TagSchema.Proofs.Coerce.Whole

/-!
# The ends of the widest integers

`toInteger_wide_iff`: text reaches both ends of the signed integer of 128 bits, but half of the
unsigned one only, and a number in floating point does not reach the lower end of the signed one.
-/

namespace TagSchema.Coerce

open TagSchema.Number

variable {v : Value} {z : Int}

/-- A number in floating point that is an integer. -/
inductive Whole : Value → Int → Prop
  | double {x : Binary64} {z : Int} (value : x.decode.value? = some (z : ℚ)) : Whole (.float64 x) z
  | single {x : Binary32} {z : Int} (value : x.decode.value? = some (z : ℚ)) : Whole (.float32 x) z

theorem toWide_of_whole (whole : Whole v z) (target : Target) :
    (z.natAbs < 2 ^ 127 → toWide target v = .ok z) ∧
      (2 ^ 127 ≤ z.natAbs → ∃ source text, toWide target v =
        .error (.overflow source text target)) := by
  cases whole with
  | double value =>
    exact ⟨fun small => wholeNumber_ok_iff.mpr ⟨value, small⟩,
      fun large => ⟨.float64, wholeNumber_overflow value large _ _⟩⟩
  | single value =>
    have widened := Binary.value?_convert value
    exact ⟨fun small => wholeNumber_ok_iff.mpr ⟨widened, small⟩,
      fun large => ⟨.float32, wholeNumber_overflow widened large _ _⟩⟩

theorem toBigInt_of_whole (whole : Whole v z) : toBigInt v = toWide .bigInt v := by
  cases whole <;> rfl

theorem toWide_integerText (z : Int) (target : Target) :
    (wide.contains z = true → toWide target (.string (integerText z)) = .ok z) ∧
      (wide.contains z = false → ∃ text, toWide target (.string (integerText z)) =
        .error (.overflow .string text target)) := by
  have spelled := spells_integerText z
  rw [← trim_of_spells spelled] at spelled
  exact wideOfString_of_spells target spelled

/-- Every signed integer of 128 bits arrives from its text, and an unsigned one exactly if it is
signed as well. From floating point every signed one arrives but the lowest. What does not arrive is
refused as too large. -/
theorem toInteger_wide_iff (z : Int) :
    (IntegerType.i128.range.contains z = true →
      toInteger .i128 (.string (integerText z)) = .ok z) ∧
    (IntegerType.u128.range.contains z = true →
      (z < 2 ^ 127 → toInteger .u128 (.string (integerText z)) = .ok z) ∧
      (2 ^ 127 ≤ z → ∃ text, toInteger .u128 (.string (integerText z)) =
        .error (.overflow .string text (.integer .u128)))) ∧
    ∀ v, Whole v z → IntegerType.i128.range.contains z = true →
      (z ≠ -2 ^ 127 → toInteger .i128 v = .ok z ∧ toBigInt v = .ok z) ∧
      (z = -2 ^ 127 →
        (∃ source text, toInteger .i128 v = .error (.overflow source text (.integer .i128))) ∧
        ∃ source text, toBigInt v = .error (.overflow source text .bigInt)) := by
  refine ⟨fun fits => ?_, fun fits => ⟨fun small => ?_, fun large => ?_⟩,
    fun v whole fits => ⟨fun other => ?_, fun lowest => ?_⟩⟩
  · rw [toInteger_of_wide ((toWide_integerText z _).1 fits), fits, if_pos rfl]
  · have signed : wide.contains z = true := by
      have low : IntegerType.u128.range.lo = 0 := rfl
      rw [Range.contains_iff] at fits
      rw [wide_contains_iff]
      omega
    rw [toInteger_of_wide ((toWide_integerText z _).1 signed), fits, if_pos rfl]
  · have outside : wide.contains z = false := by
      rw [Bool.eq_false_iff, ne_eq, wide_contains_iff]
      omega
    obtain ⟨text, refused⟩ := (toWide_integerText z (.integer .u128)).2 outside
    exact ⟨text, toInteger_of_overflow refused⟩
  · have bounds := wide_contains_iff.mp fits
    have small : z.natAbs < 2 ^ 127 := by omega
    rw [toBigInt_of_whole whole, toInteger_of_wide ((toWide_of_whole whole _).1 small), fits,
      if_pos rfl]
    exact ⟨rfl, (toWide_of_whole whole _).1 small⟩
  · have large : 2 ^ 127 ≤ z.natAbs := by omega
    obtain ⟨source, text, refused⟩ := (toWide_of_whole whole (.integer .i128)).2 large
    rw [toBigInt_of_whole whole]
    exact ⟨⟨source, text, toInteger_of_overflow refused⟩, (toWide_of_whole whole _).2 large⟩

/-- The lowest signed integer of 128 bits, which is a double. -/
def lowest : Value := .float64 (Binary.ofInt (-2 ^ 127))

theorem whole_lowest : Whole lowest (-2 ^ 127) :=
  .double (Decoded.whole?_eq_some_iff.mp (by decide +kernel))

theorem toInteger_wide_ends :
    toInteger .i128 (.string "-170141183460469231731687303715884105728") = .ok (-2 ^ 127) ∧
      toInteger .u128 (.string "170141183460469231731687303715884105727") = .ok (2 ^ 127 - 1) ∧
      Whole (.float64 (Binary.ofInt (2 ^ 126))) (2 ^ 126) ∧
      toInteger .i128 (.float64 (Binary.ofInt (2 ^ 126))) = .ok (2 ^ 126) := by
  have low : "-170141183460469231731687303715884105728" = integerText (-2 ^ 127) := by
    decide +kernel
  have high : "170141183460469231731687303715884105727" = integerText (2 ^ 127 - 1) := by
    decide +kernel
  have whole : Whole (.float64 (Binary.ofInt (2 ^ 126))) (2 ^ 126) :=
    .double (Decoded.whole?_eq_some_iff.mp (by decide +kernel))
  have ⟨signed, _⟩ := toInteger_wide_iff (-2 ^ 127)
  have ⟨_, unsigned, _⟩ := toInteger_wide_iff (2 ^ 127 - 1)
  have ⟨_, _, floating⟩ := toInteger_wide_iff (2 ^ 126)
  rw [low, high]
  exact ⟨signed (by decide), (unsigned (by decide)).1 (by decide), whole,
    ((floating _ whole (by decide)).1 (by decide)).1⟩

theorem toInteger_lowest_refused : Whole lowest (-2 ^ 127) ∧
    toInteger .i128 lowest ≠ .ok (-2 ^ 127) ∧ toBigInt lowest ≠ .ok (-2 ^ 127) ∧
    toInteger .u128 (.string (integerText (2 ^ 127))) ≠ .ok (2 ^ 127) := by
  have differs {a b : Except Error Int} (h : a.toOption ≠ b.toOption) : a ≠ b :=
    fun same => h (congrArg _ same)
  exact ⟨whole_lowest, differs (by decide +kernel), differs (by decide +kernel),
    differs (by decide +kernel)⟩

end TagSchema.Coerce
