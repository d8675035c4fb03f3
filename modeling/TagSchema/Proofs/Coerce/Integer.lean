import TagSchema.Proofs.Coerce.Text
import TagSchema.Proofs.Number.Spelling

/-!
# Conversion of integers

`toInteger_denoted`: whatever its kind and size, an integer arrives in a target as it is if the
target has room for it, and is refused as out of range if not. It makes no difference whether it
comes as a number or as its decimal text.
-/

namespace TagSchema.Coerce

open TagSchema.Number

variable {t : IntegerType} {target : Target} {v w : Value} {n z : Int}

/-! ### The wide integer -/

theorem toWide_indirect (h : v.indirect = some w) : toWide target v = toWide target w :=
  Value.eq_of_indirect (f := toWide target) (fun _ => rfl) h

theorem wide_contains_toInt {width : Nat} (x : BitVec width) (room : width ≤ 128) :
    wide.contains x.toInt = true := by
  have low := BitVec.le_two_mul_toInt (x := x)
  have high := BitVec.two_mul_toInt_lt (x := x)
  have scale : (2 : Int) ^ width ≤ 2 ^ 128 := by
    exact_mod_cast Nat.pow_le_pow_right (by decide) room
  rw [wide_contains_iff]
  omega

/-- An integer is read and written as it is. -/
theorem wide_of_integer? (target : Target) (h : v.integer? = some z) : toWide target v = .ok z ∧
    toText v = .ok (integerText z) ∧ wide.contains z = true := by
  have toText_indirect {w : Value} (found : v.indirect = some w) : toText v = toText w :=
    Value.eq_of_indirect (f := toText) (fun _ => rfl) found
  unfold Value.integer? at h
  split at h
  · rename_i x found
    obtain rfl := Option.some.inj h
    exact ⟨toWide_indirect found, toText_indirect found,
      wide_contains_toInt x.toBitVec (by decide)⟩
  · rename_i x found
    obtain rfl := Option.some.inj h
    have bound := x.toNat_lt
    refine ⟨toWide_indirect found, toText_indirect found, wide_contains_iff.mpr ?_⟩
    omega
  · rename_i x found
    obtain rfl := Option.some.inj h
    exact ⟨toWide_indirect found, toText_indirect found, wide_contains_toInt x (by decide)⟩
  · cases h

/-- The integer that a value stands for behind its pointers: its own, or the one that its text
spells between blanks. -/
inductive Denotes (v : Value) (z : Int) : Prop where
  | integer (value : v.integer? = some z)
  | text (s : String) (value : v.string? = some s) (spelled : Spells (Text.trim s) z)

theorem wideOfString_of_spells {s : String} (target : Target) (spelled : Spells (Text.trim s) z) :
    (wide.contains z = true → wideOfString s target = .ok z) ∧
      (wide.contains z = false → ∃ text, wideOfString s target =
        .error (.overflow .string text target)) := by
  have filled := ne_of_spells spelled
  simp only [wideOfString, String.isEmpty_iff, filled, if_false]
  constructor
  · intro fits
    rw [Range.read?_of_spells wide_zero spelled fits (by decide)]
  · intro outside
    obtain ⟨x, text, large, overflow⟩ := read?_large spelled outside target
    rw [Range.read?_of_outside wide_zero spelled outside, large]
    exact ⟨text, overflow⟩

/-- A value that stands for an integer is read as that integer, or is too large to be read. -/
theorem toWide_of_denotes (target : Target) (h : Denotes v z) :
    (wide.contains z = true → toWide target v = .ok z) ∧
      (wide.contains z = false → ∃ source text, toWide target v =
        .error (.overflow source text target)) := by
  cases h with
  | integer value =>
    have ⟨read, _, fits⟩ := wide_of_integer? target value
    exact ⟨fun _ => read, fun outside => absurd fits (by rw [outside]; decide)⟩
  | text s value spelled =>
    have found : v.indirect = some (.string s) := by
      unfold Value.string? at value
      split at value
      · rename_i found
        rw [found, Option.some.inj value]
      · cases value
    have ⟨within, beyond⟩ := wideOfString_of_spells target spelled
    rw [toWide_indirect found]
    exact ⟨within, fun outside => ⟨.string, beyond outside⟩⟩

/-! ### Targets -/

/-- Why a target has no room for an integer. -/
def outOfRange (t : IntegerType) (source : Value.Kind) (n : Int) : Error :=
  if n < 0 && t.range.lo == 0 then .negativeToUnsigned source (integerText n) (.integer t)
  else .overflow source (integerText n) (.integer t)

theorem toInteger_of_wide (h : toWide (.integer t) v = .ok n) : toInteger t v =
    if t.range.contains n then .ok n else .error (outOfRange t v.indirectKind n) := by
  rw [toInteger, bind_of_ok h, outOfRange]
  by_cases negative : (n < 0 && t.range.lo == 0) = true
  · have outside : t.range.contains n = false := by
      rw [Bool.and_eq_true, decide_eq_true_eq, beq_iff_eq] at negative
      rw [Bool.eq_false_iff, ne_eq, Range.contains_iff]
      omega
    rw [outside, if_pos negative, if_pos negative]
    rfl
  · rw [if_neg negative, if_neg negative]
    cases t.range.contains n <;> rfl

theorem toInteger_of_overflow {text : String} {source : Value.Kind}
    (refused : toWide (.integer t) v = .error (.overflow source text (.integer t))) :
    toInteger t v = .error (.overflow source text (.integer t)) := by
  rw [toInteger, refused]
  rfl

/-- Every target but `u128` lies within the wide integer. -/
theorem wide_of_range (narrow : t ≠ .u128) (fits : t.range.contains z = true) :
    wide.contains z = true := by
  have ⟨low, high⟩ : wide.lo ≤ t.range.lo ∧ t.range.hi ≤ wide.hi := by
    cases t with
    | u128 => exact (narrow rfl).elim
    | _ => decide
  rw [Range.contains_iff] at *
  exact ⟨Int.le_trans low fits.1, Int.le_trans fits.2 high⟩

/-- The same refusal, of a value of another kind. -/
def Error.withSource (source : Value.Kind) : Error → Error
  | unsupported _ target => unsupported source target
  | nilPointer target => nilPointer target
  | invalidFormat _ value target => invalidFormat source value target
  | emptyInput _ target => emptyInput source target
  | overflow _ value target => overflow source value target
  | negativeToUnsigned _ value target => negativeToUnsigned source value target
  | notWhole _ value target => notWhole source value target

theorem withSource_outOfRange (source other : Value.Kind) :
    (outOfRange t source n).withSource other = outOfRange t other n := by
  unfold outOfRange
  split <;> rfl

theorem toInteger_of_denotes (narrow : t ≠ .u128) (denoted : Denotes v z) :
    (toInteger t v = .ok z ↔ t.range.contains z = true) ∧
      (t.range.contains z = false → ∃ source text,
        toInteger t v = .error (.overflow source text (.integer t)) ∨
          toInteger t v = .error (.negativeToUnsigned source text (.integer t))) := by
  have ⟨within, beyond⟩ := toWide_of_denotes (.integer t) denoted
  cases wideFits : wide.contains z with
  | true =>
    rw [toInteger_of_wide (within wideFits)]
    cases fits : t.range.contains z with
    | true => exact ⟨by simp, by simp⟩
    | false =>
      refine ⟨by simp, fun _ => ⟨v.indirectKind, integerText z, ?_⟩⟩
      rw [if_neg Bool.false_ne_true, outOfRange]
      split
      · exact .inr rfl
      · exact .inl rfl
  | false =>
    obtain ⟨source, text, refused⟩ := beyond wideFits
    have outside : t.range.contains z = false := by
      rw [Bool.eq_false_iff]
      intro fits
      rw [wide_of_range narrow fits] at wideFits
      cases wideFits
    rw [toInteger_of_overflow refused, outside]
    exact ⟨by simp, fun _ => ⟨source, text, .inl rfl⟩⟩

/-- The decimal text of an integer is converted or refused as the integer is. -/
theorem toInteger_written (t : IntegerType) (value : v.integer? = some z) :
    ∃ s, toText v = .ok s ∧
      toInteger t (.string s) = (toInteger t v).mapError (·.withSource .string) := by
  have ⟨read, shown, fits⟩ := wide_of_integer? (.integer t) value
  have spelled : Spells (Text.trim (integerText z)) z := by
    rw [trim_of_spells (spells_integerText z)]
    exact spells_integerText z
  have written : toWide (.integer t) (.string (integerText z)) = .ok z :=
    (wideOfString_of_spells _ spelled).1 fits
  refine ⟨integerText z, shown, ?_⟩
  rw [toInteger_of_wide written, toInteger_of_wide read]
  cases t.range.contains z with
  | true => rfl
  | false => exact congrArg Except.error (withSource_outOfRange _ _).symm

/-- A value that stands for an integer is converted to a target exactly if the integer is in range,
and is refused as out of range otherwise. Written in decimal, an integer is converted or refused as
before, but for the kind of the source. -/
theorem toInteger_denoted (narrow : t ≠ .u128) :
    (∀ v z, Denotes v z → (toInteger t v = .ok z ↔ t.range.contains z = true) ∧
      (t.range.contains z = false → ∃ source text,
        toInteger t v = .error (.overflow source text (.integer t)) ∨
          toInteger t v = .error (.negativeToUnsigned source text (.integer t)))) ∧
    ∀ v z, v.integer? = some z → ∃ s, toText v = .ok s ∧
      toInteger t (.string s) = (toInteger t v).mapError (·.withSource .string) :=
  ⟨fun _ _ denoted => toInteger_of_denotes narrow denoted,
    fun _ _ value => toInteger_written t value⟩

def padded : Value := .pointer (.string " +0127\t")

theorem toInteger_padded : IntegerType.i8 ≠ .u128 ∧ Denotes padded 127 ∧
    toInteger .i8 padded = .ok 127 ∧ ∃ s, toText (.int 128) = .ok s ∧
      toInteger .i8 (.string s) = .error (.overflow .string "128" (.integer .i8)) := by
  have narrow : IntegerType.i8 ≠ .u128 := by decide
  have spelled : Spells (Text.trim " +0127\t") 127 := by
    have trimmed : Text.trim " +0127\t" = "+0127" := by decide
    rw [trimmed, spells_iff]
    have digits := List.all_eq_true.mp (by decide : ['0', '1', '2', '7'].all Char.isDigit = true)
    exact ⟨false, ['0', '1', '2', '7'], .plus, by decide, digits, by decide⟩
  have denoted : Denotes padded 127 := .text _ rfl spelled
  have ⟨reads, agrees⟩ := toInteger_denoted narrow
  obtain ⟨s, shown, same⟩ := agrees (.int 128) 128 rfl
  refine ⟨narrow, denoted, (reads padded 127 denoted).1.mpr (by decide), s, shown, ?_⟩
  rw [same]
  rfl

end TagSchema.Coerce
