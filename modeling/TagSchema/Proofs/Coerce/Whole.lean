import TagSchema.Proofs.Coerce.Integer
import TagSchema.Proofs.Number.Literal

/-!
# Conversion of whole numbers

What is no plain integer is converted by way of a double. `toInteger_literal_iff`: a decimal literal
arrives as it is exactly if it is plain or a double.
-/

namespace TagSchema.Coerce

open TagSchema.Number

variable {t : IntegerType} {target : Target} {source : Value.Kind} {s : String} {q : ℚ} {n z : Int}

theorem wholeNumber_ok_iff {l : Layout} {x : Binary l} : wholeNumber x source target = .ok n ↔
    x.decode.value? = some (n : ℚ) ∧ n.natAbs < 2 ^ 127 := by
  unfold wholeNumber
  cases x.decode with
  | nan _ | infinite _ => exact iff_of_false nofun fun h => nomatch h.1
  | finite negative m e =>
    have positive := Decoded.ratio_positive m e
    rw [← Decoded.whole?_eq_some_iff]
    dsimp only [Decoded.whole?]
    generalize (Decoded.ratio m e).1 = num at *
    generalize (Decoded.ratio m e).2 = den at *
    by_cases divides : num % den = 0
    · obtain ⟨k, rfl⟩ := Nat.dvd_of_mod_eq_zero divides
      have large : den * Nat.pow 2 127 ≤ den * k ↔ 2 ^ 127 ≤ k := Nat.mul_le_mul_left_iff positive
      have size : (Decoded.signed negative k).natAbs = k := Decoded.natAbs_signed negative k
      rw [if_pos divides, if_pos divides, Nat.mul_div_cancel_left k positive]
      simp only [large, Option.some.injEq]
      split
      · refine iff_of_false nofun ?_
        rintro ⟨rfl, small⟩
        omega
      · rw [Except.ok.injEq]
        exact ⟨fun same => ⟨same, by omega⟩, fun h => h.1⟩
    · rw [if_neg divides, if_neg divides]
      refine iff_of_false ?_ (fun h => nomatch h.1)
      split <;> nofun

theorem wholeNumber_overflow {l : Layout} {x : Binary l} (value : x.decode.value? = some (z : ℚ))
    (large : 2 ^ 127 ≤ z.natAbs) (source : Value.Kind) (target : Target) :
    ∃ text, wholeNumber x source target = .error (.overflow source text target) := by
  unfold wholeNumber
  cases decoded : x.decode with
  | nan _ | infinite _ =>
    rw [decoded] at value
    cases value
  | finite negative m e =>
    rw [decoded] at value
    have beyond : (Decoded.ratio m e).2 * Nat.pow 2 127 ≤ (Decoded.ratio m e).1 := by
      rw [Decoded.ratio_of_integer value, Nat.mul_comm z.natAbs]
      exact Nat.mul_le_mul_left _ large
    dsimp only
    rw [if_pos beyond]
    exact ⟨_, rfl⟩

theorem wideOfString_of_literal (literal : Literal s q) (rounded : ∀ z, ¬ Spells s z) :
    ∃ negative num den, den ≠ 0 ∧ q = (Decoded.signed negative num : ℚ) / (den : Nat) ∧
      wideOfString s target =
        wholeNumber (Binary.ofRatio negative num den : Binary64) .string target := by
  obtain ⟨negative, num, den, den_ne, value, read⟩ := read?_literal literal
  have noInteger : wide.read? s = none := by
    rw [Option.eq_none_iff_forall_ne_some]
    intro n read
    exact rounded n (spells_of_read? wide_zero read).1
  refine ⟨negative, num, den, den_ne, value, ?_⟩
  simp only [wideOfString, trim_of_literal literal, String.isEmpty_iff, ne_of_literal literal,
    if_false, noInteger, read]

/-- An integer comes of a literal that spells it, or of a double next to the literal. -/
inductive OfLiteral (s : String) (q : ℚ) (n : Int) : Prop
  | plain (spelled : Spells s n)
  | rounded (noInteger : ∀ z, ¬ Spells s z) {negative : Bool} {num den : Nat} (den_ne : den ≠ 0)
      (value : q = (Decoded.signed negative num : ℚ) / den)
      (whole : (Binary.ofRatio negative num den : Binary64).decode.value? = some (n : ℚ))

theorem ofLiteral_of_toInteger (literal : Literal s q) (h : toInteger t (.string s) = .ok n) :
    OfLiteral s q n := by
  have ⟨read, _⟩ := toInteger_text h
  by_cases plain : ∃ z, Spells s z
  · obtain ⟨z, spelled⟩ := plain
    have text : WideText s (.integer t) n := by
      refine wideOfString_ok ?_ read
      rw [trim_of_literal literal]
      exact ne_of_literal literal
    have same : n = z := text.of_spells (by rwa [trim_of_literal literal])
    exact .plain (same ▸ spelled)
  · rw [not_exists] at plain
    obtain ⟨negative, num, den, den_ne, value, rounded⟩ := wideOfString_of_literal literal plain
    rw [rounded, wholeNumber_ok_iff] at read
    exact .rounded plain den_ne value read.1

theorem OfLiteral.value_iff (literal : Literal s q) (h : OfLiteral s q n) :
    q = n ↔ (∃ z, Spells s z) ∨ IsDouble q := by
  cases h with
  | plain spelled =>
    exact iff_of_true (literal.unique (literal_of_spells spelled)) (.inl ⟨n, spelled⟩)
  | rounded noInteger den_ne value whole =>
    constructor
    · intro same
      exact .inr ⟨_, same ▸ whole⟩
    · rintro (⟨z, spelled⟩ | ⟨y, same⟩)
      · exact (noInteger z spelled).elim
      · rw [value] at same ⊢
        rw [Binary.value?_ofRatio_exact den_ne same, Option.some.injEq] at whole
        exact whole

theorem OfLiteral.nearest {x : Binary64} {p : ℚ} (literal : Literal s q) (h : OfLiteral s q n)
    (other : x.decode.value? = some p) : |n - q| ≤ |p - q| := by
  cases h with
  | plain spelled =>
    rw [literal.unique (literal_of_spells spelled), sub_self, abs_zero]
    exact abs_nonneg _
  | rounded noInteger den_ne value whole =>
    rw [value]
    exact Binary.value?_ofRatio_nearest den_ne whole other

theorem toInteger_of_exact (literal : Literal s q) (same : q = n) (small : n.natAbs < 2 ^ 127)
    (fits : t.range.contains n = true) (exact : (∃ z, Spells s z) ∨ IsDouble q) :
    toInteger t (.string s) = .ok n := by
  have trimmed := trim_of_literal literal
  suffices read : wideOfString s (.integer t) = .ok n by
    rw [toInteger_of_wide (v := .string s) read, fits, if_pos rfl]
  by_cases plain : ∃ z, Spells s z
  · obtain ⟨z, spelled⟩ := plain
    have value : n = z := by
      have denoted := literal.unique (literal_of_spells spelled)
      rw [same] at denoted
      exact_mod_cast denoted
    have between : Spells (Text.trim s) n := by rwa [trimmed, value]
    refine (wideOfString_of_spells _ between).1 ?_
    rw [wide_contains_iff]
    omega
  · obtain ⟨y, double⟩ := exact.resolve_left plain
    obtain ⟨negative, num, den, den_ne, value, rounded⟩ :=
      wideOfString_of_literal literal (not_exists.mp plain)
    rw [rounded, wholeNumber_ok_iff]
    rw [value] at double
    refine ⟨?_, small⟩
    rw [Binary.value?_ofRatio_exact den_ne double, ← value, same]

/-- A decimal literal arrives as the number that it denotes exactly if it has neither point nor
exponent, or is a double; an integer of 64 bits arrives exactly then. No double is nearer to a
literal than what arrives. -/
theorem toInteger_literal_iff (literal : Literal s q) :
    (∀ n, toInteger t (.string s) = .ok n → (q = n ↔ (∃ z, Spells s z) ∨ IsDouble q) ∧
      ∀ (x : Binary64) p, x.decode.value? = some p → |n - q| ≤ |p - q|) ∧
    ∀ n : Int, q = n → t.range.contains n = true → (Range.signed 64).contains n = true →
      (toInteger t (.string s) = .ok n ↔ (∃ z, Spells s z) ∨ IsDouble q) := by
  refine ⟨fun n h => ?_, fun n same fits narrow => ⟨fun h => ?_, fun exact => ?_⟩⟩
  · have origin := ofLiteral_of_toInteger literal h
    exact ⟨origin.value_iff literal, fun x p other => origin.nearest literal other⟩
  · exact ((ofLiteral_of_toInteger literal h).value_iff literal).mp same
  · rw [Range.contains_iff] at narrow
    have low : (Range.signed 64).lo = -2 ^ 63 := rfl
    have high : (Range.signed 64).hi = 2 ^ 63 - 1 := rfl
    exact toInteger_of_exact literal same (by omega) fits exact

theorem literal_scaled : Literal "-1.25e2" (-125 : Int) := by
  have pointed : Mantissa ['1'] ['2', '5'] ['1', '.', '2', '5'] := .pointed _
  have scaled : Exponent ['e', '2'] 2 :=
    .marked (.inl rfl) (by decide) (List.all_eq_true.mp (by decide)) .bare
  have value : (-125 : Int) = (Decoded.signed true (Nat.ofDigitChars 10 ['1', '2', '5'] 0) : ℚ) *
      10 ^ ((2 : Int) - (2 : Nat)) := by decide +kernel
  rw [value]
  exact .intro (by decide) (List.all_eq_true.mp (by decide)) pointed scaled .minus

theorem toInteger_scaled : Literal "-1.25e2" (-125 : Int) ∧ IsDouble (-125 : Int) ∧
    toInteger .i16 (.string "-1.25e2") = .ok (-125) := by
  have double : IsDouble (-125 : Int) :=
    ⟨Binary.ofInt (-125), Decoded.whole?_eq_some_iff.mp (by decide +kernel)⟩
  have ⟨_, arrives⟩ := toInteger_literal_iff (t := .i16) literal_scaled
  exact ⟨literal_scaled, double,
    (arrives (-125) rfl (by decide) (by decide)).mpr (.inr double)⟩

/-- The first integer that is no double arrives as the one before it, and a number that is not whole
as one. -/
theorem toInteger_literal_inexact :
    (Literal "9007199254740993.0" (9007199254740993 : Int) ∧
      toInteger .i64 (.string "9007199254740993.0") = .ok 9007199254740992) ∧
    Literal "1.0000000000000001" (10000000000000001 / 10000000000000000) ∧
      toInteger .i64 (.string "1.0000000000000001") = .ok 1 := by
  have long : Mantissa "9007199254740993".toList ['0'] "9007199254740993.0".toList := .pointed _
  have close : Mantissa ['1'] "0000000000000001".toList "1.0000000000000001".toList := .pointed _
  have integer : (9007199254740993 : Int) = (Decoded.signed false
      (Nat.ofDigitChars 10 ("9007199254740993".toList ++ ['0']) 0) : ℚ) *
        10 ^ ((0 : Int) - (['0'].length : Nat)) := by decide +kernel
  have fraction : (10000000000000001 / 10000000000000000 : ℚ) = (Decoded.signed false
      (Nat.ofDigitChars 10 (['1'] ++ "0000000000000001".toList) 0) : ℚ) *
        10 ^ ((0 : Int) - ("0000000000000001".toList.length : Nat)) := by decide +kernel
  refine ⟨⟨?_, toOption_eq_some_iff.mp (by decide +kernel)⟩, ?_,
    toOption_eq_some_iff.mp (by decide +kernel)⟩
  · rw [integer]
    exact .intro (by decide) (List.all_eq_true.mp (by decide)) long .none .bare
  · rw [fraction]
    exact .intro (by decide) (List.all_eq_true.mp (by decide)) close .none .bare

end TagSchema.Coerce
