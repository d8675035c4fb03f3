import Mathlib.Data.List.TakeWhile
import TagSchema.Number.Text
import TagSchema.Proofs.Number.Read

/-!
# Characters of numbers

What is written for an integer or a finite number is digits, a point, an exponent and signs.
-/

namespace TagSchema.Number

theorem isNumeralChar_of_mem_digits {n : Nat} {c : Char} (h : c ∈ digits n) :
    isNumeralChar c = true :=
  isNumeralChar_of_isDigit (Nat.isDigit_of_mem_toDigits (by decide) (by decide) h)

theorem isNumeralChar_of_integerText (n : Int) :
    ∀ c ∈ (integerText n).toList, isNumeralChar c = true := by
  rw [integerText, String.toList_ofList]
  split
  · exact List.forall_mem_cons.mpr ⟨rfl, fun c => isNumeralChar_of_mem_digits⟩
  · exact fun c => isNumeralChar_of_mem_digits

theorem isNumeralChar_of_zeros {n : Nat} {c : Char} (h : c ∈ List.replicate n '0') :
    isNumeralChar c = true := by
  rw [List.eq_of_mem_replicate h]
  rfl

theorem Decimal.isNumeralChar_of_positional (d : Decimal) :
    ∀ c ∈ d.positional, isNumeralChar c = true := by
  unfold positional
  dsimp only
  split
  · rw [List.forall_mem_append]
    exact ⟨fun c => isNumeralChar_of_mem_digits, fun c => isNumeralChar_of_zeros⟩
  · generalize (-d.exponent).toNat = places
    have padded : ∀ c ∈ List.replicate (places + 1 - (Number.digits d.digits).length) '0' ++
        Number.digits d.digits, isNumeralChar c = true := by
      rw [List.forall_mem_append]
      exact ⟨fun c => isNumeralChar_of_zeros, fun c => isNumeralChar_of_mem_digits⟩
    rw [List.forall_mem_append, List.forall_mem_cons]
    exact ⟨fun c member => padded c (List.mem_of_mem_take member), rfl,
      fun c member => padded c (List.mem_of_mem_drop member)⟩

theorem Decimal.isNumeralChar_of_scientific (d : Decimal) :
    ∀ c ∈ d.scientific, isNumeralChar c = true := by
  have digits : ∀ c ∈ Number.digits d.digits, isNumeralChar c = true :=
    fun c => isNumeralChar_of_mem_digits
  unfold scientific
  dsimp only
  rw [List.forall_mem_append, List.forall_mem_append, List.forall_mem_cons]
  refine ⟨⟨?_, rfl, ?_⟩, fun c => isNumeralChar_of_mem_digits⟩
  · split
    · rename_i single
      rwa [single] at digits
    · rename_i first later _ several
      rw [several, List.forall_mem_cons] at digits
      exact List.forall_mem_cons.mpr ⟨digits.1, List.forall_mem_cons.mpr ⟨rfl, digits.2⟩⟩
    · simp
  · split <;> simp [isNumeralChar]

theorem Decimal.isNumeralChar_of_pointed (d : Decimal) :
    ∀ c ∈ d.pointed, isNumeralChar c = true := by
  unfold pointed
  dsimp only
  split
  · exact d.isNumeralChar_of_scientific
  · split
    · exact d.isNumeralChar_of_positional
    · rw [List.forall_mem_append]
      exact ⟨d.isNumeralChar_of_positional, List.all_eq_true.mp (by decide)⟩

theorem Binary.isNumeralChar_of_textWith {l : Layout} {x : Binary l} (finite : x.isFinite = true)
    (names : SpecialNames) {layout : Decimal → List Char}
    (ok : ∀ d, ∀ c ∈ layout d, isNumeralChar c = true) :
    ∀ c ∈ (x.textWith names layout).toList, isNumeralChar c = true := by
  unfold isFinite at finite
  unfold textWith
  split at finite
  · rename_i s m e found
    rw [found]
    dsimp only
    rw [String.toList_ofList, List.forall_mem_append]
    refine ⟨?_, ok _⟩
    split <;> simp [isNumeralChar]
  · cases finite

end TagSchema.Number
