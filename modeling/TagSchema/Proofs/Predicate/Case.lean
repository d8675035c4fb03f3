import TagSchema.Check.Basic
import TagSchema.Emit.Expression
import TagSchema.Proofs.Text.Mapped

/-!
# Rules on case

A rule on case is emitted as a transformation and checked as a predicate. The transformation
establishes the predicate but for letters that have a case and no mapping: `case_rules_transform`.
-/

namespace TagSchema.Predicate

open Text

/-! ### Transformed values -/

section Transformed

variable {f : String → String} {v : Value} {s : String}

theorem mapText_of_some (found : v.string? = some s) : mapText f v = .string (f s) := by
  rw [mapText, found]

theorem mapText_of_none (absent : v.string? = none) : mapText f v = v := by
  rw [mapText, absent]

theorem mapText_idempotent (h : ∀ s, f (f s) = f s) (v : Value) :
    mapText f (mapText f v) = mapText f v := by
  cases found : v.string? with
  | none => rw [mapText_of_none found, mapText_of_none found]
  | some s =>
    rw [mapText_of_some found, mapText_of_some rfl, h]

theorem withText_mapText (v : Value) (p : List Char → Bool) :
    withText (mapText f v) p = v.string?.any fun s => p (f s).toList := by
  cases found : v.string? with
  | none =>
    rw [mapText_of_none found, withText, found]
    rfl
  | some s =>
    rw [mapText_of_some found]
    rfl

end Transformed

/-! ### Both cases -/

/-- What a rule on case does, where `mapped` maps the letters of the `other` case. -/
structure IsCaseRule (kind : Rule.Kind) (method : String) (holds : Value → Bool)
    (transform : Value → Value) (other : Char → Bool) (mapped : Char → List Char) : Prop where
  /-- A text passes after the transformation unless a letter of the other case has no mapping. -/
  established : ∀ v, holds (transform v) = true ↔
    ∃ s, v.string? = some s ∧ ∀ c ∈ s.toList, other c = true → mapped c ≠ [c]
  idempotent : ∀ v, transform (transform v) = transform v
  emitted : ∀ f has r, Emit.ruleCall f has r kind =
    (Emit.demand has.text r f).map fun _ => some ⟨method, []⟩
  checked : ∀ r v, Check.checkKind kind r v =
    Check.require (holds v) s!"must be a valid {r.name}"

section Mapped

variable {mapped : Char → List Char} {other : Char → Bool} {text : List Char → List Char}

theorem not_any_other_iff (h : IsCaseMap mapped other text) {cs : List Char} :
    (!(text cs).any other) = true ↔ ∀ c ∈ cs, other c = true → mapped c ≠ [c] := by
  rw [Bool.not_eq_true', Bool.eq_false_iff, Ne, List.any_eq_true, h.exists_other_iff]
  simp only [not_exists, not_and, ne_eq]

/-- The two laws of a transformation that maps the characters of a text. -/
theorem mapText_isCaseMap (h : IsCaseMap mapped other text) {f : String → String}
    (same : ∀ s, f s = String.ofList (text s.toList)) (v : Value) :
    (withText (mapText f v) (fun cs => !cs.any other) = true ↔
      ∃ s, v.string? = some s ∧ ∀ c ∈ s.toList, other c = true → mapped c ≠ [c]) ∧
    mapText f (mapText f v) = mapText f v := by
  constructor
  · rw [withText_mapText, Option.any_eq_true]
    simp only [same, String.toList_ofList, not_any_other_iff h]
  · refine mapText_idempotent (fun s => ?_) v
    rw [same (f s), same s, String.toList_ofList, h.idempotent]

end Mapped

theorem case_rules_transform :
    IsCaseRule .lowercase "ToLowerCase" lowercase toLowerCase isUppercase lowerChar ∧
    IsCaseRule .uppercase "ToUpperCase" uppercase toUpperCase isLowercase upperChar := by
  have lower := mapText_isCaseMap (lowerFrom_isCaseMap []) (f := toLower) fun _ => rfl
  have upper := mapText_isCaseMap flatMap_upperChar_isCaseMap (f := toUpper) fun _ => rfl
  exact ⟨
    { established := fun v => (lower v).1
      idempotent := fun v => (lower v).2
      emitted := by
        intro f has r
        simp only [Emit.ruleCall, Emit.ruleArgs]
        cases Emit.demand has.text r f <;> rfl
      checked := fun _ _ => rfl },
    { established := fun v => (upper v).1
      idempotent := fun v => (upper v).2
      emitted := by
        intro f has r
        simp only [Emit.ruleCall, Emit.ruleArgs]
        cases Emit.demand has.text r f <;> rfl
      checked := fun _ _ => rfl }⟩

/-- A mathematical capital has no small form, nor has the letter kra a capital one. -/
theorem unmapped_letters_stay :
    lowercase (toLowerCase (.string "𝐀")) = false ∧
    uppercase (toUpperCase (.string "ĸ")) = false := by
  decide +kernel

end TagSchema.Predicate
