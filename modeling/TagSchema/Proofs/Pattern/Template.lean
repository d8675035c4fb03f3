import TagSchema.Pattern.Template
import TagSchema.Predicate.Length
import TagSchema.Proofs.Regex.Language

/-!
# Which templates give a pattern

A template gives its own pattern if the counts are in order and the limit admits it:
`Template.build_eq_ok_iff`. A pattern of a length matches the strings within its bounds, which are
predicates too: `isMatch_stringLength_iff`.
-/

namespace TagSchema.Pattern

open Regex

namespace Template

theorem build_eq_ok_iff {t : Template} {limit : Limit} {r : Regex} : t.build limit = .ok r ↔
    t.countsInOrder = true ∧ limit.admits t.regex = true ∧ r = t.regex := by
  rw [build]
  split
  · rename_i disordered
    refine iff_of_false nofun ?_
    rintro ⟨ordered, -⟩
    rw [ordered] at disordered
    cases disordered
  · rename_i ordered
    rw [Bool.not_eq_true', Bool.not_eq_false] at ordered
    split
    · rename_i admitted
      rw [Except.ok.injEq]
      constructor
      · rintro rfl
        exact ⟨ordered, admitted, rfl⟩
      · rintro ⟨-, -, rfl⟩
        rfl
    · rename_i refused
      refine iff_of_false nofun ?_
      rintro ⟨-, admitted, -⟩
      exact refused admitted

theorem build_of_refused {t : Template} {limit : Limit} (ordered : t.countsInOrder = true)
    (refused : limit.admits t.regex = false) : t.build limit = .error .tooBig := by
  rw [build, ordered, refused]
  rfl

end Template

/-! ### Lengths -/

variable {min : Nat} {max : Int}

/-- Any character may stand at any place, so that a repetition admits a text by its length. -/
theorem mem_anything {u : List Char} {least : Nat} {most : Option Nat} :
    u ∈ (rep (chars .anything) least most).language ↔ admits least most u.length := by
  rw [mem_rep_chars]
  exact and_iff_left fun _ _ => rfl

theorem admits_max {n : Nat} : admits min (if max ≤ 0 then none else some max.toNat) n ↔
    min ≤ n ∧ (0 < max → n ≤ max.toNat) := by
  split
  · rename_i unbounded
    exact and_congr_right fun _ => iff_of_true nofun fun bounded => absurd unbounded (by omega)
  · rename_i bounded
    rw [admits_some, forall_prop_of_true (by omega)]

end TagSchema.Pattern

namespace TagSchema.Predicate

open Regex Pattern

/-- A pattern of a length matches the strings that satisfy both bounds. -/
theorem isMatch_stringLength_iff {min : Nat} {max : Int} {limit : Limit} {r : Regex} (s : String)
    (built : (Template.stringLength min max).build limit = .ok r) : r.isMatch s = true ↔
      minLength (.string s) min = true ∧ (0 < max → maxLength (.string s) max.toNat = true) := by
  obtain ⟨-, -, rfl⟩ := Template.build_eq_ok_iff.mp built
  have size : (Value.string s).size = some s.toList.length := rfl
  rw [Template.regex, stringLength, isMatch_whole rfl, mem_anything, admits_max, minLength,
    maxLength, size, Option.any_some, Option.any_some, decide_eq_true_eq, decide_eq_true_eq]

theorem isMatch_stringLength_lines :
    (Template.stringLength 2 3).build = .ok (stringLength 2 3) ∧
    (stringLength 2 3).isMatch "é\n語" = true ∧ ¬ (stringLength 2 3).isMatch "é\n語\n" = true := by
  have built : (Template.stringLength 2 3).build = .ok (stringLength 2 3) := by decide
  refine ⟨built, (isMatch_stringLength_iff _ built).mpr ⟨by decide, by decide⟩, fun found => ?_⟩
  exact absurd ((isMatch_stringLength_iff _ built).mp found).2 (by decide)

end TagSchema.Predicate
