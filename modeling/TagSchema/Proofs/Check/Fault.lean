import TagSchema.Check.Basic
import TagSchema.Proofs.Except

/-!
# Faults of rules

An issue blames the value or the rule. `runFrom_blames_iff` reduces a whole run to its single
rules, which may see the value transformed.
-/

namespace TagSchema.Check

open TagSchema.Number

/-- The value is at fault, and the rule is one that can be checked. -/
def Code.BlamesValue (c : Code) : Prop := c ≠ .invalidParam ∧ c ≠ .unknownRule

/-- A check that does not fail for the sake of the rule. -/
def BlamesValue (check : Except Failure Unit) : Prop :=
  ∀ f, check = .error f → f.code.BlamesValue

theorem blamesValue_ok : BlamesValue (.ok ()) := fun _ h => by cases h

theorem blamesValue_require (passed : Bool) (message : String) :
    BlamesValue (require passed message) := by
  intro f h
  unfold require at h
  split at h
  · cases h
  · rw [← Except.error.inj h]
    exact ⟨Code.noConfusion, Code.noConfusion⟩

/-! ### Single rules -/

theorem checkNumber_blames_iff (k : Rule.Kind) (r : Rule) (v : Value) :
    BlamesValue (checkNumber k r v) ↔ (readNumber? (rawParam r)).isSome = true := by
  unfold checkNumber numberOf
  cases readNumber? (rawParam r) with
  | none => exact iff_of_false (fun h => (h _ rfl).1 rfl) Bool.false_ne_true
  | some limit => exact iff_of_true (blamesValue_require _ _) rfl

theorem checkLength_blames_iff (k : Rule.Kind) (r : Rule) (v : Value) :
    BlamesValue (checkLength k r v) ↔ ((Range.unsigned 64).read? (rawParam r)).isSome = true := by
  unfold checkLength countOf
  cases (Range.unsigned 64).read? (rawParam r) with
  | none => exact iff_of_false (fun h => (h _ rfl).1 rfl) Bool.false_ne_true
  | some limit => exact iff_of_true (blamesValue_require _ _) rfl

theorem blamesValue_checkRegex {r : Rule} {p : Regex} (v : Value)
    (h : Regex.read (r.param?.getD "") = .ok p) : BlamesValue (checkRegex r v) := by
  unfold checkRegex
  dsimp only
  rw [h]
  exact blamesValue_require _ _

/-- Kinds whose parameter is no bound and no pattern leave nothing to misread. -/
theorem blamesValue_checkKind {k : Rule.Kind} (r : Rule) (v : Value)
    (noNumber : k.isNumericBound = false) (noSize : k.isSizeBound = false) (noRegex : k ≠ .regex) :
    BlamesValue (checkKind k r v) := by
  cases k with
  | min | max | length | size => cases noSize
  | gt | gte | lt | lte | multipleOf => cases noNumber
  | regex => exact (noRegex rfl).elim
  | required | nilable | default | prefault | refine | check | trim => exact blamesValue_ok
  | _ => exact blamesValue_require _ _

theorem checkKind_sizeBound {k : Rule.Kind} (h : k.isSizeBound = true) (r : Rule) {v : Value}
    (noNumber : v.isNumeric = false) : checkKind k r v = checkLength k r v := by
  cases k with
  | min | max => simp only [checkKind, noNumber, Bool.false_eq_true, if_false]
  | length | size => rfl
  | _ => cases h

/-! ### Runs -/

theorem issueOf_blames_iff (r : Rule) (v : Value) :
    (∀ i ∈ issueOf r v, i.code.BlamesValue) ↔ BlamesValue (checkRule r v) := by
  unfold issueOf BlamesValue
  cases checkRule r v with
  | ok _ => simp
  | error f => simp

theorem isNumeric_transform (r : Rule) (v : Value) : (transform r v).isNumeric = v.isNumeric := by
  unfold transform
  split
  · unfold Predicate.trim Predicate.mapText
    split
    · rename_i s text
      unfold Value.string? at text
      unfold Value.isNumeric
      split at text
      · rename_i behind
        rw [behind]
        rfl
      · cases text
    · rfl
  · rfl

theorem run_single {r : Rule} {v : Value} (present : v.isNil = false) :
    (run [r] v).issues = (issueOf r v).toList := by
  rw [run, present, if_neg Bool.false_ne_true]
  rfl

/-- A run blames the value alone if each rule does, whatever text it sees. -/
theorem runFrom_blames_iff {rs : List Rule} {report : Report} {P : Rule → Prop}
    (single : ∀ r ∈ rs, ∀ v : Value, v.isNumeric = report.value.isNumeric →
      (BlamesValue (checkRule r v) ↔ P r)) :
    (∀ i ∈ (runFrom report rs).issues, i.code.BlamesValue) ↔
      (∀ i ∈ report.issues, i.code.BlamesValue) ∧ ∀ r ∈ rs, P r := by
  induction rs generalizing report with
  | nil => simp [runFrom]
  | cons r rs ih =>
    have later : (∀ i ∈ (runFrom (step report r) rs).issues, i.code.BlamesValue) ↔
        (∀ i ∈ (step report r).issues, i.code.BlamesValue) ∧ ∀ s ∈ rs, P s :=
      ih fun s member v same => single s (List.mem_cons_of_mem _ member) v
        (same.trans (isNumeric_transform r report.value))
    have first := (issueOf_blames_iff r report.value).trans
      (single r List.mem_cons_self report.value rfl)
    rw [show runFrom report (r :: rs) = runFrom (step report r) rs from rfl, later,
      List.forall_mem_cons, ← first, ← and_assoc]
    simp [step, or_imp, forall_and]

end TagSchema.Check
