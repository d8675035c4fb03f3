import TagSchema.Proofs.Check.Fault
import TagSchema.Proofs.Text.Trim

/-!
# Runs in parts

`run_fold`: the rules of a list take their turns, each on the value that those before it leave, and
trimming alone changes the value. Without it the order of the rules only shows in that of the
issues.
-/

namespace TagSchema

theorem Text.trim_trim (s : String) : Text.trim (Text.trim s) = Text.trim s := by
  rw [Text.trim, Text.toList_trim, Text.trimChars_of_bare (Text.trimChars_bare s.toList), Text.trim]

namespace Predicate

theorem trim_of_string {v : Value} {s : String} (text : v.string? = some s) :
    trim v = .string (Text.trim s) := by
  rw [trim, mapText, text]

theorem trim_of_none {v : Value} (other : v.string? = none) : trim v = v := by
  rw [trim, mapText, other]

theorem trim_trim (v : Value) : trim (trim v) = trim v := by
  cases text : v.string? with
  | none => rw [trim_of_none text, trim_of_none text]
  | some s =>
    have again : (Value.string (Text.trim s)).string? = some (Text.trim s) := rfl
    rw [trim_of_string text, trim_of_string again, Text.trim_trim]

theorem isNil_trim (v : Value) : (trim v).isNil = v.isNil := by
  cases text : v.string? with
  | none => rw [trim_of_none text]
  | some s =>
    rw [trim_of_string text]
    unfold Value.string? at text
    unfold Value.isNil
    split at text
    · rename_i behind
      rw [behind]
      rfl
    · cases text

end Predicate

namespace Check

variable {v : Value} {r : Rule} {rs ts : List Rule}

/-! ### The value -/

theorem isNil_transform (r : Rule) (v : Value) : (transform r v).isNil = v.isNil := by
  unfold transform
  split
  · exact Predicate.isNil_trim v
  · rfl

theorem transform_of_noTrim (noTrim : (r.kind? == some .trim) = false) (v : Value) :
    transform r v = v := by
  rw [transform, noTrim, if_neg Bool.false_ne_true]

theorem isNil_runFrom (report : Report) (rs : List Rule) :
    (runFrom report rs).value.isNil = report.value.isNil := by
  induction rs generalizing report with
  | nil => rfl
  | cons r rs ih => exact (ih (step report r)).trans (isNil_transform r report.value)

/-- One trimming is as good as many. -/
theorem value_runFrom (report : Report) (rs : List Rule) : (runFrom report rs).value =
    if Rule.hasKind .trim rs then Predicate.trim report.value else report.value := by
  induction rs generalizing report with
  | nil => rfl
  | cons r rs ih =>
    have later : (runFrom report (r :: rs)).value = if Rule.hasKind .trim rs then
        Predicate.trim (transform r report.value) else transform r report.value :=
      ih (step report r)
    have any : Rule.hasKind .trim (r :: rs) =
        (r.kind? == some .trim || Rule.hasKind .trim rs) := rfl
    rw [later, any, transform]
    cases r.kind? == some .trim <;> cases Rule.hasKind .trim rs <;>
      simp [Predicate.trim_trim]

/-! ### The issues -/

/-- The issues so far stay in front, and nothing depends on them. -/
theorem runFrom_issues (v : Value) (issues : List Issue) (rs : List Rule) :
    runFrom ⟨v, issues⟩ rs =
      ⟨(runFrom ⟨v, []⟩ rs).value, issues ++ (runFrom ⟨v, []⟩ rs).issues⟩ := by
  induction rs generalizing v issues with
  | nil => simp [runFrom]
  | cons r rs ih =>
    have next (issues : List Issue) : runFrom ⟨v, issues⟩ (r :: rs) =
        runFrom ⟨transform r v, issues ++ (issueOf r v).toList⟩ rs := rfl
    rw [next, next, ih, ih _ ([] ++ _), List.nil_append, List.append_assoc]

theorem run_of_present (present : v.isNil = false) (rs : List Rule) :
    run rs v = runFrom ⟨v, []⟩ rs := by
  rw [run, present, if_neg Bool.false_ne_true]

theorem run_append (present : v.isNil = false) (first later : List Rule) :
    run (first ++ later) v = ⟨(run later (run first v).value).value,
      (run first v).issues ++ (run later (run first v).value).issues⟩ := by
  rw [run_of_present present, run_of_present present]
  have still := (isNil_runFrom ⟨v, []⟩ first).trans present
  rw [run_of_present still, ← runFrom_issues]
  exact List.foldl_append

theorem value_run (present : v.isNil = false) (rs : List Rule) :
    (run rs v).value = if Rule.hasKind .trim rs then Predicate.trim v else v := by
  rw [run_of_present present, value_runFrom]

/-- Without trimming each rule is checked as if it were alone. -/
theorem issues_run (present : v.isNil = false) (noTrim : Rule.hasKind .trim rs = false) :
    (run rs v).issues = rs.flatMap fun r => (run [r] v).issues := by
  induction rs with
  | nil => rw [run_of_present present]; rfl
  | cons r rs ih =>
    have none := Bool.or_eq_false_iff.mp noTrim
    have same : (run [r] v).value = v := by
      rw [run_of_present present]
      exact transform_of_noTrim none.1 v
    rw [← List.singleton_append, run_append present, same, ih none.2]
    rfl

theorem hasKind_perm {k : Rule.Kind} (perm : rs.Perm ts) : Rule.hasKind k rs = Rule.hasKind k ts :=
  perm.any_eq

/-- The rules of a list take their turns. The value is trimmed if any of them trims and it is a
string, and stays as it is otherwise. If none does, each rule is checked as if it were alone, so
that a permutation of the rules permutes the issues. -/
theorem run_fold (present : v.isNil = false) :
    (∀ first later, run (first ++ later) v = ⟨(run later (run first v).value).value,
      (run first v).issues ++ (run later (run first v).value).issues⟩) ∧
    (∀ rs s, Rule.hasKind .trim rs = true → v.string? = some s →
      (run rs v).value = .string (Text.trim s)) ∧
    (∀ rs, Rule.hasKind .trim rs = false ∨ v.string? = none → (run rs v).value = v) ∧
    ∀ rs, Rule.hasKind .trim rs = false →
      (run rs v).issues = rs.flatMap (fun r => (run [r] v).issues) ∧
      ∀ ts, rs.Perm ts → (run ts v).value = (run rs v).value ∧
        (run ts v).issues = ts.flatMap (fun r => (run [r] v).issues) ∧
        (run ts v).issues.Perm (run rs v).issues := by
  refine ⟨run_append present, fun rs s trims text => ?_, fun rs kept => ?_, fun rs noTrim =>
    ⟨issues_run present noTrim, fun ts perm => ?_⟩⟩
  · rw [value_run present, if_pos trims, Predicate.trim_of_string text]
  · rw [value_run present]
    rcases kept with noTrim | other
    · rw [noTrim, if_neg Bool.false_ne_true]
    · rw [Predicate.trim_of_none other, ite_self]
  · have still : Rule.hasKind .trim ts = false := (hasKind_perm perm).symm.trans noTrim
    refine ⟨?_, issues_run present still, ?_⟩
    · rw [value_run present, value_run present, noTrim, still]
    · rw [issues_run present noTrim, issues_run present still]
      exact perm.symm.flatMap_right _

def spaced : Value := .pointer (.string " ab ")

/-- Long enough with its blanks, and too short without them. -/
theorem run_spaced : spaced.isNil = false ∧
    (run [⟨"min", ["3"]⟩, ⟨"trim", []⟩] spaced).value = .string "ab" ∧
    (run ([⟨"min", ["3"]⟩, ⟨"trim", []⟩] ++ [⟨"min", ["3"]⟩]) spaced).issues =
      (run [⟨"min", ["3"]⟩, ⟨"trim", []⟩] spaced).issues ++
        (run [⟨"min", ["3"]⟩] (.string "ab")).issues := by
  have present : spaced.isNil = false := rfl
  have ⟨parts, trimmed, _⟩ := run_fold present
  have text : Text.trim " ab " = "ab" := by decide
  have value : (run [⟨"min", ["3"]⟩, ⟨"trim", []⟩] spaced).value = .string "ab" := by
    rw [← text]
    exact trimmed _ " ab " rfl rfl
  refine ⟨present, value, ?_⟩
  rw [parts, value]

end Check

end TagSchema
