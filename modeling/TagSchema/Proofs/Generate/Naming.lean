import TagSchema.Config.Basic
import TagSchema.Proofs.Generate.Package
import TagSchema.Proofs.Path.Parent

/-!
# Names of outputs

What a valid configuration makes of the name of a source: `outputPaths_fit_iff`. The output is told
from sources by its name alone, so it has to keep the suffix in its name.
-/

namespace TagSchema.Generate

open TagSchema.Emit (Settings)

variable {s : Settings} {p q n m : String}

/-- The path has the name of a source file, and not that of an output. -/
structure IsSource (s : Settings) (p n : String) : Prop where
  named : Path.fileName? p = some n
  ends : n.endsWith ".go" = true
  fresh : n.endsWith s.suffix = false

/-- The output lies beside its source, is known by its name, and starts no other run, also while it
is staged. -/
structure OutputFits (s : Settings) (p : String) : Prop where
  beside : Path.Beside (outputPath s p) p
  apart : Path.same (outputPath s p) p = false
  known : isOutputName s (outputPath s p) = true
  silent : isTrigger s.suffix (outputPath s p) = false
  stagedSilent : isTrigger s.suffix (Write.temporaryPath (outputPath s p)) = false

theorem isTrigger_eq_false (named : Path.fileName? p = some n)
    (other : n.endsWith ".go" = false ∨ n.endsWith s.suffix = true) :
    isTrigger s.suffix p = false := by
  rw [isTrigger, named, Option.any_some]
  rcases other with other | other <;> simp [other]

theorem fileName?_temporaryPath (named : Path.fileName? p = some n) :
    Path.fileName? (Write.temporaryPath p) = some ("." ++ n ++ ".tmp") := by
  rw [Write.temporaryPath, named]
  exact (Path.withFileName_name named (isName_scratch (Path.named_inv named).1)).1

theorem outputFits_of_flat (flat : IsFlat s) (source : IsSource s p n) : OutputFits s p := by
  have ⟨name, _⟩ := Path.named_inv source.named
  have path := outputPath_of_named (s := s) source.named
  have ⟨named, beside⟩ :=
    Path.withFileName_name source.named (isName_outputName flat name source.ends)
  rw [← path] at named beside
  have ends := endsWith_outputName s n
  refine ⟨beside, ?_, ?_, isTrigger_eq_false named (.inr ends),
    isTrigger_eq_false (fileName?_temporaryPath named) (.inl (scratch_not_go _))⟩
  · rw [Bool.eq_false_iff, ne_eq, Path.same_iff]
    intro same
    rw [Path.fileName?_eq_some_iff, same, ← Path.fileName?_eq_some_iff, source.named] at named
    rw [← Option.some.inj named, source.fresh] at ends
    cases ends
  · rw [isOutputName, named, Option.any_some, ends]

/-- The name of a file has no slash, so no name ends in a suffix that has one. -/
theorem isOutputName_slash (slash : '/' ∈ s.suffix.toList) (p : String) :
    isOutputName s p = false := by
  rw [isOutputName, Option.any_eq_false]
  intro n named
  rw [Bool.eq_false_iff, ne_eq, endsWith_iff]
  exact fun ends => (Path.named_inv named).1.noSlash (ends.subset slash)

theorem same_outputPath_iff (source : IsSource s p n) (source' : IsSource s q m)
    (beside : Path.Beside p q) : Path.same (outputPath s p) (outputPath s q) = true ↔
      Path.stem n = Path.stem m := by
  obtain ⟨d, e, parent, parent', same⟩ := beside
  have ⟨name, _⟩ := Path.named_inv source.named
  have ⟨name', _⟩ := Path.named_inv source'.named
  obtain ⟨first, rest, cut⟩ := List.exists_cons_of_ne_nil (Path.parts_ne_nil s.suffix)
  rw [Path.same_iff, outputPath_of_named source.named, outputPath_of_named source'.named,
    Path.withFileName_of_named source.named parent,
    Path.withFileName_of_named source'.named parent',
    Path.components_join_eq_iff (Path.same_iff.mp same) (isRelative_outputName name source.ends)
      (isRelative_outputName name' source'.ends)
      (parts_outputName (stem_of_name name source.ends).2 cut)
      (parts_outputName (stem_of_name name' source'.ends).2 cut)]
  exact String.append_left_inj first

/-- Outputs fit exactly if the suffix has no slash, and two sources of a directory share an output
exactly if the name of one is an extension only and that of the other is this extension twice. -/
theorem outputPaths_fit_iff {c : Config} (valid : c.Valid) :
    (∀ p n, IsSource c.settings p n →
      (OutputFits c.settings p ↔ '/' ∉ c.settings.suffix.toList)) ∧
    ∀ p q n m, IsSource c.settings p n → IsSource c.settings q m → Path.Beside p q → n ≠ m →
      (Path.same (outputPath c.settings p) (outputPath c.settings q) = true ↔
        n = ".go" ∧ m = ".go.go" ∨ n = ".go.go" ∧ m = ".go") := by
  have ⟨ends, more⟩ := Config.suffix_of_valid valid
  refine ⟨fun p n source => ⟨fun fits slash => ?_, fun noSlash => ?_⟩,
    fun p q n m source source' beside distinct => ?_⟩
  · have known := fits.known
    rw [isOutputName_slash slash] at known
    cases known
  · exact outputFits_of_flat ⟨ends, more, noSlash⟩ source
  · rw [same_outputPath_iff source source' beside]
    exact Path.stem_eq_iff source.ends source'.ends distinct

theorem outputPaths_standard_fit : Config.standard.Valid ∧
    OutputFits Config.standard.settings "models/user.go" ∧
    Path.same (outputPath Config.standard.settings "models/.go")
      (outputPath Config.standard.settings "models//.go.go") = true := by
  have valid : Config.standard.Valid := by decide +kernel
  have source {p n : String} (named : Path.fileName? p = some n) (ends : n.endsWith ".go" = true)
      (fresh : n.endsWith "_gen.go" = false) : IsSource Config.standard.settings p n :=
    ⟨named, ends, fresh⟩
  have ⟨fit, collide⟩ := outputPaths_fit_iff valid
  refine ⟨valid, (fit _ "user.go" (source ?_ ?_ ?_)).mpr ?_,
    (collide _ _ ".go" ".go.go" (source ?_ ?_ ?_) (source ?_ ?_ ?_)
      ⟨"models", "models", ?_, ?_, ?_⟩ ?_).mpr (.inl ⟨rfl, rfl⟩)⟩ <;> decide +kernel

/-- A valid configuration that puts every output into a directory of its own. -/
def nested : Config where
  settings := { Emit.Settings.standard with suffix := "/gen.go" }
  recursive := true
  respectIgnore := true
  filter := none

theorem outputPath_nested_not_fits : nested.Valid ∧
    IsSource nested.settings "models/user.go" "user.go" ∧
    ¬ OutputFits nested.settings "models/user.go" ∧
    outputPath nested.settings "models/user.go" = "models/user/gen.go" ∧
    isOutputName nested.settings "models/user/gen.go" = false ∧
    isTrigger nested.settings.suffix "models/user/gen.go" = true := by
  have path : outputPath nested.settings "models/user.go" = "models/user/gen.go" := by
    decide +kernel
  have unknown : isOutputName nested.settings "models/user/gen.go" = false := by decide +kernel
  refine ⟨by decide +kernel, ⟨by decide +kernel, by decide +kernel, by decide +kernel⟩,
    fun fits => ?_, path, unknown, by decide +kernel⟩
  have known := fits.known
  rw [path, unknown] at known
  cases known

end TagSchema.Generate
