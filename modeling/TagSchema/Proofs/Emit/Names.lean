import TagSchema.Config.Basic
import TagSchema.Emit.File
import TagSchema.Proofs.Except
import TagSchema.Proofs.Go.Name

/-!
# Names in generated files

A file gives names to the packages that it imports and to the receivers of its methods.
`namesFit_iff` says for which valid configurations all of them are identifiers and no two of them
clash.
-/

namespace TagSchema.Emit

open TagSchema.Text

variable {c : Config} {s : Settings} {rs : List Record} {r : Record}

theorem schemaAlias_of_valid (valid : c.Valid) :
    (∃ start ∈ c.settings.schemaAlias.toList.head?, Go.startsName start = true) ∧
      ∀ d ∈ c.settings.schemaAlias.toList, Go.continuesName d = true := by
  have checked : Config.isName c.settings.schemaAlias = true := by
    by_contra wrong
    rw [Config.Valid, Config.faults] at valid
    simp [wrong] at valid
  unfold Config.isName at checked
  split at checked
  · rename_i start later found
    rw [Bool.and_eq_true, List.all_eq_true] at checked
    rw [found, List.forall_mem_cons]
    exact ⟨⟨start, rfl, checked.1⟩, Go.continuesName_of_startsName checked.1, checked.2⟩
  · cases checked

/-- Under a valid configuration only a keyword can be wrong with the schema library's name. -/
theorem isSimpleIdentifier_schemaAlias_iff (valid : c.Valid) :
    Go.isSimpleIdentifier c.settings.schemaAlias.toList = true ↔
      Go.isKeyword c.settings.schemaAlias = false := by
  have ⟨start, later⟩ := schemaAlias_of_valid valid
  rw [Go.isSimpleIdentifier_iff, String.ofList_toList]
  exact ⟨fun h => h.2.2, fun h => ⟨start, later, h⟩⟩

/-! ### Receivers -/

/-- The names that a receiver must not have. -/
def reserved (s : Settings) : List String := [s.schemaAlias, regexPackage, "time"]

theorem receiver_cases (s : Settings) (r : Record) :
    Go.receiverName r.name ∈ reserved s ∧ receiver s r = "x" ∨
      Go.receiverName r.name ∉ reserved s ∧ receiver s r = Go.receiverName r.name := by
  unfold receiver
  dsimp only
  split
  · rename_i clash
    exact .inl ⟨List.contains_iff_mem.mp clash, rfl⟩
  · rename_i free
    exact .inr ⟨fun member => free (List.contains_iff_mem.mpr member), rfl⟩

theorem isIdentifier_receiver_iff (valid : c.Valid) :
    Go.isIdentifier (receiver c.settings r) = true ↔ ¬ Go.HasDottedInitial r.name := by
  rcases receiver_cases c.settings r with ⟨clash, named⟩ | ⟨_, named⟩
  · -- A name with the mark is none of the reserved ones.
    rw [named]
    refine iff_of_true (by decide) fun dotted => ?_
    have mark := Go.mark_mem_receiverName dotted
    have ⟨_, later⟩ := schemaAlias_of_valid valid
    have others : '\u0307' ∉ regexPackage.toList ∧ '\u0307' ∉ "time".toList ∧
        Go.continuesName '\u0307' = false := by decide
    simp only [reserved, List.mem_cons, List.not_mem_nil, or_false] at clash
    rcases clash with same | same | same
    · rw [same] at mark
      rw [later _ mark] at others
      cases others.2.2
    · exact others.1 (same ▸ mark)
    · exact others.2.1 (same ▸ mark)
  · rw [named, Go.isIdentifier_receiverName_iff]

theorem receiver_ne (s : Settings) (r : Record) :
    receiver s r ≠ regexPackage ∧ receiver s r ≠ "time" := by
  rcases receiver_cases s r with ⟨_, named⟩ | ⟨free, named⟩
  · rw [named]
    decide
  · rw [named]
    simp only [reserved, List.mem_cons, List.not_mem_nil, or_false, not_or] at free
    exact free.2

/-- Falling back on `x` helps only where `x` is not taken itself. -/
theorem receiver_eq_schemaAlias_iff : receiver s r = s.schemaAlias ↔
    s.schemaAlias = "x" ∧ Go.receiverName r.name ∈ ["x", regexPackage, "time"] := by
  rcases receiver_cases s r with ⟨clash, named⟩ | ⟨free, named⟩
  · rw [named, eq_comm]
    refine ⟨fun same => ⟨same, ?_⟩, fun h => h.1⟩
    rwa [reserved, same] at clash
  · rw [named]
    constructor
    · intro same
      exact absurd (same ▸ List.mem_cons_self) free
    · rintro ⟨same, clash⟩
      rw [reserved, same] at free
      exact absurd clash free

/-! ### Files -/

theorem name_time : (Import.plain "time").name = "time" := by decide

theorem names_imports (s : Settings) (rs : List Record) : (imports s rs).map (·.name) =
    s.schemaAlias :: ((if usesRegex rs then [regexPackage] else []) ++
      (if usesTime rs then ["time"] else [])) := by
  unfold imports
  split <;> split <;> simp [Import.name_under, name_time]

/-- The names of a file are identifiers, and a receiver and the imports have different names. -/
structure NamesFit (s : Settings) (rs : List Record) : Prop where
  schemaAlias : Go.isSimpleIdentifier s.schemaAlias.toList = true ∧ s.schemaAlias ≠ "_"
  receivers : ∀ r ∈ rs, Go.isIdentifier (receiver s r) = true
  distinct : ∀ r ∈ rs, (receiver s r :: (imports s rs).map (·.name)).Nodup

theorem distinct_iff : (receiver s r :: (imports s rs).map (·.name)).Nodup ↔
    receiver s r ≠ s.schemaAlias ∧ (usesRegex rs = true → s.schemaAlias ≠ regexPackage) ∧
      (usesTime rs = true → s.schemaAlias ≠ "time") := by
  have ⟨noRegex, noTime⟩ := receiver_ne s r
  have apart : regexPackage ≠ "time" := by decide
  rw [names_imports]
  cases usesRegex rs <;> cases usesTime rs <;> simp [noRegex, noTime, apart]

/-- A valid configuration gives a file names that fit exactly when the schema library's name is no
keyword, no blank, and no name of another import, and when each receiver has its letters and a name
to fall back on. -/
theorem namesFit_iff (valid : c.Valid) : NamesFit c.settings rs ↔
    (Go.isKeyword c.settings.schemaAlias = false ∧ c.settings.schemaAlias ≠ "_") ∧
      (usesRegex rs = true → c.settings.schemaAlias ≠ regexPackage) ∧
      (usesTime rs = true → c.settings.schemaAlias ≠ "time") ∧
      ∀ r ∈ rs, ¬ Go.HasDottedInitial r.name ∧ (c.settings.schemaAlias = "x" →
        Go.receiverName r.name ∉ ["x", regexPackage, "time"]) := by
  have free (r : Record) : receiver c.settings r ≠ c.settings.schemaAlias ↔
      (c.settings.schemaAlias = "x" → Go.receiverName r.name ∉ ["x", regexPackage, "time"]) := by
    rw [ne_eq, receiver_eq_schemaAlias_iff, not_and]
  constructor
  · intro fit
    have apart (r : Record) (member : r ∈ rs) := distinct_iff.mp (fit.distinct r member)
    refine ⟨⟨(isSimpleIdentifier_schemaAlias_iff valid).mp fit.schemaAlias.1, fit.schemaAlias.2⟩,
      fun uses => ?_, fun uses => ?_, fun r member => ⟨?_, (free r).mp (apart r member).1⟩⟩
    · obtain ⟨r, member, _⟩ := List.any_eq_true.mp uses
      exact (apart r member).2.1 uses
    · obtain ⟨r, member, _⟩ := List.any_eq_true.mp uses
      exact (apart r member).2.2 uses
    · exact (isIdentifier_receiver_iff valid).mp (fit.receivers r member)
  · rintro ⟨⟨word, noBlank⟩, noRegex, noTime, names⟩
    refine ⟨⟨(isSimpleIdentifier_schemaAlias_iff valid).mpr word, noBlank⟩, fun r member => ?_,
      fun r member => distinct_iff.mpr ⟨(free r).mpr (names r member).2, noRegex, noTime⟩⟩
    exact (isIdentifier_receiver_iff valid).mpr (names r member).1

def xray : Record where
  name := "Xray"
  typeParams := []
  package := "lab"
  file := "xray.go"
  optedIn := true
  imports := []
  fields := []

/-- The standard configuration with another name for the schema library. -/
def aliased (name : String) : Config :=
  { Config.standard with settings := { Config.standard.settings with schemaAlias := name } }

theorem namesFit_xray : Config.standard.Valid ∧ NamesFit Config.standard.settings [xray] := by
  have valid : Config.standard.Valid := by decide +kernel
  exact ⟨valid, (namesFit_iff valid).mpr (by decide)⟩

theorem keyword_not_namesFit : (aliased "func").Valid ∧
    (file (aliased "func").settings [xray]).toOption.isSome = true ∧
    ¬ NamesFit (aliased "func").settings [xray] := by
  refine ⟨by decide +kernel, by decide +kernel, fun fit => ?_⟩
  have word := fit.schemaAlias.1
  revert word
  decide

end TagSchema.Emit
