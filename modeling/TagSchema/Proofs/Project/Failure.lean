import TagSchema.Project.Basic
import TagSchema.Proofs.Generate.Failure

/-!
# Runs that come to nothing

A run writes nothing before everything is generated. So whatever is wrong with one package, the tree
stays as it was: `run_unchanged`. `fails_plan_iff` tells what can be wrong.
-/

namespace TagSchema.Project

variable {t : FileTree} {c : Config} {roots : List String}

/-- A root that cannot be searched, or a package below the roots that cannot be generated. -/
inductive Blocked (t : FileTree) (c : Config) (roots : List String) : Prop where
  | scan {root : String} (member : root ∈ roots)
      (failed : Fails (Scan.packagesAt t (scanOptions c) root))
  | package {ps : List String} {p : String} (found : packages t c roots = .ok ps)
      (member : p ∈ ps) (faulty : Generate.Faulty t c.settings p)

theorem fails_packages_iff : Fails (packages t c roots) ↔
    ∃ root ∈ roots, Fails (Scan.packagesAt t (scanOptions c) root) := by
  rw [packages, fails_mapError_iff, Scan.packages, fails_bind_iff, fails_mapM_iff]
  exact or_iff_left fun ⟨_, _, failed⟩ => not_fails_ok _ failed

theorem fails_generate_iff : Fails (generate t c roots) ↔ Blocked t c roots := by
  rw [generate, fails_bind_iff]
  constructor
  · rintro (failed | ⟨ps, found, failed⟩)
    · obtain ⟨root, member, failed⟩ := fails_packages_iff.mp failed
      exact .scan member failed
    · rcases fails_bind_iff.mp failed with failed | ⟨_, _, failed⟩
      · obtain ⟨p, member, failed⟩ := fails_mapM_iff.mp failed
        rw [fails_mapError_iff, Generate.fails_ofPackage_iff] at failed
        exact .package found member failed
      · exact (not_fails_ok _ failed).elim
  · intro blocked
    cases blocked with
    | scan member failed => exact .inl (fails_packages_iff.mpr ⟨_, member, failed⟩)
    | package found member faulty =>
      refine .inr ⟨_, found, fails_bind_iff.mpr (.inl (fails_mapM_iff.mpr ⟨_, member, ?_⟩))⟩
      rwa [fails_mapError_iff, Generate.fails_ofPackage_iff]

/-- Listing what is generated already fails only where generating has failed. -/
theorem blocked_of_fails_orphans {outputs : List Generate.Output}
    (failed : Fails (orphans t c roots outputs)) : Blocked t c roots := by
  rw [orphans, fails_bind_iff] at failed
  rcases failed with failed | ⟨ps, found, failed⟩
  · obtain ⟨root, member, failed⟩ := fails_packages_iff.mp failed
    exact .scan member failed
  · rcases fails_bind_iff.mp failed with failed | ⟨_, _, failed⟩
    · obtain ⟨p, member, failed⟩ := fails_mapM_iff.mp failed
      rw [fails_mapError_iff, Generate.generatedIn, fails_bind_iff] at failed
      rcases failed with unreadable | ⟨_, _, failed⟩
      · exact .package found member (.directory unreadable)
      · exact (not_fails_ok _ failed).elim
    · exact (not_fails_ok _ failed).elim

theorem fails_plan_iff : Fails (plan t c roots) ↔ Blocked t c roots := by
  rw [plan, fails_bind_iff, fails_generate_iff]
  refine or_iff_left_of_imp fun ⟨_, _, failed⟩ => ?_
  rcases fails_bind_iff.mp failed with failed | ⟨_, _, failed⟩
  · exact blocked_of_fails_orphans failed
  · exact (not_fails_ok _ failed).elim

/-- A run leaves every file and directory as it was if anything below the roots cannot be generated,
or if it is dry; in the first case it fails. -/
theorem run_unchanged (cause : Blocked t c roots ∨ c.settings.dryRun = true) :
    (run t c roots).1 = t ∧ (Blocked t c roots → Fails (run t c roots).2) := by
  have failing (blocked : Blocked t c roots) : ∃ e, run t c roots = (t, .error e) := by
    obtain ⟨e, failed⟩ := fails_plan_iff.mpr blocked
    exact ⟨e, run_failed failed⟩
  constructor
  · rcases cause with blocked | dry
    · obtain ⟨e, failed⟩ := failing blocked
      rw [failed]
    · exact run_dryRun t c roots dry
  · intro blocked
    obtain ⟨e, failed⟩ := failing blocked
    exact ⟨e, congrArg Prod.snd failed⟩

/-- A package that needs its output written, one with an output to remove, and behind them one whose
last field has a tag that does not parse. -/
def halted : FileTree where
  nodes := [
    (["a"], .directory),
    (["a", "u.go"],
      .file "package a\n//go:generate gozodgen\ntype U struct\x7b\x7d\n".toUTF8.toList),
    (["b"], .directory),
    (["b", "v_gen.go"], .file (Emit.marker ++ "\npackage b\n").toUTF8.toList),
    (["c"], .directory),
    (["c", "w.go"], .file ("package c\ntype W struct \x7b\n\tA string `gozod:\"min=1\"`\n" ++
      "\tB string `gozod:\"min=\"`\n\x7d\n").toUTF8.toList)]
  distinct := by decide
  held := by decide

theorem run_halted_unchanged : Config.standard.settings.dryRun = false ∧
    Blocked halted .standard ["."] ∧ (run halted .standard ["."]).1 = halted ∧
    Fails (run halted .standard ["."]).2 := by
  have failed : (plan halted .standard ["."]).toOption = none := by decide +kernel
  have blocked := fails_plan_iff.mp (fails_iff.mpr fun pl planned => by
    rw [planned] at failed
    cases failed)
  have ⟨same, fails⟩ := run_unchanged (.inl blocked)
  exact ⟨rfl, blocked, same, fails blocked⟩

end TagSchema.Project
