import TagSchema.Proofs.Project.Fresh
import TagSchema.Proofs.Project.Staging

/-!
# What a run may change

Whatever comes of a run, it keeps to the directories of packages, and in these to the outputs, their
places of staging, and what an earlier run has left over: `run_stays_in_packages`.
-/

namespace TagSchema.Project

open TagSchema.FileTree (Location SameDirectories)
open TagSchema.Generate (Output outputName)

variable {t : FileTree} {c : Config} {roots ps : List String} {pl : Plan}

/-- Where the output of a source file that declares records belongs. -/
def IsOutputPlace (t : FileTree) (c : Config) (ps : List String) (l : Location) : Prop :=
  ∃ p ∈ ps, ∃ rss, Generate.recordsInPackage t c.settings p = .ok rss ∧
    ∃ a ∈ rss, t.locate (Generate.outputPath c.settings a.1) = .ok l

/-- A name in a package under which a run may change something: that of an output, of a generated
file that is no output, or of a place where an output is staged. -/
inductive MayChange (t : FileTree) (c : Config) (ps : List String) (D : Location) :
    String → Prop where
  | output {n : String} (place : IsOutputPlace t c ps (D ++ [n])) : MayChange t c ps D n
  | leftover {n : String} (generated : Generate.IsGenerated t c.settings D n)
      (unmatched : ¬ IsOutputPlace t c ps (D ++ [n])) : MayChange t c ps D n
  | staging {n : String} (place : IsOutputPlace t c ps (D ++ [n])) :
      MayChange t c ps D ("." ++ n ++ ".tmp")

theorem Plan.Covers.isOutputPlace_iff (covers : pl.Covers t c ps) {l : Location} :
    IsOutputPlace t c ps l ↔ ∃ o ∈ pl.outputs, t.locate o.path = .ok l := by
  constructor
  · rintro ⟨p, member, rss, read, a, listed, place⟩
    obtain ⟨outs, made⟩ := covers.generates p member
    obtain ⟨rss', read', paths⟩ := Generate.paths_ofPackage made
    obtain rfl := Except.ok.inj (read.symm.trans read')
    obtain ⟨o, present, same⟩ := List.mem_map.mp (paths ▸ List.mem_map_of_mem listed)
    exact ⟨o, (covers.outputs o).mpr ⟨p, member, outs, made, present⟩, same ▸ place⟩
  · rintro ⟨o, member, place⟩
    obtain ⟨p, member, outs, made, listed⟩ := (covers.outputs o).mp member
    obtain ⟨rss, read, paths⟩ := Generate.paths_ofPackage made
    have path : o.path ∈ outs.map (·.path) := List.mem_map_of_mem listed
    obtain ⟨a, present, same⟩ := List.mem_map.mp (paths ▸ path)
    exact ⟨p, member, rss, read, a, present, same ▸ place⟩

/-- Only places in packages are touched. -/
theorem Plan.Covers.mayChange (covers : pl.Covers t c ps) (names : t.Named)
    (flat : Generate.IsFlat c.settings) (found : Scan.packages t (scanOptions c) roots = .ok ps)
    {l : Location} (touched : pl.Touches t l) :
    ∃ p ∈ ps, ∃ D n, t.LeadsTo p D ∧ l = D ++ [n] ∧ MayChange t c ps D n := by
  rcases touched with ⟨o, member, touched⟩ | ⟨x, member, place⟩
  · obtain ⟨p, present, D, _, leads, _, _, stands⟩ := covers.output names flat found member
    have place := covers.isOutputPlace_iff.mpr ⟨o, member, stands.locate⟩
    rcases touched with reached | staging
    · exact ⟨p, present, D, _, leads, Except.ok.inj (reached.symm.trans stands.locate),
        .output place⟩
    · have same := staging.symm.trans (Write.locate_temporaryPath stands)
      rw [Write.scratchOf_concat] at same
      exact ⟨p, present, D, _, leads, Except.ok.inj same, .staging place⟩
  · obtain ⟨p, present, D, n, leads, generated, rfl, _, reached⟩ := covers.orphan names found member
    obtain rfl := Except.ok.inj (place.symm.trans reached)
    refine ⟨p, present, D, n, leads, rfl, .leftover generated fun output => ?_⟩
    obtain ⟨o, listed, output⟩ := covers.isOutputPlace_iff.mp output
    exact covers.disjoint names flat found listed output member place

theorem Plan.Covers.ordinary (covers : pl.Covers t c ps) (names : t.Named)
    (ends : c.settings.suffix.endsWith ".go" = true)
    (found : Scan.packages t (scanOptions c) roots = .ok ps) {o : Output}
    (member : o ∈ pl.outputs) : Write.IsOrdinary o.path := by
  obtain ⟨p, present, outs, made, listed⟩ := (covers.outputs o).mp member
  obtain ⟨D, leads⟩ := Scan.directory_of_mem_packages names found present
  have ⟨kept, paths⟩ := Generate.entries_ofPackage leads (fun n h => (candidate names h).1) made
  have ⟨name, source⟩ :=
    candidate names (kept.subset (List.mem_map_of_mem (f := fun o : Output => o.entry.1) listed))
  obtain ⟨m, ends_m, go⟩ := Generate.endsIn_outputPath leads.relative name source ends
  rw [paths o listed]
  exact ⟨m, ends_m, fun _ => Generate.not_isScratch go⟩

/-- After a successful run no written file is still staged. -/
theorem run_staged (planned : plan t c roots = .ok pl)
    (ordinary : ∀ o ∈ pl.outputs, Write.IsOrdinary o.path)
    (same : SameDirectories t (run t c roots).1) {report : Report}
    (done : (run t c roots).2 = .ok report) {change : Write.Change}
    (member : change ∈ report.changes) (written : change.isWritten = true) :
    (run t c roots).1.holds (Write.temporaryPath change.path) = false := by
  obtain ⟨pl', changes, planned', applied, rfl⟩ := run_done done
  obtain rfl := Except.ok.inj (planned.symm.trans planned')
  obtain ⟨v, puts, removed, rfl, first, later⟩ := apply_ok applied
  have put : change ∈ puts := by
    refine (List.mem_append.mp member).resolve_right fun member => ?_
    rw [Write.each_remove_unwritten later change member] at written
    cases written
  obtain ⟨loc, stands, free, gone⟩ :=
    Write.each_write_staged ordinary first change put written
  have same_v := Write.each_remove_sameDirectories c.settings.dryRun (t := v) pl.orphans
  have gone_u := Write.each_remove_gone c.settings.dryRun pl.orphans v (Write.scratchOf loc)
  rw [later] at same_v gone_u
  rw [FileTree.holds_eq (Write.locate_temporaryPath (stands.congr same_v))]
  cases held : (run t c roots).1.find? (Write.scratchOf loc) with
  | none => rfl
  | some node =>
    cases node with
    | directory => exact (free ((same _).mpr held)).elim
    | file bytes =>
      rw [gone, FileTree.file?, held] at gone_u
      rcases gone_u with gone | gone <;> cases gone

/-- A run keeps to the directories of packages, and in these to the outputs of source files that
declare records, to their places of staging, and to generated files that are no outputs. -/
theorem run_stays_in_packages (names : t.Named) (valid : c.Valid)
    (noSlash : '/' ∉ c.settings.suffix.toList) :
    SameDirectories t (run t c roots).1 ∧
    (∀ l, (run t c roots).1.find? l ≠ t.find? l → ∃ ps, packages t c roots = .ok ps ∧
      ∃ p ∈ ps, ∃ D n, t.LeadsTo p D ∧ l = D ++ [n] ∧ MayChange t c ps D n) ∧
    ∀ report, (run t c roots).2 = .ok report → ∀ change ∈ report.changes,
      change.isWritten = true →
        (run t c roots).1.holds (Write.temporaryPath change.path) = false := by
  have ⟨ends, more⟩ := Config.suffix_of_valid valid
  cases planned : plan t c roots with
  | error e =>
    rw [run_failed planned]
    refine ⟨fun _ => Iff.rfl, fun l differs => (differs rfl).elim, fun report done => ?_⟩
    cases done
  | ok pl =>
    obtain ⟨ps, found, covers⟩ := plan_covers planned
    have flat : Generate.IsFlat c.settings := ⟨ends, more, noSlash⟩
    have ordinary (o : Output) (member : o ∈ pl.outputs) : Write.IsOrdinary o.path :=
      covers.ordinary names ends found member
    have same : SameDirectories t (run t c roots).1 := by
      refine run_sameDirectories planned fun o member => ?_
      obtain ⟨D, E, m, _, _, _, leads, _⟩ := covers.output_stands names flat found member
      exact ⟨E, leads⟩
    refine ⟨same, fun l differs => ⟨ps, ?_, ?_⟩, fun report done change member written => ?_⟩
    · exact mapError_eq_ok_iff.mpr found
    · have touched : pl.Touches (run t c roots).1 l := by
        by_contra outside
        exact differs (FileTree.find?_eq_of_file? same ((run_confined planned).frame l outside))
      exact covers.mayChange names flat found (touched.mono same.symm.keeps)
    · exact run_staged planned ordinary same done member written

/-- The output without a source lies in a package, and the output that is written is not staged any
more. -/
theorem run_halfDone_stays_in_packages :
    (run halfDone .standard ["."]).1.find? ["b", "v_gen.go"] ≠ halfDone.find? ["b", "v_gen.go"] ∧
    SameDirectories halfDone (run halfDone .standard ["."]).1 ∧
    (∃ ps, packages halfDone .standard ["."] = .ok ps ∧ ∃ p ∈ ps, ∃ D n, halfDone.LeadsTo p D ∧
      ["b", "v_gen.go"] = D ++ [n] ∧ MayChange halfDone .standard ps D n) ∧
    ∃ report, (run halfDone .standard ["."]).2 = .ok report ∧ ∃ change ∈ report.changes,
      change.isWritten = true ∧
        (run halfDone .standard ["."]).1.holds (Write.temporaryPath change.path) = false := by
  have ⟨same, places, staged⟩ := @run_stays_in_packages halfDone .standard ["."]
    (by decide +kernel) (by decide +kernel) (by decide +kernel)
  have differs : (run halfDone .standard ["."]).1.find? ["b", "v_gen.go"] ≠
      halfDone.find? ["b", "v_gen.go"] := by decide +kernel
  have written : (run halfDone .standard ["."]).2.toOption.any
      (·.changes.any (·.isWritten)) = true := by decide +kernel
  obtain ⟨report, done, any⟩ := (Option.any_eq_true _ _).mp written
  obtain ⟨change, member, put⟩ := List.any_eq_true.mp any
  have done := toOption_eq_some_iff.mp done
  exact ⟨differs, same, places _ differs, report, done, change, member, put,
    staged report done change member put⟩

end TagSchema.Project
