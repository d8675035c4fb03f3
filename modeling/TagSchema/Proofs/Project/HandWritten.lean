import TagSchema.Proofs.Project.Changes

/-!
# Files that a run destroys

Orphans carry the marker of generated code, while nothing is asked of a file that stands where an
output belongs or is staged: `run_destroys_iff` tells which unmarked files a run destroys.
-/

namespace TagSchema

namespace Generate

/-- Text that begins with the marker is that of a generated file. -/
theorem isGenerated_marker (rest : String) :
    isGenerated (Emit.marker ++ ("\n\n" ++ rest)) = true := by
  have line : Text.fields '\n' Emit.marker.toList = [Emit.marker.toList] :=
    Text.fields_of_not_mem (by decide)
  have marks : isPackageLine (Text.trimEnd Emit.marker.toList) = false ∧
      isMarkerLine (Text.trimEnd Emit.marker.toList) = true := by decide
  have cut : (Emit.marker ++ ("\n\n" ++ rest)).toList =
      Emit.marker.toList ++ '\n' :: '\n' :: rest.toList := by
    rw [String.toList_append, String.toList_append]
    rfl
  rw [isGenerated, cut, Text.fields_append, line]
  simp [marks.1, marks.2]

theorem isGenerated_file {s : Emit.Settings} {rs : List Record} {code : Emit.Code}
    (h : Emit.file s rs = .ok code) : isGenerated code.text = true := by
  obtain ⟨bodies, _, h⟩ := bind_ok h
  rw [pure_ok h]
  simp only [String.append_assoc]
  exact isGenerated_marker _

/-- Every output carries the marker. -/
theorem isGenerated_output {t : FileTree} {s : Emit.Settings} {p : String} {outs : List Output}
    (h : ofPackage t s p = .ok outs) {o : Output} (member : o ∈ outs) :
    isGenerated o.contents = true := by
  obtain ⟨files, _, h⟩ := bind_ok h
  obtain ⟨rss, _, h⟩ := bind_ok h
  obtain ⟨a, _, made⟩ := (mem_mapM_ok h).mp member
  obtain ⟨code, written, made⟩ := bind_ok made
  rw [pure_ok made]
  exact isGenerated_file (mapError_eq_ok_iff.mp written)

end Generate

namespace Project

open TagSchema.FileTree (Location SameDirectories)
open TagSchema.Generate (Output)

variable {t : FileTree} {c : Config} {roots ps : List String} {pl : Plan}

/-- Whether a file carries the marker of generated code. -/
def IsMarked (bytes : List UInt8) : Prop := (Text.ofUtf8? bytes).any Generate.isGenerated = true

instance (bytes : List UInt8) : Decidable (IsMarked bytes) := inferInstanceAs (Decidable (_ = _))

theorem Plan.Covers.marked_output (covers : pl.Covers t c ps) {o : Output}
    (member : o ∈ pl.outputs) : IsMarked o.contents.toUTF8.toList := by
  obtain ⟨p, _, outs, made, listed⟩ := (covers.outputs o).mp member
  rw [IsMarked, Text.ofUtf8?_toUTF8]
  exact Generate.isGenerated_output made listed

theorem Plan.Covers.marked_orphan (covers : pl.Covers t c ps) (names : t.Named)
    (found : Scan.packages t (scanOptions c) roots = .ok ps) {x : String} (member : x ∈ pl.orphans)
    {u : FileTree} (keeps : FileTree.KeepsDirectories t u) {l : Location}
    (place : u.locate x = .ok l) {bytes : List UInt8} (file : t.file? l = some bytes) :
    IsMarked bytes := by
  obtain ⟨_, _, D, n, _, generated, _, _, reached⟩ := covers.orphan names found member
  obtain rfl := Except.ok.inj (place.symm.trans (FileTree.locate_mono keeps reached))
  have marked := generated.2
  rwa [file] at marked

/-- Whatever comes of a run, an unmarked file is destroyed only where the path of an output leads
or where an output is staged. -/
theorem touched_of_destroyed (names : t.Named) {l : Location} {bytes : List UInt8}
    (file : t.file? l = some bytes) (unmarked : ¬ IsMarked bytes)
    (destroyed : (run t c roots).1.file? l ≠ some bytes) : ∃ pl, plan t c roots = .ok pl ∧
      ∃ o ∈ pl.outputs, Write.Touches (run t c roots).1 o.path l := by
  cases planned : plan t c roots with
  | error e =>
    rw [run_failed planned] at destroyed
    exact (destroyed file).elim
  | ok pl =>
    obtain ⟨ps, found, covers⟩ := plan_covers planned
    have confined := run_confined planned
    have touched : pl.Touches (run t c roots).1 l := by
      by_contra outside
      exact destroyed ((confined.frame l outside).trans file)
    rcases touched with output | ⟨x, member, place⟩
    · exact ⟨pl, rfl, output⟩
    · have keeps := confined.directories
      exact (unmarked (covers.marked_orphan names found member keeps place file)).elim

/-- A run that succeeds destroys the unmarked files where the paths of its outputs lead and where
the files that it wrote were staged. -/
theorem Plan.Covers.destroyed_iff (covers : pl.Covers t c ps) (names : t.Named)
    (ends : c.settings.suffix.endsWith ".go" = true)
    (found : Scan.packages t (scanOptions c) roots = .ok ps) {u : FileTree}
    {changes : List Write.Change} (applied : pl.apply false t = (u, .ok changes)) {l : Location}
    {bytes : List UInt8} (file : t.file? l = some bytes) (unmarked : ¬ IsMarked bytes) :
    u.file? l ≠ some bytes ↔ (∃ o ∈ pl.outputs, u.locate o.path = .ok l) ∨
      ∃ change ∈ changes, change.isWritten = true ∧
        u.locate (Write.temporaryPath change.path) = .ok l := by
  obtain ⟨v, written, removed, rfl, first, later⟩ := apply_ok applied
  have ordinary (o : Output) (member : o ∈ pl.outputs) := covers.ordinary names ends found member
  have keeps := Write.keepsDirectories_of_each first
  have removes := Write.each_remove_confined false v pl.orphans
  have gone := Write.each_remove_gone false pl.orphans v l
  rw [later] at removes gone
  constructor
  · intro destroyed
    by_cases before : v.file? l = t.file? l
    · -- The writes have left the file alone, so that it would have been an orphan.
      have orphan : ∃ x ∈ pl.orphans, u.locate x = .ok l := by
        by_contra outside
        exact destroyed ((removes.frame l outside).trans (before.trans file))
      obtain ⟨x, member, place⟩ := orphan
      have keeps : FileTree.KeepsDirectories t u := fun l dir => removes.directories l (keeps l dir)
      exact (unmarked (covers.marked_orphan names found member keeps place file)).elim
    · obtain ⟨change, member, put, ⟨o, listed, path⟩, touched⟩ :=
        Write.each_write_changed first before
      rcases touched.mono removes.directories with place | staging
      · exact .inl ⟨o, listed, path ▸ place⟩
      · exact .inr ⟨change, List.mem_append_left _ member, put, staging⟩
  · intro cause kept
    -- What is there after the removals was there before them.
    have kept : v.file? l = some bytes := by
      rcases gone with same | none
      · exact same.symm.trans kept
      · cases none.symm.trans kept
    rcases cause with ⟨o, member, place⟩ | ⟨change, member, put, staging⟩
    · obtain ⟨loc, reached, o', member', held⟩ := Write.each_write_held ordinary first o member
      obtain rfl :=
        Except.ok.inj (place.symm.trans (FileTree.locate_mono removes.directories reached))
      rw [Option.some.inj (kept.symm.trans held)] at unmarked
      exact unmarked (covers.marked_output member')
    · have member : change ∈ written := by
        refine (List.mem_append.mp member).resolve_right fun member => ?_
        rw [Write.each_remove_unwritten later change member] at put
        cases put
      obtain ⟨loc, stands, _, moved⟩ := Write.each_write_staged ordinary first change member put
      have reached := FileTree.locate_mono removes.directories (Write.locate_temporaryPath stands)
      obtain rfl := Except.ok.inj (staging.symm.trans reached)
      cases moved.symm.trans kept

/-- Which unmarked files a run destroys: at most those where the path of an output leads or where it
is staged, and if the run succeeds without being dry just those where the path of an output leads or
where a file that was written was staged. -/
theorem run_destroys_iff (names : t.Named) (valid : c.Valid) {l : Location} {bytes : List UInt8}
    (file : t.file? l = some bytes) (unmarked : ¬ IsMarked bytes) :
    ((run t c roots).1.file? l ≠ some bytes → c.settings.dryRun = false ∧
      ∃ pl, plan t c roots = .ok pl ∧
        ∃ o ∈ pl.outputs, Write.Touches (run t c roots).1 o.path l) ∧
    ∀ report, c.settings.dryRun = false → (run t c roots).2 = .ok report →
      ((run t c roots).1.file? l ≠ some bytes ↔
        (∃ o ∈ report.outputs, (run t c roots).1.locate o.path = .ok l) ∨
          ∃ change ∈ report.changes, change.isWritten = true ∧
            (run t c roots).1.locate (Write.temporaryPath change.path) = .ok l) := by
  constructor
  · intro destroyed
    refine ⟨?_, touched_of_destroyed names file unmarked destroyed⟩
    by_contra dry
    rw [run_dryRun t c roots (by simpa using dry)] at destroyed
    exact destroyed file
  · intro report dry done
    obtain ⟨pl, changes, planned, applied, rfl⟩ := run_done done
    obtain ⟨ps, found, covers⟩ := plan_covers planned
    rw [dry] at applied
    exact covers.destroyed_iff names (Config.suffix_of_valid valid).1 found applied file unmarked

/-- A package with a source, and a file written by hand where the output of the source belongs. -/
def occupied : FileTree where
  nodes := [
    (["a"], .directory),
    (["a", "u.go"],
      .file "package a\n//go:generate gozodgen\ntype U struct\x7b\x7d\n".toUTF8.toList),
    (["a", "u_gen.go"], .file "package a\nfunc F() \x7b\x7d\n".toUTF8.toList)]
  distinct := by decide
  held := by decide

theorem run_occupied : (run occupied .standard ["."]).2.toOption.isSome = true ∧
    (run occupied .standard ["."]).1.file? ["a", "u_gen.go"] ≠
      some "package a\nfunc F() \x7b\x7d\n".toUTF8.toList := by
  -- Names sorted by merging do not compute here.
  simp only [run, plan, generate, orphans, Generate.ofPackage, Generate.sourcesIn,
    Generate.generatedIn, FileTree.fileNames, List.mergeSort_eq_insertionSort]
  decide +kernel

/-- A run with a valid configuration destroys a file that was written by hand. -/
theorem run_occupied_destroys : Config.standard.Valid ∧ occupied.Named ∧ ∃ bytes,
    occupied.file? ["a", "u_gen.go"] = some bytes ∧ ¬ IsMarked bytes ∧
      (run occupied .standard ["."]).1.file? ["a", "u_gen.go"] ≠ some bytes :=
  ⟨by decide +kernel, by decide +kernel, "package a\nfunc F() \x7b\x7d\n".toUTF8.toList,
    by decide +kernel, by decide +kernel, run_occupied.2⟩

/-- The path of an output leads to the file, or the file was staged there. -/
theorem run_occupied_destroys_output : ∃ bytes report,
    occupied.file? ["a", "u_gen.go"] = some bytes ∧ ¬ IsMarked bytes ∧
    (run occupied .standard ["."]).2 = .ok report ∧
    ((∃ o ∈ report.outputs,
        (run occupied .standard ["."]).1.locate o.path = .ok ["a", "u_gen.go"]) ∨
      ∃ change ∈ report.changes, change.isWritten = true ∧ (run occupied .standard ["."]).1.locate
        (Write.temporaryPath change.path) = .ok ["a", "u_gen.go"]) := by
  have file : occupied.file? ["a", "u_gen.go"] =
      some "package a\nfunc F() \x7b\x7d\n".toUTF8.toList := by decide +kernel
  have unmarked : ¬ IsMarked "package a\nfunc F() \x7b\x7d\n".toUTF8.toList := by decide +kernel
  obtain ⟨report, done⟩ := Option.isSome_iff_exists.mp run_occupied.1
  have done := toOption_eq_some_iff.mp done
  have ⟨_, destroyed⟩ := @run_destroys_iff occupied .standard ["."] (by decide +kernel)
    (by decide +kernel) _ _ file unmarked
  exact ⟨_, report, file, unmarked, done, (destroyed report rfl done).mp run_occupied.2⟩

end Project

end TagSchema
