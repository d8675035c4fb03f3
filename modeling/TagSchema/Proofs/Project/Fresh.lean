import TagSchema.Proofs.Project.Plan
import TagSchema.Proofs.Text.Utf8

/-!
# Fresh projects

A run leaves nothing to do for the next one: `run_leaves_fresh`. Outputs are never read as sources,
and a package that only new outputs make visible shares its directory with one that was there before
(`Brought.packages_after`).
-/

namespace TagSchema.Project

open TagSchema.FileTree (Location SameDirectories)
open TagSchema.Generate (Output outputName)

variable {t u : FileTree} {c : Config} {roots ps : List String} {pl : Plan}

/-! ### What a run leaves -/

/-- The contents of the outputs are in their places, the orphans are gone, and nothing else has
changed but at places of staging. -/
structure Brought (pl : Plan) (t u : FileTree) : Prop where
  directories : SameDirectories t u
  frame : ∀ l, ¬ Write.IsScratch l → (∀ o ∈ pl.outputs, t.locate o.path ≠ .ok l) →
    (∀ x ∈ pl.orphans, t.locate x ≠ .ok l) → u.find? l = t.find? l
  written : ∀ o ∈ pl.outputs, ∀ l, t.locate o.path = .ok l →
    u.find? l = some (.file o.contents.toUTF8.toList)
  removed : ∀ x ∈ pl.orphans, ∀ l, t.locate x = .ok l → u.find? l = none

theorem apply_ok {dryRun : Bool} {changes : List Write.Change}
    (h : pl.apply dryRun t = (u, .ok changes)) :
    ∃ v written removed, changes = written ++ removed ∧
      Write.each (fun t o => Write.write dryRun t o.path o.contents) t pl.outputs =
        (v, .ok written) ∧
      Write.each (Write.remove dryRun) v pl.orphans = (u, .ok removed) := by
  unfold Plan.apply at h
  split at h
  · cases h
  · rename_i v written first
    cases later : Write.each (Write.remove dryRun) v pl.orphans with
    | mk w r =>
      rw [later] at h
      cases r with
      | error e => cases h
      | ok removed =>
        obtain rfl : w = u := (Prod.mk.inj h).1
        exact ⟨v, written, removed, (Except.ok.inj (Prod.mk.inj h).2).symm, first, later⟩

theorem apply_brought (regular : Regular t c roots)
    (found : Scan.packages t (scanOptions c) roots = .ok ps) (covers : pl.Covers t c ps)
    {changes : List Write.Change} (h : pl.apply false t = (u, .ok changes)) : Brought pl t u := by
  have output_place {o : Output} (member : o ∈ pl.outputs) :=
    covers.output_place regular found member
  have orphan_place {x : String} (member : x ∈ pl.orphans) :
      t.locate x = .ok (t.placeOf x) ∧ ¬ Write.IsScratch (t.placeOf x) := by
    obtain ⟨_, _, D, n, _, generated, _, _, place⟩ := covers.orphan regular.names found member
    rw [FileTree.placeOf_eq place]
    exact ⟨place, Generate.not_isScratch (Generate.endsWith_trans generated.1 regular.flat.ends)⟩
  obtain ⟨v, _, _, _, first, later⟩ := apply_ok h
  have ⟨writes, put⟩ := Write.each_write_ok Output.path Output.contents
    (fun o => t.placeOf o.path) (fun o member => (output_place member).1)
    (fun o member => (output_place member).2)
    (fun o member o' member' same => covers.contents_eq regular found member member' same) first
  have ⟨removes, gone⟩ := Write.each_remove_ok t.placeOf
    (fun x member => FileTree.locate_congr writes.directories (orphan_place member).1)
    (fun x member => (orphan_place member).2) later
  have changed := writes.trans removes
  refine ⟨changed.directories, fun l scratch noOutput noOrphan => ?_,
    fun o member l place => ?_, fun x member l place => ?_⟩
  · refine changed.frame l scratch fun listed => ?_
    rcases List.mem_append.mp listed with listed | listed
    · obtain ⟨o, member, rfl⟩ := List.mem_map.mp listed
      exact noOutput o member (output_place member).1.locate
    · obtain ⟨x, member, rfl⟩ := List.mem_map.mp listed
      exact noOrphan x member (orphan_place member).1
  · rw [← FileTree.placeOf_eq place, removes.frame _ (output_place member).2, put o member]
    intro listed
    obtain ⟨x, orphan, same⟩ := List.mem_map.mp listed
    have stands := (output_place member).1.locate
    rw [← same] at stands
    exact covers.disjoint regular.names regular.flat found member stands orphan
      (orphan_place orphan).1
  · rw [← FileTree.placeOf_eq place]
    exact gone x member

namespace Brought

variable (brought : Brought pl t u) (regular : Regular t c roots)
  (found : Scan.packages t (scanOptions c) roots = .ok ps) (covers : pl.Covers t c ps)

include brought

/-- What is there after a run was put there or was there before. -/
theorem origin {l : Location} (scratch : ¬ Write.IsScratch l) (file : (u.file? l).isSome = true) :
    (∃ o ∈ pl.outputs, t.locate o.path = .ok l) ∨
      (∀ o ∈ pl.outputs, t.locate o.path ≠ .ok l) ∧ (∀ x ∈ pl.orphans, t.locate x ≠ .ok l) ∧
        u.file? l = t.file? l := by
  by_cases output : ∃ o ∈ pl.outputs, t.locate o.path = .ok l
  · exact .inl output
  · have noOutput : ∀ o ∈ pl.outputs, t.locate o.path ≠ .ok l := fun o member place =>
      output ⟨o, member, place⟩
    have noOrphan : ∀ x ∈ pl.orphans, t.locate x ≠ .ok l := by
      intro x member place
      rw [FileTree.file?, brought.removed x member l place] at file
      cases file
    refine .inr ⟨noOutput, noOrphan, ?_⟩
    rw [FileTree.file?, FileTree.file?, brought.frame l scratch noOutput noOrphan]

include regular found covers

/-- A run changes only files that are named like outputs. -/
theorem untouched {D : Location} {n : String} (other : n.endsWith c.settings.suffix ≠ true)
    (scratch : ¬ Write.IsScratch (D ++ [n])) : u.file? (D ++ [n]) = t.file? (D ++ [n]) := by
  rw [FileTree.file?, FileTree.file?, brought.frame _ scratch]
  · intro o member place
    obtain ⟨E, stands⟩ := covers.output_stands regular.names regular.flat found member
    have last := List.append_singleton_inj.mp (Except.ok.inj (stands.locate.symm.trans place))
    exact other (last.2 ▸ Generate.endsWith_outputName _ _)
  · intro x member place
    obtain ⟨_, _, E, m, _, generated, _, _, place'⟩ := covers.orphan regular.names found member
    have last := List.append_singleton_inj.mp (Except.ok.inj (place'.symm.trans place))
    exact other (last.2 ▸ generated.1)

theorem sources {D : Location} {n : String} (h : Generate.mayBeSource c.settings n = true) :
    t.file? (D ++ [n]) = u.file? (D ++ [n]) := by
  refine (brought.untouched regular found covers ?_
    (Generate.not_isScratch (Generate.endsWith_of_mayBeSource h))).symm
  rw [Generate.mayBeSource] at h
  simp only [Bool.and_eq_true, Bool.not_eq_true'] at h
  rw [h.2]
  decide

theorem ignores : Scan.SameIgnores (scanOptions c) t u := by
  refine ⟨brought.directories, fun D f member => ?_⟩
  have last : ∃ init n, f = init ++ [n] ∧ n.endsWith ".go" ≠ true ∧ n.endsWith ".tmp" ≠ true := by
    simp only [ne_eq, endsWith_iff]
    have listed : f ∈ [[".ignore"], [".gitignore"], [".git", "info", "exclude"]] := by
      unfold Scan.Ignore.fileLocations at member
      split at member <;> simp_all
    simp only [List.mem_cons, List.not_mem_nil, or_false] at listed
    rcases listed with rfl | rfl | rfl
    · exact ⟨[], ".ignore", rfl, by decide, by decide⟩
    · exact ⟨[], ".gitignore", rfl, by decide, by decide⟩
    · exact ⟨[".git", "info"], "exclude", rfl, by decide, by decide⟩
  obtain ⟨init, n, rfl, other, noTemp⟩ := last
  rw [← List.append_assoc]
  refine (brought.untouched regular found covers (fun ends => other ?_) ?_).symm
  · exact Generate.endsWith_trans ends regular.flat.ends
  · rintro ⟨E, m, _, same⟩
    refine noTemp (endsWith_iff.mpr ?_)
    rw [(List.append_singleton_inj.mp same).2, String.toList_append]
    exact List.suffix_append _ _

theorem regular_after : Regular u c roots := by
  refine ⟨FileTree.named_iff.mpr fun l held => ?_, fun l file last => ?_, regular.flat,
    regular.directories.congr brought.directories⟩
  · obtain ⟨node, holds⟩ := Option.isSome_iff_exists.mp held
    cases node with
    | directory =>
      refine FileTree.named_iff.mp regular.names l ?_
      rw [(brought.directories l).mpr holds]
      rfl
    | file bytes =>
      by_cases scratch : Write.IsScratch l
      · obtain ⟨D, n, name, rfl⟩ := scratch
        exact regular.names.concat ((brought.directories D).mpr (FileTree.directory_of_held held))
          (isName_scratch name)
      · have file : (u.file? l).isSome = true := by
          rw [FileTree.file?, holds]
          rfl
        rcases brought.origin scratch file with ⟨o, member, place⟩ | ⟨_, _, same⟩
        · obtain ⟨_, stands⟩ := covers.output_stands regular.names regular.flat found member
          rw [Except.ok.inj (place.symm.trans stands.locate)]
          exact stands.names regular.names
        · exact regular.names.of_file? (same ▸ file)
  · have file := Option.isSome_iff_exists.mpr (FileTree.mem_files.mp file)
    have bare : l = l.dropLast ++ [".go"] := (List.dropLast_append_getLast? _ last).symm
    have scratch : ¬ Write.IsScratch l := bare ▸ Generate.not_isScratch (endsWith_iff.mpr (by simp))
    rcases brought.origin scratch file with ⟨o, member, place⟩ | ⟨_, _, same⟩
    · obtain ⟨D, stands⟩ := covers.output_stands regular.names regular.flat found member
      have equal := Except.ok.inj (stands.locate.symm.trans place)
      rw [bare] at equal
      exact Generate.outputName_ne regular.flat _ (List.append_singleton_inj.mp equal).2
    · refine regular.noBare l (FileTree.mem_files.mpr ?_) last
      exact Option.isSome_iff_exists.mp (same ▸ file)

/-- Every package after a run shares its directory with one that was there before. -/
theorem packages_after : ∃ qs, Scan.packages u (scanOptions c) roots = .ok qs ∧
    ∀ q ∈ qs, ∃ p ∈ ps, ∃ D, t.LeadsTo p D ∧ u.LeadsTo q D := by
  have after := brought.regular_after regular found covers
  obtain ⟨qs, found', origins⟩ := Scan.packages_congr (brought.ignores regular found covers)
    regular.names after.names regular.directories found
  refine ⟨qs, found', fun q member => ?_⟩
  obtain ⟨D, n, leads', source, file, before⟩ := origins q member
  have scratch : ¬ Write.IsScratch (D ++ [n]) := by
    rw [Scan.isSourceName, Bool.and_eq_true] at source
    exact Generate.not_isScratch source.1
  rcases brought.origin scratch file with ⟨o, output, put⟩ | ⟨_, _, same⟩
  · obtain ⟨p, member, E, _, leads, _, _, stands⟩ :=
      covers.output regular.names regular.flat found output
    have equal := Except.ok.inj (stands.locate.symm.trans put)
    obtain rfl := (List.append_singleton_inj.mp equal).1
    exact ⟨p, member, E, leads, leads'⟩
  · obtain ⟨p, member, leads⟩ := before (same ▸ file)
    exact ⟨p, member, D, leads, leads'⟩

/-- No generated file of a package after a run is without a source. -/
theorem no_orphan_after {qs : List String} {pl' : Plan} {x : String}
    (found' : Scan.packages u (scanOptions c) roots = .ok qs) (covers' : pl'.Covers u c qs)
    (shared : ∀ q ∈ qs, ∃ p ∈ ps, ∃ D, t.LeadsTo p D ∧ u.LeadsTo q D) : x ∉ pl'.orphans := by
  intro orphan
  have after := brought.regular_after regular found covers
  have ⟨_, unmatched⟩ := (covers'.orphans x).mp orphan
  obtain ⟨q, member, D, n, leads', generated, rfl, name, _⟩ :=
    covers'.orphan after.names found' orphan
  obtain ⟨p, member', E, leads, other⟩ := shared q member
  obtain rfl := leads'.unique other
  have scratch : ¬ Write.IsScratch (D ++ [n]) :=
    Generate.not_isScratch (Generate.endsWith_trans generated.1 regular.flat.ends)
  rcases brought.origin scratch generated.holds with ⟨o, output, put⟩ | ⟨noOutput, noOrphan, same⟩
  · -- An output of the run: the package has its counterpart.
    obtain ⟨r, _, E, outs, leads_r, made, listed, stands⟩ :=
      covers.output regular.names regular.flat found output
    have equal := Except.ok.inj (stands.locate.symm.trans put)
    obtain ⟨rfl, last⟩ := List.append_singleton_inj.mp equal
    obtain ⟨outs', made'⟩ := covers'.generates q member
    obtain ⟨o', listed', twin⟩ := exists_twin regular.names
      (fun n h => brought.sources regular found covers h) leads_r made listed leads' made'
    refine unmatched o' ((covers'.outputs o').mpr ⟨q, member, outs', made', listed'⟩) ?_
    rw [(output_stands after.names after.flat leads' made' listed').2, twin, last,
      Path.components_join _ name]
  · -- A file from before the run, which would have been an orphan then.
    have place := FileTree.locate_join leads name
    obtain ⟨xs, read, listed⟩ := Generate.generatedIn_ok (s := c.settings) leads regular.names
    refine noOrphan (Path.join p n) ((covers.orphans _).mpr ⟨⟨p, member', xs, read,
      (listed _).mpr ⟨n, ?_, rfl⟩⟩, fun o output components => ?_⟩) place
    · exact ⟨generated.1, same ▸ generated.2⟩
    · obtain ⟨_, stands⟩ := covers.output_stands regular.names regular.flat found output
      refine noOutput o output ?_
      rw [stands.locate, FileTree.locate_eq_of_components stands.locate place components]

/-- The plan after a run has its outputs in place and no orphans. -/
theorem plan_after : ∃ pl', plan u c roots = .ok pl' ∧ pl'.orphans = [] ∧
    ∀ o ∈ pl'.outputs, ∃ l, u.locate o.path = .ok l ∧
      u.find? l = some (.file o.contents.toUTF8.toList) := by
  have after := brought.regular_after regular found covers
  have sources (D : Location) (n : String) (h : Generate.mayBeSource c.settings n = true) :
      t.file? (D ++ [n]) = u.file? (D ++ [n]) := brought.sources regular found covers h
  obtain ⟨qs, found', shared⟩ := brought.packages_after regular found covers
  have planned : ∃ pl', plan u c roots = .ok pl' := by
    refine exists_plan found' (fun q member => ?_) fun q member => ?_
    · obtain ⟨p, member', D, leads, leads'⟩ := shared q member
      obtain ⟨outs, made⟩ := covers.generates p member'
      obtain ⟨outs', made', _⟩ := Generate.ofPackage_congr leads leads'
        (fun n h => (regular.candidate h).1) (sources D) made
      exact ⟨outs', made'⟩
    · obtain ⟨_, _, D, _, leads'⟩ := shared q member
      obtain ⟨xs, read, _⟩ := Generate.generatedIn_ok (s := c.settings) leads' after.names
      exact ⟨xs, read⟩
  obtain ⟨pl', planned⟩ := planned
  obtain ⟨_, again, covers'⟩ := plan_covers planned
  obtain rfl := Except.ok.inj (found'.symm.trans again)
  refine ⟨pl', planned, List.eq_nil_iff_forall_not_mem.mpr fun x =>
    brought.no_orphan_after regular found covers found' covers' shared, fun o output => ?_⟩
  obtain ⟨q, member, outs', made', listed⟩ := (covers'.outputs o).mp output
  obtain ⟨p, member', D, leads, leads'⟩ := shared q member
  obtain ⟨outs, made⟩ := covers.generates p member'
  obtain ⟨o', listed', twin⟩ := exists_twin after.names (fun n h => (sources D n h).symm) leads'
    made' listed leads made
  have stands := (output_stands regular.names regular.flat leads made listed').1
  have written := brought.written o'
    ((covers.outputs o').mpr ⟨p, member', outs, made, listed'⟩) _ stands.locate
  rw [twin] at written
  refine ⟨_, (output_stands after.names after.flat leads' made' listed).1.locate, ?_⟩
  rw [written, show o'.contents = o.contents from congrArg Prod.snd twin]

end Brought

/-! ### Fresh trees -/

theorem run_done {report : Report} (done : (run t c roots).2 = .ok report) :
    ∃ pl changes, plan t c roots = .ok pl ∧
      pl.apply c.settings.dryRun t = ((run t c roots).1, .ok changes) ∧
      report = ⟨pl.outputs, changes⟩ := by
  unfold run at *
  cases planned : plan t c roots with
  | error e =>
    rw [planned] at done
    cases done
  | ok pl =>
    rw [planned] at done
    dsimp only at *
    cases applied : pl.apply c.settings.dryRun t with
    | mk u r =>
      rw [applied] at done
      cases r with
      | error e => cases done
      | ok changes => exact ⟨pl, changes, rfl, applied, (Except.ok.inj done).symm⟩

theorem run_ok {report : Report} (dry : c.settings.dryRun = false)
    (done : (run t c roots).2 = .ok report) : ∃ pl changes, plan t c roots = .ok pl ∧
      pl.apply false t = ((run t c roots).1, .ok changes) := by
  obtain ⟨pl, changes, planned, applied, _⟩ := run_done done
  exact ⟨pl, changes, planned, dry ▸ applied⟩

/-- With all outputs in place and no orphans, a check finds nothing. -/
theorem check_fresh (planned : plan t c roots = .ok pl) (empty : pl.orphans = [])
    (placed : ∀ o ∈ pl.outputs, ∃ l, t.locate o.path = .ok l ∧
      t.find? l = some (.file o.contents.toUTF8.toList)) : check t c roots = .ok [] := by
  have settled :
      pl.outputs.filterMap (fun o => (staleness? t o).map (StaleFile.mk o.path)) = [] := by
    rw [List.filterMap_eq_nil_iff]
    intro o member
    obtain ⟨l, place, file⟩ := placed o member
    have text : t.readText? o.path = some o.contents := by
      rw [FileTree.readText?_eq place, FileTree.file?, file]
      exact Text.ofUtf8?_toUTF8 _
    rw [staleness?, text]
    simp
  rw [check, bind_of_ok planned, settled, empty]
  rfl

/-- With all outputs in place and no orphans, a run changes nothing. -/
theorem run_fresh (planned : plan t c roots = .ok pl) (empty : pl.orphans = [])
    (placed : ∀ o ∈ pl.outputs, ∃ l, t.locate o.path = .ok l ∧
      t.find? l = some (.file o.contents.toUTF8.toList)) : run t c roots =
        (t, .ok ⟨pl.outputs, pl.outputs.map fun o => ⟨o.path, .unchanged⟩⟩) := by
  have writes := Write.each_unchanged_of_written Output.path Output.contents
    (fun o => t.placeOf o.path) c.settings.dryRun
    (fun o member => by
      obtain ⟨l, place, _⟩ := placed o member
      rw [FileTree.placeOf_eq place, place])
    (fun o member => by
      obtain ⟨l, place, file⟩ := placed o member
      rw [FileTree.placeOf_eq place, file])
  rw [run, planned]
  dsimp only
  rw [Plan.apply, writes, empty]
  simp only [Write.each, Except.map, List.append_nil, Except.mapError]

/-- A run leaves a tree that a check finds fresh and that another run leaves as it is. -/
theorem run_leaves_fresh {report : Report} (names : t.Named)
    (noBare : ∀ l ∈ t.files, l.getLast? ≠ some ".go") (valid : c.Valid)
    (noSlash : '/' ∉ c.settings.suffix.toList) (dry : c.settings.dryRun = false)
    (directories : ∀ root ∈ roots, t.node root = .ok .directory)
    (done : (run t c roots).2 = .ok report) :
    check (run t c roots).1 c roots = .ok [] ∧ ∃ outputs, run (run t c roots).1 c roots =
      ((run t c roots).1, .ok ⟨outputs, outputs.map fun o => ⟨o.path, .unchanged⟩⟩) := by
  have ⟨ends, more⟩ := Config.suffix_of_valid valid
  have regular : Regular t c roots := ⟨names, noBare, ⟨ends, more, noSlash⟩, fun root member => by
    obtain ⟨R, place, held⟩ := bind_ok (directories root member)
    refine ⟨R, place, ?_⟩
    split at held
    · rename_i found
      rw [found, pure_ok held]
    · cases held⟩
  obtain ⟨pl, changes, planned, applied⟩ := run_ok dry done
  obtain ⟨ps, found, covers⟩ := plan_covers planned
  have brought := apply_brought regular found covers applied
  obtain ⟨pl', planned', empty, placed⟩ := brought.plan_after regular found covers
  exact ⟨check_fresh planned' empty placed, _, run_fresh planned' empty placed⟩

/-- A package with a source that has no output yet, and one with an output that has no source. -/
def halfDone : FileTree where
  nodes := [
    (["a"], .directory),
    (["a", "u.go"],
      .file "package a\n//go:generate gozodgen\ntype U struct\x7b\x7d\n".toUTF8.toList),
    (["b"], .directory),
    (["b", "v_gen.go"], .file (Emit.marker ++ "\npackage b\n").toUTF8.toList)]
  distinct := by decide
  held := by decide

theorem run_halfDone_leaves_fresh : (run halfDone .standard ["."]).2.toOption.isSome = true ∧
    check (run halfDone .standard ["."]).1 .standard ["."] = .ok [] ∧ ∃ outputs,
      run (run halfDone .standard ["."]).1 .standard ["."] = ((run halfDone .standard ["."]).1,
        .ok ⟨outputs, outputs.map fun o => ⟨o.path, .unchanged⟩⟩) := by
  have succeeds : (run halfDone .standard ["."]).2.toOption.isSome = true := by decide +kernel
  obtain ⟨report, done⟩ := Option.isSome_iff_exists.mp succeeds
  have root : halfDone.node "." = .ok .directory := toOption_eq_some_iff.mp (by decide +kernel)
  exact ⟨succeeds, run_leaves_fresh (by decide +kernel) (by decide) (by decide +kernel)
    (by decide +kernel) rfl (List.forall_mem_singleton.mpr root) (toOption_eq_some_iff.mp done)⟩

end TagSchema.Project
