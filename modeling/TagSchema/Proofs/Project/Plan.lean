import TagSchema.Project.Basic
import TagSchema.Proofs.Generate.Package
import TagSchema.Proofs.Path.Parent
import TagSchema.Proofs.Project.Write
import TagSchema.Proofs.Scan.Spelling

/-!
# What a plan holds

`plan_covers` tells the outputs and orphans of a plan by the packages that they come from. In a
regular tree no two outputs for one place differ (`Plan.Covers.contents_eq`), and no orphan is where
an output belongs (`Plan.Covers.disjoint`).
-/

namespace TagSchema.Project

open TagSchema.FileTree (Location SameDirectories)
open TagSchema.Generate (Output outputName)

variable {t u : FileTree} {c : Config} {roots ps : List String} {pl : Plan}

/-- What a plan holds for packages. -/
structure Plan.Covers (t : FileTree) (c : Config) (ps : List String) (pl : Plan) : Prop where
  generates : ∀ p ∈ ps, ∃ outs, Generate.ofPackage t c.settings p = .ok outs
  outputs : ∀ o, o ∈ pl.outputs ↔
    ∃ p ∈ ps, ∃ outs, Generate.ofPackage t c.settings p = .ok outs ∧ o ∈ outs
  orphans : ∀ x, x ∈ pl.orphans ↔
    (∃ p ∈ ps, ∃ xs, Generate.generatedIn t c.settings p = .ok xs ∧ x ∈ xs) ∧
      ∀ o ∈ pl.outputs, Path.components o.path ≠ Path.components x

theorem generate_ok {outputs : List Output} (found : Scan.packages t (scanOptions c) roots = .ok ps)
    (h : generate t c roots = .ok outputs) :
    (∀ p ∈ ps, ∃ outs, Generate.ofPackage t c.settings p = .ok outs) ∧ ∀ o, o ∈ outputs ↔
      ∃ p ∈ ps, ∃ outs, Generate.ofPackage t c.settings p = .ok outs ∧ o ∈ outs := by
  rw [generate, packages, bind_of_ok (mapError_eq_ok_iff.mpr found)] at h
  obtain ⟨perPackage, made, h⟩ := bind_ok h
  rw [pure_ok h]
  refine ⟨fun p member => ?_, fun o => ?_⟩
  · obtain ⟨outs, _, made⟩ := ok_of_mapM_ok made member
    exact ⟨outs, mapError_eq_ok_iff.mp made⟩
  · simp only [List.mem_flatten, mem_mapM_ok made, mapError_eq_ok_iff]
    exact ⟨fun ⟨outs, ⟨p, member, made⟩, listed⟩ => ⟨p, member, outs, made, listed⟩,
      fun ⟨p, member, outs, made, listed⟩ => ⟨outs, ⟨p, member, made⟩, listed⟩⟩

theorem orphans_ok {outputs : List Output} {left : List String}
    (found : Scan.packages t (scanOptions c) roots = .ok ps)
    (h : orphans t c roots outputs = .ok left) : ∀ x, x ∈ left ↔
      (∃ p ∈ ps, ∃ xs, Generate.generatedIn t c.settings p = .ok xs ∧ x ∈ xs) ∧
        ∀ o ∈ outputs, Path.components o.path ≠ Path.components x := by
  rw [orphans, packages, bind_of_ok (mapError_eq_ok_iff.mpr found)] at h
  obtain ⟨perPackage, read, h⟩ := bind_ok h
  intro x
  rw [pure_ok h, List.mem_filter, List.mem_flatten]
  refine and_congr ?_ ?_
  · simp only [mem_mapM_ok read, mapError_eq_ok_iff]
    exact ⟨fun ⟨xs, ⟨p, member, read⟩, listed⟩ => ⟨p, member, xs, read, listed⟩,
      fun ⟨p, member, xs, read, listed⟩ => ⟨xs, ⟨p, member, read⟩, listed⟩⟩
  · simp [Bool.eq_false_iff, Path.same_iff]

theorem plan_covers (h : plan t c roots = .ok pl) :
    ∃ ps, Scan.packages t (scanOptions c) roots = .ok ps ∧ pl.Covers t c ps := by
  obtain ⟨outputs, made, h⟩ := bind_ok h
  obtain ⟨left, read, h⟩ := bind_ok h
  obtain rfl := pure_ok h
  obtain ⟨ps, found, _⟩ := bind_ok made
  have found := mapError_eq_ok_iff.mp found
  have ⟨generates, covered⟩ := generate_ok found made
  exact ⟨ps, found, generates, covered, orphans_ok found read⟩

theorem exists_plan (found : Scan.packages t (scanOptions c) roots = .ok ps)
    (generates : ∀ p ∈ ps, ∃ outs, Generate.ofPackage t c.settings p = .ok outs)
    (reads : ∀ p ∈ ps, ∃ xs, Generate.generatedIn t c.settings p = .ok xs) :
    ∃ pl, plan t c roots = .ok pl := by
  have found := mapError_eq_ok_iff (f := Error.scan).mpr found
  obtain ⟨perPackage, made⟩ := exists_mapM_ok
    (f := fun p => (Generate.ofPackage t c.settings p).mapError Error.generate)
    fun p member => (generates p member).imp fun _ => mapError_eq_ok_iff.mpr
  have generated : generate t c roots = .ok perPackage.flatten :=
    (bind_of_ok found).trans (bind_of_ok made)
  obtain ⟨perPackage', read⟩ := exists_mapM_ok
    (f := fun p => (Generate.generatedIn t c.settings p).mapError fun _ => Error.system)
    fun p member => (reads p member).imp fun _ => mapError_eq_ok_iff.mpr
  exact ⟨_, (bind_of_ok generated).trans
    (bind_of_ok ((bind_of_ok found).trans (bind_of_ok read)))⟩

/-! ### Outputs of a package -/

section

variable {p q : String} {D : Location} {outs outs' : List Output} {o : Output}

theorem candidate (names : t.Named) {n : String} (h : n ∈ Generate.candidates t c.settings D) :
    IsName n ∧ Generate.mayBeSource c.settings n = true := by
  obtain ⟨listed, source⟩ := List.mem_filter.mp h
  exact ⟨names.of_file? (FileTree.mem_namesIn.mp listed) n (by simp), source⟩

/-- Outputs stand in the directory of their package. -/
theorem output_stands (names : t.Named) (flat : Generate.IsFlat c.settings) (leads : t.LeadsTo p D)
    (made : Generate.ofPackage t c.settings p = .ok outs) (member : o ∈ outs) :
    t.StandsAt o.path (D ++ [outputName c.settings o.entry.1]) ∧ Path.components o.path =
      Path.components p ++ [.name (outputName c.settings o.entry.1)] := by
  have ⟨kept, paths⟩ :=
    Generate.entries_ofPackage leads (fun n h => (candidate names h).1) made
  have ⟨name, source⟩ :=
    candidate names (kept.subset (List.mem_map_of_mem (f := fun o : Output => o.entry.1) member))
  have other := Generate.isName_outputName flat name (Generate.endsWith_of_mayBeSource source)
  rw [paths o member, Generate.outputPath_of_named (Path.fileName?_join _ name)]
  exact ⟨FileTree.standsAt_withFileName leads name other,
    Path.components_withFileName name other⟩

/-- An output has its counterpart in every package that shares the directory, also in another tree
with the same sources. -/
theorem exists_twin (names : t.Named)
    (same : ∀ n, Generate.mayBeSource c.settings n = true →
      t.file? (D ++ [n]) = u.file? (D ++ [n]))
    (leads : t.LeadsTo p D) (made : Generate.ofPackage t c.settings p = .ok outs)
    (member : o ∈ outs) (leads' : u.LeadsTo q D)
    (made' : Generate.ofPackage u c.settings q = .ok outs') :
    ∃ o' ∈ outs', o'.entry = o.entry := by
  obtain ⟨twins, made'', entries⟩ := Generate.ofPackage_congr leads leads'
    (fun n h => (candidate names h).1) same made
  obtain rfl := Except.ok.inj (made'.symm.trans made'')
  exact List.mem_map.mp (entries ▸ List.mem_map_of_mem (f := Output.entry) member)

end

/-! ### Regular trees -/

/-- A tree as there is one in a file system, where no file is an extension only, and a configuration
that makes names of files in it. -/
structure Regular (t : FileTree) (c : Config) (roots : List String) : Prop where
  names : t.Named
  noBare : ∀ l ∈ t.files, l.getLast? ≠ some ".go"
  flat : Generate.IsFlat c.settings
  directories : Scan.AllDirectories t roots

namespace Regular

variable {p q : String} {D : Location} {outs outs' : List Output} {o : Output}

theorem candidate (regular : Regular t c roots) {n : String}
    (h : n ∈ Generate.candidates t c.settings D) :
    IsName n ∧ n ≠ ".go" ∧ Generate.mayBeSource c.settings n = true := by
  have ⟨name, source⟩ := Project.candidate regular.names h
  have file := FileTree.mem_namesIn.mp (List.mem_filter.mp h).1
  refine ⟨name, ?_, source⟩
  rintro rfl
  refine regular.noBare _ (FileTree.mem_files.mpr (Option.isSome_iff_exists.mp file)) ?_
  rw [List.getLast?_concat]

/-- Packages that share a directory have the same outputs for the same places. -/
theorem contents_eq (regular : Regular t c roots) (leads : t.LeadsTo p D)
    (made : Generate.ofPackage t c.settings p = .ok outs)
    (leads' : t.LeadsTo q D) (made' : Generate.ofPackage t c.settings q = .ok outs')
    {o' : Output} (member : o ∈ outs) (member' : o' ∈ outs')
    (same : outputName c.settings o.entry.1 = outputName c.settings o'.entry.1) :
    o.contents = o'.contents := by
  have ⟨kept, _⟩ :=
    Generate.entries_ofPackage leads (fun n h => (regular.candidate h).1) made
  obtain ⟨o'', member'', twin⟩ :=
    exists_twin regular.names (fun _ _ => rfl) leads' made' member' leads made
  have source {o : Output} (member : o ∈ outs) := regular.candidate
    (kept.subset (List.mem_map_of_mem (f := fun o : Output => o.entry.1) member))
  have ⟨_, more, candidate⟩ := source member
  have ⟨_, more', candidate'⟩ := source member''
  rw [← twin] at same
  have equal := Generate.outputName_injective candidate more candidate' more' same
  have once : (outs.map (·.entry.1)).Nodup :=
    kept.nodup ((FileTree.nodup_namesIn t D).filter _)
  obtain rfl := List.inj_on_of_nodup_map once member member'' equal
  exact congrArg Prod.snd twin

end Regular

/-! ### What is in a plan -/

namespace Plan.Covers

theorem output (covers : pl.Covers t c ps) (names : t.Named) (flat : Generate.IsFlat c.settings)
    (found : Scan.packages t (scanOptions c) roots = .ok ps) {o : Output} (h : o ∈ pl.outputs) :
    ∃ p ∈ ps, ∃ D outs, t.LeadsTo p D ∧ Generate.ofPackage t c.settings p = .ok outs ∧
      o ∈ outs ∧ t.StandsAt o.path (D ++ [outputName c.settings o.entry.1]) := by
  obtain ⟨p, member, outs, made, listed⟩ := (covers.outputs o).mp h
  obtain ⟨D, leads⟩ := Scan.directory_of_mem_packages names found member
  exact ⟨p, member, D, outs, leads, made, listed,
    (Project.output_stands names flat leads made listed).1⟩

theorem output_stands (covers : pl.Covers t c ps) (names : t.Named)
    (flat : Generate.IsFlat c.settings) (found : Scan.packages t (scanOptions c) roots = .ok ps)
    {o : Output} (h : o ∈ pl.outputs) :
    ∃ D, t.StandsAt o.path (D ++ [outputName c.settings o.entry.1]) := by
  obtain ⟨_, _, D, _, _, _, _, stands⟩ := covers.output names flat found h
  exact ⟨D, stands⟩

theorem orphan (covers : pl.Covers t c ps) (names : t.Named)
    (found : Scan.packages t (scanOptions c) roots = .ok ps) {x : String} (h : x ∈ pl.orphans) :
    ∃ p ∈ ps, ∃ D n, t.LeadsTo p D ∧ Generate.IsGenerated t c.settings D n ∧
      x = Path.join p n ∧ IsName n ∧ t.locate x = .ok (D ++ [n]) := by
  obtain ⟨⟨p, member, xs, read, listed⟩, _⟩ := (covers.orphans x).mp h
  obtain ⟨D, leads⟩ := Scan.directory_of_mem_packages names found member
  obtain ⟨xs', read', generated⟩ := Generate.generatedIn_ok (s := c.settings) leads names
  obtain rfl := Except.ok.inj (read.symm.trans read')
  obtain ⟨n, found, rfl⟩ := (generated x).mp listed
  have name := names.of_file? found.holds n (by simp)
  exact ⟨p, member, D, n, leads, found, rfl, name, FileTree.locate_join leads name⟩

theorem output_place (covers : pl.Covers t c ps) (regular : Regular t c roots)
    (found : Scan.packages t (scanOptions c) roots = .ok ps) {o : Output} (h : o ∈ pl.outputs) :
    t.StandsAt o.path (t.placeOf o.path) ∧ ¬ Write.IsScratch (t.placeOf o.path) := by
  obtain ⟨D, stands⟩ := covers.output_stands regular.names regular.flat found h
  rw [FileTree.placeOf_eq stands.locate]
  exact ⟨stands, Generate.not_isScratch
    (Generate.endsWith_trans (Generate.endsWith_outputName _ _) regular.flat.ends)⟩

/-- Outputs for one place have the same contents. -/
theorem contents_eq (covers : pl.Covers t c ps) (regular : Regular t c roots)
    (found : Scan.packages t (scanOptions c) roots = .ok ps) {o o' : Output}
    (member : o ∈ pl.outputs) (member' : o' ∈ pl.outputs)
    (same : t.placeOf o.path = t.placeOf o'.path) : o.contents = o'.contents := by
  obtain ⟨p, _, D, outs, leads, made, listed, stands⟩ :=
    covers.output regular.names regular.flat found member
  obtain ⟨q, _, E, outs', leads', made', listed', stands'⟩ :=
    covers.output regular.names regular.flat found member'
  rw [FileTree.placeOf_eq stands.locate, FileTree.placeOf_eq stands'.locate] at same
  obtain ⟨rfl, last⟩ := List.append_singleton_inj.mp same
  exact regular.contents_eq leads made leads' made' listed listed' last

/-- No orphan stands where an output belongs, whichever path leads to the output. -/
theorem disjoint (covers : pl.Covers t c ps) (names : t.Named) (flat : Generate.IsFlat c.settings)
    (found : Scan.packages t (scanOptions c) roots = .ok ps) {o : Output} {x : String}
    {l : Location} (output : o ∈ pl.outputs) (place : t.locate o.path = .ok l)
    (orphan : x ∈ pl.orphans) : t.locate x ≠ .ok l := by
  intro same
  obtain ⟨p, _, D, outs, leads, made, listed, stands⟩ := covers.output names flat found output
  obtain ⟨q, member, E, n, leads', _, rfl, name, place_x⟩ := covers.orphan names found orphan
  have equal : D ++ [outputName c.settings o.entry.1] = E ++ [n] :=
    Except.ok.inj (stands.locate.symm.trans (place.trans (same.symm.trans place_x)))
  obtain ⟨rfl, last⟩ := List.append_singleton_inj.mp equal
  obtain ⟨outs', made'⟩ := covers.generates q member
  obtain ⟨o', listed', twin⟩ := exists_twin names (fun _ _ => rfl) leads made listed leads' made'
  refine ((covers.orphans _).mp orphan).2 o'
    ((covers.outputs o').mpr ⟨q, member, outs', made', listed'⟩) ?_
  rw [(Project.output_stands names flat leads' made' listed').2, twin, last,
    Path.components_join _ name]

end Plan.Covers

end TagSchema.Project
