import Mathlib.Data.List.Nodup
import Mathlib.Data.List.Pairwise
import TagSchema.Proofs.Project.Changes

/-!
# Orphans of packages that share a directory

An orphan is removed once for each package that lists it, and the second removal fails:
`run_removes_iff`. Packages share a directory just where their roots are not spelled alike.
-/

namespace TagSchema

open TagSchema.FileTree (Location)

namespace Write

/-! ### Attempts that fail -/

section

variable {α : Type} {attempt : FileTree → α → Attempt Change} {t u : FileTree} {x : α} {xs : List α}
  {c : Change} {e : Error}

theorem each_cons_of_error (h : attempt t x = (u, .error e)) :
    each attempt t (x :: xs) = (u, .error e) := by
  rw [each, h]

theorem each_cons_of_ok (h : attempt t x = (u, .ok c)) : each attempt t (x :: xs) =
    ((each attempt u xs).1, (each attempt u xs).2.map (c :: ·)) := by
  rw [each, h]

/-- A list of attempts that fails has failed at one of them. -/
theorem each_error (h : (each attempt t xs).2 = .error e) :
    ∃ x ∈ xs, ∃ u, (attempt u x).2 = .error e := by
  induction xs generalizing t with
  | nil => cases h
  | cons x xs ih =>
    rcases first : attempt t x with ⟨u, e' | c⟩
    · rw [each_cons_of_error first] at h
      refine ⟨x, List.mem_cons_self, t, ?_⟩
      rw [first, Except.error.inj h]
    · rw [each_cons_of_ok first] at h
      rcases later : (each attempt u xs).2 with e' | changes
      · rw [later] at h
        obtain ⟨y, member, v, failed⟩ := ih (later.trans (congrArg _ (Except.error.inj h)))
        exact ⟨y, List.mem_cons_of_mem _ member, v, failed⟩
      · rw [later] at h
        cases h

end

theorem remove_error {t : FileTree} {dryRun : Bool} {path : String} {e : Error}
    (h : (remove dryRun t path).2 = .error e) : e = .removeFile path := by
  unfold remove at h
  split at h
  · cases h
  · split at h
    · cases h
    · exact (Except.error.inj h).symm

/-- The errors of an attempt to write the file at a path. -/
def IsWriteError (path : String) (e : Error) : Prop :=
  e = .writeFile path ∨ e = .createDirectory ((Path.parent? path).getD "")

section

variable {t : FileTree} {path content : String} {bytes : List UInt8} {e : Error}

theorem replace_error (h : (replace t path bytes).2 = .error e) : IsWriteError path e := by
  unfold replace at h
  dsimp only at h
  split at h
  · exact .inl (Except.error.inj h).symm
  · split at h
    · cases h
    · exact .inl (Except.error.inj h).symm

theorem putFile_error (h : (putFile t path bytes).2 = .error e) : IsWriteError path e := by
  unfold putFile at h
  dsimp only at h
  split at h
  · exact .inr (Except.error.inj h).symm
  · exact replace_error h

theorem change_error {dryRun : Bool} {outcome : Nat → Outcome}
    (h : (change dryRun t path content outcome).2 = .error e) : IsWriteError path e := by
  unfold change at h
  split at h
  · cases h
  · dsimp only at h
    cases put : (putFile t path content.toUTF8.toList).2 with
    | error e' =>
      rw [put] at h
      exact putFile_error (put.trans (congrArg Except.error (Except.error.inj h)))
    | ok _ =>
      rw [put] at h
      cases h

theorem write_error {dryRun : Bool} (h : (write dryRun t path content).2 = .error e) :
    IsWriteError path e := by
  unfold write at h
  split at h
  · split at h
    · cases h
    · exact change_error h
  · exact change_error h
  · exact .inl (Except.error.inj h).symm

end

/-! ### Removing each file once -/

section

variable {t u : FileTree} {path : String} {paths : List String} {l : Location} {c : Change}

theorem remove_file (place : t.locate path = .ok l) (file : (t.file? l).isSome = true) :
    ∃ u, remove false t path = (u, .ok ⟨path, .removed⟩) := by
  obtain ⟨bytes, held⟩ := Option.isSome_iff_exists.mp file
  have removed : ∃ u, t.removeFile l = .ok u := by
    unfold FileTree.removeFile
    split
    · rename_i none
      rw [held] at none
      cases none
    · exact ⟨_, rfl⟩
  obtain ⟨u, removed⟩ := removed
  have whole : t.remove path = .ok u := (bind_of_ok place).trans removed
  refine ⟨u, ?_⟩
  rw [remove, if_neg Bool.false_ne_true, whole]

/-- What a successful removal takes away was a file. -/
theorem file_of_remove (place : t.locate path = .ok l) (h : remove false t path = (u, .ok c)) :
    (t.file? l).isSome = true ∧ FileTree.SameDirectories t u ∧
      ∀ l', u.find? l' = if l' = l then none else t.find? l' := by
  rw [remove, if_neg Bool.false_ne_true] at h
  split at h
  · rename_i removed
    obtain rfl := (Prod.mk.inj h).1
    have removed := FileTree.remove_ok place removed
    refine ⟨?_, FileTree.sameDirectories_removeFile removed, FileTree.find?_removeFile removed⟩
    unfold FileTree.removeFile at removed
    split at removed
    · cases removed
    · rename_i held
      rw [held]
      rfl
  · cases (Prod.mk.inj h).2

theorem files_of_each_remove (place : String → Location)
    (places : ∀ x ∈ paths, t.locate x = .ok (place x)) {changes : List Change}
    (h : each (remove false) t paths = (u, .ok changes)) :
    ∀ x ∈ paths, (t.file? (place x)).isSome = true := by
  induction paths generalizing t changes with
  | nil => simp
  | cons x paths ih =>
    obtain ⟨v, c, rest, _, first, later⟩ := each_cons_ok h
    rw [List.forall_mem_cons] at places ⊢
    have ⟨file, same, left⟩ := file_of_remove places.1 first
    refine ⟨file, fun y member => ?_⟩
    have after := ih (fun y member => FileTree.locate_congr same (places.2 y member)) later y member
    rw [FileTree.file?, left] at after
    by_cases here : place y = place x
    · rwa [here]
    · rwa [if_neg here] at after

/-- Files are removed one after another unless two paths lead to one of them. -/
theorem each_remove_iff (place : String → Location)
    (places : ∀ x ∈ paths, t.locate x = .ok (place x))
    (files : ∀ x ∈ paths, (t.file? (place x)).isSome = true) :
    (∃ u changes, each (remove false) t paths = (u, .ok changes)) ↔
      (paths.map place).Nodup := by
  induction paths generalizing t with
  | nil => exact iff_of_true ⟨t, [], rfl⟩ .nil
  | cons x paths ih =>
    rw [List.forall_mem_cons] at places files
    obtain ⟨v, first⟩ := remove_file places.1 files.1
    have ⟨_, same, left⟩ := file_of_remove places.1 first
    have places' (y : String) (member : y ∈ paths) : v.locate y = .ok (place y) :=
      FileTree.locate_congr same (places.2 y member)
    rw [List.map_cons, List.nodup_cons]
    constructor
    · rintro ⟨u, changes, done⟩
      obtain ⟨w, c, rest, _, again, later⟩ := each_cons_ok done
      obtain rfl := (Prod.mk.inj (first.symm.trans again)).1
      have files' := files_of_each_remove place places' later
      refine ⟨fun listed => ?_, (ih places' files').mp ⟨u, rest, later⟩⟩
      obtain ⟨y, member, here⟩ := List.mem_map.mp listed
      have file := files' y member
      rw [FileTree.file?, left, if_pos here] at file
      cases file
    · rintro ⟨apart, distinct⟩
      have files' (y : String) (member : y ∈ paths) : (v.file? (place y)).isSome = true := by
        have other : place y ≠ place x := fun here => apart (here ▸ List.mem_map_of_mem member)
        rw [FileTree.file?, left, if_neg other]
        exact files.2 y member
      obtain ⟨u, rest, later⟩ := (ih places' files').mpr distinct
      refine ⟨u, ⟨x, .removed⟩ :: rest, ?_⟩
      rw [each_cons_of_ok first, later]
      rfl

end

end Write

namespace Project

open TagSchema.Generate (Output)

variable {t : FileTree} {c : Config} {roots ps : List String} {pl : Plan}

/-! ### Orphans of packages -/

/-- The generated files of a package, in order. -/
def generatedFiles (t : FileTree) (c : Config) (p : String) : List String :=
  (Generate.generatedIn t c.settings p).toOption.getD []

/-- Whether a path is that of none of the outputs. -/
def Plan.isUnmatched (pl : Plan) (path : String) : Bool := !pl.outputs.any (Path.same ·.path path)

theorem mem_generatedFiles (names : t.Named) {p x : String} {D : Location} (leads : t.LeadsTo p D) :
    x ∈ generatedFiles t c p ↔ ∃ n, Generate.IsGenerated t c.settings D n ∧ x = Path.join p n := by
  obtain ⟨xs, read, listed⟩ := Generate.generatedIn_ok (s := c.settings) leads names
  rw [generatedFiles, read]
  exact listed x

/-- The files that a package lists are in different places. -/
theorem nodup_generatedFiles (names : t.Named) {p : String} {D : Location} (leads : t.LeadsTo p D) :
    ((generatedFiles t c p).map t.placeOf).Nodup := by
  have places : ((t.namesIn D).map (Path.join p)).map t.placeOf =
      (t.namesIn D).map fun n => D ++ [n] := by
    rw [List.map_map]
    refine List.map_congr_left fun n member => ?_
    have name : IsName n := names.of_file? (FileTree.mem_namesIn.mp member) n (by simp)
    exact FileTree.placeOf_eq (FileTree.locate_join leads name)
  have distinct : ((t.namesIn D).map fun n => D ++ [n]).Nodup :=
    (FileTree.nodup_namesIn t D).map fun n m same => (List.append_singleton_inj.mp same).2
  rw [generatedFiles, Generate.generatedIn, bind_of_ok (FileTree.fileNames_ok leads)]
  exact (places ▸ distinct).sublist (List.filter_sublist.map _)

theorem orphans_eq (found : Scan.packages t (scanOptions c) roots = .ok ps)
    (planned : plan t c roots = .ok pl) :
    pl.orphans = ps.flatMap fun p => (generatedFiles t c p).filter pl.isUnmatched := by
  obtain ⟨outputs, made, h⟩ := bind_ok planned
  obtain ⟨left, read, h⟩ := bind_ok h
  obtain rfl := pure_ok h
  rw [orphans, packages, bind_of_ok (mapError_eq_ok_iff.mpr found)] at read
  obtain ⟨perPackage, read, h⟩ := bind_ok read
  have lists : perPackage = ps.map (generatedFiles t c) := by
    rw [← List.forall₂_eq_eq_eq, List.forall₂_map_right_iff]
    refine (mapM_eq_ok_iff.mp read).flip.imp fun xs p read => ?_
    rw [generatedFiles, mapError_eq_ok_iff.mp read]
    rfl
  rw [pure_ok h, lists]
  exact List.filter_flatMap ..

theorem flat_of_generated (valid : c.Valid) {D : Location} {n : String}
    (generated : Generate.IsGenerated t c.settings D n) (name : IsName n) :
    Generate.IsFlat c.settings := by
  have ⟨ends, more⟩ := Config.suffix_of_valid valid
  exact ⟨ends, more, fun slash => name.noSlash ((endsWith_iff.mp generated.1).mem slash)⟩

namespace Plan.Covers

variable (covers : pl.Covers t c ps) (names : t.Named)
  (found : Scan.packages t (scanOptions c) roots = .ok ps)

include covers names found

/-- An orphan that a package could list is one that it lists. -/
theorem generated_of_orphan {p n : String} {D : Location} (leads : t.LeadsTo p D)
    (name : IsName n) (orphan : Path.join p n ∈ pl.orphans) :
    Generate.IsGenerated t c.settings D n := by
  obtain ⟨_, _, E, m, _, generated, _, _, place⟩ := covers.orphan names found orphan
  have same := Except.ok.inj ((FileTree.locate_join leads name).symm.trans place)
  obtain ⟨rfl, rfl⟩ := List.append_singleton_inj.mp same
  exact generated

/-- A package lists the orphans of every other one that shares its directory. -/
theorem orphan_of_shared (valid : c.Valid) {p q n : String} {D : Location} (leads : t.LeadsTo p D)
    (member : q ∈ ps) (leads' : t.LeadsTo q D) (name : IsName n)
    (orphan : Path.join p n ∈ pl.orphans) : Path.join q n ∈ pl.orphans := by
  have generated := covers.generated_of_orphan names found leads name orphan
  obtain ⟨xs, read, listed⟩ := Generate.generatedIn_ok (s := c.settings) leads' names
  refine (covers.orphans _).mpr ⟨⟨q, member, xs, read, (listed _).mpr ⟨n, generated, rfl⟩⟩, ?_⟩
  intro o output same
  have flat := flat_of_generated valid generated name
  obtain ⟨E, stands⟩ := covers.output_stands names flat found output
  have place := FileTree.locate_join leads' name
  have here := FileTree.locate_eq_of_components stands.locate place same
  exact covers.disjoint names flat found output (here ▸ stands.locate) orphan
    (FileTree.locate_join leads name)

end Plan.Covers

/-- The places of the orphans that a package lists. -/
def Plan.orphanPlaces (pl : Plan) (t : FileTree) (c : Config) (p : String) : List Location :=
  ((generatedFiles t c p).filter pl.isUnmatched).map t.placeOf

theorem mem_orphanPlaces (names : t.Named)
    (found : Scan.packages t (scanOptions c) roots = .ok ps) (planned : plan t c roots = .ok pl)
    {p : String} (member : p ∈ ps) {D l : Location} (leads : t.LeadsTo p D) :
    l ∈ pl.orphanPlaces t c p ↔
      ∃ n, IsName n ∧ Path.join p n ∈ pl.orphans ∧ l = D ++ [n] := by
  obtain ⟨_, found', covers⟩ := plan_covers planned
  obtain rfl := Except.ok.inj (found.symm.trans found')
  have orphan (x : String) : x ∈ pl.orphans ↔
      ∃ q ∈ ps, x ∈ generatedFiles t c q ∧ pl.isUnmatched x = true := by
    rw [orphans_eq found planned]
    simp only [List.mem_flatMap, List.mem_filter]
  rw [Plan.orphanPlaces, List.mem_map]
  constructor
  · rintro ⟨x, listed, rfl⟩
    have ⟨own, unmatched⟩ := List.mem_filter.mp listed
    obtain ⟨n, generated, rfl⟩ := (mem_generatedFiles names leads).mp own
    have name : IsName n := names.of_file? generated.holds n (by simp)
    exact ⟨n, name, (orphan _).mpr ⟨p, member, own, unmatched⟩,
      FileTree.placeOf_eq (FileTree.locate_join leads name)⟩
  · rintro ⟨n, name, listed, rfl⟩
    have generated := covers.generated_of_orphan names found leads name listed
    obtain ⟨_, _, _, unmatched⟩ := (orphan _).mp listed
    exact ⟨_, List.mem_filter.mpr ⟨(mem_generatedFiles names leads).mpr ⟨n, generated, rfl⟩,
      unmatched⟩, FileTree.placeOf_eq (FileTree.locate_join leads name)⟩

/-- Two orphans share a place just where packages with an orphan share a directory. -/
theorem nodup_orphans_iff (names : t.Named) (valid : c.Valid)
    (found : Scan.packages t (scanOptions c) roots = .ok ps) (planned : plan t c roots = .ok pl) :
    ¬ (pl.orphans.map t.placeOf).Nodup ↔ ∃ p ∈ ps, ∃ q ∈ ps, p ≠ q ∧
      t.placeOf p = t.placeOf q ∧ ∃ n, IsName n ∧ Path.join p n ∈ pl.orphans := by
  obtain ⟨_, found', covers⟩ := plan_covers planned
  obtain rfl := Except.ok.inj (found.symm.trans found')
  have directory (p : String) (member : p ∈ ps) := Scan.directory_of_mem_packages names found member
  have listed {p : String} (member : p ∈ ps) {D l : Location} (leads : t.LeadsTo p D) :=
    mem_orphanPlaces (l := l) names found planned member leads
  have whole : pl.orphans.map t.placeOf = ps.flatMap (pl.orphanPlaces t c) := by
    rw [orphans_eq found planned, List.map_flatMap]
    rfl
  have once (p : String) (member : p ∈ ps) : (pl.orphanPlaces t c p).Nodup := by
    obtain ⟨D, leads⟩ := directory p member
    exact (nodup_generatedFiles names leads).sublist (List.filter_sublist.map _)
  rw [whole, List.nodup_flatMap, and_iff_right once]
  constructor
  · intro clash
    by_contra apart
    refine clash ((List.Nodup.of_map _ (Scan.nodup_components_packages found)).pairwise_of_forall_ne
      fun p member q member' other l left right => ?_)
    obtain ⟨D, leads⟩ := directory p member
    obtain ⟨E, leads'⟩ := directory q member'
    obtain ⟨n, name, orphan, rfl⟩ := (listed member leads).mp left
    obtain ⟨m, _, _, same⟩ := (listed member' leads').mp right
    obtain ⟨rfl, _⟩ := List.append_singleton_inj.mp same
    refine apart ⟨p, member, q, member', other, ?_, n, name, orphan⟩
    rw [FileTree.placeOf_eq leads.place, FileTree.placeOf_eq leads'.place]
  · rintro ⟨p, member, q, member', other, same, n, name, orphan⟩ apart
    obtain ⟨D, leads⟩ := directory p member
    obtain ⟨E, leads'⟩ := directory q member'
    rw [FileTree.placeOf_eq leads.place, FileTree.placeOf_eq leads'.place] at same
    subst same
    have orphan' := covers.orphan_of_shared names found valid leads member' leads' name orphan
    have symm : Std.Symm (Function.onFun List.Disjoint (pl.orphanPlaces t c)) :=
      ⟨fun _ _ disjoint _ left right => disjoint right left⟩
    exact apart.forall member member' other ((listed member leads).mpr ⟨n, name, orphan, rfl⟩)
      ((listed member' leads').mpr ⟨n, name, orphan', rfl⟩)

/-! ### Removing orphans -/

/-- Writing the outputs leaves the orphans alone. -/
theorem orphan_after_writes (names : t.Named) (valid : c.Valid)
    (found : Scan.packages t (scanOptions c) roots = .ok ps) (covers : pl.Covers t c ps)
    {dryRun : Bool} {v : FileTree} {written : List Write.Change}
    (done : Write.each (fun t o => Write.write dryRun t o.path o.contents) t pl.outputs =
      (v, .ok written)) {x : String} (orphan : x ∈ pl.orphans) :
    v.locate x = .ok (t.placeOf x) ∧ (v.file? (t.placeOf x)).isSome = true := by
  obtain ⟨_, _, D, n, _, generated, rfl, name, place⟩ := covers.orphan names found orphan
  have flat := flat_of_generated valid generated name
  have confined := Write.each_write_confined dryRun Output.path Output.contents t pl.outputs
  rw [done] at confined
  rw [FileTree.placeOf_eq place]
  refine ⟨FileTree.locate_mono confined.directories place, ?_⟩
  rw [confined.frame (D ++ [n]), generated.holds]
  rintro ⟨o, output, touched⟩
  obtain ⟨E, stands⟩ := covers.output_stands names flat found output
  rcases touched with reached | staging
  · have same := reached.symm.trans (FileTree.locate_mono confined.directories stands.locate)
    rw [← Except.ok.inj same] at stands
    exact covers.disjoint names flat found output stands.locate orphan place
  · have reached :=
      FileTree.locate_mono confined.directories (Write.locate_temporaryPath stands)
    have scratch := Write.isScratch_scratchOf stands
    rw [← Except.ok.inj (staging.symm.trans reached)] at scratch
    exact Generate.not_isScratch (Generate.endsWith_trans generated.1 flat.ends) scratch

/-- A run fails to remove an orphan exactly if it has written its outputs and two orphans share a
place. -/
theorem run_removeFile_iff (names : t.Named) (valid : c.Valid)
    (found : Scan.packages t (scanOptions c) roots = .ok ps) (planned : plan t c roots = .ok pl)
    (wet : c.settings.dryRun = false) :
    (∃ x, (run t c roots).2 = .error (.write (.removeFile x))) ↔
      (∃ v written, Write.each (fun t o => Write.write false t o.path o.contents) t pl.outputs =
        (v, .ok written)) ∧ ¬ (pl.orphans.map t.placeOf).Nodup := by
  obtain ⟨_, found', covers⟩ := plan_covers planned
  obtain rfl := Except.ok.inj (found.symm.trans found')
  rw [run, planned]
  dsimp only
  rw [wet, Plan.apply]
  rcases first : Write.each (fun t o => Write.write false t o.path o.contents) t pl.outputs with
    ⟨v, e | written⟩
  · -- No write fails with the error of a removal.
    rw [first]
    refine iff_of_false ?_ ?_
    · rintro ⟨x, failed⟩
      obtain ⟨o, _, u, failed'⟩ := Write.each_error (congrArg Prod.snd first)
      obtain rfl : e = .removeFile x := Error.write.inj (Except.error.inj failed)
      rcases Write.write_error failed' with other | other <;> cases other
    · rintro ⟨⟨_, _, done⟩, _⟩
      cases done
  · have places (x : String) (member : x ∈ pl.orphans) :=
      orphan_after_writes names valid found covers first member
    rw [first, ← Write.each_remove_iff t.placeOf (fun x member => (places x member).1)
      fun x member => (places x member).2]
    dsimp only
    rcases later : Write.each (Write.remove false) v pl.orphans with ⟨u, e | removed⟩
    · obtain ⟨x, _, w, failed⟩ := Write.each_error (congrArg Prod.snd later)
      refine iff_of_true ⟨x, ?_⟩ ⟨⟨v, written, rfl⟩, ?_⟩
      · rw [Write.remove_error failed]
        rfl
      · rintro ⟨_, _, done⟩
        cases done
    · refine iff_of_false ?_ fun both => both.2 ⟨u, removed, rfl⟩
      rintro ⟨x, failed⟩
      cases failed

/-- Packages are in different directories exactly if their roots are spelled alike. Otherwise every
orphan of a shared directory is listed for each package there, and a run that has written its
outputs fails to remove it. -/
theorem run_removes_iff (names : t.Named) (valid : c.Valid)
    (found : packages t c roots = .ok ps) :
    ((ps.map t.placeOf).Nodup ↔ Scan.SpelledAlike t (scanOptions c) roots) ∧
    ∀ pl, plan t c roots = .ok pl →
      (¬ (pl.orphans.map t.placeOf).Nodup ↔ ∃ p ∈ ps, ∃ q ∈ ps, p ≠ q ∧
        t.placeOf p = t.placeOf q ∧ ∃ n, IsName n ∧ Path.join p n ∈ pl.orphans) ∧
      (c.settings.dryRun = false →
        ((∃ x, (run t c roots).2 = .error (.write (.removeFile x))) ↔
          (∃ v written, Write.each (fun t o => Write.write false t o.path o.contents) t
            pl.outputs = (v, .ok written)) ∧ ¬ (pl.orphans.map t.placeOf).Nodup)) := by
  have found := mapError_eq_ok_iff.mp found
  exact ⟨Scan.nodup_packages_iff names found, fun pl planned =>
    ⟨nodup_orphans_iff names valid found planned, run_removeFile_iff names valid found planned⟩⟩

/-- One orphan, listed once for each of two spellings of its directory. -/
theorem plan_halfDone_twice : packages halfDone .standard ["b", "./b"] = .ok ["./b", "b"] ∧
    plan halfDone .standard ["b", "./b"] = .ok ⟨[], ["./b/v_gen.go", "b/v_gen.go"]⟩ := by
  constructor <;> exact toOption_eq_some_iff.mp (by decide +kernel)

/-- Two roots for one directory make two packages of it, and a run fails to remove its orphan. -/
theorem run_halfDone_twice_fails : halfDone.Named ∧ Config.standard.Valid ∧
    ∃ ps, packages halfDone .standard ["b", "./b"] = .ok ps ∧
      ¬ (ps.map halfDone.placeOf).Nodup ∧
      ∃ x, (run halfDone .standard ["b", "./b"]).2 = .error (.write (.removeFile x)) := by
  have ⟨found, planned⟩ := plan_halfDone_twice
  refine ⟨by decide +kernel, by decide +kernel, _, found, by decide +kernel, ?_⟩
  refine (run_removeFile_iff (by decide +kernel) (by decide +kernel)
    (mapError_eq_ok_iff.mp found) planned rfl).mpr ⟨⟨halfDone, [], rfl⟩, by decide +kernel⟩

/-- The two packages are not spelled alike, and a run with both of them fails. -/
theorem run_halfDone_removes_twice :
    ¬ Scan.SpelledAlike halfDone (scanOptions .standard) ["b", "./b"] ∧
    (∃ p ∈ ["./b", "b"], ∃ q ∈ ["./b", "b"], p ≠ q ∧ halfDone.placeOf p = halfDone.placeOf q ∧
      ∃ n, IsName n ∧ Path.join p n ∈ ["./b/v_gen.go", "b/v_gen.go"]) ∧
    ∃ x, (run halfDone .standard ["b", "./b"]).2 = .error (.write (.removeFile x)) := by
  have ⟨found, planned⟩ := plan_halfDone_twice
  have ⟨packages, orphans⟩ := run_removes_iff (by decide +kernel) (by decide +kernel) found
  have ⟨shared, removed⟩ := orphans _ planned
  have clash : ¬ (["./b/v_gen.go", "b/v_gen.go"].map halfDone.placeOf).Nodup := by decide +kernel
  refine ⟨fun alike => ?_, shared.mp clash, (removed rfl).mpr ⟨⟨halfDone, [], rfl⟩, clash⟩⟩
  exact absurd (packages.mpr alike) (by decide +kernel)

end Project

end TagSchema
