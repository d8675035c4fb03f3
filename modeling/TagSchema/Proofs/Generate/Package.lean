import TagSchema.Generate.Package
import TagSchema.Proofs.FileTree.Access
import TagSchema.Proofs.Generate.Moved
import TagSchema.Proofs.Project.Write

/-!
# Outputs of a directory

Which outputs a directory has depends on its place and on the files that may be sources, not on the
path that leads there: `ofPackage_congr`.
-/

namespace TagSchema.Generate

open TagSchema.Emit (Settings)
open TagSchema.FileTree (Location)
open TagSchema.Go (SourceFile)

variable {t u : FileTree} {s : Settings} {p q : String} {D : Location}

/-- The name of the source file, and the contents. -/
def Output.entry (o : Output) : String × String :=
  ((Path.fileName? o.source).getD "", o.contents)

/-- One source, reached by two paths of its directory. -/
def Twin (p q : String) (f g : SourceFile) : Prop :=
  ∃ n, IsName n ∧ f.path = Path.join p n ∧ g = f.moved (Path.join q n)

/-! ### Sources -/

theorem readMember_path {path : String} {f : SourceFile} (h : readMember t path = .ok (some f)) :
    f.path = path := by
  unfold readMember at h
  split at h
  · cases h
  · split at h
    · cases h
    · obtain ⟨g, read, h⟩ := map_ok h
      split at h
      · cases h
      · rw [← Option.some.inj h]
        exact path_of_readSource read

theorem readMember_twin {n : String} (name : IsName n) (leads : t.LeadsTo p D)
    (leads' : u.LeadsTo q D) (same : t.file? (D ++ [n]) = u.file? (D ++ [n]))
    {r : Option SourceFile} (h : readMember t (Path.join p n) = .ok r) :
    ∃ r', readMember u (Path.join q n) = .ok r' ∧ Option.Rel (Twin p q) r r' := by
  unfold readMember at *
  rw [FileTree.readText?_eq (FileTree.locate_join leads name)] at h
  rw [FileTree.readText?_eq (FileTree.locate_join leads' name), ← same]
  cases found : (t.file? (D ++ [n])).bind Text.ofUtf8? with
  | none =>
    rw [found] at h
    cases h
  | some text =>
    rw [found] at h
    dsimp only at h ⊢
    split at h
    · rename_i generated
      rw [if_pos generated, ← Except.ok.inj h]
      exact ⟨none, rfl, .none⟩
    · rename_i written
      rw [if_neg written]
      obtain ⟨f, read, rfl⟩ := map_ok h
      rw [readSource_moved read (Path.join q n)]
      refine ⟨_, rfl, ?_⟩
      show Option.Rel _ _ (if f.package.endsWith "_test" then none else some (f.moved _))
      split
      · exact .none
      · exact .some ⟨n, name, path_of_readSource read, rfl⟩

/-- The names of the files that may be sources, in order. -/
def candidates (t : FileTree) (s : Settings) (D : Location) : List String :=
  (t.namesIn D).filter (mayBeSource s)

theorem sourcesIn_eq (leads : t.LeadsTo p D) :
    sourcesIn t s p = do
      return (← ((candidates t s D).map (Path.join p)).mapM (readMember t)).filterMap id := by
  rw [sourcesIn, FileTree.fileNames_ok leads]
  rfl

theorem sourcesIn_twin (leads : t.LeadsTo p D) (leads' : u.LeadsTo q D)
    (names : ∀ n ∈ candidates t s D, IsName n)
    (same : ∀ n, mayBeSource s n = true → t.file? (D ++ [n]) = u.file? (D ++ [n]))
    {files : List SourceFile} (h : sourcesIn t s p = .ok files) :
    ∃ files', sourcesIn u s q = .ok files' ∧ List.Forall₂ (Twin p q) files files' := by
  have listed : candidates u s D = candidates t s D :=
    FileTree.filter_namesIn fun n kept => by rw [same n kept]
  rw [sourcesIn_eq leads] at h
  rw [sourcesIn_eq leads', listed]
  obtain ⟨found, read, h⟩ := bind_ok h
  have paired : List.Forall₂ (fun path path' => ∃ n ∈ candidates t s D, path = Path.join p n ∧
      path' = Path.join q n) ((candidates t s D).map (Path.join p))
      ((candidates t s D).map (Path.join q)) := by
    rw [List.forall₂_map_left_iff, List.forall₂_map_right_iff, List.forall₂_same]
    exact fun n member => ⟨n, member, rfl, rfl⟩
  obtain ⟨found', read', related⟩ := mapM_ok_of_forall₂ (S := Option.Rel (Twin p q)) paired (by
    rintro _ _ r ⟨n, member, rfl, rfl⟩ read
    exact readMember_twin (names n member) leads leads'
      (same n (List.mem_filter.mp member).2) read) read
  rw [bind_of_ok read', pure_ok h]
  exact ⟨_, rfl, List.rel_filterMap (fun _ _ related => related) related⟩

theorem paths_sourcesIn (leads : t.LeadsTo p D)
    {files : List SourceFile} (h : sourcesIn t s p = .ok files) :
    (files.map (·.path)).Sublist ((candidates t s D).map (Path.join p)) := by
  rw [sourcesIn_eq leads] at h
  obtain ⟨found, read, h⟩ := bind_ok h
  rw [pure_ok h]
  have paired := mapM_eq_ok_iff.mp read
  clear read h
  generalize (candidates t s D).map (Path.join p) = paths at paired ⊢
  induction paired with
  | nil => exact .slnil
  | @cons path r _ _ first _ ih =>
    cases r with
    | none => exact ih.cons _
    | some f =>
      show List.Sublist (f.path :: _) _
      rw [readMember_path first]
      exact ih.cons_cons _

/-! ### Outputs -/

/-- The records of one source, reached by two paths of its directory. -/
def TwinRecords (p q : String) (a b : String × List Record) : Prop :=
  ∃ n, IsName n ∧ a.1 = Path.join p n ∧ b = (Path.join q n, a.2.map (·.moved (Path.join q n)))

theorem ofFiles_twin {files files' : List SourceFile} (h : List.Forall₂ (Twin p q) files files') :
    Index.ofFiles files' = Index.ofFiles files := by
  unfold Index.ofFiles
  congr 2
  induction h with
  | nil => rfl
  | cons first _ ih =>
    obtain ⟨n, _, _, rfl⟩ := first
    rw [List.flatMap_cons, List.flatMap_cons, ih]
    rfl

theorem recordsOf_eq_ok_iff {files : List SourceFile} {rss : List (String × List Record)} :
    recordsOf files = .ok rss ↔ ∃ all, rss = all.filter (!·.2.isEmpty) ∧
      List.Forall₂ (fun f a => a.1 = f.path ∧ Record.ofFile (Index.ofFiles files) f = .ok a.2)
        files all := by
  have single (ix : Index) (f : SourceFile) (a : String × List Record) :
      (do return (f.path, ← (Record.ofFile ix f).mapError Error.field)) = Except.ok a ↔
        a.1 = f.path ∧ Record.ofFile ix f = .ok a.2 := by
    cases read : Record.ofFile ix f with
    | error e => exact ⟨fun h => (nomatch h), fun h => (nomatch h.2)⟩
    | ok rs =>
      show Except.ok (f.path, rs) = Except.ok a ↔ _
      rw [Except.ok.injEq, Except.ok.injEq, Prod.ext_iff, eq_comm]
  unfold recordsOf
  dsimp only
  constructor
  · intro h
    obtain ⟨all, read, h⟩ := bind_ok h
    exact ⟨all, pure_ok h, (mapM_eq_ok_iff.mp read).imp fun f a => (single _ f a).mp⟩
  · rintro ⟨all, rfl, read⟩
    exact bind_of_ok (mapM_eq_ok_iff.mpr (read.imp fun f a => (single _ f a).mpr))

theorem recordsOf_twin {files files' : List SourceFile} {rss : List (String × List Record)}
    (twins : List.Forall₂ (Twin p q) files files') (h : recordsOf files = .ok rss) :
    ∃ rss', recordsOf files' = .ok rss' ∧ List.Forall₂ (TwinRecords p q) rss rss' := by
  obtain ⟨all, rfl, read⟩ := recordsOf_eq_ok_iff.mp h
  have moved : ∃ all', List.Forall₂ (TwinRecords p q) all all' ∧ List.Forall₂ (fun f a =>
      a.1 = f.path ∧ Record.ofFile (Index.ofFiles files) f = .ok a.2) files' all' := by
    generalize Index.ofFiles files = ix at read ⊢
    clear h
    induction twins generalizing all with
    | nil =>
      cases read
      exact ⟨[], .nil, .nil⟩
    | cons twin _ ih =>
      cases read with
      | cons first later =>
        obtain ⟨n, name, path, rfl⟩ := twin
        obtain ⟨all', related, read⟩ := ih _ later
        exact ⟨_ :: all', .cons ⟨n, name, first.1.trans path, rfl⟩ related,
          .cons ⟨rfl, ofFile_moved first.2 _⟩ read⟩
  obtain ⟨all', related, read'⟩ := moved
  rw [← ofFiles_twin twins] at read'
  refine ⟨_, recordsOf_eq_ok_iff.mpr ⟨all', rfl, read'⟩, List.rel_filter ?_ related⟩
  rintro a _ ⟨n, _, _, rfl⟩
  simp

theorem emit_twin {a b : String × List Record} {o : Output} (twins : TwinRecords p q a b)
    (h : emit s a.1 a.2 = .ok o) : ∃ o', emit s b.1 b.2 = .ok o' ∧ o'.entry = o.entry := by
  obtain ⟨n, name, path, rfl⟩ := twins
  obtain ⟨code, read, h⟩ := bind_ok h
  have read := file_moved (mapError_eq_ok_iff.mp read) (Path.join q n)
  refine ⟨_, bind_of_ok (mapError_eq_ok_iff.mpr read), ?_⟩
  rw [pure_ok h]
  simp only [Output.entry, path, Path.fileName?_join _ name]

theorem path_of_emit {source : String} {rs : List Record} {o : Output}
    (h : emit s source rs = .ok o) : o.source = source ∧ o.path = outputPath s source := by
  obtain ⟨code, _, h⟩ := bind_ok h
  rw [pure_ok h]
  exact ⟨rfl, rfl⟩

/-- The outputs have the sources of the package in order, and some may have none. -/
theorem sources_outputs {files : List SourceFile} {outs : List Output}
    (h : outputs s files = .ok outs) :
    (outs.map (·.source)).Sublist (files.map (·.path)) := by
  obtain ⟨rss, found, h⟩ := bind_ok h
  obtain ⟨all, rfl, read⟩ := recordsOf_eq_ok_iff.mp found
  have paths : all.map (·.1) = files.map (·.path) := by
    rw [← List.forall₂_eq_eq_eq, List.forall₂_map_left_iff, List.forall₂_map_right_iff]
    exact read.flip.imp fun _ _ made => made.1
  have sources : outs.map (·.source) = (all.filter (!·.2.isEmpty)).map (·.1) := by
    rw [← List.forall₂_eq_eq_eq, List.forall₂_map_left_iff, List.forall₂_map_right_iff]
    exact (mapM_eq_ok_iff.mp h).flip.imp fun _ _ made => (path_of_emit made).1
  rw [sources, ← paths]
  exact List.filter_sublist.map _

/-- The same files make the same outputs, whichever path leads to the directory. -/
theorem ofPackage_congr (leads : t.LeadsTo p D) (leads' : u.LeadsTo q D)
    (names : ∀ n ∈ candidates t s D, IsName n)
    (same : ∀ n, mayBeSource s n = true → t.file? (D ++ [n]) = u.file? (D ++ [n]))
    {outs : List Output} (h : ofPackage t s p = .ok outs) :
    ∃ outs', ofPackage u s q = .ok outs' ∧ outs'.map Output.entry = outs.map Output.entry := by
  obtain ⟨files, read, h⟩ := bind_ok h
  obtain ⟨files', read', twins⟩ := sourcesIn_twin leads leads' names same read
  obtain ⟨rss, read, h⟩ := bind_ok h
  obtain ⟨rss', read'', related⟩ := recordsOf_twin twins read
  obtain ⟨outs', made, entries⟩ := mapM_ok_of_forall₂
    (g := fun (a : String × List Record) => emit s a.1 a.2)
    (S := fun o o' => o'.entry = o.entry) related
    (fun _ _ _ twins made => emit_twin twins made) h
  refine ⟨outs', (bind_of_ok read').trans ((bind_of_ok read'').trans made), ?_⟩
  rw [← List.forall₂_eq_eq_eq, List.forall₂_map_left_iff, List.forall₂_map_right_iff]
  exact entries.flip

/-- Every output belongs to a file that may be a source, and to each such file belongs at most
one. -/
theorem entries_ofPackage (leads : t.LeadsTo p D)
    (names : ∀ n ∈ candidates t s D, IsName n) {outs : List Output}
    (h : ofPackage t s p = .ok outs) :
    (outs.map (·.entry.1)).Sublist (candidates t s D) ∧
      ∀ o ∈ outs, o.path = outputPath s (Path.join p o.entry.1) := by
  obtain ⟨files, read, h⟩ := bind_ok h
  obtain ⟨ns, kept, sources⟩ := List.sublist_map_iff.mp
    ((sources_outputs h).trans (paths_sourcesIn leads read))
  have named : ∀ n ∈ ns, (Path.fileName? (Path.join p n)).getD "" = n := by
    intro n member
    rw [Path.fileName?_join _ (names n (kept.subset member))]
    rfl
  have entries : outs.map (·.entry.1) = ns := by
    calc outs.map (·.entry.1) = (outs.map (·.source)).map fun x => (Path.fileName? x).getD "" := by
          rw [List.map_map]
          rfl
      _ = ns.map fun n => (Path.fileName? (Path.join p n)).getD "" := by
          rw [sources, List.map_map]
          rfl
      _ = ns := by rw [List.map_congr_left named, List.map_id']
  refine ⟨entries ▸ kept, fun o member => ?_⟩
  have listed : o.source ∈ ns.map (Path.join p) := sources ▸ List.mem_map_of_mem member
  obtain ⟨n, present, source⟩ := List.mem_map.mp listed
  obtain ⟨rss, _, h⟩ := bind_ok h
  obtain ⟨a, _, made⟩ := (mem_mapM_ok h).mp member
  have made := path_of_emit made
  rw [made.2, ← made.1, Output.entry, ← source]
  dsimp only
  rw [named n present]

/-- Every source file that declares records has an output, in order. -/
theorem paths_ofPackage {outs : List Output} (h : ofPackage t s p = .ok outs) :
    ∃ rss, recordsInPackage t s p = .ok rss ∧
      outs.map (·.path) = rss.map fun a => outputPath s a.1 := by
  obtain ⟨files, read, h⟩ := bind_ok h
  obtain ⟨rss, found, h⟩ := bind_ok h
  refine ⟨rss, (bind_of_ok read).trans found, ?_⟩
  rw [← List.forall₂_eq_eq_eq, List.forall₂_map_left_iff, List.forall₂_map_right_iff]
  exact (mapM_eq_ok_iff.mp h).flip.imp fun _ _ made => (path_of_emit made).2

/-! ### Places of outputs -/

/-- The name of the output for a source file. -/
def outputName (s : Settings) (source : String) : String := Path.stem source ++ s.suffix

/-- The suffix makes names of source files. -/
structure IsFlat (s : Settings) : Prop where
  ends : s.suffix.endsWith ".go" = true
  more : s.suffix ≠ ".go"
  noSlash : '/' ∉ s.suffix.toList

theorem outputPath_of_named {source n : String} (named : Path.fileName? source = some n) :
    outputPath s source = Path.withFileName source (outputName s n) := by
  rw [outputPath, named]
  rfl

theorem endsWith_outputName (s : Settings) (n : String) :
    (outputName s n).endsWith s.suffix = true := by
  rw [endsWith_iff, outputName, String.toList_append]
  exact List.suffix_append _ _

theorem endsWith_trans {a b c : String} (first : a.endsWith b = true)
    (second : b.endsWith c = true) : a.endsWith c = true :=
  endsWith_iff.mpr ((endsWith_iff.mp second).trans (endsWith_iff.mp first))

theorem endsWith_of_mayBeSource {n : String} (h : mayBeSource s n = true) :
    n.endsWith ".go" = true := by
  rw [mayBeSource, Scan.isSourceName] at h
  simp only [Bool.and_eq_true] at h
  exact h.1.1

theorem outputName_ne (flat : IsFlat s) (n : String) : outputName s n ≠ ".go" := by
  intro same
  have ends := endsWith_outputName s n
  rw [same, endsWith_iff] at ends
  have short := (endsWith_iff.mp flat.ends).length_le
  exact flat.more (String.toList_inj.mp (ends.eq_of_length_le short))

/-- A stem is a text without slashes. -/
theorem stem_of_name {n : String} (name : IsName n) (ends : n.endsWith ".go" = true) :
    Path.stem n ≠ "" ∧ '/' ∉ (Path.stem n).toList := by
  by_cases bare : n = ".go"
  · subst bare
    decide
  · have whole := Path.eq_stem_append ends bare
    constructor
    · intro empty
      rw [empty] at whole
      exact bare whole
    · intro slash
      refine name.noSlash ?_
      rw [whole, String.toList_append]
      exact List.mem_append_left _ slash

theorem two_lt_length {n : String} (ends : n.endsWith ".go" = true) : 2 < n.length := by
  have long := (endsWith_iff.mp ends).length_le
  rwa [String.length_toList] at long

theorem isName_outputName {n : String} (flat : IsFlat s) (name : IsName n)
    (ends : n.endsWith ".go" = true) : IsName (outputName s n) := by
  refine isName_of_length ?_ ?_
  · have long := two_lt_length flat.ends
    rw [outputName, String.length_append]
    omega
  · rw [outputName, String.toList_append, List.mem_append, not_or]
    exact ⟨(stem_of_name name ends).2, flat.noSlash⟩

/-- The suffix lengthens the stem up to its first slash. -/
theorem parts_outputName {n first : String} {rest : List String}
    (noSlash : '/' ∉ (Path.stem n).toList) (cut : Path.parts s.suffix = first :: rest) :
    Path.parts (outputName s n) = (Path.stem n ++ first) :: rest := by
  obtain ⟨field, fs, whole, rfl, rfl⟩ := List.map_eq_cons_iff.mp cut
  rw [Path.parts, outputName, String.toList_append, Text.fields_of_not_mem_append noSlash whole,
    List.map_cons, String.ofList_append, String.ofList_toList]

theorem isRelative_outputName {n : String} (name : IsName n) (ends : n.endsWith ".go" = true) :
    Path.IsRelative (outputName s n) := by
  have ⟨filled, noSlash⟩ := stem_of_name name ends
  obtain ⟨first, rest, cut⟩ := List.exists_cons_of_ne_nil (Path.parts_ne_nil s.suffix)
  rw [Path.isRelative_iff (parts_outputName noSlash cut)]
  simp [filled]

/-- Whatever the suffix, the path of an output ends in a name like that of a source file. -/
theorem endsIn_outputPath {n : String} (relative : Path.IsRelative p) (name : IsName n)
    (source : mayBeSource s n = true) (ends : s.suffix.endsWith ".go" = true) :
    ∃ m, Path.EndsIn (outputPath s (Path.join p n)) m ∧ m.endsWith ".go" = true := by
  obtain ⟨q, inert, parent, relative_q, _⟩ := Path.exists_parent_join relative name
  obtain ⟨init, m, last, ends_m⟩ := Path.exists_last_part
    (endsWith_trans (endsWith_outputName s n) ends) (by decide)
  have other : Path.IsRelative (outputName s n) :=
    isRelative_outputName name (endsWith_of_mayBeSource source)
  have listed : m ∈ Path.parts (outputName s n) := by
    rw [last]
    exact List.mem_append_right _ List.mem_cons_self
  have name_m : IsName m :=
    isName_of_length (two_lt_length ends_m) (Path.noSlash_of_mem_parts listed)
  refine ⟨m, ?_, ends_m⟩
  rw [outputPath_of_named (Path.fileName?_join _ name), Path.withFileName,
    Path.fileName?_join _ name, parent]
  exact Path.endsIn_join relative_q other name_m last

theorem outputName_injective {n m : String} (source : mayBeSource s n = true) (more : n ≠ ".go")
    (source' : mayBeSource s m = true) (more' : m ≠ ".go")
    (same : outputName s n = outputName s m) : n = m := by
  refine Path.stem_injective (endsWith_of_mayBeSource source) more
    (endsWith_of_mayBeSource source') more' ?_
  have same := congrArg String.toList same
  rw [outputName, outputName, String.toList_append, String.toList_append] at same
  exact String.toList_inj.mp (List.append_cancel_right same)

theorem scratch_not_go (n : String) : ("." ++ n ++ ".tmp").endsWith ".go" = false := by
  rw [Bool.eq_false_iff, ne_eq, endsWith_iff]
  rintro ⟨before, text⟩
  rw [String.toList_append] at text
  have last := congrArg List.getLast? text
  have ends : ".go".toList.getLast? = some 'o' ∧ ".tmp".toList.getLast? = some 'p' := ⟨rfl, rfl⟩
  rw [List.getLast?_append, List.getLast?_append, ends.1, ends.2, Option.some_or,
    Option.some_or] at last
  exact absurd (Option.some.inj last) (by decide)

theorem not_isScratch {n : String} (h : n.endsWith ".go" = true) :
    ¬ Write.IsScratch (D ++ [n]) := by
  rintro ⟨E, m, _, same⟩
  rw [(List.append_singleton_inj.mp same).2, scratch_not_go] at h
  cases h

/-! ### Generated files -/

/-- Whether the directory at a place holds a generated file of a name. -/
def IsGenerated (t : FileTree) (s : Settings) (D : Location) (n : String) : Prop :=
  n.endsWith s.suffix = true ∧
    ((t.file? (D ++ [n])).bind Text.ofUtf8?).any Generate.isGenerated = true

theorem IsGenerated.holds {n : String} (h : IsGenerated t s D n) :
    (t.file? (D ++ [n])).isSome = true := by
  cases there : t.file? (D ++ [n]) with
  | some bytes => rfl
  | none =>
    rw [IsGenerated, there] at h
    cases h.2

theorem generatedIn_ok (leads : t.LeadsTo p D)
    (names : t.Named) : ∃ paths, generatedIn t s p = .ok paths ∧
      ∀ x, x ∈ paths ↔ ∃ n, IsGenerated t s D n ∧ x = Path.join p n := by
  refine ⟨_, bind_of_ok (FileTree.fileNames_ok leads), fun x => ?_⟩
  have kept {n : String} (file : (t.file? (D ++ [n])).isSome = true) :
      (isOutputName s (Path.join p n) &&
        (t.readText? (Path.join p n)).any Generate.isGenerated) = true ↔ IsGenerated t s D n := by
    have name : IsName n := names.of_file? file n (by simp)
    rw [Bool.and_eq_true, isOutputName, Path.fileName?_join _ name,
      FileTree.readText?_eq (FileTree.locate_join leads name)]
    rfl
  rw [List.mem_filter, List.mem_map]
  constructor
  · rintro ⟨⟨n, member, rfl⟩, found⟩
    exact ⟨n, (kept (FileTree.mem_namesIn.mp member)).mp found, rfl⟩
  · rintro ⟨n, found, rfl⟩
    exact ⟨⟨n, FileTree.mem_namesIn.mpr found.holds, rfl⟩, (kept found.holds).mpr found⟩

end TagSchema.Generate
