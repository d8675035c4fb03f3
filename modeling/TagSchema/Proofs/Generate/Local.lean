import TagSchema.Proofs.Generate.Package
import TagSchema.Proofs.Shape.Dependency
import TagSchema.Proofs.Text.Keyed

/-!
# A further file

The files of a package share one index, in which the last declaration of a name counts, so that one
file can change what others are made of. `ofPackage_without` says when it does not: no declaration
in it has a name that is looked up for a field of the others.
-/

namespace TagSchema

open TagSchema.Go (Member SourceFile TypeDecl TypeExpr)

/-! ### Declarations -/

/-- Files that do not declare a name have no say in what it means. -/
theorem Index.find?_without {before more after : List SourceFile} {name : String}
    (undeclared : ∀ f ∈ more, ∀ d ∈ f.decls, d.name ≠ name) :
    (ofFiles (before ++ more ++ after)).find? name = (ofFiles (before ++ after)).find? name := by
  have missed : (more.flatMap fun f => f.decls.map fun d => (d.name,
      (⟨d.type, Scope.of f.imports d.typeParams⟩ : Entry))).reverse.lookup name = none := by
    rw [List.lookup_eq_none_iff]
    intro e listed
    obtain ⟨f, member, listed⟩ := List.mem_flatMap.mp (List.mem_reverse.mp listed)
    obtain ⟨d, decl, rfl⟩ := List.mem_map.mp listed
    exact bne_iff_ne.mpr (undeclared f member d decl).symm
  simp only [find?, ofFiles, Keyed.lookup_ofList_eq, List.flatMap_append, List.reverse_append,
    List.lookup_append, missed, Option.none_or]

/-! ### Records -/

namespace Record

variable {ix jx : Index} {scope : Scope} {optedIn : Bool} {m : Member TypeExpr} {f : SourceFile}
  {d : TypeDecl}

/-- A declaration of fields that belong to the record: one of them is exported, and the record or
their own tag asks for them. -/
structure Counts (optedIn : Bool) (m : Member TypeExpr) : Prop where
  exported : ∃ name ∈ m.names, Go.isExported name = true
  kept : ruleTag? m.tag ≠ some "-"
  asked : optedIn = true ∨ (ruleTag? m.tag).isSome = true

/-- A record of the file has a field of a type, written in a scope. -/
def HasType (f : SourceFile) (scope : Scope) (t : TypeExpr) : Prop :=
  ∃ d ∈ f.decls, d.isAlias = false ∧ scope = Scope.of f.imports d.typeParams ∧
    ∃ members source, d.type = .struct members source ∧
      ∃ m ∈ members, Counts d.optedIn m ∧ m.type = t

/-- The types of fields are all that records take from the index. -/
theorem fieldsOf_congr
    (same : Counts optedIn m → jx.resolve scope m.type = ix.resolve scope m.type) :
    fieldsOf jx scope optedIn m = fieldsOf ix scope optedIn m := by
  unfold fieldsOf
  dsimp only
  split
  · rfl
  · rename_i read
    rw [Bool.or_eq_true, not_or, beq_iff_eq, Bool.and_eq_true, not_and, Bool.not_eq_true',
      Bool.not_eq_false] at read
    have asked : optedIn = true ∨ (ruleTag? m.tag).isSome = true := by
      cases tagged : ruleTag? m.tag with
      | none => exact .inl (read.2 (by rw [tagged]; rfl))
      | some tag => exact .inr rfl
    refine mapM_congr fun name listed => ?_
    have ⟨member, exported⟩ := List.mem_filter.mp listed
    rw [same ⟨⟨name, member, exported⟩, read.1, asked⟩]

theorem ofDecl?_congr (decl : d ∈ f.decls)
    (same : ∀ scope t, HasType f scope t → jx.resolve scope t = ix.resolve scope t) :
    ofDecl? jx f d = ofDecl? ix f d := by
  unfold ofDecl?
  split
  · rename_i members source struct
    split
    · rfl
    · rename_i record
      have own : d.isAlias = false := by
        by_contra aliased
        simp [aliased] at record
      dsimp only
      rw [mapM_congr fun m listed => ?_]
      rw [fieldsOf_congr fun counts => same _ _ ⟨d, decl, own, rfl, members, source, struct, m,
        (List.mem_filter.mp listed).1, counts, rfl⟩]
  · rfl

theorem ofFile_congr
    (same : ∀ scope t, HasType f scope t → jx.resolve scope t = ix.resolve scope t) :
    ofFile jx f = ofFile ix f := by
  rw [ofFile, ofFile, mapM_congr fun d decl => ofDecl?_congr decl same]

end Record

/-! ### Packages -/

namespace Generate

open TagSchema.Emit (Settings)
open TagSchema.FileTree (Location)

variable {t u : FileTree} {s : Settings} {p n path : String} {D : Location}
  {before more after files : List SourceFile}

/-- A name that is looked up for a field of the files, in the type itself or in a declaration that
the type leads to. -/
def Consults (files : List SourceFile) (name : String) : Prop :=
  ∃ f ∈ files, ∃ scope t, Record.HasType f scope t ∧ (Index.ofFiles files).LooksUp scope t name

/-- The names in the types of a file, those of fields included, outside of arguments. -/
def mentions (f : SourceFile) : List String :=
  f.decls.flatMap fun d => match d.type with
    | .struct members _ => members.flatMap fun m => m.type.heads.map (·.1)
    | t => t.heads.map (·.1)

/-- Only what the files mention is looked up. -/
theorem Consults.mentioned {name : String} (h : Consults files name) :
    name ∈ files.flatMap mentions := by
  have named {scope : Scope} {t : TypeExpr} (used : scope.Uses t name) :
      name ∈ t.heads.map (·.1) :=
    let ⟨_, args, head⟩ := used
    List.mem_map.mpr ⟨(name, args), head, rfl⟩
  obtain ⟨f, member, scope, _, ⟨d, decl, _, _, members, _, struct, m, declared, _, rfl⟩, first,
    used, leads⟩ := h
  rcases leads.cases_tail with rfl | ⟨last, _, e, follows, used⟩
  · refine List.mem_flatMap.mpr ⟨f, member, List.mem_flatMap.mpr ⟨d, decl, ?_⟩⟩
    rw [struct]
    exact List.mem_flatMap.mpr ⟨m, declared, named used⟩
  · have listed := Keyed.mem_ofList (Index.mem_of_lookup follows.found)
    obtain ⟨g, member, listed⟩ := List.mem_flatMap.mp listed
    obtain ⟨c, decl, same⟩ := List.mem_map.mp listed
    obtain ⟨rfl, rfl⟩ := Prod.mk.inj same
    refine List.mem_flatMap.mpr ⟨g, member, List.mem_flatMap.mpr ⟨c, decl, ?_⟩⟩
    have other := follows.other
    dsimp only at other used
    split
    · rename_i struct
      rw [struct] at other
      cases other
    · exact named used

theorem filter_middle {α : Type} {keep : α → Bool} {before more after : List α}
    (out : ∀ x ∈ more, keep x = false) (kept : ∀ x ∈ before ++ after, keep x = true) :
    (before ++ more ++ after).filter keep = before ++ after := by
  have none : more.filter keep = [] :=
    List.filter_eq_nil_iff.mpr fun x member => by rw [out x member]; decide
  rw [List.filter_append, List.filter_append, none, List.append_nil, ← List.filter_append,
    List.filter_eq_self.mpr kept]

/-- What each file is made of stays as it is, since the types of its fields resolve alike in the
index of all files and in that of the others. -/
theorem recordsOf_without (own : ∀ f ∈ more, f.path = path)
    (other : ∀ f ∈ before ++ after, f.path ≠ path)
    (apart : ∀ f ∈ more, ∀ d ∈ f.decls, ¬ Consults (before ++ after) d.name)
    {rss : List (String × List Record)} (h : recordsOf (before ++ more ++ after) = .ok rss) :
    recordsOf (before ++ after) = .ok (rss.filter (·.1 != path)) := by
  obtain ⟨all, read, h⟩ := bind_ok h
  have kept := mapM_filter_ok (·.path != path) (·.1 != path) (fun f a made => by
    obtain ⟨rs, _, made⟩ := bind_ok made
    rw [pure_ok made]) read
  rw [filter_middle (fun f member => bne_eq_false_iff_eq.mpr (own f member))
    (fun f member => bne_iff_ne.mpr (other f member))] at kept
  refine (bind_of_ok ((mapM_congr fun f member => ?_).trans kept)).trans ?_
  · rw [Record.ofFile_congr fun scope t has => (Index.resolve_congr fun name found => ?_).symm]
    exact Index.find?_without fun g further d decl same =>
      apart g further d decl ⟨f, member, scope, t, has, same ▸ found⟩
  · rw [pure_ok h, List.filter_comm]
    rfl

theorem outputs_without (own : ∀ f ∈ more, f.path = path)
    (other : ∀ f ∈ before ++ after, f.path ≠ path)
    (apart : ∀ f ∈ more, ∀ d ∈ f.decls, ¬ Consults (before ++ after) d.name)
    {outs : List Output} (h : outputs s (before ++ more ++ after) = .ok outs) :
    outputs s (before ++ after) = .ok (outs.filter (·.source != path)) := by
  obtain ⟨rss, found, h⟩ := bind_ok h
  refine (bind_of_ok (recordsOf_without own other apart found)).trans ?_
  exact mapM_filter_ok _ _ (fun a o made => by rw [(path_of_emit made).1]) h

/-! ### Directories -/

/-- A further file of a directory stands somewhere between the others. -/
theorem candidates_writeFile {bytes : List UInt8} (added : t.writeFile (D ++ [n]) bytes = .ok u)
    (absent : t.file? (D ++ [n]) = none) (candidate : mayBeSource s n = true) :
    ∃ before after, candidates t s D = before ++ after ∧
      candidates u s D = before ++ [n] ++ after := by
  have listed : n ∈ candidates u s D := by
    rw [candidates, List.mem_filter, FileTree.mem_namesIn, FileTree.file?_writeFile added,
      if_pos rfl]
    exact ⟨rfl, candidate⟩
  obtain ⟨before, after, whole⟩ := List.append_of_mem listed
  have once : (before ++ n :: after).Nodup := whole ▸ (FileTree.nodup_namesIn u D).filter _
  rw [List.nodup_middle, List.nodup_cons] at once
  rw [List.append_cons] at whole
  refine ⟨before, after, ?_, whole⟩
  have single (m : String) (held : m ∈ t.namesIn D) :
      mayBeSource s m = (mayBeSource s m && m != n) := by
    have other : m ≠ n := fun same => FileTree.not_mem_namesIn absent (same ▸ held)
    rw [bne_iff_ne.mpr other, Bool.and_true]
  -- Names are listed in order, so the shorter list is the longer one with a name left out.
  calc candidates t s D
      = (t.namesIn D).filter fun m => mayBeSource s m && m != n := List.filter_congr single
    _ = (u.namesIn D).filter fun m => mayBeSource s m && m != n :=
        FileTree.filter_namesIn fun m kept => by
          rw [Bool.and_eq_true, bne_iff_ne] at kept
          rw [FileTree.file?_writeFile added, if_neg kept.2]
    _ = (candidates u s D).filter (· != n) := by
        rw [candidates, List.filter_filter]
        simp only [Bool.and_comm]
    _ = before ++ after := by
        rw [whole]
        exact filter_middle (by simp) fun m member => bne_iff_ne.mpr fun same =>
          once.1 (same ▸ member)

theorem readMember_writeFile {bytes : List UInt8} (added : t.writeFile (D ++ [n]) bytes = .ok u)
    (leads : t.LeadsTo p D) {m : String} (name : IsName m) (other : m ≠ n) :
    readMember u (Path.join p m) = readMember t (Path.join p m) := by
  have leads' : u.LeadsTo p D := leads.congr (FileTree.sameDirectories_writeFile added)
  rw [readMember, readMember, FileTree.readText?_eq (FileTree.locate_join leads name),
    FileTree.readText?_eq (FileTree.locate_join leads' name), FileTree.file?_writeFile added,
    if_neg other]

theorem sourcesIn_writeFile (names : t.Named) (leads : t.LeadsTo p D)
    (absent : t.file? (D ++ [n]) = none) (candidate : mayBeSource s n = true)
    {bytes : List UInt8} (added : t.writeFile (D ++ [n]) bytes = .ok u)
    {files : List SourceFile} (h : sourcesIn u s p = .ok files) :
    ∃ before own after, readMember u (Path.join p n) = .ok own ∧
      sourcesIn t s p = .ok (before ++ after) ∧ files = before ++ own.toList ++ after := by
  obtain ⟨as, bs, listed, listed'⟩ := candidates_writeFile added absent candidate
  have leads' : u.LeadsTo p D := leads.congr (FileTree.sameDirectories_writeFile added)
  rw [sourcesIn_eq leads', listed', List.map_append, List.map_append] at h
  obtain ⟨found, read, h⟩ := bind_ok h
  obtain ⟨_, vs, start, back, rfl⟩ := mapM_append_eq_ok_iff.mp read
  obtain ⟨us, _, front, further, rfl⟩ := mapM_append_eq_ok_iff.mp start
  obtain ⟨own, _, middle, none, rfl⟩ := mapM_cons_eq_ok_iff.mp further
  obtain rfl := pure_ok none
  have same {ms : List String} (part : ∀ m ∈ ms, m ∈ candidates t s D) :
      (ms.map (Path.join p)).mapM (readMember t) = (ms.map (Path.join p)).mapM (readMember u) := by
    refine mapM_congr fun path present => ?_
    obtain ⟨m, member, rfl⟩ := List.mem_map.mp present
    have held := (List.mem_filter.mp (part m member)).1
    have name : IsName m := names.of_file? (FileTree.mem_namesIn.mp held) m (by simp)
    exact (readMember_writeFile added leads name fun same =>
      FileTree.not_mem_namesIn absent (same ▸ held)).symm
  rw [listed] at same
  refine ⟨us.filterMap id, own, vs.filterMap id, middle, ?_, ?_⟩
  · rw [sourcesIn_eq leads, listed, List.map_append, ← List.filterMap_append]
    exact bind_of_ok (mapM_append_eq_ok_iff.mpr ⟨us, vs,
      (same fun m member => List.mem_append_left _ member).trans front,
      (same fun m member => List.mem_append_right _ member).trans back, rfl⟩)
  · rw [pure_ok h, List.filterMap_append, List.filterMap_append]
    cases own <;> rfl

/-- A further file of a package leaves the outputs for the others and their order as they are, as
long as it declares no name that is looked up for a field of the others. -/
theorem ofPackage_without (names : t.Named) (leads : t.LeadsTo p D) (name : IsName n)
    (absent : t.file? (D ++ [n]) = none) (candidate : mayBeSource s n = true)
    {bytes : List UInt8} (added : t.writeFile (D ++ [n]) bytes = .ok u)
    (apart : ∀ files f, sourcesIn t s p = .ok files →
      readMember u (Path.join p n) = .ok (some f) → ∀ d ∈ f.decls, ¬ Consults files d.name)
    {outs : List Output} (h : ofPackage u s p = .ok outs) :
    ofPackage t s p = .ok (outs.filter (·.source != Path.join p n)) := by
  obtain ⟨files, read, h⟩ := bind_ok h
  obtain ⟨before, own, after, further, others, rfl⟩ :=
    sourcesIn_writeFile names leads absent candidate added read
  have further {f : SourceFile} (member : f ∈ own.toList) :
      readMember u (Path.join p n) = .ok (some f) := by
    rw [further, Option.mem_toList.mp member]
  refine (bind_of_ok others).trans (outputs_without
    (fun f member => readMember_path (further member)) (fun f member => ?_)
    (fun f member => apart _ f others (further member)) h)
  have listed := (paths_sourcesIn leads others).subset (List.mem_map_of_mem member)
  obtain ⟨m, member, path⟩ := List.mem_map.mp listed
  intro same
  have held := (List.mem_filter.mp member).1
  have found := Path.fileName?_join p (names.of_file? (FileTree.mem_namesIn.mp held) m (by simp))
  rw [path, same, Path.fileName?_join p name] at found
  exact FileTree.not_mem_namesIn absent (Option.some.inj found ▸ held)

/-- A record with a field that leads to another declaration of its file. -/
def desk : FileTree where
  nodes := [
    (["desk"], .directory),
    (["desk", "u.go"], .file ("package desk\ntype Names []Name\ntype Name string\n" ++
      "type U struct \x7b\n\tAll Names `gozod:\"required\"`\n\x7d\n").toUTF8.toList)]
  distinct := by decide
  held := by decide

/-- A source with a record that is made of the types of the other file. -/
def further : List UInt8 :=
  ("package desk\ntype Set map[Name]U\n" ++
    "type V struct \x7b\n\tIn Set `gozod:\"required\"`\n\x7d\n").toUTF8.toList

def wider : FileTree := desk.place ["desk", "a.go"] (.file further) (by decide) (by decide)

theorem writeFile_further : desk.writeFile (["desk"] ++ ["a.go"]) further = .ok wider := by
  rw [FileTree.writeFile, dif_neg (by decide), dif_pos (by decide)]
  rfl

theorem leadsTo_desk : desk.LeadsTo "desk" ["desk"] where
  place := toOption_eq_some_iff.mp (by decide +kernel)
  dir := by decide +kernel

theorem ofPackage_desk_without : desk.writeFile ["desk", "a.go"] further = .ok wider ∧
    ∃ outs, ofPackage wider .standard "desk" = .ok outs ∧
      outs.map (·.source) = ["desk/a.go", "desk/u.go"] ∧
      ofPackage desk .standard "desk" = .ok (outs.filter (·.source != "desk/a.go")) := by
  have leads : wider.LeadsTo "desk" ["desk"] :=
    leadsTo_desk.congr (FileTree.sameDirectories_writeFile writeFile_further)
  have joined : Path.join "desk" "a.go" = "desk/a.go" := by decide +kernel
  have listed : (candidates wider .standard ["desk"]).map (Path.join "desk") =
      ["desk/a.go", "desk/u.go"] := by
    rw [candidates, FileTree.namesIn, List.mergeSort_of_pairwise (by decide +kernel)]
    decide +kernel
  have generates : (do
      let files ← ["desk/a.go", "desk/u.go"].mapM (readMember wider)
      let outs ← outputs .standard (files.filterMap id)
      return outs.map Output.source).toOption = some ["desk/a.go", "desk/u.go"] := by
    decide +kernel
  obtain ⟨files, read, h⟩ := bind_ok (toOption_eq_some_iff.mp generates)
  obtain ⟨outs, made, h⟩ := bind_ok h
  have found : sourcesIn wider .standard "desk" = .ok (files.filterMap id) := by
    rw [sourcesIn_eq leads, listed]
    exact bind_of_ok read
  have generated : ofPackage wider .standard "desk" = .ok outs := (bind_of_ok found).trans made
  refine ⟨writeFile_further, outs, generated, (pure_ok h).symm, ?_⟩
  refine joined ▸ ofPackage_without (by decide +kernel) leadsTo_desk (by decide) (by decide +kernel)
    (by decide +kernel) writeFile_further (fun files f others own d decl consults => ?_) generated
  have mentioned : (sourcesIn desk .standard "desk").toOption.map (·.flatMap mentions) =
      some ["Name", "string", "Names"] := by decide +kernel
  have declared : (readMember wider "desk/a.go").toOption.map (Option.map fun f =>
      f.decls.map (·.name)) = some (some ["Set", "V"]) := by decide +kernel
  rw [others] at mentioned
  rw [joined] at own
  rw [own] at declared
  have inside : d.name ∈ files.flatMap mentions := consults.mentioned
  have outside : d.name ∈ f.decls.map (·.name) := List.mem_map_of_mem decl
  rw [show files.flatMap mentions = _ from Option.some.inj mentioned] at inside
  rw [show f.decls.map (·.name) = _ from Option.some.inj (Option.some.inj declared)] at outside
  exact (by decide : ∀ x ∈ ["Set", "V"], x ∉ ["Name", "string", "Names"]) _ outside inside

end Generate

end TagSchema
