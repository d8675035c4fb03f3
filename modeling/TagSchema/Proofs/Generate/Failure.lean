import TagSchema.Generate.Package
import TagSchema.Proofs.Except

/-!
# Packages that cannot be generated

What can be wrong with a package: `fails_ofPackage_iff`. One field is enough, wherever it stands in
its record, the record in its file and the file in the package.
-/

namespace TagSchema

open TagSchema.Go (Member SourceFile TypeDecl TypeExpr)

/-! ### Tags -/

namespace Record

/-- The declaration gives an exported field a rule tag that does not parse. -/
def IsBad (m : Member TypeExpr) : Prop :=
  (∃ name ∈ m.names, Go.isExported name = true) ∧
    ∃ tag, ruleTag? m.tag = some tag ∧ tag ≠ "-" ∧ Fails (Tag.parse tag)

/-- Some struct of the file has a bad field. -/
def HasBadField (f : SourceFile) : Prop :=
  ∃ d ∈ f.decls, d.isAlias = false ∧ ∃ members source, d.type = .struct members source ∧
    ∃ m ∈ members, IsBad m

theorem fails_fieldsOf_iff {ix : Index} {scope : Scope} {optedIn : Bool} {m : Member TypeExpr} :
    Fails (fieldsOf ix scope optedIn m) ↔ IsBad m := by
  have field (tag : String) (name : String) : Fails (do
      let rules ← (Tag.parse tag).mapError fun e => (name, e)
      return Field.ofRules name (keyOf m.tag name) m.type.text (ix.resolve scope m.type) tag
        rules) ↔ Fails (Tag.parse tag) := by
    rw [fails_bind_iff, fails_mapError_iff]
    exact or_iff_left fun ⟨_, _, failed⟩ => not_fails_ok _ failed
  unfold fieldsOf
  dsimp only
  split
  · rename_i skipped
    refine iff_of_false (not_fails_ok _) fun ⟨_, tag, tagged, used, _⟩ => ?_
    rw [tagged] at skipped
    simp [used] at skipped
  · rw [fails_mapM_iff]
    simp only [field, List.mem_filter]
    cases tagged : ruleTag? m.tag with
    | none =>
      refine iff_of_false (fun ⟨_, _, failed⟩ => ?_) fun ⟨_, _, found, _⟩ => ?_
      · exact not_fails_ok [] failed
      · rw [tagged] at found
        cases found
    | some tag =>
      rename_i read
      rw [tagged] at read
      have used : tag ≠ "-" := by
        rintro rfl
        exact read rfl
      constructor
      · rintro ⟨name, ⟨member, exported⟩, failed⟩
        exact ⟨⟨name, member, exported⟩, tag, tagged, used, failed⟩
      · rintro ⟨⟨name, member, exported⟩, _, found, _, failed⟩
        rw [Option.some.inj (tagged.symm.trans found)]
        exact ⟨name, ⟨member, exported⟩, failed⟩

theorem fails_ofDecl?_iff {ix : Index} {f : SourceFile} {d : TypeDecl} :
    Fails (ofDecl? ix f d) ↔ d.isAlias = false ∧ ∃ members source,
      d.type = .struct members source ∧ ∃ m ∈ members, IsBad m := by
  unfold ofDecl?
  split
  · rename_i members source struct
    split
    · rename_i other
      refine iff_of_false (not_fails_ok _) ?_
      rintro ⟨own, _, _, struct', m, member, _, tag, tagged, _⟩
      rw [struct] at struct'
      obtain ⟨rfl, _⟩ := TypeExpr.struct.inj struct'
      have marked : members.any (fun m => (ruleTag? m.tag).isSome) = true :=
        List.any_eq_true.mpr ⟨m, member, by rw [tagged]; rfl⟩
      rw [own, marked] at other
      simp at other
    · rename_i record
      have own : d.isAlias = false := by
        by_contra aliased
        simp [aliased] at record
      rw [fails_bind_iff, fails_mapM_iff]
      simp only [fails_mapError_iff, fails_fieldsOf_iff, List.mem_filter]
      constructor
      · rintro (⟨m, ⟨member, _⟩, bad⟩ | ⟨_, _, failed⟩)
        · exact ⟨own, members, source, struct, m, member, bad⟩
        · exact (not_fails_ok _ failed).elim
      · rintro ⟨_, members', _, struct', m, member, bad⟩
        rw [struct] at struct'
        obtain ⟨rfl, _⟩ := TypeExpr.struct.inj struct'
        obtain ⟨name, named, _⟩ := bad.1
        refine .inl ⟨m, ⟨member, ?_⟩, bad⟩
        rw [Member.isEmbedded, Bool.not_eq_true', List.isEmpty_eq_false_iff]
        exact List.ne_nil_of_mem named
  · rename_i other
    refine iff_of_false (not_fails_ok _) ?_
    rintro ⟨_, members, source, struct, _⟩
    exact other members source struct

theorem fails_ofFile_iff {ix : Index} {f : SourceFile} : Fails (ofFile ix f) ↔ HasBadField f := by
  rw [ofFile, fails_bind_iff, fails_mapM_iff]
  simp only [fails_ofDecl?_iff]
  exact or_iff_left fun ⟨_, _, failed⟩ => not_fails_ok _ failed

end Record

/-! ### Emission -/

namespace Emit

theorem fails_recordText_iff {s : Settings} {r : Record} :
    Fails (recordText s r) ↔ ∃ f ∈ r.fields, Fails (fieldText s r f) := by
  rw [recordText, fails_bind_iff, recordEntries, fails_mapM_iff]
  refine (or_iff_left fun ⟨_, _, failed⟩ => not_fails_ok _ failed).trans
    (exists_congr fun f => and_congr_right fun _ => ?_)
  cases fieldText s r f with
  | ok text => exact iff_of_false (not_fails_ok _) (not_fails_ok _)
  | error e => exact iff_of_true ⟨_, rfl⟩ ⟨e, rfl⟩

theorem fails_file_iff {s : Settings} {rs : List Record} :
    Fails (file s rs) ↔ ∃ r ∈ rs, ∃ f ∈ r.fields, Fails (fieldText s r f) := by
  rw [file, fails_bind_iff, fails_mapM_iff]
  simp only [fails_recordText_iff]
  exact or_iff_left fun ⟨_, _, failed⟩ => not_fails_ok _ failed

end Emit

/-! ### Packages -/

namespace Generate

open TagSchema.Emit (Settings)

variable {t : FileTree} {s : Settings} {p : String}

theorem fails_readMember_iff {path : String} : Fails (readMember t path) ↔
    t.readText? path = none ∨ ∃ text, t.readText? path = some text ∧
      isGenerated text = false ∧ Go.Reader.file? path text = none := by
  rw [readMember]
  cases t.readText? path with
  | none => exact iff_of_true ⟨_, rfl⟩ (.inl rfl)
  | some text =>
    dsimp only
    rw [or_iff_right (Option.some_ne_none text)]
    cases generated : isGenerated text with
    | true =>
      refine iff_of_false (not_fails_ok _) fun ⟨_, same, written, _⟩ => ?_
      rw [← Option.some.inj same, generated] at written
      cases written
    | false =>
      rw [if_neg Bool.false_ne_true, fails_map_iff, readSource]
      cases source : Go.Reader.file? path text with
      | none => exact iff_of_true ⟨_, rfl⟩ ⟨text, rfl, generated, source⟩
      | some f =>
        refine iff_of_false (not_fails_ok _) fun ⟨_, same, _, nameless⟩ => ?_
        rw [← Option.some.inj same, source] at nameless
        cases nameless

/-- What can be wrong with a package: its directory or a source cannot be read, a source names no
package, a field of a record has a tag that does not parse or rules that do not fit. -/
inductive Faulty (t : FileTree) (s : Settings) (p : String) : Prop where
  | directory (unreadable : Fails (t.fileNames p))
  | source {names : List String} {n : String} (listed : t.fileNames p = .ok names)
      (member : n ∈ names) (candidate : mayBeSource s n = true)
      (unreadable : t.readText? (Path.join p n) = none)
  | nameless {names : List String} {n text : String} (listed : t.fileNames p = .ok names)
      (member : n ∈ names) (candidate : mayBeSource s n = true)
      (read : t.readText? (Path.join p n) = some text) (written : isGenerated text = false)
      (none : Go.Reader.file? (Path.join p n) text = none)
  | tag {files : List SourceFile} {f : SourceFile} (read : sourcesIn t s p = .ok files)
      (member : f ∈ files) (bad : Record.HasBadField f)
  | emission {rss : List (String × List Record)} {a : String × List Record} {r : Record} {f : Field}
      (read : recordsInPackage t s p = .ok rss) (file : a ∈ rss) (record : r ∈ a.2)
      (field : f ∈ r.fields) (unfit : Fails (Emit.fieldText s r f))

theorem fails_sourcesIn_iff : Fails (sourcesIn t s p) ↔ Fails (t.fileNames p) ∨
    ∃ names, t.fileNames p = .ok names ∧ ∃ n ∈ names, mayBeSource s n = true ∧
      Fails (readMember t (Path.join p n)) := by
  rw [sourcesIn]
  cases t.fileNames p with
  | error e => exact iff_of_true ⟨_, rfl⟩ (.inl ⟨e, rfl⟩)
  | ok names =>
    dsimp only
    rw [or_iff_right (not_fails_ok names), fails_bind_iff, fails_mapM_iff]
    refine (or_iff_left fun ⟨_, _, failed⟩ => not_fails_ok _ failed).trans ⟨?_, ?_⟩
    · rintro ⟨_, listed, failed⟩
      obtain ⟨n, kept, rfl⟩ := List.mem_map.mp listed
      have ⟨member, source⟩ := List.mem_filter.mp kept
      exact ⟨names, rfl, n, member, source, failed⟩
    · rintro ⟨_, same, n, member, source, failed⟩
      rw [← Except.ok.inj same] at member
      exact ⟨_, List.mem_map_of_mem (List.mem_filter.mpr ⟨member, source⟩), failed⟩

theorem fails_recordsOf_iff {files : List SourceFile} :
    Fails (recordsOf files) ↔ ∃ f ∈ files, Record.HasBadField f := by
  rw [recordsOf, fails_bind_iff, fails_mapM_iff]
  refine (or_iff_left fun ⟨_, _, failed⟩ => not_fails_ok _ failed).trans
    (exists_congr fun f => and_congr_right fun _ => ?_)
  rw [fails_bind_iff, fails_mapError_iff, Record.fails_ofFile_iff]
  exact or_iff_left fun ⟨_, _, failed⟩ => not_fails_ok _ failed

theorem fails_emit_iff {source : String} {rs : List Record} :
    Fails (emit s source rs) ↔ ∃ r ∈ rs, ∃ f ∈ r.fields, Fails (Emit.fieldText s r f) := by
  rw [emit, fails_bind_iff, fails_mapError_iff, Emit.fails_file_iff]
  exact or_iff_left fun ⟨_, _, failed⟩ => not_fails_ok _ failed

/-- A package fails to generate exactly if something is wrong with it. -/
theorem fails_ofPackage_iff : Fails (ofPackage t s p) ↔ Faulty t s p := by
  rw [ofPackage, fails_bind_iff]
  constructor
  · rintro (failed | ⟨files, read, failed⟩)
    · rcases fails_sourcesIn_iff.mp failed with
        unreadable | ⟨names, listed, n, member, source, failed⟩
      · exact .directory unreadable
      · rcases fails_readMember_iff.mp failed with unreadable | ⟨text, read, written, none⟩
        · exact .source listed member source unreadable
        · exact .nameless listed member source read written none
    · rcases fails_bind_iff.mp failed with failed | ⟨rss, found, failed⟩
      · obtain ⟨f, member, bad⟩ := fails_recordsOf_iff.mp failed
        exact .tag read member bad
      · obtain ⟨a, file, failed⟩ := fails_mapM_iff.mp failed
        obtain ⟨r, record, f, field, unfit⟩ := fails_emit_iff.mp failed
        exact .emission ((bind_of_ok read).trans found) file record field unfit
  · intro faulty
    cases faulty with
    | directory unreadable => exact .inl (fails_sourcesIn_iff.mpr (.inl unreadable))
    | source listed member source unreadable =>
      exact .inl (fails_sourcesIn_iff.mpr (.inr ⟨_, listed, _, member, source,
        fails_readMember_iff.mpr (.inl unreadable)⟩))
    | nameless listed member source read written none =>
      exact .inl (fails_sourcesIn_iff.mpr (.inr ⟨_, listed, _, member, source,
        fails_readMember_iff.mpr (.inr ⟨_, read, written, none⟩)⟩))
    | tag read member bad =>
      refine .inr ⟨_, read, fails_bind_iff.mpr (.inl ?_)⟩
      exact fails_recordsOf_iff.mpr ⟨_, member, bad⟩
    | emission read file record field unfit =>
      obtain ⟨files, found, rest⟩ := bind_ok read
      refine .inr ⟨files, found, fails_bind_iff.mpr (.inr ⟨_, rest, ?_⟩)⟩
      exact fails_mapM_iff.mpr ⟨_, file, fails_emit_iff.mpr ⟨_, record, _, field, unfit⟩⟩

end Generate

end TagSchema
