import TagSchema.Proofs.Emit.Code
import TagSchema.Proofs.Except
import TagSchema.Proofs.Go.TypeExpr
import TagSchema.Record.OfSource

/-!
# References of a record to itself

Whether a field leads to its own record is read off the spelling of its type, without resolving it.
`ofField_resolved` says that this comes to the same as resolving the type, so that the schema of a
record is never built within itself at once.
-/

namespace TagSchema

open TagSchema.Go (TypeExpr SourceFile TypeDecl baseChars isSimpleIdentifier)
open TagSchema.Text (isBlank trimStart trimEnd trimChars)

variable {own : String} {cs ds : List Char}

namespace Emit.Base

/-! ### Spellings -/

theorem depth?_star : depth? own ('*' :: cs) = depth? own cs := by
  rw [depth?]

theorem depth?_bracket (noClose : ']' ∉ ds) :
    depth? own ('[' :: (ds ++ ']' :: cs)) = (depth? own cs).map (· + 1) := by
  have rest : afterBracket (ds ++ ']' :: cs) = some cs := by
    rw [afterBracket, List.dropWhile_append_of_pos]
    · rfl
    · intro c member
      rw [bne_iff_ne]
      rintro rfl
      exact noClose member
  rw [depth?]
  split
  · rename_i none
    rw [rest] at none
    cases none
  · rename_i found
    obtain rfl := Option.some.inj (rest.symm.trans found)
    rfl

theorem depth?_other (star : cs.head? ≠ some '*') (bracket : cs.head? ≠ some '[') :
    depth? own cs = if baseChars cs = own.toList then some 0 else none := by
  rw [depth?.eq_def]
  split
  · exact (star rfl).elim
  · exact (bracket rfl).elim
  · rfl

theorem depth?_path (path : ∀ c ∈ cs, Go.isPathChar c = true) (filled : cs ≠ [])
    (args : ds = [] ∨ ∃ rest, ds = '[' :: rest) :
    depth? own (cs ++ ds) = if cs = own.toList then some 0 else none := by
  obtain ⟨c, rest, rfl⟩ := List.exists_cons_of_ne_nil filled
  have other : c ≠ '*' ∧ c ≠ '[' := by
    constructor <;>
    · rintro rfl
      exact absurd (path _ List.mem_cons_self) (by decide)
  rw [depth?_other (by simpa using other.1) (by simpa using other.2), Go.baseChars_append path args]

theorem depth?_foreign (foreign : TypeExpr.IsForeign own cs) : depth? own cs = none := by
  have start (c : Char) (same : cs.head? = some c) (solid : isBlank c = false) :
      [c] <+: trimStart cs := by
    obtain ⟨rest, rfl⟩ := List.head?_eq_some_iff.mp same
    rw [trimStart, List.dropWhile_cons_of_neg (by rw [solid]; decide)]
    exact ⟨rest, rfl⟩
  rw [depth?_other (fun star => foreign "*" (by simp) (start _ star (by decide)))
    (fun bracket => foreign "[" (by simp) (start _ bracket (by decide))), if_neg]
  intro same
  -- What is left without arguments and blanks at both ends is the front of the text behind blanks.
  refine foreign own (by simp) ?_
  rw [← same, baseChars, trimChars]
  exact (Text.trimEnd_prefix _).trans (Text.trimStart_prefix (List.takeWhile_prefix _))

theorem depth?_named {package : Option String} {name : String} (args : List TypeExpr)
    (simple : isSimpleIdentifier own.toList = true)
    (spelled : (TypeExpr.named package name args).IsWellSpelled own) :
    depth? own (trimEnd (TypeExpr.named package name args).text.toList) =
      (TypeExpr.named package name args).layers? own := by
  obtain ⟨ds, whole, behind⟩ := TypeExpr.text_named package name args
  have path := TypeExpr.isPathChar_path spelled.1 spelled.2
  have bare := TypeExpr.bare_named spelled.1 spelled.2 args
  have layers : (TypeExpr.named package name args).layers? own =
      if package = none ∧ name = own then some 0 else none := by
    cases package <;> simp [TypeExpr.layers?]
  rw [Text.trimEnd_of_last bare.2, whole, depth?_path path (TypeExpr.path_ne_nil spelled.2)
    (behind.imp_right fun ⟨inner, same⟩ => ⟨_, same⟩), layers]
  simp only [String.toList_inj, TypeExpr.path_eq_iff simple]

theorem depth?_map (simple : isSimpleIdentifier own.toList = true) (key value : TypeExpr) :
    depth? own (trimEnd (TypeExpr.map key value).text.toList) = none := by
  rw [TypeExpr.toList_map, Text.trimEnd_append_cons (by decide),
    depth?_path (List.all_eq_true.mp (by decide)) (by decide) (.inr ⟨_, rfl⟩), if_neg]
  intro same
  rw [← same] at simple
  exact absurd simple (by decide)

/-- The spelling of a type leads to a name exactly if the type does. -/
theorem depth?_text (simple : isSimpleIdentifier own.toList = true) {t : TypeExpr}
    (spelled : t.IsWellSpelled own) : depth? own (trimEnd t.text.toList) = t.layers? own := by
  have foreign {source : String} (h : TypeExpr.IsForeign own source.toList) :
      depth? own (trimEnd source.toList) = none :=
    depth?_foreign (h.of_prefix (Text.trimStart_prefix (Text.trimEnd_prefix _)))
  match t with
  | .named package name args => exact depth?_named args simple spelled
  | .pointer t =>
    have trimmed := Text.trimEnd_append_cons (c := '*') (by decide) [] t.text.toList
    rw [TypeExpr.toList_pointer, ← List.nil_append ('*' :: _), trimmed, List.nil_append,
      depth?_star]
    exact depth?_text simple spelled
  | .slice t =>
    have trimmed := Text.trimEnd_append_cons (c := ']') (by decide) ['['] t.text.toList
    rw [TypeExpr.toList_slice, ← List.singleton_append, trimmed]
    exact (depth?_bracket List.not_mem_nil).trans (congrArg _ (depth?_text simple spelled))
  | .array length t =>
    rw [TypeExpr.toList_array, ← List.cons_append, Text.trimEnd_append_cons (by decide)]
    exact (depth?_bracket spelled.1).trans (congrArg _ (depth?_text simple spelled.2))
  | .map key value => exact depth?_map simple key value
  | .struct _ source => exact foreign spelled
  | .interface source => exact foreign spelled
  | .verbatim source => exact foreign spelled

/-- A type is foreign and leads nowhere, or its text begins with a character that is no blank. -/
theorem foreign_or_solid {t : TypeExpr} (spelled : t.IsWellSpelled own) :
    TypeExpr.IsForeign own t.text.toList ∧ t.layers? own = none ∨
      ∀ c ∈ t.text.toList.head?, isBlank c = false := by
  have solid {c : Char} {rest : List Char} (h : isBlank c = false) :
      ∀ d ∈ (c :: rest).head?, isBlank d = false := fun d same => Option.some.inj same ▸ h
  match t with
  | .named package name args => exact .inr (TypeExpr.bare_named spelled.1 spelled.2 args).1
  | .pointer t => exact .inr (TypeExpr.toList_pointer t ▸ solid (by decide))
  | .slice t => exact .inr (TypeExpr.toList_slice t ▸ solid (by decide))
  | .array length t => exact .inr (TypeExpr.toList_array length t ▸ solid (by decide))
  | .map key value => exact .inr (TypeExpr.toList_map key value ▸ solid (by decide))
  | .struct _ source => exact .inl ⟨spelled, rfl⟩
  | .interface source => exact .inl ⟨spelled, rfl⟩
  | .verbatim source => exact .inl ⟨spelled, rfl⟩

theorem selfDepth_text {r : Record} {t : TypeExpr}
    (simple : isSimpleIdentifier r.name.toList = true) (spelled : t.IsWellSpelled r.name) :
    selfDepth r t.text = t.layers? r.name := by
  rw [selfDepth]
  rcases foreign_or_solid spelled with ⟨foreign, none⟩ | solid
  · rw [none]
    refine depth?_foreign (foreign.of_prefix ?_)
    rw [Text.trimStart_of_head (Text.head_trimChars _)]
    exact Text.trimEnd_prefix _
  · rw [trimChars, Text.trimStart_of_head solid]
    exact depth?_text simple spelled

end Emit.Base

/-! ### Resolution -/

namespace Index

variable {ix : Index} {scope : Scope} {e : Entry} {name : String}

/-- Where names are declared once, each is found as it is declared. -/
theorem find?_declared {files : List SourceFile} {f : SourceFile} {d : TypeDecl}
    (once : (files.flatMap fun f => f.decls.map (·.name)).Nodup) (file : f ∈ files)
    (decl : d ∈ f.decls) :
    (ofFiles files).find? d.name = some ⟨d.type, Scope.of f.imports d.typeParams⟩ := by
  refine Keyed.lookup_ofList ?_ (List.mem_flatMap.mpr ⟨f, file, List.mem_map_of_mem decl⟩)
  rw [List.map_flatMap]
  simp only [List.map_map]
  exact once

theorem resolve_struct (found : ix.find? name = some e) (struct : e.type.isStruct = true)
    (free : name ∉ scope.typeParams) (args : List TypeExpr) :
    ix.resolve scope (.named none name args) = .struct (TypeExpr.named none name args).text := by
  rw [resolve, resolveFrom, if_neg (by simpa using free)]
  split
  · rename_i found'
    obtain rfl := Option.some.inj (found.symm.trans found')
    rw [if_pos struct]
  · rename_i none
    rw [found] at none
    cases none

theorem resolve_pointer (t : TypeExpr) :
    ix.resolve scope (.pointer t) = .pointer (ix.resolve scope t) := by
  rw [resolve, resolveFrom, resolve]

theorem resolve_slice (t : TypeExpr) :
    ix.resolve scope (.slice t) = .slice (ix.resolve scope t) := by
  rw [resolve, resolveFrom, resolve]

theorem resolve_array (length : String) (t : TypeExpr) :
    ix.resolve scope (.array length t) = .slice (ix.resolve scope t) := by
  rw [resolve, resolveFrom, resolve]

end Index

theorem Record.ofDecl?_ok {ix : Index} {f : SourceFile} {d : TypeDecl} {r : Record}
    (h : Record.ofDecl? ix f d = .ok (some r)) :
    d.type.isStruct = true ∧ r.name = d.name ∧ r.typeParams = d.typeParams := by
  unfold Record.ofDecl? at h
  split at h
  · rename_i struct
    split at h
    · cases h
    · obtain ⟨fields, _, h⟩ := bind_ok h
      obtain rfl := Option.some.inj (pure_ok h)
      exact ⟨by rw [struct]; rfl, rfl, rfl⟩
  · cases h

namespace Emit.Base

variable {ix : Index} {scope : Scope} {e : Index.Entry} {r : Record}

/-- A type that leads to the record resolves to it. -/
theorem ofShape_resolve (simple : isSimpleIdentifier r.name.toList = true)
    (found : ix.find? r.name = some e) (struct : e.type.isStruct = true)
    (free : r.name ∉ scope.typeParams) {t : TypeExpr} {n : Nat}
    (leads : t.layers? r.name = some n) :
    ofShape r (ix.resolve scope t) = slices n (lazy r.typeName) := by
  match t with
  | .named none name args =>
    rw [TypeExpr.layers?] at leads
    split at leads
    · rename_i own
      subst own
      obtain rfl := Option.some.inj leads
      have base := TypeExpr.baseName_named simple args
      rw [Index.resolve_struct found struct free, ofShape, ofStruct, if_pos base]
      rfl
    · cases leads
  | .pointer t =>
    rw [TypeExpr.layers?] at leads
    rw [Index.resolve_pointer]
    exact ofShape_resolve simple found struct free leads
  | .slice t =>
    rw [TypeExpr.layers?] at leads
    obtain ⟨m, inner, rfl⟩ := Option.map_eq_some_iff.mp leads
    rw [Index.resolve_slice]
    exact congrArg slice (ofShape_resolve simple found struct free inner)
  | .array length t =>
    rw [TypeExpr.layers?] at leads
    obtain ⟨m, inner, rfl⟩ := Option.map_eq_some_iff.mp leads
    rw [Index.resolve_array]
    exact congrArg slice (ofShape_resolve simple found struct free inner)

/-- The schemas of structs in a base, in order, each built at once or on demand. -/
def references : Base → List Base
  | slice element => element.references
  | map key value => key.references ++ value.references
  | struct name => [struct name]
  | lazy typeName => [lazy typeName]
  | _ => []

theorem references_ofShape (r : Record) (shape : Shape) :
    (ofShape r shape).references = shape.structs.map (ofStruct r) := by
  induction shape with
  | primitive | time | any => rfl
  | pointer shape ih => exact ih
  | slice shape ih => exact ih
  | map k v first second =>
    rw [ofShape, references, first, second, Shape.structs, List.map_append]
  | struct name =>
    rw [ofShape, ofStruct, Shape.structs, List.map_singleton, ofStruct]
    split <;> rfl

/-- Read off its spelling, the base of a field is that of the type it resolves to. In it, each
reference to the record itself is on demand, and no other is. -/
theorem ofField_resolved {files : List SourceFile} {f : SourceFile} {d : TypeDecl} {field : Field}
    {t : TypeExpr} (once : (files.flatMap fun f => f.decls.map (·.name)).Nodup) (file : f ∈ files)
    (decl : d ∈ f.decls) (made : Record.ofDecl? (Index.ofFiles files) f d = .ok (some r))
    (simple : isSimpleIdentifier r.name.toList = true) (free : r.name ∉ r.typeParams)
    (spelled : t.IsWellSpelled r.name) (typeText : field.typeText = t.text)
    (shape : field.shape =
      (Index.ofFiles files).resolve (Scope.of f.imports d.typeParams) t) :
    ofField r field none = ofShape r field.shape ∧
      (ofField r field none).references = field.shape.structs.map fun name =>
        if Go.baseName name = r.name then lazy r.typeName else struct name := by
  obtain ⟨declared, name, params⟩ := Record.ofDecl?_ok made
  have found := Index.find?_declared once file decl
  rw [← name] at found
  have same : ofField r field none = ofShape r field.shape := by
    rw [ofField, typeText, selfDepth_text simple spelled]
    cases leads : t.layers? r.name with
    | none => rfl
    | some n =>
      rw [shape]
      exact (ofShape_resolve simple found declared (params ▸ free) leads).symm
  exact ⟨same, same ▸ references_ofShape r field.shape⟩

/-- A type that leads to a record of one parameter. -/
def kids : TypeExpr :=
  .array "2" (.slice (.pointer (.named none "Node" [.named none "T" []])))

def node : TypeDecl where
  name := "Node"
  typeParams := ["T"]
  type := .struct [⟨["Kids"], kids, none⟩] ""
  isAlias := false
  optedIn := true

def nodeFile : SourceFile := ⟨"node.go", "tree", [], [node], false⟩

def kidsField : Field :=
  Field.ofRules "Kids" "kids" kids.text
    ((Index.ofFiles [nodeFile]).resolve (Scope.of [] node.typeParams) kids) "" []

def nodeRecord : Record where
  name := "Node"
  typeParams := ["T"]
  package := "tree"
  file := "node.go"
  optedIn := true
  imports := []
  fields := [kidsField]

theorem shape_kids :
    kidsField.shape = .slice (.slice (.pointer (.struct "Node[T]"))) := by
  have found : (Index.ofFiles [nodeFile]).find? "Node" = some ⟨node.type, Scope.of [] ["T"]⟩ := rfl
  have text : (TypeExpr.named none "Node" [.named none "T" []]).text = "Node[T]" := by decide
  show (Index.ofFiles [nodeFile]).resolve _ kids = _
  rw [kids, Index.resolve_array, Index.resolve_slice, Index.resolve_pointer,
    Index.resolve_struct found rfl (by decide), text]

theorem ofField_kids :
    Record.ofDecl? (Index.ofFiles [nodeFile]) nodeFile node = .ok (some nodeRecord) ∧
      nodeRecord.name ∉ nodeRecord.typeParams ∧ kids.IsWellSpelled nodeRecord.name ∧
      ofField nodeRecord kidsField none = ofShape nodeRecord kidsField.shape ∧
      (ofField nodeRecord kidsField none).references = [lazy "Node[T]"] := by
  have made : Record.ofDecl? (Index.ofFiles [nodeFile]) nodeFile node = .ok (some nodeRecord) := rfl
  have free : nodeRecord.name ∉ nodeRecord.typeParams := by decide
  have spelled : kids.IsWellSpelled nodeRecord.name := ⟨by decide, nofun, by decide⟩
  have once : ([nodeFile].flatMap fun f => f.decls.map (·.name)).Nodup := by decide
  have typeText : kidsField.typeText = kids.text := rfl
  have ⟨same, references⟩ := ofField_resolved once List.mem_cons_self
    (show node ∈ nodeFile.decls from List.mem_cons_self) made (by decide) free spelled typeText rfl
  refine ⟨made, free, spelled, same, ?_⟩
  rw [references, shape_kids]
  rfl

end Emit.Base

end TagSchema
