import TagSchema.Proofs.Emit.SelfReference

/-!
# Instantiations

For which types the schemas in a base are made. A reference to the enclosing record is known by its
name and stands for the record at its own parameters, so other arguments get lost:
`spellings_ofField_iff` says for which fields none do.
-/

namespace TagSchema.Emit.Base

open TagSchema.Go (SourceFile TypeDecl TypeExpr isSimpleIdentifier)

variable {r : Record} {field : Field}

/-- The types that the schemas of structs in a base are made for, in order. -/
def spellings : Base → List String
  | slice element => element.spellings
  | map key value => key.spellings ++ value.spellings
  | struct name => [name]
  | lazy typeName => [typeName]
  | _ => []

/-- Every reference to a struct of the record's name is to the record at its own parameters. -/
def OwnFit (r : Record) (field : Field) : Prop :=
  ∀ name ∈ field.shape.structs, Go.baseName name = r.name → name = r.typeName

theorem spellings_slices (n : Nat) (b : Base) : (slices n b).spellings = b.spellings := by
  induction n with
  | zero => rfl
  | succ n ih => exact ih

theorem spellings_ofShape (r : Record) (shape : Shape) : (ofShape r shape).spellings =
    shape.structs.map fun name => if Go.baseName name = r.name then r.typeName else name := by
  induction shape with
  | primitive | time | any => rfl
  | pointer shape ih => exact ih
  | slice shape ih => exact ih
  | map k v first second => rw [ofShape, spellings, first, second, Shape.structs, List.map_append]
  | struct name =>
    rw [ofShape, ofStruct, Shape.structs, List.map_singleton]
    split <;> rfl

theorem spellings_ofShape_iff :
    (ofShape r field.shape).spellings = field.shape.structs ↔ OwnFit r field := by
  rw [spellings_ofShape]
  constructor
  · intro same name member own
    have kept := List.map_inj_left.mp (same.trans (List.map_id _).symm) name member
    rw [if_pos own] at kept
    exact kept.symm
  · intro fit
    refine (List.map_congr_left fun name member => ?_).trans (List.map_id _)
    by_cases own : Go.baseName name = r.name
    · rw [if_pos own, fit name member own, id]
    · rw [if_neg own, id]

/-- A field as it is read from a package whose types are declared once, from a type that is well
spelled. -/
structure IsRead (files : List SourceFile) (f : SourceFile) (d : TypeDecl) (t : TypeExpr)
    (r : Record) (field : Field) : Prop where
  once : (files.flatMap fun f => f.decls.map (·.name)).Nodup
  file : f ∈ files
  decl : d ∈ f.decls
  made : Record.ofDecl? (Index.ofFiles files) f d = .ok (some r)
  simple : isSimpleIdentifier r.name.toList = true
  free : r.name ∉ r.typeParams
  spelled : t.IsWellSpelled r.name
  typeText : field.typeText = t.text
  shape : field.shape = (Index.ofFiles files).resolve (Scope.of f.imports d.typeParams) t

/-- A type that is spelled like a way to the record resolves to a single reference. -/
theorem IsRead.spellings_own {files : List SourceFile} {f : SourceFile} {d : TypeDecl}
    {t : TypeExpr} (read : IsRead files f d t r field)
    (own : (selfDepth r field.typeText).isSome = true) :
    (ofShape r field.shape).spellings = [r.typeName] := by
  obtain ⟨declared, name, params⟩ := Record.ofDecl?_ok read.made
  have found := Index.find?_declared read.once read.file read.decl
  rw [← name] at found
  rw [read.typeText, selfDepth_text read.simple read.spelled] at own
  obtain ⟨n, leads⟩ := Option.isSome_iff_exists.mp own
  rw [read.shape, ofShape_resolve read.simple found declared (params ▸ read.free) leads,
    spellings_slices]
  rfl

/-- The base of a field names the types that the field does exactly if these are, where they have
the record's name, the record at its own parameters, and if a type that is spelled like a way to the
record is one. The second goes without saying for a field as it is read. -/
theorem spellings_ofField_iff (r : Record) (field : Field) :
    ((ofField r field none).spellings = field.shape.structs ↔ OwnFit r field ∧
      ((selfDepth r field.typeText).isSome = true → field.shape.structs = [r.typeName])) ∧
    ∀ files f d t, IsRead files f d t r field →
      ((ofField r field none).spellings = field.shape.structs ↔ OwnFit r field) := by
  have general : (ofField r field none).spellings = field.shape.structs ↔ OwnFit r field ∧
      ((selfDepth r field.typeText).isSome = true → field.shape.structs = [r.typeName]) := by
    rw [ofField]
    cases selfDepth r field.typeText with
    | none => simp [spellings_ofShape_iff]
    | some n =>
      dsimp only
      rw [spellings_slices, spellings, eq_comm]
      refine ⟨fun same => ⟨fun name member _ => ?_, fun _ => same⟩, fun h => h.2 rfl⟩
      rw [same] at member
      exact List.mem_singleton.mp member
  refine ⟨general, fun files f d t read => general.trans (and_iff_left_of_imp fun fit own => ?_)⟩
  exact (spellings_ofShape_iff.mpr fit).symm.trans (read.spellings_own own)

/-- A type that leads to a record at an argument. -/
def next (arg : String) : TypeExpr := .pointer (.named none "Node" [.named none arg []])

def chain (arg : String) : TypeDecl where
  name := "Node"
  typeParams := ["T"]
  type := .struct [⟨["Next"], next arg, none⟩] ""
  isAlias := false
  optedIn := true

def chainFile (arg : String) : SourceFile := ⟨"node.go", "tree", [], [chain arg], false⟩

def nextField (arg : String) : Field :=
  Field.ofRules "Next" "next" (next arg).text
    ((Index.ofFiles [chainFile arg]).resolve (Scope.of [] ["T"]) (next arg)) "" []

def chainRecord (arg : String) : Record where
  name := "Node"
  typeParams := ["T"]
  package := "tree"
  file := "node.go"
  optedIn := true
  imports := []
  fields := [nextField arg]

theorem isRead_next (arg : String) :
    IsRead [chainFile arg] (chainFile arg) (chain arg) (next arg) (chainRecord arg)
      (nextField arg) where
  once := (by decide : ["Node"].Nodup)
  file := .head _
  decl := .head _
  made := rfl
  simple := (by decide : isSimpleIdentifier "Node".toList = true)
  free := (by decide : "Node" ∉ ["T"])
  spelled := ⟨nofun, by decide⟩
  typeText := rfl
  shape := rfl

theorem shape_next (arg : String) : (nextField arg).shape =
    .pointer (.struct (TypeExpr.named none "Node" [.named none arg []]).text) := by
  have found := Index.find?_declared (isRead_next arg).once (isRead_next arg).file
    (isRead_next arg).decl
  show (Index.ofFiles [chainFile arg]).resolve _ (next arg) = _
  rw [next, Index.resolve_pointer]
  exact congrArg Shape.pointer (Index.resolve_struct found rfl (isRead_next arg).free _)

theorem spellings_own_next : IsRead [chainFile "T"] (chainFile "T") (chain "T") (next "T")
    (chainRecord "T") (nextField "T") ∧
    (ofField (chainRecord "T") (nextField "T") none).spellings = ["Node[T]"] := by
  have text : (TypeExpr.named none "Node" [.named none "T" []]).text = "Node[T]" := by decide
  have structs : (nextField "T").shape.structs = ["Node[T]"] := by
    rw [shape_next, text]
    rfl
  have ⟨_, read⟩ := spellings_ofField_iff (chainRecord "T") (nextField "T")
  refine ⟨isRead_next "T", ((read _ _ _ _ (isRead_next "T")).mpr ?_).trans structs⟩
  intro name member _
  rw [structs] at member
  rw [List.mem_singleton.mp member]
  decide

/-- A record at another argument is taken for the record itself. -/
theorem spellings_other_next : IsRead [chainFile "int"] (chainFile "int") (chain "int") (next "int")
    (chainRecord "int") (nextField "int") ∧
    (nextField "int").shape.structs = ["Node[int]"] ∧
    (ofField (chainRecord "int") (nextField "int") none).spellings = ["Node[T]"] := by
  have text : (TypeExpr.named none "Node" [.named none "int" []]).text = "Node[int]" := by decide
  have depth : selfDepth (chainRecord "int") (nextField "int").typeText = some 0 :=
    selfDepth_text (isRead_next "int").simple (isRead_next "int").spelled
  refine ⟨isRead_next "int", by rw [shape_next, text]; rfl, ?_⟩
  rw [ofField, depth]
  decide

end TagSchema.Emit.Base
