import TagSchema.Proofs.Emit.SelfReference
import TagSchema.Proofs.Shape.Dependency

/-!
# Where references come from

A struct in a resolved type is spelled as in the declaration that refers to it, while the arguments
of that declaration are dropped. `references_closed_iff` says when such a spelling mentions type
parameters of a declaration that resolution was led to.
-/

namespace TagSchema

open Relation (ReflTransGen)
open TagSchema.Go (SourceFile TypeDecl TypeExpr)

namespace Go.TypeExpr

variable (reads : String → List String)

mutual

/-- The unqualified names in a type, arguments included; `reads` gives those in a part that is kept
as written. -/
def mentions : TypeExpr → List String
  | .named none name args => name :: listMentions args
  | .named (some _) _ args => listMentions args
  | .pointer t | .slice t | .array _ t => mentions t
  | .map k v => mentions k ++ mentions v
  | .struct _ source | .interface source | .verbatim source => reads source

def listMentions : List TypeExpr → List String
  | [] => []
  | t :: ts => mentions t ++ listMentions ts

end

end Go.TypeExpr

/-- A reference to a struct in a resolved type. -/
structure Reference where
  /-- The declaration that spells it, unless it stands in the type itself. -/
  origin : Option String
  /-- The type parameters where it is spelled. -/
  params : List String
  name : String
  args : List TypeExpr

namespace Reference

def text (r : Reference) : String := (TypeExpr.named none r.name r.args).text

/-- A type parameter of the declaration that spells the reference is among its arguments, and this
is not the type itself. -/
def Leaks (reads : String → List String) (r : Reference) (param : String) : Prop :=
  r.origin.isSome = true ∧ param ∈ r.params ∧ param ∈ TypeExpr.listMentions reads r.args

end Reference

namespace Index

variable {ix : Index} {scope : Scope} {e : Entry} {visiting : List String} {t : TypeExpr}
  {s : Shape} {name : String} {origin : Option String} {r : Reference} {n : Nat}

/-- The references that a type spells itself. -/
def spelled (ix : Index) (origin : Option String) (scope : Scope) (t : TypeExpr) :
    List Reference :=
  (t.heads.filter fun (name, _) => !scope.typeParams.contains name && ix.declaresStruct name).map
    fun (name, args) => ⟨origin, scope.typeParams, name, args⟩

/-- The references that resolution comes to, in order. -/
def referencesFrom (ix : Index) (visiting : List String) (origin : Option String) (scope : Scope)
    (t : TypeExpr) : List Reference :=
  match t with
  | .named (some _) _ _ => []
  | .named none name args =>
    if scope.typeParams.contains name then []
    else
      match h : ix.find? name with
      | some e =>
        if e.type.isStruct then [⟨origin, scope.typeParams, name, args⟩]
        else if hv : visiting.contains name then []
        else
          have := free_cons_lt h (Bool.eq_false_iff.2 hv)
          referencesFrom ix (name :: visiting) (some name) e.scope e.type
      | none => []
  | .pointer t | .slice t | .array _ t => referencesFrom ix visiting origin scope t
  | .map k v =>
    referencesFrom ix visiting origin scope k ++ referencesFrom ix visiting origin scope v
  | .struct .. | .interface _ | .verbatim _ => []
termination_by (ix.free visiting, sizeOf t)

def references (ix : Index) (scope : Scope) (t : TypeExpr) : List Reference :=
  ix.referencesFrom [] none scope t

theorem mem_spelled_iff : r ∈ ix.spelled origin scope t ↔ ∃ name args, (name, args) ∈ t.heads ∧
    name ∉ scope.typeParams ∧ ix.declaresStruct name = true ∧
      r = ⟨origin, scope.typeParams, name, args⟩ := by
  simp only [spelled, List.mem_map, List.mem_filter, Prod.exists, Bool.and_eq_true,
    Bool.not_eq_true', List.contains_eq_mem, decide_eq_false_iff_not, and_assoc, @eq_comm _ _ r]

theorem spelled_map {k v : TypeExpr} : ix.spelled origin scope (.map k v) =
    ix.spelled origin scope k ++ ix.spelled origin scope v := by
  simp only [spelled, TypeExpr.heads, List.filter_append, List.map_append]

theorem spelled_follows {args : List TypeExpr} (follows : ix.Follows name e) :
    ix.spelled origin scope (.named none name args) = [] := by
  simp [spelled, TypeExpr.heads, declaresStruct, follows.found, follows.other]

theorem referencesFrom_follows {args : List TypeExpr} (free : name ∉ scope.typeParams)
    (follows : ix.Follows name e) :
    ix.referencesFrom visiting origin scope (.named none name args) =
      if name ∈ visiting then []
      else ix.referencesFrom (name :: visiting) (some name) e.scope e.type := by
  rw [referencesFrom, if_neg (by simpa using free)]
  split
  · rename_i found
    obtain rfl := Option.some.inj (follows.found.symm.trans found)
    simp [follows.other]
  · rename_i missing
    rw [follows.found] at missing
    cases missing

/-- Where nothing is followed the references are those that the type spells. -/
theorem Settles.references_eq (h : ix.Settles scope t s) (visiting : List String)
    (origin : Option String) :
    ix.referencesFrom visiting origin scope t = ix.spelled origin scope t ∧
      s.structs = (ix.spelled origin scope t).map Reference.text := by
  cases h with
  | parameter own => simp [referencesFrom, spelled, TypeExpr.heads, own, Shape.structs]
  | struct free found struct =>
    rw [referencesFrom, if_neg (by simpa using free)]
    split
    · simp_all [spelled, TypeExpr.heads, declaresStruct, Shape.structs, Reference.text]
    · simp_all
  | primitive free missing =>
    rw [referencesFrom, if_neg (by simpa using free)]
    split
    · simp_all
    · simp_all [spelled, TypeExpr.heads, declaresStruct, Shape.structs]
  | unknown free missing =>
    rw [referencesFrom, if_neg (by simpa using free)]
    split
    · simp_all
    · simp_all [spelled, TypeExpr.heads, declaresStruct, Shape.structs]
  | _ => simp [referencesFrom, spelled, TypeExpr.heads, Shape.structs]

/-- The structs of a resolved type are spelled as the references that resolution comes to. -/
theorem Resolves.structs_eq (h : ix.Resolves n visiting scope t s) (origin : Option String) :
    s.structs = (ix.referencesFrom visiting origin scope t).map Reference.text := by
  induction h generalizing origin with
  | @settled _ visiting _ _ _ settled =>
    have ⟨direct, spelled⟩ := settled.references_eq visiting origin
    rw [direct, spelled]
  | guarded free follows again =>
    rw [referencesFrom_follows free follows, if_pos again]
    rfl
  | follow free follows new _ ih => rw [referencesFrom_follows free follows, if_neg new, ih]
  | pointer _ ih => rw [referencesFrom, Shape.structs, ih]
  | slice _ ih => rw [referencesFrom, Shape.structs, ih]
  | array _ ih => rw [referencesFrom, Shape.structs, ih]
  | map _ _ key value =>
    rw [referencesFrom, Shape.structs, key origin, value origin, List.map_append]

/-! ### Ways around a name -/

/-- A declaration that is not in `visiting` is followed and uses a name. -/
def DependsOff (ix : Index) (visiting : List String) (name other : String) : Prop :=
  name ∉ visiting ∧ ix.Depends name other

/-- A name that a type leads to by declarations that are not in `visiting`, like itself. -/
def LeadsTo (ix : Index) (visiting : List String) (scope : Scope) (t : TypeExpr) (name : String) :
    Prop :=
  name ∉ visiting ∧ ∃ first, scope.Uses t first ∧ ReflTransGen (ix.DependsOff visiting) first name

variable {first last : String}

/-- A way goes around a name, or it can be cut where it leaves the name for the last time. -/
theorem dependsOff_around (name : String) (way : ReflTransGen (ix.DependsOff visiting) first last) :
    ReflTransGen (ix.DependsOff (name :: visiting)) first last ∨ last = name ∨
      ∃ next, ix.Depends name next ∧ ReflTransGen (ix.DependsOff (name :: visiting)) next last := by
  induction way using ReflTransGen.head_induction_on with
  | refl => exact .inl .refl
  | @head first next step _ ih =>
    rcases ih with ih | ih
    · by_cases here : first = name
      · exact .inr (.inr ⟨next, here ▸ step.2, ih⟩)
      · exact .inl (ih.head ⟨by simp [here, step.1], step.2⟩)
    · exact .inr ih

theorem dependsOff_wider (way : ReflTransGen (ix.DependsOff (name :: visiting)) first last) :
    ReflTransGen (ix.DependsOff visiting) first last :=
  ReflTransGen.mono (fun _ _ step => ⟨fun there => step.1 (.tail _ there), step.2⟩) _ _ way

/-- No way leads out of a name in `visiting`. -/
theorem eq_of_visiting (again : first ∈ visiting)
    (way : ReflTransGen (ix.DependsOff visiting) first last) : last = first := by
  rcases way.cases_head with rfl | ⟨_, step, _⟩
  · rfl
  · exact (step.1 again).elim

theorem leadsTo_follows {args : List TypeExpr} (free : name ∉ scope.typeParams)
    (follows : ix.Follows name e) (new : name ∉ visiting) :
    ix.LeadsTo visiting scope (.named none name args) last ↔
      last = name ∨ ix.LeadsTo (name :: visiting) e.scope e.type last := by
  constructor
  · rintro ⟨away, first, used, way⟩
    obtain rfl := Scope.eq_of_uses_named used
    by_cases here : last = first
    · exact .inl here
    · have away : last ∉ first :: visiting := by simp [here, away]
      rcases dependsOff_around first way with way | here' | ⟨next, ⟨e', follows', used⟩, way⟩
      · exact (here (eq_of_visiting List.mem_cons_self way)).elim
      · exact (here here').elim
      · obtain rfl := Option.some.inj (follows.found.symm.trans follows'.found)
        exact .inr ⟨away, next, used, way⟩
  · rintro (rfl | ⟨away, next, used, way⟩)
    · exact ⟨new, last, Scope.uses_named free, .refl⟩
    · rw [List.mem_cons, not_or] at away
      have later := dependsOff_wider way
      exact ⟨away.2, name, Scope.uses_named free, later.head ⟨new, e, follows, used⟩⟩

theorem not_leadsTo_visiting {args : List TypeExpr} (again : name ∈ visiting) :
    ¬ ix.LeadsTo visiting scope (.named none name args) last := by
  rintro ⟨away, first, used, way⟩
  obtain rfl := Scope.eq_of_uses_named used
  exact away (eq_of_visiting again way ▸ again)

theorem Settles.not_leadsTo (h : ix.Settles scope t s) (follows : ix.Follows last e) :
    ¬ ix.LeadsTo visiting scope t last := by
  rintro ⟨_, first, used, way⟩
  rcases way.cases_head with rfl | ⟨_, ⟨_, _, follows, _⟩, _⟩
  · exact h.not_follows used follows
  · exact h.not_follows used follows

theorem leadsTo_map {k v : TypeExpr} : ix.LeadsTo visiting scope (.map k v) last ↔
    ix.LeadsTo visiting scope k last ∨ ix.LeadsTo visiting scope v last := by
  simp only [LeadsTo, Scope.uses_map, or_and_right, exists_or, and_or_left]

theorem leadsTo_nil : ix.LeadsTo [] scope t last ↔ ix.LooksUp scope t last := by
  have all : ix.DependsOff [] = ix.Depends := by
    funext name other
    simp [DependsOff]
  simp only [LeadsTo, LooksUp, all, List.not_mem_nil, not_false_iff, true_and]

/-- Resolution comes to the references that stand in the type, and to those in the declarations that
it leads to. -/
theorem Resolves.mem_referencesFrom (h : ix.Resolves n visiting scope t s)
    (origin : Option String) : r ∈ ix.referencesFrom visiting origin scope t ↔
      r ∈ ix.spelled origin scope t ∨ ∃ name e, ix.LeadsTo visiting scope t name ∧
        ix.Follows name e ∧ r ∈ ix.spelled (some name) e.scope e.type := by
  induction h generalizing origin with
  | settled settled =>
    rw [(settled.references_eq _ origin).1]
    exact (or_iff_left fun ⟨_, _, leads, follows, _⟩ => settled.not_leadsTo follows leads).symm
  | guarded free follows again =>
    rw [referencesFrom_follows free follows, if_pos again, spelled_follows follows]
    simp only [not_leadsTo_visiting again, false_and, exists_false, or_false]
  | @follow _ _ _ name _ e _ free follows new _ ih =>
    rw [referencesFrom_follows free follows, if_neg new, ih, spelled_follows follows]
    simp only [leadsTo_follows free follows new, or_and_right, exists_or, List.not_mem_nil,
      false_or]
    refine or_congr_left ⟨fun spelled => ⟨name, e, rfl, follows, spelled⟩, ?_⟩
    rintro ⟨_, _, rfl, follows', spelled⟩
    rwa [Option.some.inj (follows.found.symm.trans follows'.found)]
  | pointer _ ih => rw [referencesFrom]; exact ih origin
  | slice _ ih => rw [referencesFrom]; exact ih origin
  | array _ ih => rw [referencesFrom]; exact ih origin
  | map _ _ key value =>
    rw [referencesFrom, List.mem_append, key, value, spelled_map, List.mem_append]
    simp only [leadsTo_map, or_and_right, exists_or]
    exact or_or_or_comm

theorem mem_references_iff : r ∈ ix.references scope t ↔
    r ∈ ix.spelled none scope t ∨ ∃ name e, ix.LooksUp scope t name ∧ ix.Follows name e ∧
      r ∈ ix.spelled (some name) e.scope e.type := by
  have resolves : ix.Resolves _ [] scope t (ix.resolve scope t) :=
    resolves_resolveFrom (Nat.le_refl _)
  have found := resolves.mem_referencesFrom (r := r) none
  simp only [leadsTo_nil] at found
  exact found

/-- No reference that the declaration spells mentions one of its type parameters. -/
def IsClosed (ix : Index) (reads : String → List String) (e : Entry) : Prop :=
  ∀ name args, (name, args) ∈ e.type.heads → name ∉ e.scope.typeParams →
    ix.declaresStruct name = true →
      ∀ param ∈ e.scope.typeParams, param ∉ TypeExpr.listMentions reads args

theorem isClosed_iff (name : String) {reads : String → List String} : ix.IsClosed reads e ↔
    ∀ r ∈ ix.spelled (some name) e.scope e.type, ∀ param, ¬ r.Leaks reads param := by
  constructor
  · rintro closed r spelled param ⟨_, own, mention⟩
    obtain ⟨other, args, head, free, struct, rfl⟩ := mem_spelled_iff.mp spelled
    exact closed other args head free struct param own mention
  · intro closed other args head free struct param own mention
    exact closed _ (mem_spelled_iff.mpr ⟨other, args, head, free, struct, rfl⟩) param
      ⟨rfl, own, mention⟩

/-- The structs of a resolved type are spelled in the type itself or in declarations that it leads
to. None of them mentions a type parameter of such a declaration exactly if each of these is
closed. -/
theorem references_closed_iff (reads : String → List String) (ix : Index) (scope : Scope)
    (t : TypeExpr) :
    (ix.resolve scope t).structs = (ix.references scope t).map Reference.text ∧
    (∀ r, r ∈ ix.references scope t ↔ r ∈ ix.spelled none scope t ∨
      ∃ name e, ix.LooksUp scope t name ∧ ix.Follows name e ∧
        r ∈ ix.spelled (some name) e.scope e.type) ∧
    ((∀ r ∈ ix.references scope t, ∀ param, ¬ r.Leaks reads param) ↔
      ∀ name e, ix.LooksUp scope t name → ix.Follows name e → ix.IsClosed reads e) := by
  refine ⟨(resolves_resolveFrom (Nat.le_refl _)).structs_eq none, fun _ => mem_references_iff,
    ?_, ?_⟩
  · intro closed name e found follows
    refine (isClosed_iff name).mpr fun r spelled => closed r ?_
    exact mem_references_iff.mpr (.inr ⟨name, e, found, follows, spelled⟩)
  · intro closed r member
    rcases mem_references_iff.mp member with spelled | ⟨name, e, found, follows, spelled⟩
    · rintro param ⟨foreign, _⟩
      obtain ⟨_, _, _, _, _, rfl⟩ := mem_spelled_iff.mp spelled
      cases foreign
    · exact (isClosed_iff name).mp (closed name e found follows) r spelled

def box : TypeDecl where
  name := "Box"
  typeParams := []
  type := .struct [⟨["Items"], .named none "List" [.named none "int" []], none⟩] ""
  isAlias := false
  optedIn := true

/-- A file whose lists are made of nodes with one argument. -/
def listing (arg : String) : SourceFile where
  path := "list.go"
  package := "desk"
  imports := []
  decls := [
    ⟨"List", ["T"], .slice (.named none "Node" [.named none arg []]), false, false⟩,
    ⟨"Node", ["T"], .struct [] "", false, false⟩, box]
  hasErrors := false

/-- What a list is in the file. -/
def listEntry (arg : String) : Entry :=
  ⟨.slice (.named none "Node" [.named none arg []]), ⟨[], ["T"]⟩⟩

theorem find?_listing {arg : String} {d : TypeDecl} (decl : d ∈ (listing arg).decls) :
    (ofFiles [listing arg]).find? d.name = some ⟨d.type, ⟨[], d.typeParams⟩⟩ := by
  have once : ([listing arg].flatMap fun f => f.decls.map (·.name)).Nodup :=
    (by decide : ["List", "Node", "Box"].Nodup)
  exact find?_declared once List.mem_cons_self decl

theorem follows_list (arg : String) : (ofFiles [listing arg]).Follows "List" (listEntry arg) :=
  ⟨find?_listing (.head _), rfl⟩

/-- Only lists are followed in the file. -/
theorem eq_of_follows_listing {arg : String} (follows : (ofFiles [listing arg]).Follows name e) :
    e = listEntry arg := by
  have listed := Keyed.mem_ofList (mem_of_lookup follows.found)
  have other := follows.other
  simp only [listing, box, List.flatMap_cons, List.flatMap_nil, List.map_cons, List.map_nil,
    List.append_nil, List.mem_cons, List.not_mem_nil, or_false, Prod.mk.injEq] at listed
  rcases listed with ⟨_, rfl⟩ | ⟨_, rfl⟩ | ⟨_, rfl⟩
  · rfl
  · cases other
  · cases other

/-- The record of the file, whose field is a list of integers. -/
def boxRecord (arg : String) : Record where
  name := "Box"
  typeParams := []
  package := "desk"
  file := "list.go"
  optedIn := true
  imports := []
  fields := [.ofRules "Items" "items" "List[int]"
    ((ofFiles [listing arg]).resolve .empty (.named none "List" [.named none "int" []])) "" []]

theorem resolve_list (arg : String) :
    (ofFiles [listing arg]).resolve .empty (.named none "List" [.named none "int" []]) =
      .slice (.struct (TypeExpr.named none "Node" [.named none arg []]).text) := by
  have node : (ofFiles [listing arg]).Settles ⟨[], ["T"]⟩
      (.named none "Node" [.named none arg []]) _ :=
    .struct (by decide) (find?_listing (.tail _ (.head _))) rfl
  exact (Resolves.follow (n := 1) (by decide) (follows_list arg) List.not_mem_nil
    (.slice (.settled node))).eq_resolveFrom.symm

theorem ofDecl?_box (arg : String) :
    Record.ofDecl? (ofFiles [listing arg]) (listing arg) box = .ok (some (boxRecord arg)) := by
  rfl

theorem references_listing_closed :
    Record.ofDecl? (ofFiles [listing "string"]) (listing "string") box =
      .ok (some (boxRecord "string")) ∧
    (boxRecord "string").fields.map (·.shape) = [.slice (.struct "Node[string]")] ∧
    ∀ r ∈ (ofFiles [listing "string"]).references .empty
      (.named none "List" [.named none "int" []]), ∀ param, ¬ r.Leaks (fun _ => []) param := by
  have ⟨_, _, closed⟩ := references_closed_iff (fun _ => []) (ofFiles [listing "string"]) .empty
    (.named none "List" [.named none "int" []])
  refine ⟨ofDecl?_box _, ?_, closed.mpr fun name e _ follows => ?_⟩
  · have text : (TypeExpr.named none "Node" [.named none "string" []]).text = "Node[string]" := by
      decide
    exact congrArg (fun s => [s]) ((resolve_list _).trans (text ▸ rfl))
  · rw [eq_of_follows_listing follows]
    intro name args head _ _ param own mention
    obtain ⟨rfl, rfl⟩ := Prod.mk.inj (List.mem_singleton.mp head)
    obtain rfl := List.mem_singleton.mp own
    revert mention
    decide

/-- The parameter of lists stands in the schema of a record that has none. -/
theorem references_listing_leak :
    Record.ofDecl? (ofFiles [listing "T"]) (listing "T") box = .ok (some (boxRecord "T")) ∧
    (boxRecord "T").fields.map (·.shape) = [.slice (.struct "Node[T]")] ∧
    ∃ r ∈ (ofFiles [listing "T"]).references .empty (.named none "List" [.named none "int" []]),
      r.text = "Node[T]" ∧ r.Leaks (fun _ => []) "T" := by
  have text : (TypeExpr.named none "Node" [.named none "T" []]).text = "Node[T]" := by decide
  refine ⟨ofDecl?_box _, congrArg (fun s => [s]) ((resolve_list _).trans (text ▸ rfl)),
    ⟨some "List", ["T"], "Node", [.named none "T" []]⟩, ?_, text, rfl, by decide, by decide⟩
  refine mem_references_iff.mpr (.inr ⟨"List", listEntry "T", .of_uses ?_, follows_list _, ?_⟩)
  · exact Scope.uses_named (by decide)
  · exact mem_spelled_iff.mpr ⟨"Node", _, .head _, by decide, by rfl, rfl⟩

end Index

end TagSchema
