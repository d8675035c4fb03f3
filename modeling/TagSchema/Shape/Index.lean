import TagSchema.Go.TypeExpr
import TagSchema.Shape.Basic
import TagSchema.Text.Keyed

/-!
# Resolving types

An index holds the type declarations of a package, and `resolve` follows names through it. A name
that comes up again while it is being followed has no shape of its own, so that every resolution
ends.
-/

namespace TagSchema

open TagSchema.Go (TypeExpr)

/-- What names mean inside a declaration besides the types of its package. -/
structure Scope where
  /-- The names of the time package. -/
  timeAliases : List String
  typeParams : List String
  deriving DecidableEq, Repr

def Scope.empty : Scope := ⟨[], []⟩

def Scope.of (imports : List (String × String)) (typeParams : List String) : Scope :=
  ⟨(imports.filter (·.2 == "time")).map (·.1), typeParams⟩

structure Index.Entry where
  type : TypeExpr
  scope : Scope
  deriving Repr

/-- The declared types, in order of name. -/
structure Index where
  entries : List (String × Index.Entry)
  deriving Repr, Inhabited

namespace Index

/-- The declarations of files; the last one of a name counts. -/
def ofFiles (files : List Go.SourceFile) : Index :=
  ⟨Keyed.ofList (files.flatMap fun f =>
    f.decls.map fun d => (d.name, ⟨d.type, Scope.of f.imports d.typeParams⟩))⟩

def size (ix : Index) : Nat := ix.entries.length

def find? (ix : Index) (name : String) : Option Entry := ix.entries.lookup name

def declaresStruct (ix : Index) (name : String) : Bool := (ix.find? name).any (·.type.isStruct)

/-- The entries that are not being followed. -/
def free (ix : Index) (visiting : List String) : Nat :=
  ix.entries.countP fun e => !visiting.contains e.1

theorem mem_of_lookup {name : String} {e : Entry} :
    ∀ {es : List (String × Entry)}, es.lookup name = some e → (name, e) ∈ es
  | (k, v) :: es, h => by
    simp only [List.lookup_cons] at h
    split at h
    · simp_all
    · exact List.mem_cons_of_mem _ (mem_of_lookup h)

theorem free_cons_lt {ix : Index} {name : String} {e : Entry} {visiting : List String}
    (h : ix.find? name = some e) (hv : visiting.contains name = false) :
    ix.free (name :: visiting) < ix.free visiting := by
  have hm := mem_of_lookup h
  unfold free
  generalize ix.entries = es at hm
  induction es with
  | nil => simp at hm
  | cons d es ih =>
    have le : es.countP (fun e => !(name :: visiting).contains e.1) ≤
        es.countP fun e => !visiting.contains e.1 :=
      List.countP_mono_left fun e _ => by simp
    by_cases hd : d.1 = name
    · have out : (!visiting.contains d.1) = true := by rw [hd, hv]; rfl
      have within : ¬(!(name :: visiting).contains d.1) = true := by simp [hd]
      calc (d :: es).countP (fun e => !(name :: visiting).contains e.1)
          = es.countP (fun e => !(name :: visiting).contains e.1) := List.countP_cons_of_neg within
        _ < es.countP (fun e => !visiting.contains e.1) + 1 := Nat.lt_succ_of_le le
        _ = (d :: es).countP (fun e => !visiting.contains e.1) :=
          (List.countP_cons_of_pos (p := fun e : String × Entry => !visiting.contains e.1) out).symm
    · have hm : (name, e) ∈ es := by
        rcases List.mem_cons.1 hm with rfl | hm
        · exact absurd rfl hd
        · exact hm
      have := ih hm
      by_cases hc : visiting.contains d.1 <;> simp_all

/-- The shape of a type; what is unknown, foreign or already in `visiting` has none of its own. -/
def resolveFrom (ix : Index) (visiting : List String) (scope : Scope) (t : TypeExpr) : Shape :=
  match t with
  | .named (some package) name _ =>
    if name == "Time" && scope.timeAliases.contains package then .time else .any
  | .named none name args =>
    if scope.typeParams.contains name then .any
    else
      match h : ix.find? name with
      | some e =>
        if e.type.isStruct then .struct (TypeExpr.named none name args).text
        else if hv : visiting.contains name then .any
        else
          have := free_cons_lt h (Bool.eq_false_iff.2 hv)
          resolveFrom ix (name :: visiting) e.scope e.type
      | none =>
        match Primitive.ofGoName? name with
        | some k => .primitive k
        | none => .any
  | .pointer t => .pointer (resolveFrom ix visiting scope t)
  | .slice t | .array _ t => .slice (resolveFrom ix visiting scope t)
  | .map k v => .map (resolveFrom ix visiting scope k) (resolveFrom ix visiting scope v)
  | .struct .. | .interface _ | .verbatim _ => .any
termination_by (ix.free visiting, sizeOf t)

def resolve (ix : Index) (scope : Scope) (t : TypeExpr) : Shape := ix.resolveFrom [] scope t

end Index

end TagSchema
