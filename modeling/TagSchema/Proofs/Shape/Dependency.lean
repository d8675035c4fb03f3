import Mathlib.Logic.Relation
import TagSchema.Proofs.Shape.Resolution

/-!
# Names that resolution looks up

Resolution looks up the unqualified names of a type, and those of every declaration that it is led
to. `resolve_congr` says that nothing else of an index has a say in the result.
-/

namespace TagSchema

open Relation (ReflTransGen TransGen)
open TagSchema.Go (TypeExpr)

/-- The unqualified names in a type outside of arguments, with their arguments. -/
def Go.TypeExpr.heads : TypeExpr → List (String × List TypeExpr)
  | .named none name args => [(name, args)]
  | .pointer t | .slice t | .array _ t => t.heads
  | .map k v => k.heads ++ v.heads
  | _ => []

/-- A name that a type leaves to the package: it is no type parameter. -/
def Scope.Uses (scope : Scope) (t : TypeExpr) (name : String) : Prop :=
  name ∉ scope.typeParams ∧ ∃ args, (name, args) ∈ t.heads

variable {ix jx : Index} {scope : Scope} {e : Index.Entry} {visiting : List String} {t : TypeExpr}
  {s : Shape} {name other : String} {n : Nat}

namespace Scope

theorem uses_named {args : List TypeExpr} (free : name ∉ scope.typeParams) :
    scope.Uses (.named none name args) name :=
  ⟨free, args, List.mem_cons_self⟩

theorem eq_of_uses_named {package : Option String} {args : List TypeExpr}
    (h : scope.Uses (.named package name args) other) : other = name := by
  obtain ⟨_, args', member⟩ := h
  cases package with
  | none => exact congrArg Prod.fst (List.mem_singleton.mp member)
  | some package => cases member

theorem uses_map {k v : TypeExpr} :
    scope.Uses (.map k v) name ↔ scope.Uses k name ∨ scope.Uses v name := by
  simp only [Uses, TypeExpr.heads, List.mem_append, exists_or, and_or_left]

end Scope

namespace Index

/-- A declaration that is followed uses a name. -/
def Depends (ix : Index) (name other : String) : Prop :=
  ∃ e, ix.Follows name e ∧ e.scope.Uses e.type other

/-- A name that a type uses, or a declaration that the type leads to. -/
def LooksUp (ix : Index) (scope : Scope) (t : TypeExpr) (name : String) : Prop :=
  ∃ first, scope.Uses t first ∧ ReflTransGen ix.Depends first name

theorem LooksUp.of_uses (h : scope.Uses t name) : ix.LooksUp scope t name := ⟨name, h, .refl⟩

theorem LooksUp.mono {u : TypeExpr} (uses : ∀ name, scope.Uses t name → scope.Uses u name)
    (h : ix.LooksUp scope t name) : ix.LooksUp scope u name :=
  let ⟨first, used, leads⟩ := h
  ⟨first, uses first used, leads⟩

theorem LooksUp.key {k v : TypeExpr} (h : ix.LooksUp scope k name) :
    ix.LooksUp scope (.map k v) name :=
  h.mono fun _ used => Scope.uses_map.mpr (.inl used)

theorem LooksUp.value {k v : TypeExpr} (h : ix.LooksUp scope v name) :
    ix.LooksUp scope (.map k v) name :=
  h.mono fun _ used => Scope.uses_map.mpr (.inr used)

/-- What a declaration leads to is behind its name. -/
theorem LooksUp.transGen (follows : ix.Follows name e) (h : ix.LooksUp e.scope e.type other) :
    TransGen ix.Depends name other :=
  let ⟨_, used, leads⟩ := h
  .head' ⟨e, follows, used⟩ leads

theorem LooksUp.follow {args : List TypeExpr} (free : name ∉ scope.typeParams)
    (follows : ix.Follows name e) (h : ix.LooksUp e.scope e.type other) :
    ix.LooksUp scope (.named none name args) other :=
  ⟨name, Scope.uses_named free, (h.transGen follows).to_reflTransGen⟩

/-- No name of a type is followed where the type has its shape at once. -/
theorem Settles.not_follows (h : ix.Settles scope t s) (used : scope.Uses t name) :
    ¬ ix.Follows name e := by
  intro follows
  have found (missing : ix.find? name = none) : False := by
    rw [follows.found] at missing
    cases missing
  cases h with
  | parameter own => exact used.1 (Scope.eq_of_uses_named used ▸ own)
  | struct _ declared struct =>
    obtain rfl := Scope.eq_of_uses_named used
    obtain rfl := Option.some.inj (declared.symm.trans follows.found)
    rw [follows.other] at struct
    cases struct
  | primitive _ missing => exact found (Scope.eq_of_uses_named used ▸ missing)
  | unknown _ missing => exact found (Scope.eq_of_uses_named used ▸ missing)
  | _ =>
    obtain ⟨_, _, member⟩ := used
    cases member

/-! ### Indexes that agree -/

theorem Settles.congr (h : ix.Settles scope t s)
    (same : ∀ name, scope.Uses t name → jx.find? name = ix.find? name) :
    jx.Settles scope t s := by
  cases h with
  | time known => exact .time known
  | foreign other => exact .foreign other
  | parameter own => exact .parameter own
  | struct free found struct =>
    exact .struct free ((same _ (Scope.uses_named free)).trans found) struct
  | primitive free missing known =>
    exact .primitive free ((same _ (Scope.uses_named free)).trans missing) known
  | unknown free missing unknown =>
    exact .unknown free ((same _ (Scope.uses_named free)).trans missing) unknown
  | anonymous => exact .anonymous
  | interface => exact .interface
  | verbatim => exact .verbatim

theorem Resolves.congr (h : ix.Resolves n visiting scope t s)
    (same : ∀ name, ix.LooksUp scope t name → jx.find? name = ix.find? name) :
    jx.Resolves n visiting scope t s := by
  have followed {scope : Scope} {name : String} {args : List TypeExpr} {e : Entry}
      (free : name ∉ scope.typeParams) (follows : ix.Follows name e)
      (same : ∀ other, ix.LooksUp scope (.named none name args) other →
        jx.find? other = ix.find? other) : jx.Follows name e :=
    ⟨(same _ (.of_uses (Scope.uses_named free))).trans follows.found, follows.other⟩
  induction h with
  | settled settled => exact .settled (settled.congr fun _ used => same _ (.of_uses used))
  | guarded free follows again => exact .guarded free (followed free follows same) again
  | follow free follows new _ ih =>
    exact .follow free (followed free follows same) new
      (ih fun _ found => same _ (found.follow free follows))
  | pointer _ ih => exact .pointer (ih same)
  | slice _ ih => exact .slice (ih same)
  | array _ ih => exact .array (ih same)
  | map _ _ key value =>
    exact .map (key fun _ found => same _ found.key) (value fun _ found => same _ found.value)

/-- A type resolves alike where all names that are looked up mean the same. -/
theorem resolve_congr (same : ∀ name, ix.LooksUp scope t name → jx.find? name = ix.find? name) :
    jx.resolve scope t = ix.resolve scope t :=
  ((resolves_resolveFrom (Nat.le_refl _)).congr same).eq_resolveFrom.symm

end Index

end TagSchema
