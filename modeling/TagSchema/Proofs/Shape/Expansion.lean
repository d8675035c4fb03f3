import TagSchema.Proofs.Shape.Dependency

/-!
# Plain expansion

What a type means if every name stands for its declaration, however often it comes up.
`resolve_expands` says that resolution always ends and that, where no declaration leads back to
itself, its result is the plain expansion.
-/

namespace TagSchema.Index

open Relation (ReflTransGen TransGen)
open TagSchema.Go (SourceFile TypeDecl TypeExpr)

variable {ix : Index} {scope : Scope} {e : Entry} {visiting : List String} {t : TypeExpr}
  {s : Shape} {name : String} {n : Nat}

/-- The shape of a type in which each name that is followed is replaced by its declaration. -/
inductive Expands (ix : Index) : Scope → TypeExpr → Shape → Prop
  | settled {scope : Scope} {t : TypeExpr} {s : Shape} (settled : ix.Settles scope t s) :
    Expands ix scope t s
  | follow {scope : Scope} {name : String} {args : List TypeExpr} {e : Entry} {s : Shape}
    (free : name ∉ scope.typeParams) (follows : ix.Follows name e)
    (body : Expands ix e.scope e.type s) : Expands ix scope (.named none name args) s
  | pointer {scope : Scope} {t : TypeExpr} {s : Shape} (target : Expands ix scope t s) :
    Expands ix scope (.pointer t) (.pointer s)
  | slice {scope : Scope} {t : TypeExpr} {s : Shape} (element : Expands ix scope t s) :
    Expands ix scope (.slice t) (.slice s)
  | array {scope : Scope} {length : String} {t : TypeExpr} {s : Shape}
    (element : Expands ix scope t s) : Expands ix scope (.array length t) (.slice s)
  | map {scope : Scope} {k v : TypeExpr} {s s' : Shape} (key : Expands ix scope k s)
    (value : Expands ix scope v s') : Expands ix scope (.map k v) (.map s s')

/-! ### Cycles -/

/-- A type leads to no name that is being followed or leads back to itself. -/
def IsClear (ix : Index) (visiting : List String) (scope : Scope) (t : TypeExpr) : Prop :=
  ∀ name, ix.LooksUp scope t name → name ∉ visiting ∧ ¬ TransGen ix.Depends name name

theorem IsClear.follow {args : List TypeExpr} (free : name ∉ scope.typeParams)
    (follows : ix.Follows name e) (clear : ix.IsClear visiting scope (.named none name args)) :
    ix.IsClear (name :: visiting) e.scope e.type := by
  intro other found
  have ⟨new, acyclic⟩ := clear other (found.follow free follows)
  rw [List.mem_cons, not_or]
  refine ⟨⟨?_, new⟩, acyclic⟩
  rintro rfl
  exact acyclic (found.transGen follows)

theorem IsClear.key {k v : TypeExpr} (clear : ix.IsClear visiting scope (.map k v)) :
    ix.IsClear visiting scope k := fun name found => clear name found.key

theorem IsClear.value {k v : TypeExpr} (clear : ix.IsClear visiting scope (.map k v)) :
    ix.IsClear visiting scope v := fun name found => clear name found.value

theorem IsClear.new {args : List TypeExpr} (free : name ∉ scope.typeParams)
    (clear : ix.IsClear visiting scope (.named none name args)) : name ∉ visiting :=
  (clear name (.of_uses (Scope.uses_named free))).1

/-- On the way to a clear type the guard does nothing. -/
theorem Resolves.expands (h : ix.Resolves n visiting scope t s)
    (clear : ix.IsClear visiting scope t) : ix.Expands scope t s := by
  induction h with
  | settled settled => exact .settled settled
  | guarded free _ again => exact (clear.new free again).elim
  | follow free follows _ _ ih => exact .follow free follows (ih (clear.follow free follows))
  | pointer _ ih => exact .pointer (ih clear)
  | slice _ ih => exact .slice (ih clear)
  | array _ ih => exact .array (ih clear)
  | map _ _ key value => exact .map (key clear.key) (value clear.value)

theorem Expands.eq_resolveFrom (h : ix.Expands scope t s) (clear : ix.IsClear visiting scope t) :
    s = ix.resolveFrom visiting scope t := by
  induction h generalizing visiting with
  | settled settled => exact settled.eq_resolveFrom visiting
  | follow free follows _ ih =>
    rw [resolveFrom_follows free follows, if_neg (clear.new free)]
    exact ih (clear.follow free follows)
  | pointer _ ih => rw [resolveFrom, ← ih clear]
  | slice _ ih => rw [resolveFrom, ← ih clear]
  | array _ ih => rw [resolveFrom, ← ih clear]
  | map _ _ key value => rw [resolveFrom, ← key clear.key, ← value clear.value]

/-- An expansion is finite, so every chain of declarations in it ends. -/
theorem Expands.acc (h : ix.Expands scope t s) (used : scope.Uses t name) :
    Acc (Function.swap ix.Depends) name := by
  induction h generalizing name with
  | settled settled =>
    exact .intro _ fun _ ⟨_, follows, _⟩ => (settled.not_follows used follows).elim
  | follow _ follows _ ih =>
    obtain rfl := Scope.eq_of_uses_named used
    refine .intro _ fun other ⟨e, follows', used⟩ => ih ?_
    obtain rfl := Option.some.inj (follows.found.symm.trans follows'.found)
    exact used
  | pointer _ ih => exact ih used
  | slice _ ih => exact ih used
  | array _ ih => exact ih used
  | map _ _ key value => exact (Scope.uses_map.mp used).elim key value

theorem not_transGen_of_acc (h : Acc (Function.swap ix.Depends) name) :
    ¬ TransGen ix.Depends name name := by
  have ends := h.transGen
  rw [← Relation.transGen_swap]
  clear h
  induction ends with
  | intro name _ ih => exact fun cycle => ih name cycle cycle

/-- What expands leads to no cycle. -/
theorem Expands.isClear (h : ix.Expands scope t s) : ix.IsClear [] scope t := by
  rintro name ⟨first, used, leads⟩
  refine ⟨List.not_mem_nil, not_transGen_of_acc ?_⟩
  have ends := h.acc used
  induction leads with
  | refl => exact ends
  | tail _ step ih => exact ih.inv step

theorem expands_iff (clear : ix.IsClear [] scope t) :
    ix.Expands scope t s ↔ s = ix.resolve scope t := by
  constructor
  · exact fun h => h.eq_resolveFrom clear
  · rintro rfl
    exact (resolves_resolveFrom (Nat.le_refl _)).expands clear

/-- Resolution ends for every type, by calls that are nested no deeper than the type and one
declaration for each name. Where no declaration leads back to itself its result is the plain
expansion, and a type has a plain expansion exactly if it leads to no such declaration. -/
theorem resolve_expands (ix : Index) (scope : Scope) (t : TypeExpr) :
    (∀ s, ix.Resolves (t.height + ix.size * (ix.height + 1)) [] scope t s ↔
      s = ix.resolve scope t) ∧
    ((∀ name, ¬ TransGen ix.Depends name name) →
      ∀ s, ix.Expands scope t s ↔ s = ix.resolve scope t) ∧
    ((∃ s, ix.Expands scope t s) ↔
      ∀ name, ix.LooksUp scope t name → ¬ TransGen ix.Depends name name) := by
  have clear (acyclic : ∀ name, ix.LooksUp scope t name → ¬ TransGen ix.Depends name name) :
      ix.IsClear [] scope t := fun name found => ⟨List.not_mem_nil, acyclic name found⟩
  refine ⟨fun s => resolves_iff (Nat.le_refl _), fun acyclic s => ?_, ?_, fun acyclic => ?_⟩
  · exact expands_iff (clear fun name _ => acyclic name)
  · rintro ⟨s, expanded⟩ name found
    exact (expanded.isClear name found).2
  · exact ⟨_, (expands_iff (clear acyclic)).mpr rfl⟩

/-- A declaration that names another twice, which leads to a third. -/
def forked : SourceFile where
  path := "lines.go"
  package := "shop"
  imports := []
  decls := [
    ⟨"Lines", [], .map (.named none "Cell" []) (.named none "Cell" []), false, false⟩,
    ⟨"Cell", [], .pointer (.named none "Text" []), false, false⟩,
    ⟨"Text", [], .named none "string" [], false, false⟩]
  hasErrors := false

theorem entries_forked : (ofFiles [forked]).entries = [
    ("Cell", ⟨.pointer (.named none "Text" []), .empty⟩),
    ("Lines", ⟨.map (.named none "Cell" []) (.named none "Cell" []), .empty⟩),
    ("Text", ⟨.named none "string" [], .empty⟩)] := rfl

/-- The names of the file, each behind those that it leads to. -/
def forkedRank (name : String) : Nat := ["string", "Text", "Cell", "Lines"].idxOf name

theorem forkedRank_lt {other : String} (h : (ofFiles [forked]).Depends name other) :
    forkedRank other < forkedRank name := by
  obtain ⟨e, ⟨found, _⟩, _, args, member⟩ := h
  have listed := mem_of_lookup found
  simp only [entries_forked, List.mem_cons, List.not_mem_nil, or_false, Prod.mk.injEq] at listed
  rcases listed with ⟨rfl, rfl⟩ | ⟨rfl, rfl⟩ | ⟨rfl, rfl⟩ <;>
  · simp only [TypeExpr.heads, List.mem_append, List.mem_singleton, Prod.mk.injEq, or_self]
      at member
    rw [member.1]
    decide

theorem resolve_forked : (∀ name, ¬ TransGen (ofFiles [forked]).Depends name name) ∧
    (ofFiles [forked]).Expands .empty (.named none "Lines" [])
      ((ofFiles [forked]).resolve .empty (.named none "Lines" [])) ∧
    (ofFiles [forked]).resolve .empty (.named none "Lines" []) =
      .map (.pointer (.primitive .string)) (.pointer (.primitive .string)) := by
  have descends {name other : String} (leads : TransGen (ofFiles [forked]).Depends name other) :
      forkedRank other < forkedRank name := by
    induction leads with
    | single step => exact forkedRank_lt step
    | tail _ step ih => exact Nat.lt_trans (forkedRank_lt step) ih
  have acyclic (name : String) : ¬ TransGen (ofFiles [forked]).Depends name name :=
    fun cycle => Nat.lt_irrefl _ (descends cycle)
  have ⟨_, expands, _⟩ := resolve_expands (ofFiles [forked]) .empty (.named none "Lines" [])
  have expands := expands acyclic
  refine ⟨acyclic, (expands _).mpr rfl, ((expands _).mp ?_).symm⟩
  have text : (ofFiles [forked]).Expands .empty (.named none "Text" []) (.primitive .string) :=
    .follow (by decide) ⟨rfl, rfl⟩ (.settled (.primitive (by decide) rfl (by decide)))
  have cell : (ofFiles [forked]).Expands .empty (.named none "Cell" [])
      (.pointer (.primitive .string)) :=
    .follow (by decide) ⟨rfl, rfl⟩ (.pointer text)
  exact .follow (by decide) ⟨rfl, rfl⟩ (.map cell cell)

end TagSchema.Index
