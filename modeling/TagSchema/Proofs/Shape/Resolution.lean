import TagSchema.Shape.Index

/-!
# Rules of resolution

How a type resolves, as rules instead of a recursion: `resolves_iff` says that the rules give each
type one shape and that a bounded number of nested calls is enough to find it.
-/

namespace TagSchema

open TagSchema.Go (TypeExpr)

/-- How deep a type is nested outside of arguments. -/
def Go.TypeExpr.height : TypeExpr → Nat
  | .pointer t | .slice t | .array _ t => t.height + 1
  | .map k v => max k.height v.height + 1
  | _ => 0

namespace Index

variable {ix : Index} {scope : Scope} {e : Entry} {visiting : List String} {t : TypeExpr}
  {s : Shape} {n : Nat}

/-- A name that is followed: it stands for a declaration that is no struct. -/
structure Follows (ix : Index) (name : String) (e : Entry) : Prop where
  found : ix.find? name = some e
  other : e.type.isStruct = false

/-- The shape of a type that has no parts and no name to follow. -/
inductive Settles (ix : Index) (scope : Scope) : TypeExpr → Shape → Prop
  | time {package : String} {args : List TypeExpr} (known : package ∈ scope.timeAliases) :
    Settles ix scope (.named (some package) "Time" args) .time
  | foreign {package name : String} {args : List TypeExpr}
    (other : ¬ (name = "Time" ∧ package ∈ scope.timeAliases)) :
    Settles ix scope (.named (some package) name args) .any
  | parameter {name : String} {args : List TypeExpr} (own : name ∈ scope.typeParams) :
    Settles ix scope (.named none name args) .any
  | struct {name : String} {args : List TypeExpr} {e : Entry} (free : name ∉ scope.typeParams)
    (found : ix.find? name = some e) (struct : e.type.isStruct = true) :
    Settles ix scope (.named none name args) (.struct (TypeExpr.named none name args).text)
  | primitive {name : String} {args : List TypeExpr} {k : Primitive}
    (free : name ∉ scope.typeParams) (missing : ix.find? name = none)
    (known : Primitive.ofGoName? name = some k) :
    Settles ix scope (.named none name args) (.primitive k)
  | unknown {name : String} {args : List TypeExpr} (free : name ∉ scope.typeParams)
    (missing : ix.find? name = none) (unknown : Primitive.ofGoName? name = none) :
    Settles ix scope (.named none name args) .any
  | anonymous {members : List (Go.Member TypeExpr)} {source : String} :
    Settles ix scope (.struct members source) .any
  | interface {source : String} : Settles ix scope (.interface source) .any
  | verbatim {source : String} : Settles ix scope (.verbatim source) .any

/-- A type resolves to a shape by calls that are nested at most `n` deep, where the names in
`visiting` are being followed. -/
inductive Resolves (ix : Index) : Nat → List String → Scope → TypeExpr → Shape → Prop
  | settled {n : Nat} {visiting : List String} {scope : Scope} {t : TypeExpr} {s : Shape}
    (settled : ix.Settles scope t s) : Resolves ix n visiting scope t s
  | guarded {n : Nat} {visiting : List String} {scope : Scope} {name : String}
    {args : List TypeExpr} {e : Entry} (free : name ∉ scope.typeParams)
    (follows : ix.Follows name e) (again : name ∈ visiting) :
    Resolves ix n visiting scope (.named none name args) .any
  | follow {n : Nat} {visiting : List String} {scope : Scope} {name : String}
    {args : List TypeExpr} {e : Entry} {s : Shape} (free : name ∉ scope.typeParams)
    (follows : ix.Follows name e) (new : name ∉ visiting)
    (body : Resolves ix n (name :: visiting) e.scope e.type s) :
    Resolves ix (n + 1) visiting scope (.named none name args) s
  | pointer {n : Nat} {visiting : List String} {scope : Scope} {t : TypeExpr} {s : Shape}
    (target : Resolves ix n visiting scope t s) :
    Resolves ix (n + 1) visiting scope (.pointer t) (.pointer s)
  | slice {n : Nat} {visiting : List String} {scope : Scope} {t : TypeExpr} {s : Shape}
    (element : Resolves ix n visiting scope t s) :
    Resolves ix (n + 1) visiting scope (.slice t) (.slice s)
  | array {n : Nat} {visiting : List String} {scope : Scope} {length : String} {t : TypeExpr}
    {s : Shape} (element : Resolves ix n visiting scope t s) :
    Resolves ix (n + 1) visiting scope (.array length t) (.slice s)
  | map {n : Nat} {visiting : List String} {scope : Scope} {k v : TypeExpr} {s s' : Shape}
    (key : Resolves ix n visiting scope k s) (value : Resolves ix n visiting scope v s') :
    Resolves ix (n + 1) visiting scope (.map k v) (.map s s')

/-! ### One shape -/

theorem Settles.eq_resolveFrom (h : ix.Settles scope t s) (visiting : List String) :
    s = ix.resolveFrom visiting scope t := by
  cases h with
  | time known => simp [resolveFrom, known]
  | foreign other =>
    rw [resolveFrom, if_neg]
    simpa using other
  | parameter own => simp [resolveFrom, own]
  | struct free found struct =>
    rw [resolveFrom, if_neg (by simpa using free)]
    split
    · rename_i found'
      obtain rfl := Option.some.inj (found.symm.trans found')
      rw [if_pos struct]
    · simp_all
  | primitive free missing known =>
    rw [resolveFrom, if_neg (by simpa using free)]
    split
    · simp_all
    · rw [known]
  | unknown free missing unknown =>
    rw [resolveFrom, if_neg (by simpa using free)]
    split
    · simp_all
    · rw [unknown]
  | anonymous => rw [resolveFrom]
  | interface => rw [resolveFrom]
  | verbatim => rw [resolveFrom]

theorem resolveFrom_follows {name : String} {args : List TypeExpr}
    (free : name ∉ scope.typeParams) (follows : ix.Follows name e) :
    ix.resolveFrom visiting scope (.named none name args) =
      if name ∈ visiting then .any else ix.resolveFrom (name :: visiting) e.scope e.type := by
  rw [resolveFrom, if_neg (by simpa using free)]
  split
  · rename_i found
    obtain rfl := Option.some.inj (follows.found.symm.trans found)
    simp [follows.other]
  · rename_i missing
    rw [follows.found] at missing
    cases missing

theorem Resolves.eq_resolveFrom (h : ix.Resolves n visiting scope t s) :
    s = ix.resolveFrom visiting scope t := by
  induction h with
  | settled settled => exact settled.eq_resolveFrom _
  | guarded free follows again => rw [resolveFrom_follows free follows, if_pos again]
  | follow free follows new _ ih => rw [resolveFrom_follows free follows, if_neg new, ih]
  | pointer _ ih => rw [resolveFrom, ih]
  | slice _ ih => rw [resolveFrom, ih]
  | array _ ih => rw [resolveFrom, ih]
  | map _ _ key value => rw [resolveFrom, key, value]

/-! ### Bounded calls -/

/-- How deep the declarations are nested. -/
def height (ix : Index) : Nat := ix.entries.foldr (fun e n => max e.2.type.height n) 0

theorem height_le {name : String} (found : ix.find? name = some e) :
    e.type.height ≤ ix.height := by
  have member := mem_of_lookup found
  unfold height
  generalize ix.entries = es at member
  induction es with
  | nil => cases member
  | cons d es ih =>
    rcases List.mem_cons.mp member with rfl | member
    · exact Nat.le_max_left _ _
    · exact Nat.le_trans (ih member) (Nat.le_max_right _ _)

/-- Every name that is followed leaves fewer to follow, and none leads deeper than the deepest
declaration. -/
theorem height_follow {name : String} (follows : ix.Follows name e) (new : name ∉ visiting) :
    e.type.height + ix.free (name :: visiting) * (ix.height + 1) + 1 ≤
      ix.free visiting * (ix.height + 1) := by
  have fewer : ix.free (name :: visiting) + 1 ≤ ix.free visiting :=
    free_cons_lt follows.found (by simpa using new)
  have deep := height_le follows.found
  calc e.type.height + ix.free (name :: visiting) * (ix.height + 1) + 1
      ≤ (ix.free (name :: visiting) + 1) * (ix.height + 1) := by rw [Nat.succ_mul]; omega
    _ ≤ ix.free visiting * (ix.height + 1) := Nat.mul_le_mul_right _ fewer

theorem resolves_resolveFrom (bound : t.height + ix.free visiting * (ix.height + 1) ≤ n) :
    ix.Resolves n visiting scope t (ix.resolveFrom visiting scope t) := by
  fun_induction resolveFrom ix visiting scope t generalizing n with
  | case1 visiting scope package name args known =>
    rw [Bool.and_eq_true, beq_iff_eq, List.contains_iff_mem] at known
    obtain ⟨rfl, known⟩ := known
    exact .settled (.time known)
  | case2 visiting scope package name args other =>
    rw [Bool.and_eq_true, beq_iff_eq, List.contains_iff_mem] at other
    exact .settled (.foreign other)
  | case3 visiting scope name args own =>
    exact .settled (.parameter (List.contains_iff_mem.mp own))
  | case4 visiting scope name args free e found struct =>
    rw [List.contains_iff_mem] at free
    exact .settled (.struct free found struct)
  | case5 visiting scope name args free e found other again =>
    rw [List.contains_iff_mem] at free again
    exact .guarded free ⟨found, Bool.eq_false_iff.mpr other⟩ again
  | case6 visiting scope name args free e found other new _ ih =>
    rw [List.contains_iff_mem] at free new
    have follows : ix.Follows name e := ⟨found, Bool.eq_false_iff.mpr other⟩
    have fits := Nat.le_trans (height_follow follows new)
      (Nat.le_trans (Nat.le_add_left _ _) bound)
    obtain ⟨m, rfl⟩ := Nat.exists_eq_add_one.mpr (Nat.zero_lt_of_lt fits)
    exact .follow free follows new (ih (Nat.le_of_succ_le_succ fits))
  | case7 visiting scope name args free missing k known =>
    rw [List.contains_iff_mem] at free
    exact .settled (.primitive free missing known)
  | case8 visiting scope name args free missing unknown =>
    rw [List.contains_iff_mem] at free
    exact .settled (.unknown free missing unknown)
  | case9 visiting scope t ih =>
    rw [TypeExpr.height] at bound
    obtain ⟨m, rfl⟩ := Nat.exists_eq_add_one.mpr (show 0 < n by omega)
    exact .pointer (ih (by omega))
  | case10 visiting scope t ih =>
    rw [TypeExpr.height] at bound
    obtain ⟨m, rfl⟩ := Nat.exists_eq_add_one.mpr (show 0 < n by omega)
    exact .slice (ih (by omega))
  | case11 visiting scope length t ih =>
    rw [TypeExpr.height] at bound
    obtain ⟨m, rfl⟩ := Nat.exists_eq_add_one.mpr (show 0 < n by omega)
    exact .array (ih (by omega))
  | case12 visiting scope k v key value =>
    rw [TypeExpr.height] at bound
    obtain ⟨m, rfl⟩ := Nat.exists_eq_add_one.mpr (show 0 < n by omega)
    exact .map (key (by omega)) (value (by omega))
  | case13 => exact .settled .anonymous
  | case14 => exact .settled .interface
  | case15 => exact .settled .verbatim

/-- Resolution ends: its rules give each type one shape, by calls that are nested no deeper than the
type and one declaration for each name. -/
theorem resolves_iff (bound : t.height + ix.size * (ix.height + 1) ≤ n) :
    ix.Resolves n [] scope t s ↔ s = ix.resolve scope t := by
  have all : ix.free [] = ix.size := by simp [free, size]
  constructor
  · exact Resolves.eq_resolveFrom
  · rintro rfl
    exact resolves_resolveFrom (all ▸ bound)

end Index

end TagSchema
