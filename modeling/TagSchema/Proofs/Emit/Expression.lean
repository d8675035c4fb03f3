import TagSchema.Emit.Expression
import TagSchema.Proofs.Except

/-!
# Parts of a schema expression

What a successful rendering has read from the rules of its field: `ofField_ok`, `leafBase?_cases`
and `ruleCall_ok`.
-/

namespace TagSchema.Emit

open TagSchema.Go (Expr)

/-! ### Kinds -/

theorem mem_kinds {rules : List Rule} {known : List (Rule × Rule.Kind)}
    (h : kinds rules = .ok known) {r : Rule} {k : Rule.Kind} :
    (r, k) ∈ known ↔ r ∈ rules ∧ r.kind? = some k := by
  rw [mem_mapM_ok h]
  constructor
  · rintro ⟨s, present, read⟩
    split at read
    · rename_i kind
      obtain ⟨rfl, rfl⟩ := Prod.mk.inj (Except.ok.inj read)
      exact ⟨present, kind⟩
    · cases read
  · rintro ⟨present, kind⟩
    exact ⟨r, present, by rw [kind]⟩

theorem kind_of_kinds {rules : List Rule} {known : List (Rule × Rule.Kind)}
    (h : kinds rules = .ok known) {r : Rule} (member : r ∈ rules) : ∃ k, r.kind? = some k := by
  obtain ⟨⟨s, k⟩, _, read⟩ := ok_of_mapM_ok h member
  split at read
  · rename_i kind
    exact ⟨_, kind⟩
  · cases read

theorem any_kinds {rules : List Rule} {known : List (Rule × Rule.Kind)}
    (h : kinds rules = .ok known) (k : Rule.Kind) :
    known.any (·.2 == k) = Rule.hasKind k rules := by
  rw [Bool.eq_iff_iff, List.any_eq_true, Rule.hasKind, List.any_eq_true]
  constructor
  · rintro ⟨⟨r, kind⟩, member, same⟩
    obtain rfl : kind = k := by simpa using same
    obtain ⟨present, read⟩ := (mem_kinds h).mp member
    exact ⟨r, present, by simp [read]⟩
  · rintro ⟨r, present, read⟩
    exact ⟨(r, k), (mem_kinds h).mpr ⟨present, by simpa using read⟩, by simp⟩

/-! ### What stands in for the leaf -/

/-- Which rules decide the base, and what the leaf must be for them. -/
inductive LeafBase (leaf : Shape) (rules : List Rule) : Option Base → Prop where
  | enum (values : List Expr) (element : (elementExpr? leaf).isSome)
      (present : Rule.hasKind .enum rules = true) : LeafBase leaf rules (some (.enum values))
  | time (noEnum : Rule.hasKind .enum rules = false) (present : Rule.hasKind .time rules = true) :
      LeafBase leaf rules (some .time)
  | uuid (noEnum : Rule.hasKind .enum rules = false) (noTime : Rule.hasKind .time rules = false)
      (string : leaf = .primitive .string) : LeafBase leaf rules (some .uuid)
  | own (noEnum : Rule.hasKind .enum rules = false) (noTime : Rule.hasKind .time rules = false)
      (noUuid : Rule.hasKind .uuid rules = true → leaf ≠ .primitive .string) :
      LeafBase leaf rules none

theorem leafBase?_cases {leaf : Shape} {rules : List Rule} {known : List (Rule × Rule.Kind)}
    {base : Option Base} (read : kinds rules = .ok known) (h : leafBase? leaf known = .ok base) :
    LeafBase leaf rules base := by
  have enum := any_kinds read .enum
  have time := any_kinds read .time
  have uuid := any_kinds read .uuid
  unfold leafBase? at h
  split at h
  · rename_i r k found
    obtain ⟨values, rendered, h⟩ := bind_ok h
    obtain rfl := pure_ok h
    refine .enum values ?_ ?_
    · unfold enumExprs at rendered
      split at rendered
      · cases rendered
      · rename_i element
        rw [element]
        rfl
    · have kind := List.find?_some found
      rw [← enum, List.any_eq_true]
      exact ⟨_, List.mem_of_find?_eq_some found, kind⟩
  · rename_i missing
    have noEnum : Rule.hasKind .enum rules = false := by
      rw [← enum, List.any_eq_false]
      exact List.find?_eq_none.mp missing
    rw [time, uuid] at h
    split at h
    · rename_i present
      obtain rfl := Except.ok.inj h
      exact .time noEnum present
    · rename_i noTime
      have noTime := Bool.eq_false_iff.mpr noTime
      split at h
      · rename_i chosen
        obtain rfl := Except.ok.inj h
        rw [Bool.and_eq_true, beq_iff_eq] at chosen
        exact .uuid noEnum noTime chosen.2
      · rename_i declined
        obtain rfl := Except.ok.inj h
        refine .own noEnum noTime fun present same => declined ?_
        rw [present, same]
        rfl

/-! ### The expression -/

/-- The expression of a field is its base and the calls of its rules, in order. -/
theorem ofField_ok {r : Record} {f : Field} {e : Expression} (h : Expression.ofField r f = .ok e) :
    ∃ known leaf calls, kinds f.rules = .ok known ∧ leafBase? f.shape.leaf known = .ok leaf ∧
      known.mapM (fun p => ruleCall f (Families.ofField f leaf) p.1 p.2) = .ok calls ∧
      e.base = .ofField r f leaf ∧
      e.calls = calls.filterMap id ++
        if f.optional && !Rule.hasKind .nilable f.rules then [optionalCall] else [] := by
  unfold Expression.ofField at h
  obtain ⟨known, read, h⟩ := bind_ok h
  obtain ⟨leaf, based, h⟩ := bind_ok h
  obtain ⟨calls, called, h⟩ := bind_ok h
  obtain rfl := pure_ok h
  refine ⟨known, leaf, calls, read, based, called, rfl, ?_⟩
  rw [← any_kinds read .nilable]

theorem ofField_of_ok {r : Record} {f : Field} {known : List (Rule × Rule.Kind)}
    {leaf : Option Base} {calls : List (Option Call)} (read : kinds f.rules = .ok known)
    (based : leafBase? f.shape.leaf known = .ok leaf)
    (called : known.mapM (fun p => ruleCall f (Families.ofField f leaf) p.1 p.2) = .ok calls) :
    Expression.ofField r f = .ok
      { base := .ofField r f leaf
        calls := calls.filterMap id ++
          if f.optional && !Rule.hasKind .nilable f.rules then [optionalCall] else [] } := by
  unfold Expression.ofField
  rw [bind_of_ok read, bind_of_ok based, bind_of_ok called, any_kinds read .nilable]
  rfl

theorem mem_calls {known : List (Rule × Rule.Kind)} {f : Field} {has : Families}
    {calls : List (Option Call)}
    (h : known.mapM (fun p => ruleCall f has p.1 p.2) = .ok calls) {c : Call} :
    c ∈ calls.filterMap id ↔ ∃ p ∈ known, ruleCall f has p.1 p.2 = .ok (some c) := by
  rw [← mem_mapM_ok h]
  simp

theorem ruleCall_ok {f : Field} {has : Families} {r : Rule} {k : Rule.Kind} {c : Option Call}
    (h : ruleCall f has r k = .ok c) :
    ∃ args, ruleArgs f has r k = .ok args ∧ c = args.map (Call.ofKind k) := by
  obtain ⟨args, read, h⟩ := bind_ok h
  exact ⟨args, read, pure_ok h⟩

/-- A rule is rendered with one argument at most, and whether it makes a call depends on its kind
alone, unless it is for identifiers. -/
theorem args_of_kind {f : Field} {has : Families} {r : Rule} {k : Rule.Kind}
    {args : Option (List Expr)} (h : ruleArgs f has r k = .ok args) (other : k ≠ .uuid) :
    args.isSome = !(k == .required || k == .enum || k == .time) ∧ ∀ xs ∈ args, xs.length ≤ 1 := by
  have single {x : Expr} : ∀ xs ∈ some [x], xs.length ≤ 1 := by simp
  have empty : ∀ xs ∈ some ([] : List Expr), xs.length ≤ 1 := by simp
  cases k with
  | required | enum | time =>
    obtain rfl := pure_ok h
    exact ⟨rfl, by simp⟩
  | nilable =>
    obtain rfl := pure_ok h
    exact ⟨rfl, empty⟩
  | min | max | gt | gte | lt | lte | multipleOf | default | prefault | refine | check =>
    obtain ⟨x, _, h⟩ := bind_ok h
    obtain rfl := pure_ok h
    exact ⟨rfl, single⟩
  | length | size | regex =>
    obtain ⟨_, _, h⟩ := bind_ok h
    obtain ⟨x, _, h⟩ := bind_ok h
    obtain rfl := pure_ok h
    exact ⟨rfl, single⟩
  | includes | startsWith | endsWith =>
    obtain ⟨_, _, h⟩ := bind_ok h
    obtain rfl := pure_ok h
    exact ⟨rfl, single⟩
  | uuid => exact (other rfl).elim
  | _ =>
    obtain ⟨_, _, h⟩ := bind_ok h
    obtain rfl := pure_ok h
    exact ⟨rfl, empty⟩

/-- A rule without a method calls nothing. -/
theorem method_of_args {f : Field} {has : Families} {r : Rule} {k : Rule.Kind} {args : List Expr}
    (h : ruleArgs f has r k = .ok (some args)) : k.method.isSome := by
  cases k with
  | required | time => cases h
  | _ => rfl

theorem demand_ok {applies : Bool} {r : Rule} {f : Field} {u : Unit}
    (h : demand applies r f = .ok u) : applies = true := by
  unfold demand at h
  split at h
  · assumption
  · cases h

end TagSchema.Emit
