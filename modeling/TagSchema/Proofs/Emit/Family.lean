import TagSchema.Proofs.Emit.Expression

/-!
# Calls and the bases they need

Calls on text, on ordered numbers and on sizes belong to families that only some bases have.
`fits_iff` says when a rendered chain keeps to its base: a rule that replaces the base, or a type
that spells the enclosing record, takes the base away that a call would need.
-/

namespace TagSchema.Emit

open TagSchema.Go (Expr)

/-- A group of calls that only some bases have. -/
inductive Family where
  | text | order | size
  deriving DecidableEq, Repr

/-- `min` and `max` bound the value of a primitive that is no string, and the length of all else. -/
def Family.ofLimit (s : Shape) : Family :=
  match s.pointee with
  | .primitive .string => .size
  | .primitive _ => .order
  | _ => .size

/-- The family of a rule's call, if it belongs to one. -/
def Family.ofKind? (s : Shape) (k : Rule.Kind) : Option Family :=
  match k with
  | .gt | .gte | .lt | .lte | .multipleOf | .positive | .negative | .nonPositive | .nonNegative =>
    some .order
  | .min | .max => some (ofLimit s)
  | .length | .size => some .size
  | .trim | .lowercase | .uppercase | .includes | .startsWith | .endsWith | .regex => some .text
  | _ => if k.isFormat then some .text else none

/-- The family of a call on a field of the shape, by the name of its method. -/
def Family.ofCall? (s : Shape) (c : Call) : Option Family :=
  (Rule.Kind.all.find? (·.method == some c.method)).bind (ofKind? s)

/-- Whether a base has the calls of a family. -/
def Base.has : Base → Family → Bool
  | .primitive .string, .text | .uuid, .text => true
  | .primitive k, .order => k.isInteger || k.isFloat
  | .primitive .string, .size | .uuid, .size | .slice _, .size | .map _ _, .size => true
  | _, _ => false

/-- Every call belongs to a family that the base has, if it belongs to one. -/
def Expression.Fits (s : Shape) (e : Expression) : Prop :=
  ∀ c ∈ e.calls, ∀ family ∈ Family.ofCall? s c, e.base.has family = true

/-- Nothing has taken the place of the base that the family needs: no rule for an enumeration or a
time, and no reference to the enclosing record other than one in slices. -/
def Family.IsKept (r : Record) (f : Field) : Family → Prop
  | .text => Base.selfDepth r f.typeText = none
  | .order =>
    Base.selfDepth r f.typeText = none ∧ f.hasRule .enum = false ∧ f.hasRule .time = false ∧
      f.shape.primitive?.all (!·.isComplex) = true
  | .size =>
    match Base.selfDepth r f.typeText with
    | none => (∃ k v, f.shape.pointee = .map k v) → f.hasRule .time = false
    | some depth => 0 < depth

/-! ### Families of rules -/

theorem find?_method {k : Rule.Kind} {m : String} (h : k.method = some m) :
    Rule.Kind.all.find? (·.method == some m) = some k := by
  rw [← h]
  cases k <;> first | rfl | cases h

theorem ofCall?_ofKind {s : Shape} {k : Rule.Kind} (h : k.method.isSome) (args : List Expr) :
    Family.ofCall? s (Call.ofKind k args) = Family.ofKind? s k := by
  obtain ⟨m, method⟩ := Option.isSome_iff_exists.mp h
  simp only [Family.ofCall?, Call.ofKind, method, Option.getD_some, find?_method method,
    Option.bind_some]

theorem ofCall?_optionalCall (s : Shape) : Family.ofCall? s optionalCall = none := by
  have unknown : Rule.Kind.all.find? (·.method == some "Optional") = none := by decide
  rw [Family.ofCall?, optionalCall, unknown]
  rfl

/-- What rendering asks of a field before it makes a call of the family. -/
def Family.IsDemanded (f : Field) (has : Families) : Family → Prop
  | .text => has.text = true
  | .order => ∃ k, f.shape.pointee = .primitive k ∧ k.isNumeric = true
  | .size => has.sized = true

theorem isNumeric_of_boundExpr {k : Primitive} {param : String} {x : Expr}
    (h : boundExpr k param = .ok x) : k.isNumeric = true := by
  unfold boundExpr at h
  split at h
  · rename_i integer
    simp [Primitive.isNumeric, integer]
  · split at h
    · rename_i float
      simp [Primitive.isNumeric, float]
    · cases h

theorem checkedParam_ok {α : Type} {r : Rule} {x : Except Fault α} {a : α}
    (h : checkedParam r x = .ok a) : x = .ok a :=
  mapError_eq_ok_iff.mp h

theorem primitive?_eq_some {s : Shape} {k : Primitive} (h : s.primitive? = some k) :
    s.pointee = .primitive k := by
  unfold Shape.primitive? at h
  split at h
  · rename_i pointee
    rw [pointee, Option.some.inj h]
  · cases h

theorem sized_of_text {f : Field} {leaf : Option Base}
    (h : (Families.ofField f leaf).text = true) : (Families.ofField f leaf).sized = true := by
  simp only [Families.ofField] at h ⊢
  rw [h, Bool.true_or]

theorem demanded_of_limitArg {f : Field} {leaf : Option Base} {r : Rule} {x : Expr}
    (h : limitArg r f (Families.ofField f leaf) = .ok x) :
    (Family.ofLimit f.shape).IsDemanded f (Families.ofField f leaf) := by
  unfold limitArg at h
  split at h
  · rename_i string
    obtain ⟨_, asked, _⟩ := bind_ok h
    rw [Family.ofLimit, string]
    exact sized_of_text (demand_ok asked)
  · rename_i slice
    simp [Family.ofLimit, Family.IsDemanded, Families.ofField, slice]
  · rename_i map
    simp [Family.ofLimit, Family.IsDemanded, Families.ofField, map]
  · rename_i k other pointee
    have limit : Family.ofLimit f.shape = .order := by
      rw [Family.ofLimit, pointee]
      cases k with
      | string => exact (other rfl).elim
      | _ => rfl
    rw [limit]
    exact ⟨k, pointee, isNumeric_of_boundExpr (checkedParam_ok h)⟩
  · cases h

theorem demanded_of_orderArg {f : Field} {has : Families} {r : Rule} {x : Expr}
    (h : orderArg r f = .ok x) : Family.order.IsDemanded f has := by
  unfold orderArg at h
  split at h
  · rename_i k found
    obtain ⟨primitive, numeric⟩ := Option.filter_eq_some_iff.mp found
    exact ⟨k, primitive?_eq_some primitive, numeric⟩
  · cases h

theorem demanded_of_number {f : Field} {leaf : Option Base}
    (h : (Families.ofField f leaf).number = true) :
    Family.order.IsDemanded f (Families.ofField f leaf) := by
  simp only [Families.ofField] at h
  cases primitive : f.shape.primitive? with
  | none => simp [primitive] at h
  | some k => exact ⟨k, primitive?_eq_some primitive, by simpa [primitive] using h⟩

/-- A rule whose call belongs to a family is rendered on fields only that the family is for. -/
theorem demanded_of_ruleArgs {f : Field} {leaf : Option Base} {r : Rule} {k : Rule.Kind}
    {args : List Expr} (h : ruleArgs f (Families.ofField f leaf) r k = .ok (some args))
    {family : Family} (kind : Family.ofKind? f.shape k = some family) :
    family.IsDemanded f (Families.ofField f leaf) := by
  cases k with
  | min | max =>
    obtain ⟨x, limited, _⟩ := bind_ok h
    obtain rfl := Option.some.inj kind
    exact demanded_of_limitArg limited
  | length | size =>
    obtain ⟨_, asked, _⟩ := bind_ok h
    obtain rfl := Option.some.inj kind
    exact demand_ok asked
  | gt | gte | lt | lte | multipleOf =>
    obtain ⟨x, ordered, _⟩ := bind_ok h
    obtain rfl := Option.some.inj kind
    exact demanded_of_orderArg ordered
  | positive | negative | nonPositive | nonNegative =>
    obtain ⟨_, asked, _⟩ := bind_ok h
    obtain rfl := Option.some.inj kind
    exact demanded_of_number (demand_ok asked)
  | required | nilable | time | enum | default | prefault | refine | check => cases kind
  | uuid =>
    obtain rfl := Option.some.inj kind
    simp only [ruleArgs] at h
    split at h
    · cases h
    · obtain ⟨_, asked, _⟩ := bind_ok h
      exact demand_ok asked
  | _ =>
    obtain ⟨_, asked, _⟩ := bind_ok h
    obtain rfl := Option.some.inj kind
    exact demand_ok asked

/-! ### Bases of fields -/

theorem ofShape_pointee (r : Record) (s : Shape) : Base.ofShape r s = Base.ofShape r s.pointee := by
  induction s with
  | pointer s ih => exact ih
  | _ => rfl

theorem withLeaf_pointee (b : Base) (s : Shape) :
    Base.withLeaf b s = Base.withLeaf b s.pointee := by
  induction s with
  | pointer s ih => exact ih
  | _ => rfl

theorem slices_has (family : Family) (name : String) (n : Nat) :
    (Base.slices n (.lazy name)).has family = true ↔ family = .size ∧ 0 < n := by
  cases n <;> cases family <;> simp [Base.slices, Base.has]

/-- A field without a reference to its record has the base of what its pointers lead to. -/
theorem ofField_of_pointee {r : Record} {f : Field} {s : Shape} (leaf : Option Base)
    (noSelf : Base.selfDepth r f.typeText = none) (pointee : f.shape.pointee = s) :
    Base.ofField r f leaf = match leaf with
      | some b => Base.withLeaf b s
      | none => Base.ofShape r s := by
  unfold Base.ofField
  rw [noSelf]
  cases leaf with
  | none => simp only [ofShape_pointee r f.shape, pointee]
  | some b => simp only [withLeaf_pointee b f.shape, pointee]

theorem ofField_of_text {r : Record} {f : Field} {leaf : Option Base}
    (noSelf : Base.selfDepth r f.typeText = none) (h : (Families.ofField f leaf).text = true) :
    Base.ofField r f leaf = .primitive .string ∨ Base.ofField r f leaf = .uuid := by
  simp only [Families.ofField, Bool.and_eq_true, Bool.or_eq_true, beq_iff_eq] at h
  obtain ⟨pointee, kept⟩ := h
  rw [ofField_of_pointee leaf noSelf pointee]
  rcases kept with own | uuid
  · rw [Option.isNone_iff_eq_none] at own
    rw [own]
    exact .inl rfl
  · split at uuid
    · exact .inr rfl
    · cases uuid

theorem order_has_iff {r : Record} {f : Field} {leaf : Option Base} {k : Primitive}
    (replaced : LeafBase f.shape.leaf f.rules leaf)
    (noSelf : Base.selfDepth r f.typeText = none) (pointee : f.shape.pointee = .primitive k)
    (numeric : k.isNumeric = true) :
    (Base.ofField r f leaf).has .order = true ↔
      f.hasRule .enum = false ∧ f.hasRule .time = false ∧ k.isComplex = false := by
  rw [ofField_of_pointee leaf noSelf pointee]
  have leafEq : f.shape.leaf = .primitive k := by rw [← Shape.leaf_pointee, pointee]; rfl
  simp only [Field.hasRule]
  cases replaced with
  | enum values element present => simp [Base.withLeaf, Base.has, present]
  | time noEnum present => simp [Base.withLeaf, Base.has, present]
  | uuid noEnum noTime string =>
    rw [leafEq, Shape.primitive.injEq] at string
    subst string
    cases numeric
  | own noEnum noTime _ =>
    simp only [noEnum, noTime, true_and]
    cases k with
    | string | bool => cases numeric
    | _ =>
      simp [Base.ofShape, Base.has, Primitive.isInteger, Primitive.isFloat, Primitive.isComplex]

theorem size_has_iff {r : Record} {f : Field} {leaf : Option Base}
    (replaced : LeafBase f.shape.leaf f.rules leaf)
    (noSelf : Base.selfDepth r f.typeText = none)
    (sized : (Families.ofField f leaf).sized = true) :
    (Base.ofField r f leaf).has .size = true ↔
      ((∃ k v, f.shape.pointee = .map k v) → f.hasRule .time = false) := by
  simp only [Families.ofField, Bool.or_eq_true] at sized
  rcases sized with text | collection
  · have string : f.shape.pointee = .primitive .string := by
      rw [Bool.and_eq_true, beq_iff_eq] at text
      exact text.1
    have noMap : ¬ ∃ k v, f.shape.pointee = .map k v := by
      rintro ⟨k, v, map⟩
      rw [string] at map
      cases map
    rcases ofField_of_text noSelf text with base | base <;> simp [base, Base.has, noMap]
  · split at collection
    · rename_i element slice
      rw [ofField_of_pointee leaf noSelf slice]
      cases leaf <;> simp [Base.withLeaf, Base.ofShape, Base.has, slice]
    · rename_i key value map
      rw [ofField_of_pointee leaf noSelf map]
      have leafEq : f.shape.leaf = .map key value := by rw [← Shape.leaf_pointee, map]; rfl
      simp only [Field.hasRule, map, Shape.map.injEq, exists_and_left, exists_eq', and_true,
        forall_const]
      cases replaced with
      | enum values element present => rw [leafEq] at element; cases element
      | time noEnum present => simp [Base.withLeaf, Base.has, present]
      | uuid noEnum noTime string => rw [leafEq] at string; cases string
      | own noEnum noTime _ => simp [Base.ofShape, Base.has, noTime]
    · cases collection

/-- A base has a family that rendering has asked for exactly when nothing took its place. -/
theorem has_iff_isKept {r : Record} {f : Field} {leaf : Option Base} {family : Family}
    (replaced : LeafBase f.shape.leaf f.rules leaf)
    (demanded : family.IsDemanded f (Families.ofField f leaf)) :
    (Base.ofField r f leaf).has family = true ↔ family.IsKept r f := by
  cases self : Base.selfDepth r f.typeText with
  | some depth =>
    unfold Base.ofField
    rw [self, slices_has]
    cases family <;> simp [Family.IsKept, self]
  | none =>
    cases family with
    | text =>
      rcases ofField_of_text self demanded with base | base <;>
        simp [base, Base.has, Family.IsKept, self]
    | order =>
      obtain ⟨k, pointee, numeric⟩ := demanded
      rw [order_has_iff replaced self pointee numeric]
      simp [Family.IsKept, self, Shape.primitive?, pointee]
    | size =>
      rw [size_has_iff replaced self demanded]
      simp only [Family.IsKept, self]

/-! ### Calls of a field -/

/-- The rule for identifiers calls nothing where it is rendered: it has chosen the base. -/
theorem uuid_calls_nothing {f : Field} {leaf : Option Base} {r : Rule} {args : List Expr}
    (replaced : LeafBase f.shape.leaf f.rules leaf) (present : Rule.hasKind .uuid f.rules = true) :
    ruleArgs f (Families.ofField f leaf) r .uuid ≠ .ok (some args) := by
  intro h
  simp only [ruleArgs] at h
  split at h
  · cases h
  · rename_i other
    obtain ⟨_, asked, _⟩ := bind_ok h
    have text := demand_ok asked
    simp only [Families.ofField, Bool.and_eq_true, Bool.or_eq_true, beq_iff_eq] at text
    obtain ⟨pointee, own | uuid⟩ := text
    · cases replaced with
      | own noEnum noTime noUuid =>
        refine noUuid present ?_
        rw [← Shape.leaf_pointee, pointee]
        rfl
      | _ => cases own
    · exact other uuid

/-- Every other rule of a family makes a call. -/
theorem exists_args {f : Field} {has : Families} {r : Rule} {k : Rule.Kind}
    {args : Option (List Expr)} (h : ruleArgs f has r k = .ok args) (other : k ≠ .uuid)
    {family : Family} (kind : Family.ofKind? f.shape k = some family) : args.isSome := by
  rw [(args_of_kind h other).1]
  cases k with
  | required | enum | time => cases kind
  | _ => rfl

/-- Nothing takes a base away that a call of the field needs. -/
def Family.AreKept (r : Record) (f : Field) : Prop :=
  ∀ rule ∈ f.rules, ∀ k, rule.kind? = some k → k ≠ .uuid →
    ∀ family, Family.ofKind? f.shape k = some family → family.IsKept r f

/-- The calls of a family come from the rules of that family. -/
theorem fits_iff {r : Record} {f : Field} {e : Expression} (h : Expression.ofField r f = .ok e) :
    e.Fits f.shape ↔ Family.AreKept r f := by
  obtain ⟨known, leaf, calls, read, based, called, base, chain⟩ := ofField_ok h
  have replaced := leafBase?_cases read based
  have has_iff {rule : Rule} {k : Rule.Kind} {args : List Expr} {family : Family}
      (rendered : ruleArgs f (Families.ofField f leaf) rule k = .ok (some args))
      (kind : Family.ofKind? f.shape k = some family) :
      e.base.has family = true ↔ family.IsKept r f := by
    rw [base]
    exact has_iff_isKept replaced (demanded_of_ruleArgs rendered kind)
  constructor
  · intro fits rule member k kind other family ofKind
    have known_rule := (mem_kinds read).mpr ⟨member, kind⟩
    obtain ⟨call, _, rendered⟩ := ok_of_mapM_ok called known_rule
    obtain ⟨args, argued, rfl⟩ := ruleCall_ok rendered
    obtain ⟨args, rfl⟩ := Option.isSome_iff_exists.mp (exists_args argued other ofKind)
    refine (has_iff argued ofKind).mp (fits (Call.ofKind k args) ?_ family ?_)
    · rw [chain, List.mem_append]
      exact .inl ((mem_calls called).mpr ⟨_, known_rule, rendered⟩)
    · rw [ofCall?_ofKind (method_of_args argued), ofKind]
      rfl
  · intro kept c member family ofCall
    rw [chain, List.mem_append] at member
    rcases member with fromRule | marker
    · obtain ⟨⟨rule, k⟩, known_rule, rendered⟩ := (mem_calls called).mp fromRule
      obtain ⟨args, argued, made⟩ := ruleCall_ok rendered
      have ⟨member, kind⟩ := (mem_kinds read).mp known_rule
      obtain ⟨args, rfl, rfl⟩ := Option.map_eq_some_iff.mp made.symm
      rw [ofCall?_ofKind (method_of_args argued)] at ofCall
      refine (has_iff argued ofCall).mpr (kept rule member k kind ?_ family ofCall)
      rintro rfl
      refine uuid_calls_nothing replaced ?_ argued
      rw [Rule.hasKind, List.any_eq_true]
      exact ⟨rule, member, by rw [kind]; rfl⟩
    · have only : c = optionalCall := by
        split at marker
        · exact List.mem_singleton.mp marker
        · cases marker
      rw [only, ofCall?_optionalCall] at ofCall
      cases ofCall

/-- A rendered field is the text of a chain that keeps to its base exactly when nothing takes the
base away from the field's rules. -/
theorem fieldText_fits_iff {s : Settings} {r : Record} {f : Field} {text : String}
    (h : fieldText s r f = .ok text) :
    ∃ e, Expression.ofField r f = .ok e ∧ text = e.render s.schemaAlias ∧
      (e.Fits f.shape ↔ Family.AreKept r f) := by
  obtain ⟨e, rendered, h⟩ := bind_ok h
  exact ⟨e, rendered, pure_ok h, fits_iff rendered⟩

def task : Record where
  name := "Task"
  typeParams := []
  package := "plan"
  file := "task.go"
  optedIn := false
  imports := []
  fields := []

def labels : Field :=
  .ofRules "Labels" "labels" "[]string" (.slice (.primitive .string)) "enum=a b,min=1"
    [⟨"enum", ["a", "b"]⟩, ⟨"min", ["1"]⟩]

def level : Field :=
  .ofRules "Level" "level" "int" (.primitive .int) "enum=1 2,positive"
    [⟨"enum", ["1", "2"]⟩, ⟨"positive", []⟩]

theorem fieldText_labels :
    fieldText .standard task labels =
      .ok "schema.Slice(schema.Enum(\"a\", \"b\")).Min(1)" :=
  toOption_eq_some_iff.mp (by decide +kernel)

theorem fieldText_level :
    fieldText .standard task level = .ok "schema.Enum(1, 2).Positive()" :=
  toOption_eq_some_iff.mp (by decide +kernel)

/-- The slice stays when an enumeration takes the place of its elements. -/
theorem labels_fit_iff :
    fieldText .standard task labels =
        .ok "schema.Slice(schema.Enum(\"a\", \"b\")).Min(1)" ∧
      ∃ e, Expression.ofField task labels = .ok e ∧
        "schema.Slice(schema.Enum(\"a\", \"b\")).Min(1)" = e.render "schema" ∧
          (e.Fits labels.shape ↔ Family.AreKept task labels) :=
  ⟨fieldText_labels, fieldText_fits_iff fieldText_labels⟩

/-- An enumeration of numbers takes the base away from a rule for the sign. -/
theorem level_not_fits :
    fieldText .standard task level = .ok "schema.Enum(1, 2).Positive()" ∧
      ∃ e, Expression.ofField task level = .ok e ∧
        "schema.Enum(1, 2).Positive()" = e.render "schema" ∧ ¬ e.Fits level.shape := by
  refine ⟨fieldText_level, ?_⟩
  obtain ⟨e, rendered, h⟩ := bind_ok fieldText_level
  refine ⟨e, rendered, pure_ok h, fun fits => ?_⟩
  have kept := (fits_iff rendered).mp fits ⟨"positive", []⟩ (by decide) .positive (by decide)
    (by decide) .order rfl
  exact absurd kept.2.1 (by decide)

end TagSchema.Emit
