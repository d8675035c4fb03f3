import TagSchema.Proofs.Emit.Family

/-!
# Chains of calls

The text of a field is its base and then one call for each rule, in the order of the tag, apart from
the rules that tell of presence or choose the base. `fieldText_chain` says so, together with what
follows for rules that change places, and which unknown rule is at fault.
-/

namespace TagSchema

/-- Whether a rule makes a call. A rule for identifiers does unless it chooses the base. -/
def Field.calls (f : Field) (rule : Rule) : Bool :=
  match rule.kind? with
  | none | some .required | some .enum | some .time => false
  | some .uuid => !(f.shape.leaf == .primitive .string && !f.hasRule .enum && !f.hasRule .time)
  | some _ => true

namespace Emit

open TagSchema.Go (Expr)

/-- The last call of a field that may be absent, unless its rules allow nil in its place. -/
def optionalCalls (f : Field) : List Call :=
  if f.optional && !f.hasRule .nilable then [optionalCall] else []

/-- A call of the rule's method, with one argument at most. -/
structure Call.IsOf (rule : Rule) (c : Call) : Prop where
  method : ∃ k, rule.kind? = some k ∧ k.method = some c.method
  args : c.args.length ≤ 1

/-- The calls of rules of a field, in order. -/
def CallsOf (f : Field) (rules : List Rule) (calls : List Call) : Prop :=
  List.Forall₂ Call.IsOf (rules.filter f.calls) calls

/-- The base that the rules of a field choose. -/
def IsBase (r : Record) (f : Field) (base : Base) : Prop :=
  ∃ known leaf, kinds f.rules = .ok known ∧ leafBase? f.shape.leaf known = .ok leaf ∧
    base = .ofField r f leaf

def chainText (s : Settings) (f : Field) (base : Base) (calls : List Call) : String :=
  base.render s.schemaAlias ++ String.join (calls.map Call.render) ++
    if f.optional && !f.hasRule .nilable then ".Optional()" else ""

/-! ### Unknown rules -/

theorem kinds_cons (rule : Rule) (rules : List Rule) :
    kinds (rule :: rules) = match rule.kind? with
      | none => .error (.unknownRule rule.name)
      | some k => (kinds rules).map ((rule, k) :: ·) := by
  rw [kinds, List.mapM_cons]
  cases rule.kind? with
  | none => rfl
  | some k =>
    show (kinds rules >>= fun rest => pure ((rule, k) :: rest)) = _
    cases kinds rules <;> rfl

theorem kinds_cons_eq_ok_iff {rule : Rule} {rules : List Rule} {known : List (Rule × Rule.Kind)} :
    kinds (rule :: rules) = .ok known ↔
      ∃ k rest, rule.kind? = some k ∧ kinds rules = .ok rest ∧ known = (rule, k) :: rest := by
  rw [kinds_cons]
  cases rule.kind? with
  | none => simp
  | some k => cases kinds rules <;> simp [Except.map, eq_comm]

theorem kinds_eq_error_iff {rules : List Rule} {e : Error} :
    kinds rules = .error e ↔
      ∃ rule, rules.find? (·.kind?.isNone) = some rule ∧ e = .unknownRule rule.name := by
  induction rules with
  | nil => simp [kinds, pure, Except.pure]
  | cons rule rules ih =>
    rw [kinds_cons, List.find?_cons]
    cases rule.kind? with
    | none => simp [eq_comm]
    | some k =>
      simp only [Option.isNone_some, ← ih]
      cases kinds rules <;> simp [Except.map]

/-- An attempt that finds no fault with the name of a rule. -/
def Known {α : Type} (x : Except Error α) : Prop := ∀ name, x ≠ .error (.unknownRule name)

theorem known_ok {α : Type} (a : α) : Known (.ok a) := nofun

theorem unknown_bind_iff {α β : Type} {x : Except Error α} {next : α → Except Error β}
    {name : String} (later : ∀ a, Known (next a)) :
    (x >>= next) = .error (.unknownRule name) ↔ x = .error (.unknownRule name) := by
  cases x with
  | error e =>
    constructor <;> exact fun same => congrArg Except.error (Except.error.inj same)
  | ok a => exact iff_of_false (later a name) nofun

theorem Known.bind {α β : Type} {x : Except Error α} {next : α → Except Error β} (first : Known x)
    (later : ∀ a, Known (next a)) : Known (x >>= next) :=
  fun name same => first name ((unknown_bind_iff later).mp same)

theorem Known.mapM {α β : Type} {f : α → Except Error β} (each : ∀ a, Known (f a)) (xs : List α) :
    Known (xs.mapM f) := by
  induction xs with
  | nil => exact known_ok []
  | cons x xs ih =>
    rw [List.mapM_cons]
    exact (each x).bind fun b => ih.bind fun bs => known_ok (b :: bs)

theorem known_invalidParam {α : Type} (rule param : String) (x : Except Fault α) :
    Known (x.mapError (.invalidParam rule param)) := by
  cases x with
  | error e => exact nofun
  | ok a => exact known_ok a

theorem known_checkedParam {α : Type} (r : Rule) (x : Except Fault α) : Known (checkedParam r x) :=
  known_invalidParam r.name r.joined x

theorem known_demand (applies : Bool) (r : Rule) (f : Field) : Known (demand applies r f) := by
  unfold demand
  split
  · exact known_ok ()
  · exact nofun

theorem known_enumExprs (r : Rule) (leaf : Shape) : Known (enumExprs r leaf) := by
  unfold enumExprs
  split
  · exact nofun
  · exact .mapM (fun p => known_invalidParam r.name p _) _

theorem known_valueExpr (r : Rule) (f : Field) : Known (valueExpr r f) := by
  have checked {α : Type} := known_checkedParam (α := α) r
  unfold valueExpr
  dsimp only
  split
  · exact checked _
  · exact checked _
  · cases anyExpr? (valueOfParam r.joined) with
    | none => exact nofun
    | some x => exact known_ok x
  · split
    · exact nofun
    · exact nofun
    · exact (checked _).bind fun items => known_ok _
  · split
    · exact nofun
    · split
      · refine Known.bind (.mapM (fun entry => ?_) _) fun pairs => known_ok _
        split
        · exact (checked _).bind fun x => known_ok _
        · exact nofun
      · exact nofun
      · exact nofun
  · exact nofun
  · exact nofun

theorem known_limitArg (r : Rule) (f : Field) (has : Families) : Known (limitArg r f has) := by
  unfold limitArg
  split
  · exact (known_demand _ r f).bind fun _ => known_checkedParam r _
  all_goals exact known_checkedParam r _

theorem known_orderArg (r : Rule) (f : Field) : Known (orderArg r f) := by
  unfold orderArg
  split <;> exact known_checkedParam r _

theorem known_regexArg (r : Rule) : Known (regexArg r) := by
  unfold regexArg
  split
  · exact known_ok _
  · exact known_checkedParam r _

theorem known_functionArg (r : Rule) : Known (functionArg r) := by
  unfold functionArg
  split
  · exact known_ok _
  · exact known_checkedParam r _

theorem known_ruleArgs (f : Field) (has : Families) (r : Rule) (k : Rule.Kind) :
    Known (ruleArgs f has r k) := by
  cases k with
  | required | enum | time | nilable => exact known_ok _
  | min | max => exact (known_limitArg r f has).bind fun _ => known_ok _
  | length | size =>
    exact (known_demand _ r f).bind fun _ => (known_checkedParam r _).bind fun _ => known_ok _
  | gt | gte | lt | lte | multipleOf => exact (known_orderArg r f).bind fun _ => known_ok _
  | regex => exact (known_demand _ r f).bind fun _ => (known_regexArg r).bind fun _ => known_ok _
  | default | prefault => exact (known_valueExpr r f).bind fun _ => known_ok _
  | refine | check => exact (known_functionArg r).bind fun _ => known_ok _
  | uuid =>
    unfold ruleArgs
    dsimp only
    split
    · exact known_ok _
    · exact (known_demand _ r f).bind fun _ => known_ok _
  | _ => exact (known_demand _ r f).bind fun _ => known_ok _

theorem known_leafBase? (leaf : Shape) (rules : List (Rule × Rule.Kind)) :
    Known (leafBase? leaf rules) := by
  unfold leafBase?
  split
  · exact (known_enumExprs _ leaf).bind fun _ => known_ok _
  · split
    · exact known_ok _
    · split <;> exact known_ok _

theorem ofField_unknown_iff {r : Record} {f : Field} {name : String} :
    Expression.ofField r f = .error (.unknownRule name) ↔
      kinds f.rules = .error (.unknownRule name) := by
  have called (leaf : Option Base) (p : Rule × Rule.Kind) :
      Known (ruleCall f (Families.ofField f leaf) p.1 p.2) :=
    (known_ruleArgs f _ p.1 p.2).bind fun _ => known_ok _
  unfold Expression.ofField
  apply unknown_bind_iff
  intro known
  apply Known.bind (known_leafBase? _ known)
  intro leaf
  exact (Known.mapM (called leaf) known).bind fun _ => known_ok _

theorem fieldText_unknown_iff {s : Settings} {r : Record} {f : Field} {name : String} :
    fieldText s r f = .error (.unknownRule name) ↔
      ∃ rule, f.rules.find? (·.kind?.isNone) = some rule ∧ rule.name = name := by
  unfold fieldText
  rw [unknown_bind_iff, ofField_unknown_iff, kinds_eq_error_iff]
  · simp only [Error.unknownRule.injEq, eq_comm]
  · exact fun e => known_ok _

/-! ### Calls -/

theorem isUuid_iff {f : Field} {leaf : Option Base}
    (replaced : LeafBase f.shape.leaf f.rules leaf) (present : f.hasRule .uuid = true) :
    (Families.ofField f leaf).uuid =
      (f.shape.leaf == .primitive .string && !f.hasRule .enum && !f.hasRule .time) := by
  unfold Field.hasRule at present ⊢
  cases replaced with
  | enum values element chosen => simp [Families.ofField, chosen]
  | time noEnum chosen => simp [Families.ofField, chosen]
  | uuid noEnum noTime string => simp [Families.ofField, string, noEnum, noTime]
  | own noEnum noTime noUuid => simp [Families.ofField, noUuid present]

theorem args_of_ruleArgs {f : Field} {leaf : Option Base} {rule : Rule} {k : Rule.Kind}
    {args : Option (List Expr)} (replaced : LeafBase f.shape.leaf f.rules leaf)
    (present : rule ∈ f.rules) (kind : rule.kind? = some k)
    (h : ruleArgs f (Families.ofField f leaf) rule k = .ok args) :
    args.isSome = f.calls rule ∧ ∀ xs ∈ args, xs.length ≤ 1 := by
  by_cases uuid : k = .uuid
  · subst uuid
    have chosen := isUuid_iff replaced (List.any_eq_true.mpr ⟨rule, present, by rw [kind]; rfl⟩)
    simp only [ruleArgs] at h
    simp only [Field.calls, kind]
    rw [← chosen]
    split at h
    · rename_i isUuid
      obtain rfl := pure_ok h
      exact ⟨by rw [isUuid]; rfl, by simp⟩
    · rename_i other
      obtain ⟨_, _, h⟩ := bind_ok h
      obtain rfl := pure_ok h
      exact ⟨by rw [Bool.eq_false_iff.mpr other]; rfl, by simp⟩
  · obtain ⟨made, short⟩ := args_of_kind h uuid
    refine ⟨?_, short⟩
    rw [made, Field.calls, kind]
    cases k with
    | uuid => exact (uuid rfl).elim
    | _ => rfl

theorem filterMap_id_cons {α : Type} (x : Option α) (xs : List (Option α)) :
    (x :: xs).filterMap id = x.toList ++ xs.filterMap id := by
  cases x <;> rfl

theorem callsOf_append {f : Field} {rules others : List Rule} {calls more : List Call}
    (first : CallsOf f rules calls) (later : CallsOf f others more) :
    CallsOf f (rules ++ others) (calls ++ more) := by
  unfold CallsOf
  rw [List.filter_append]
  exact List.rel_append first later

theorem callsOf_single {f : Field} {leaf : Option Base} {rule : Rule} {k : Rule.Kind}
    {call : Option Call} (replaced : LeafBase f.shape.leaf f.rules leaf)
    (present : rule ∈ f.rules) (kind : rule.kind? = some k)
    (h : ruleCall f (Families.ofField f leaf) rule k = .ok call) :
    CallsOf f [rule] call.toList := by
  obtain ⟨args, argued, rfl⟩ := ruleCall_ok h
  have ⟨made, short⟩ := args_of_ruleArgs replaced present kind argued
  unfold CallsOf
  rw [List.filter_singleton, ← made]
  cases args with
  | none => exact .nil
  | some args =>
    obtain ⟨m, method⟩ := Option.isSome_iff_exists.mp (method_of_args argued)
    refine .cons ⟨⟨k, kind, ?_⟩, short args rfl⟩ .nil
    rw [Call.ofKind, method, Option.getD_some]

/-- The calls of a part of the rules. -/
theorem callsOf_of_mapM {f : Field} {leaf : Option Base} {rules : List Rule}
    {known : List (Rule × Rule.Kind)} {calls : List (Option Call)}
    (replaced : LeafBase f.shape.leaf f.rules leaf) (part : rules ⊆ f.rules)
    (read : kinds rules = .ok known)
    (called : known.mapM (fun p => ruleCall f (Families.ofField f leaf) p.1 p.2) = .ok calls) :
    CallsOf f rules (calls.filterMap id) := by
  induction rules generalizing known calls with
  | nil =>
    obtain rfl := pure_ok read
    obtain rfl := pure_ok called
    exact .nil
  | cons rule rules ih =>
    rw [List.cons_subset] at part
    obtain ⟨k, rest, kind, later, rfl⟩ := kinds_cons_eq_ok_iff.mp read
    obtain ⟨call, calls, made, more, rfl⟩ := mapM_cons_eq_ok_iff.mp called
    rw [filterMap_id_cons]
    exact callsOf_append (callsOf_single replaced part.1 kind made) (ih part.2 later more)

/-! ### Rules that change places -/

theorem find?_swap {α : Type} {p : α → Bool} {a b : α} (other : p a = false ∨ p b = false)
    (before after : List α) :
    (before ++ b :: a :: after).find? p = (before ++ a :: b :: after).find? p := by
  rw [List.find?_append, List.find?_append, List.find?_cons, List.find?_cons, List.find?_cons,
    List.find?_cons]
  rcases other with no | no <;> rw [no]

theorem any_swap {α : Type} (p : α → Bool) (a b : α) (before after : List α) :
    (before ++ b :: a :: after).any p = (before ++ a :: b :: after).any p :=
  ((List.Perm.swap a b after).append_left before).any_eq

theorem leafBase?_swap (leaf : Shape) {p q : Rule × Rule.Kind} (other : p.2 ≠ .enum ∨ q.2 ≠ .enum)
    (before after : List (Rule × Rule.Kind)) :
    leafBase? leaf (before ++ q :: p :: after) = leafBase? leaf (before ++ p :: q :: after) := by
  have other : (p.2 == .enum) = false ∨ (q.2 == .enum) = false := by
    simpa only [beq_eq_false_iff_ne] using other
  have same (k : Rule.Kind) : (before ++ q :: p :: after).any (·.2 == k) =
      (before ++ p :: q :: after).any (·.2 == k) := any_swap _ p q before after
  unfold leafBase?
  rw [find?_swap other, same, same]

theorem valueExpr_rules (r : Rule) (f : Field) (rules : List Rule) :
    valueExpr r { f with rules } = valueExpr r f := by
  dsimp only [valueExpr]

/-- The call of one rule does not depend on the others, except through the base. -/
theorem ruleCall_rules (f : Field) (has : Families) (r : Rule) (k : Rule.Kind)
    (rules : List Rule) : ruleCall { f with rules } has r k = ruleCall f has r k := by
  unfold ruleCall ruleArgs
  simp only [valueExpr_rules]
  rfl

theorem kinds_pair_eq_ok_iff {before after : List Rule} {a b : Rule}
    {known : List (Rule × Rule.Kind)} :
    kinds (before ++ a :: b :: after) = .ok known ↔
      ∃ us j k vs, kinds before = .ok us ∧ a.kind? = some j ∧ b.kind? = some k ∧
        kinds after = .ok vs ∧ known = us ++ (a, j) :: (b, k) :: vs := by
  rw [kinds, mapM_append_eq_ok_iff]
  change (∃ us vs, kinds before = .ok us ∧ kinds (a :: b :: after) = .ok vs ∧ _) ↔ _
  simp only [kinds_cons_eq_ok_iff]
  constructor
  · rintro ⟨us, _, front, ⟨j, _, first, ⟨k, vs, second, back, rfl⟩, rfl⟩, rfl⟩
    exact ⟨us, j, k, vs, front, first, second, back, rfl⟩
  · rintro ⟨us, j, k, vs, front, first, second, back, rfl⟩
    exact ⟨us, _, front, ⟨j, _, first, ⟨k, vs, second, back, rfl⟩, rfl⟩, rfl⟩

/-- Neighbours that change places take their calls along. The base stays unless both are for an
enumeration. -/
theorem ofField_swap {r : Record} {f : Field} {before after : List Rule} {a b : Rule}
    {e : Expression} (rules : f.rules = before ++ a :: b :: after)
    (other : a.kind? ≠ some .enum ∨ b.kind? ≠ some .enum) (h : Expression.ofField r f = .ok e) :
    ∃ front x y back, CallsOf f before front ∧ CallsOf f [a] x ∧ CallsOf f [b] y ∧
      CallsOf f after back ∧ e = ⟨e.base, front ++ x ++ y ++ back ++ optionalCalls f⟩ ∧
      Expression.ofField r { f with rules := before ++ b :: a :: after } =
        .ok ⟨e.base, front ++ y ++ x ++ back ++ optionalCalls f⟩ := by
  obtain ⟨known, leaf, calls, read, based, called, base, chain⟩ := ofField_ok h
  have replaced := leafBase?_cases read based
  have part : before ++ a :: b :: after ⊆ f.rules := rules ▸ List.Subset.refl f.rules
  simp only [List.append_subset, List.cons_subset] at part
  obtain ⟨inBefore, inA, inB, inAfter⟩ := part
  rw [rules] at read
  obtain ⟨ka, j, k, kb, front, first, second, back, rfl⟩ := kinds_pair_eq_ok_iff.mp read
  obtain ⟨ca, x, y, cb, frontCalls, made, made', backCalls, rfl⟩ := mapM_pair_eq_ok_iff.mp called
  have join (u v : Option Call) : (ca ++ u :: v :: cb).filterMap id =
      ca.filterMap id ++ u.toList ++ v.toList ++ cb.filterMap id := by
    simp only [List.filterMap_append, filterMap_id_cons, List.append_assoc]
  have nilable : Rule.hasKind .nilable (before ++ b :: a :: after) = f.hasRule .nilable := by
    rw [Field.hasRule, rules]
    exact any_swap _ a b before after
  have enum : (a, j).2 ≠ .enum ∨ (b, k).2 ≠ .enum := by
    rw [first, second] at other
    exact other.imp (mt (congrArg some)) (mt (congrArg some))
  -- Each part of the rendering is run again, with the two rules in the other order.
  have swappedKinds := kinds_pair_eq_ok_iff.mpr ⟨ka, k, j, kb, front, second, first, back, rfl⟩
  have swappedCalls :=
    mapM_pair_eq_ok_iff.mpr ⟨ca, y, x, cb, frontCalls, made', made, backCalls, rfl⟩
  simp only [← ruleCall_rules f _ _ _ (before ++ b :: a :: after)] at swappedCalls
  have swapped : Expression.ofField r { f with rules := before ++ b :: a :: after } = .ok _ :=
    ofField_of_ok swappedKinds ((leafBase?_swap _ enum ka kb).trans based) swappedCalls
  have ofBefore := callsOf_of_mapM replaced inBefore front frontCalls
  have ofA := callsOf_single replaced inA first made
  have ofB := callsOf_single replaced inB second made'
  have ofAfter := callsOf_of_mapM replaced inAfter back backCalls
  refine ⟨ca.filterMap id, x.toList, y.toList, cb.filterMap id, ofBefore, ofA, ofB, ofAfter, ?_, ?_⟩
  · rw [← join, optionalCalls, Field.hasRule, ← chain]
  · rw [swapped, join, nilable, base]
    rfl

theorem leafBase?_first {leaf : Shape} {before after : List Rule} {rule : Rule}
    {known : List (Rule × Rule.Kind)} {base : Option Base}
    (read : kinds (before ++ rule :: after) = .ok known) (kind : rule.kind? = some .enum)
    (noEarlier : Rule.hasKind .enum before = false) (h : leafBase? leaf known = .ok base) :
    ∃ values, enumExprs rule leaf = .ok values ∧ base = some (.enum values) := by
  obtain ⟨ka, _, front, tail, rfl⟩ := mapM_append_eq_ok_iff.mp read
  obtain ⟨k, kb, same, _, rfl⟩ := kinds_cons_eq_ok_iff.mp tail
  obtain rfl := Option.some.inj (kind.symm.trans same)
  have missing : ka.find? (·.2 == .enum) = none := by
    rw [List.find?_eq_none, ← List.any_eq_false, any_kinds front]
    exact noEarlier
  unfold leafBase? at h
  rw [List.find?_append, missing, Option.none_or, List.find?_cons_of_pos rfl] at h
  obtain ⟨values, rendered, h⟩ := bind_ok h
  exact ⟨values, rendered, pure_ok h⟩

/-! ### Texts -/

theorem render_chain (s : Settings) (f : Field) (base : Base) (calls : List Call) :
    (Expression.mk base (calls ++ optionalCalls f)).render s.schemaAlias =
      chainText s f base calls := by
  have marked : String.join ((optionalCalls f).map Call.render) =
      if f.optional && !f.hasRule .nilable then ".Optional()" else "" := by
    unfold optionalCalls
    split <;> decide
  rw [Expression.render, List.map_append, String.join_append, marked, ← String.append_assoc]
  rfl

theorem fieldText_calls {s : Settings} {r : Record} {f : Field} {text : String}
    (h : fieldText s r f = .ok text) :
    ∃ known leaf calls, kinds f.rules = .ok known ∧ leafBase? f.shape.leaf known = .ok leaf ∧
      CallsOf f f.rules calls ∧ text = chainText s f (.ofField r f leaf) calls := by
  obtain ⟨e, formed, h⟩ := bind_ok h
  obtain ⟨known, leaf, calls, read, based, called, base, chain⟩ := ofField_ok formed
  refine ⟨known, leaf, calls.filterMap id, read, based,
    callsOf_of_mapM (leafBase?_cases read based) (List.Subset.refl _) read called, ?_⟩
  rw [pure_ok h, ← base, ← render_chain, optionalCalls, Field.hasRule, ← chain]

/-- The part that one rule has in the text of its field. -/
theorem fieldText_rule {s : Settings} {r : Record} {f : Field} {before after : List Rule}
    {rule : Rule} {k : Rule.Kind} {text : String} (rules : f.rules = before ++ rule :: after)
    (kind : rule.kind? = some k) (h : fieldText s r f = .ok text) :
    ∃ known leaf front call back, kinds f.rules = .ok known ∧
      leafBase? f.shape.leaf known = .ok leaf ∧
      ruleCall f (Families.ofField f leaf) rule k = .ok call ∧ CallsOf f before front ∧
      CallsOf f after back ∧
      text = chainText s f (.ofField r f leaf) (front ++ call.toList ++ back) := by
  obtain ⟨e, formed, h⟩ := bind_ok h
  obtain ⟨known, leaf, calls, read, based, called, base, chain⟩ := ofField_ok formed
  have replaced := leafBase?_cases read based
  have part : before ++ rule :: after ⊆ f.rules := rules ▸ List.Subset.refl f.rules
  rw [List.append_subset, List.cons_subset] at part
  obtain ⟨ka, _, front, tail, rfl⟩ := mapM_append_eq_ok_iff.mp (rules ▸ read)
  obtain ⟨j, kb, same, back, rfl⟩ := kinds_cons_eq_ok_iff.mp tail
  obtain rfl := Option.some.inj (kind.symm.trans same)
  obtain ⟨ca, _, frontCalls, tailCalls, rfl⟩ := mapM_append_eq_ok_iff.mp called
  obtain ⟨call, cb, made, backCalls, rfl⟩ := mapM_cons_eq_ok_iff.mp tailCalls
  refine ⟨_, leaf, ca.filterMap id, call, cb.filterMap id, read, based, made,
    callsOf_of_mapM replaced part.1 front frontCalls,
    callsOf_of_mapM replaced part.2.2 back backCalls, ?_⟩
  have join : (ca ++ call :: cb).filterMap id =
      ca.filterMap id ++ call.toList ++ cb.filterMap id := by
    rw [List.filterMap_append, filterMap_id_cons, List.append_assoc]
  rw [pure_ok h, ← base, ← render_chain, ← join, optionalCalls, Field.hasRule, ← chain]

/-- The first unknown rule of a field is told of before all else. The text of a field is its base,
the calls of its rules in their order, and the marker. Neighbours that change places take their
calls along and change nothing else, unless both are for an enumeration. -/
theorem fieldText_chain (s : Settings) (r : Record) (f : Field) :
    (∀ name, fieldText s r f = .error (.unknownRule name) ↔
      ∃ rule, f.rules.find? (·.kind?.isNone) = some rule ∧ rule.name = name) ∧
    (∀ text, fieldText s r f = .ok text →
      ∃ base calls, IsBase r f base ∧ CallsOf f f.rules calls ∧ text = chainText s f base calls) ∧
    (∀ before a b after text, f.rules = before ++ a :: b :: after →
      a.kind? ≠ some .enum ∨ b.kind? ≠ some .enum → fieldText s r f = .ok text →
        ∃ base front x y back, IsBase r f base ∧ CallsOf f before front ∧ CallsOf f [a] x ∧
          CallsOf f [b] y ∧ CallsOf f after back ∧
          text = chainText s f base (front ++ x ++ y ++ back) ∧
          fieldText s r { f with rules := before ++ b :: a :: after } =
            .ok (chainText s f base (front ++ y ++ x ++ back))) := by
  refine ⟨fun name => fieldText_unknown_iff, fun text h => ?_, ?_⟩
  · obtain ⟨known, leaf, calls, read, based, ofRules, whole⟩ := fieldText_calls h
    exact ⟨_, calls, ⟨known, leaf, read, based, rfl⟩, ofRules, whole⟩
  · intro before a b after text rules other h
    obtain ⟨e, formed, h⟩ := bind_ok h
    obtain ⟨known, leaf, _, read, based, _, base, _⟩ := ofField_ok formed
    obtain ⟨front, x, y, back, ofFront, ofA, ofB, ofBack, expression, swapped⟩ :=
      ofField_swap rules other formed
    refine ⟨e.base, front, x, y, back, ⟨known, leaf, read, based, base⟩, ofFront, ofA, ofB, ofBack,
      ?_, ?_⟩
    · rw [pure_ok h, ← render_chain, ← expression]
    · rw [fieldText, bind_of_ok swapped, ← render_chain]
      rfl

def note : Field :=
  .ofRules "Note" "note" "*string" (.pointer (.primitive .string)) "min=1,trim"
    [⟨"min", ["1"]⟩, ⟨"trim", []⟩]

theorem fieldText_note :
    fieldText .standard task note = .ok "schema.String().Min(1).Trim().Optional()" :=
  toOption_eq_some_iff.mp (by decide +kernel)

/-- The marker stays at the end when the calls before it change places. -/
theorem fieldText_note_chain :
    fieldText .standard task note = .ok "schema.String().Min(1).Trim().Optional()" ∧
      ∃ base front x y back, IsBase task note base ∧ CallsOf note [] front ∧
        CallsOf note [⟨"min", ["1"]⟩] x ∧ CallsOf note [⟨"trim", []⟩] y ∧ CallsOf note [] back ∧
        "schema.String().Min(1).Trim().Optional()" =
          chainText .standard note base (front ++ x ++ y ++ back) ∧
        fieldText .standard task { note with rules := [⟨"trim", []⟩, ⟨"min", ["1"]⟩] } =
          .ok (chainText .standard note base (front ++ y ++ x ++ back)) :=
  ⟨fieldText_note,
    (fieldText_chain .standard task note).2.2 [] ⟨"min", ["1"]⟩ ⟨"trim", []⟩ [] _ rfl
      (.inl (by decide)) fieldText_note⟩

end Emit

end TagSchema
