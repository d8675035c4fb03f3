import TagSchema.Proofs.Check.Agreement
import TagSchema.Proofs.Emit.Chain
import TagSchema.Proofs.Number.Spelling
import TagSchema.Proofs.Predicate.Numeric

/-!
# Bounds on integers

A schema and a check read a decimal numeral along different paths. `fieldText_asks` says that on an
integer field they come to the same number: the literal that the schema carries is the one that the
check compares with, whatever the sign, the zeros in front or the width of the type.
-/

namespace TagSchema

open TagSchema.Go (Expr)
open TagSchema.Number (Spells integerText ne_of_spells solid_of_spells trim_of_spells)

/-- The rules that hold a number against those of their parameters. -/
def Rule.Kind.comparesNumbers : Rule.Kind → Bool
  | .min | .max | .gt | .gte | .lt | .lte | .multipleOf | .enum => true
  | _ => false

/-- What a rule for the number `n` asks of `z`. -/
def Rule.Kind.Asks (n z : Int) : Rule.Kind → Prop
  | .min | .gte => n ≤ z
  | .max | .lte => z ≤ n
  | .gt => n < z
  | .lt => z < n
  | .multipleOf => n ≠ 0 ∧ n ∣ z
  | .enum => z = n
  | _ => False

namespace Check

/-! ### Comparing integers -/

theorem isNumeric_of_integer? {v : Value} {z : Int} (h : v.integer? = some z) :
    v.isNumeric = true := by
  obtain ⟨_, word, _⟩ := Value.exists_word_of_integer? h
  exact Value.isNumeric_of_word? word

theorem isNil_of_integer? {v : Value} {z : Int} (h : v.integer? = some z) : v.isNil = false := by
  unfold Value.integer? at h
  unfold Value.isNil
  cases behind : v.indirect with
  | none =>
    rw [behind] at h
    cases h
  | some w => rfl

/-- A check holds one value against another as it would hold `z` against `n`. -/
structure Stands (v w : Value) (z n : Int) : Prop where
  order : Predicate.compare? v w = some (compare z n)
  divides : Predicate.multipleOf v w = true ↔ n ≠ 0 ∧ n ∣ z

theorem stands_of_integers {v w : Value} {n z : Int} (value : v.integer? = some z)
    (limit : w.integer? = some n) : Stands v w z n :=
  ⟨Predicate.compare?_integers value limit, Predicate.multipleOf_integers_iff value limit⟩

theorem numberRelation_iff {v w : Value} {n z : Int} (stands : Stands v w z n) {k : Rule.Kind}
    (compares : k.comparesNumbers = true) (other : k ≠ .enum) :
    (numberRelation k).1 v w = true ↔ k.Asks n z := by
  cases k with
  | min | gte => exact Predicate.gte_iff stands.order
  | max | lte => exact Predicate.lte_iff stands.order
  | gt => exact Predicate.gt_iff stands.order
  | lt => exact Predicate.lt_iff stands.order
  | multipleOf => exact stands.divides
  | enum => exact (other rfl).elim
  | _ => cases compares

theorem require_ok_iff {passed : Bool} {message : String} :
    require passed message = .ok () ↔ passed = true := by
  cases passed <;> simp [require]

theorem checkKind_number {k : Rule.Kind} {v : Value} (compares : k.comparesNumbers = true)
    (other : k ≠ .enum) (numeric : v.isNumeric = true) (r : Rule) :
    checkKind k r v = checkNumber k r v := by
  cases k with
  | min | max => rw [checkKind, numeric, if_pos rfl]
  | gt | gte | lt | lte | multipleOf => rfl
  | enum => exact (other rfl).elim
  | _ => cases compares

theorem checkKind_number_iff {k : Rule.Kind} {r : Rule} {v w : Value} {n z : Int}
    (compares : k.comparesNumbers = true) (other : k ≠ .enum) (numeric : v.isNumeric = true)
    (read : readNumber? (rawParam r) = some w) (stands : Stands v w z n) :
    checkKind k r v = .ok () ↔ k.Asks n z := by
  rw [checkKind_number compares other numeric, checkNumber, numberOf, read]
  exact require_ok_iff.trans (numberRelation_iff stands compares other)

/-- A number is listed if it stands to a parameter as a number to itself. -/
theorem isListed_iff {params : List String} {ns : List Int} {v : Value} {seen limit : Int → Int}
    (numeric : v.isNumeric = true)
    (read : List.Forall₂ (fun p n => ∃ w, readNumber? (Text.trim p) = some w ∧
      Stands v w (seen n) (limit n)) params ns) :
    isListed params v = true ↔ ∃ n ∈ ns, seen n = limit n := by
  rw [isListed, numeric, if_pos rfl]
  induction read with
  | nil => simp
  | @cons p n _ _ first _ ih =>
    obtain ⟨w, found, stands⟩ := first
    have same : (Predicate.gte v w && Predicate.lte v w) = true ↔ seen n = limit n := by
      rw [Bool.and_eq_true, Predicate.gte_iff stands.order, Predicate.lte_iff stands.order]
      omega
    rw [List.any_cons, Bool.or_eq_true, ih, found, Option.any_some, same]
    simp only [List.mem_cons, exists_eq_or_imp]

/-- A rule alone finds no fault with a value that is present exactly when its check passes. -/
theorem run_single_iff {r : Rule} {v : Value} (present : v.isNil = false) :
    (run [r] v).isOk = true ↔ checkRule r v = .ok () := by
  rw [Report.isOk, run_single present, issueOf]
  cases checkRule r v <;> simp

/-! ### Numerals -/

/-- A schema writes the integer that a numeral spells, in decimal. -/
theorem integerExpr_of_spells {t : Coerce.IntegerType} {p : String} {n : Int} {x : Expr}
    (spelled : Spells p n) (h : Emit.integerExpr t (.string p) = .ok x) :
    x = .word (integerText n) ∧ t.range.contains n = true := by
  have trimmed := trim_of_spells spelled
  have filled : Text.trim p ≠ "" := by
    rw [trimmed]
    exact ne_of_spells spelled
  obtain ⟨m, wide, fits, written⟩ := integerExpr_text filled h
  have same : m = n := wide.of_spells (by rwa [trimmed])
  rw [same] at fits written
  exact ⟨written, fits⟩

/-- A schema takes one integer from the numerals of a rule, so that there is only one. -/
theorem single_of_integerExpr {t : Coerce.IntegerType} {r : Rule} {ns : List Int} {x : Expr}
    (filled : r.params ≠ []) (spelled : List.Forall₂ Spells r.params ns)
    (h : Emit.integerExpr t (.string r.joined) = .ok x) :
    ∃ p n, r.params = [p] ∧ ns = [n] ∧ Spells p n := by
  cases params : r.params with
  | nil => exact (filled params).elim
  | cons p ps =>
    rw [params] at spelled
    cases spelled with
    | @cons _ n _ ms first later =>
      cases later with
      | nil => exact ⟨p, n, rfl, rfl, first⟩
      | @cons q m qs ms second later =>
        -- Joining two numerals leaves a space between them, which no integer has.
        have raw : rawParam r = p := by
          rw [rawParam, Rule.param?, params]
          exact trim_of_spells first
        obtain ⟨_, wide, _⟩ := wide_of_integerExpr (raw ▸ ne_of_spells first) h
        have solid : Text.allBlank (" ".intercalate (q :: qs)).toList = false := by
          obtain ⟨filled, solid⟩ := solid_of_spells second
          obtain ⟨c, cs, text⟩ := List.exists_cons_of_ne_nil filled
          have member : c ∈ q.toList := text ▸ List.mem_cons_self
          refine Text.allBlank_eq_false_iff.mpr ⟨c, ?_, solid c member⟩
          cases qs <;> simp [String.intercalate_cons_cons, member]
        refine (no_space_of_wide wide ?_).elim
        rw [Text.toList_trim, toList_joined params]
        refine Text.space_mem_trimChars ?_ solid
        rw [← Text.toList_trim, trim_of_spells first]
        exact (solid_of_spells first).1

/-! ### Literals of rules -/

/-- The text of a field carries the literals of a rule, in the call of the rule or in the base. -/
inductive Carries (s : Emit.Settings) (r : Record) (f : Field) (before : List Rule)
    (k : Rule.Kind) (after : List Rule) (literals : List Expr) (text : String) : Prop
  | call (other : k ≠ .enum) (single : literals.length = 1) (base : Emit.Base)
      (front back : List Emit.Call) (isBase : Emit.IsBase r f base)
      (ofBefore : Emit.CallsOf f before front) (ofAfter : Emit.CallsOf f after back)
      (whole : text = Emit.chainText s f base (front ++ .ofKind k literals :: back))
  | base (enum : k = .enum) (front back : List Emit.Call) (ofBefore : Emit.CallsOf f before front)
      (ofAfter : Emit.CallsOf f after back)
      (whole : text = Emit.chainText s f (.ofField r f (some (.enum literals))) (front ++ back))

theorem scalar_of_ruleArgs {f : Field} {has : Emit.Families} {rule : Rule} {k : Rule.Kind}
    {p : Primitive} {args : Option (List Expr)} (primitive : f.shape.primitive? = some p)
    (integer : p.isInteger = true) (compares : k.comparesNumbers = true) (other : k ≠ .enum)
    (h : Emit.ruleArgs f has rule k = .ok args) :
    ∃ x, Emit.scalar p (.string rule.joined) = .ok x ∧ args = some [x] := by
  have pointee := Emit.primitive?_eq_some primitive
  have bound {x : Expr} (written : Emit.boundExpr p rule.joined = .ok x) :
      Emit.scalar p (.string rule.joined) = .ok x := by
    rwa [Emit.boundExpr, if_pos integer] at written
  cases k with
  | min | max =>
    obtain ⟨x, written, h⟩ := bind_ok h
    refine ⟨x, bound ?_, pure_ok h⟩
    unfold Emit.limitArg at written
    rw [pointee] at written
    cases p with
    | string => cases integer
    | _ => exact Emit.checkedParam_ok written
  | gt | gte | lt | lte | multipleOf =>
    obtain ⟨x, written, h⟩ := bind_ok h
    refine ⟨x, bound ?_, pure_ok h⟩
    have numeric : (some p).filter (·.isNumeric) = some p := by
      simp [Primitive.isNumeric, integer]
    unfold Emit.orderArg at written
    rw [primitive, numeric] at written
    exact Emit.checkedParam_ok written
  | enum => exact (other rfl).elim
  | _ => cases compares

def literals (ns : List Int) : List Expr := ns.map fun n => .word (integerText n)

/-- The parameter is read as the number `n`, which stands in a schema as it is. -/
theorem reads_of_integerExpr {t : Coerce.IntegerType} {q : String} {n : Int} {x : Expr}
    (low : -2 ^ 63 ≤ t.range.lo) (high : t.range.hi < 2 ^ 64) (spelled : Spells q n)
    (h : Emit.integerExpr t (.string q) = .ok x) :
    x = .word (integerText n) ∧ ∃ w, readNumber? (Text.trim q) = some w ∧ w.integer? = some n := by
  have ⟨written, fits⟩ := integerExpr_of_spells spelled h
  rw [Number.Range.contains_iff] at fits
  rw [trim_of_spells spelled]
  exact ⟨written, readNumber?_of_spells spelled (by omega) (by omega)⟩

theorem reads_of_enum {t : Coerce.IntegerType} {rule : String} {params : List String}
    {ns : List Int} {values : List Expr} (low : -2 ^ 63 ≤ t.range.lo) (high : t.range.hi < 2 ^ 64)
    (spelled : List.Forall₂ Spells params ns)
    (h : (params.mapM fun q => (Emit.integerExpr t (.string q)).mapError
      (Emit.Error.invalidParam rule q)) = .ok values) :
    values = literals ns ∧
      List.Forall₂ (fun q n => ∃ w, readNumber? (Text.trim q) = some w ∧ w.integer? = some n)
        params ns := by
  induction spelled generalizing values with
  | nil =>
    obtain rfl := pure_ok h
    exact ⟨rfl, .nil⟩
  | cons first _ ih =>
    obtain ⟨x, xs, written, later, rfl⟩ := mapM_cons_eq_ok_iff.mp h
    have ⟨literal, read⟩ := reads_of_integerExpr low high first (mapError_eq_ok_iff.mp written)
    have ⟨rest, reads⟩ := ih later
    rw [literal, rest]
    exact ⟨rfl, .cons read reads⟩

theorem bound_asks {f : Field} {has : Emit.Families} {p : Primitive} {rule : Rule}
    {k : Rule.Kind} {args : Option (List Expr)} {ns : List Int}
    (primitive : f.shape.primitive? = some p) (integer : p.isInteger = true)
    (compares : k.comparesNumbers = true) (other : k ≠ .enum) (filled : rule.params ≠ [])
    (spelled : List.Forall₂ Spells rule.params ns) (h : Emit.ruleArgs f has rule k = .ok args) :
    ns.length = 1 ∧ args = some (literals ns) ∧
      ∀ v z, v.integer? = some z → (checkKind k rule v = .ok () ↔ ∃ n ∈ ns, k.Asks n z) := by
  obtain ⟨t, written, low, high⟩ := Emit.scalar_integer integer
  obtain ⟨x, literal, rfl⟩ := scalar_of_ruleArgs primitive integer compares other h
  rw [written] at literal
  obtain ⟨q, n, params, rfl, spells⟩ := single_of_integerExpr filled spelled literal
  have joined : rule.joined = q := by simp [Rule.joined, params]
  have raw : rawParam rule = Text.trim q := by
    rw [rawParam, Rule.param?, params]
    rfl
  rw [joined] at literal
  obtain ⟨rfl, w, found, limit⟩ := reads_of_integerExpr low high spells literal
  rw [← raw] at found
  refine ⟨rfl, rfl, fun v z value => ?_⟩
  rw [checkKind_number_iff compares other (isNumeric_of_integer? value) found
    (stands_of_integers value limit)]
  simp

theorem enum_asks {p : Primitive} {rule : Rule} {values : List Expr} {ns : List Int}
    (integer : p.isInteger = true) (spelled : List.Forall₂ Spells rule.params ns)
    (h : Emit.enumExprs rule (.primitive p) = .ok values) :
    values = literals ns ∧ ∀ v z, v.integer? = some z →
      (checkKind .enum rule v = .ok () ↔ ∃ n ∈ ns, Rule.Kind.enum.Asks n z) := by
  obtain ⟨t, written, low, high⟩ := Emit.scalar_integer integer
  rw [Emit.enumExprs, Emit.elementExpr?, written] at h
  obtain ⟨rfl, reads⟩ := reads_of_enum low high spelled h
  refine ⟨rfl, fun v z value => require_ok_iff.trans ?_⟩
  exact isListed_iff (isNumeric_of_integer? value) (reads.imp fun _ _ ⟨w, found, limit⟩ =>
    ⟨w, found, stands_of_integers value limit⟩)

/-- On an integer field, the literals of a rule are the integers that its parameters spell, and a
check of the rule alone compares with these. Of several enumerations the first alone is written. A
bound is taken to have a parameter, as every one has that was read from a tag. -/
theorem fieldText_asks {s : Emit.Settings} {r : Record} {f : Field} {p : Primitive} {rule : Rule}
    {k : Rule.Kind} {before after : List Rule} {ns : List Int} {text : String}
    (primitive : f.shape.primitive? = some p) (integer : p.isInteger = true)
    (rules : f.rules = before ++ rule :: after) (kind : rule.kind? = some k)
    (compares : k.comparesNumbers = true) (spelled : List.Forall₂ Spells rule.params ns)
    (filled : k ≠ .enum → rule.params ≠ [])
    (noEarlier : k = .enum → Rule.hasKind .enum before = false)
    (rendered : Emit.fieldText s r f = .ok text) :
    Carries s r f before k after (literals ns) text ∧
      ∀ v z, v.integer? = some z → ((run [rule] v).isOk = true ↔ ∃ n ∈ ns, k.Asks n z) := by
  obtain ⟨known, leaf, front, call, back, read, based, made, ofBefore, ofAfter, whole⟩ :=
    Emit.fieldText_rule rules kind rendered
  obtain ⟨args, argued, rfl⟩ := Emit.ruleCall_ok made
  have checked {v : Value} {z : Int} (value : v.integer? = some z) :
      (run [rule] v).isOk = true ↔ checkKind k rule v = .ok () := by
    rw [run_single_iff (isNil_of_integer? value), checkRule, kind]
  by_cases enum : k = .enum
  · subst enum
    obtain rfl := pure_ok argued
    obtain ⟨values, listed, rfl⟩ := Emit.leafBase?_first (rules ▸ read) kind (noEarlier rfl) based
    have leaf : f.shape.leaf = .primitive p := by
      rw [← Shape.leaf_pointee, Emit.primitive?_eq_some primitive]
      rfl
    rw [leaf] at listed
    obtain ⟨rfl, asks⟩ := enum_asks integer spelled listed
    exact ⟨.base rfl front back ofBefore ofAfter (by simpa using whole), fun v z value =>
      (checked value).trans (asks v z value)⟩
  · obtain ⟨single, rfl, asks⟩ :=
      bound_asks primitive integer compares enum (filled enum) spelled argued
    exact ⟨.call enum (by simpa [literals] using single) _ front back
      ⟨known, leaf, read, based, rfl⟩ ofBefore ofAfter (by simpa using whole), fun v z value =>
      (checked value).trans (asks v z value)⟩

def port : Field :=
  .ofRules "Port" "port" "uint16" (.primitive .uint16) "max=+065535" [⟨"max", ["+065535"]⟩]

theorem fieldText_port :
    Emit.fieldText .standard Emit.task port = .ok "schema.Uint16().Max(65535)" :=
  toOption_eq_some_iff.mp (by decide +kernel)

theorem spells_port : Spells "+065535" 65535 :=
  ⟨false, "065535".toList, 65535, .plus, by decide, rfl⟩

/-- The sign and the zero in front of the largest port are lost on the way to the schema. -/
theorem port_asks :
    Spells "+065535" 65535 ∧
      Emit.fieldText .standard Emit.task port = .ok "schema.Uint16().Max(65535)" ∧
      Carries .standard Emit.task port [] .max [] (literals [65535]) "schema.Uint16().Max(65535)" ∧
      ∀ v z, v.integer? = some z →
        ((run [⟨"max", ["+065535"]⟩] v).isOk = true ↔
          ∃ n ∈ [(65535 : Int)], Rule.Kind.max.Asks n z) :=
  ⟨spells_port, fieldText_port, fieldText_asks (p := .uint16) rfl rfl rfl (by decide) rfl
    (.cons spells_port .nil) (by simp) (by simp) fieldText_port⟩

end Check

end TagSchema
