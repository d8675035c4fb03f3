import TagSchema.Proofs.Check.Fault
import TagSchema.Proofs.Coerce.Text
import TagSchema.Proofs.Emit.Family
import TagSchema.Proofs.Emit.Literal
import TagSchema.Proofs.Tag.RoundTrip

/-!
# Parameters that both modes read

A schema takes all parameters of a bound together and accepts whatever converts to a number; a check
reads the first one by itself. `run_blames_value_iff` says which of the parameters that a schema
accepts a check reads as well.
-/

namespace TagSchema

open TagSchema.Number (Range Binary Binary64 SignedDigits readNat)

/-- An integer or a number with a fraction. -/
def Shape.isNumber (s : Shape) : Bool := s.primitive?.any fun k => k.isInteger || k.isFloat

/-- The kinds of value behind the pointers of a primitive, a slice or a map. -/
def Shape.holds (s : Shape) (kind : Value.Kind) : Bool :=
  match s.pointee, kind with
  | .primitive .string, .string | .primitive .bool, .bool => true
  | .primitive k, .int64 | .primitive k, .uint64 | .primitive k, .bigInt => k.isInteger
  | .primitive k, .float32 | .primitive k, .float64 => k.isFloat
  | .primitive k, .complex64 | .primitive k, .complex128 => k.isComplex
  | .slice _, .slice | .slice _, .bytes | .map _ _, .map => true
  | _, _ => false

/-- Digits, perhaps with a plus sign before them. -/
def IsCount (s : String) : Prop :=
  ∃ ds, ds ≠ [] ∧ (∀ c ∈ ds, c.isDigit = true) ∧ SignedDigits ds false s.toList

/-- The first parameter of a bound: it is not blank on a number, and plain digits on a size. -/
def Rule.IsReadFirst (s : Shape) (r : Rule) : Prop :=
  ∀ k, r.kind? = some k → (k.isNumericBound || k.isSizeBound) = true →
    if s.isNumber then Check.rawParam r ≠ "" else IsCount (Check.rawParam r)

namespace Check

theorem isNumeric_of_holds {s : Shape} {v : Value} (h : s.holds v.indirectKind = true) :
    v.isNumeric = s.isNumber := by
  unfold Shape.holds Value.indirectKind at h
  unfold Value.isNumeric Shape.isNumber Shape.primitive?
  generalize v.indirect = behind at h ⊢
  generalize s.pointee = pointee at h ⊢
  cases behind with
  | none =>
    cases pointee with
    | primitive k => cases k <;> cases h
    | _ => cases h
  | some v =>
    cases pointee with
    | primitive k => cases v <;> cases k <;> first | rfl | cases h
    | _ => cases v <;> first | rfl | cases h

/-! ### The first parameter -/

theorem toList_joined {r : Rule} {p q : String} {ps : List String} (h : r.params = p :: q :: ps) :
    r.joined.toList = p.toList ++ ' ' :: (" ".intercalate (q :: ps)).toList := by
  rw [Rule.joined, h, String.intercalate_cons_cons]
  simp

theorem trim_joined {r : Rule} (filled : rawParam r ≠ "")
    (noSpace : ' ' ∉ (Text.trim r.joined).toList) : Text.trim r.joined = rawParam r := by
  cases params : r.params with
  | nil =>
    rw [rawParam, Rule.param?, params] at filled
    exact (filled rfl).elim
  | cons p ps =>
    have raw : rawParam r = Text.trim p := by rw [rawParam, Rule.param?, params]; rfl
    rw [raw] at filled ⊢
    cases ps with
    | nil => simp [Rule.joined, params]
    | cons q ps =>
      apply String.toList_inj.mp
      rw [Text.toList_trim, toList_joined params] at noSpace ⊢
      rw [Text.toList_trim]
      refine Text.trimChars_first _ ?_ noSpace
      intro empty
      rw [Text.trim, empty] at filled
      exact filled rfl

theorem readNumber?_empty : readNumber? "" = none := by decide

theorem readNumber?_of_finite {s : String} {x : Binary64} (read : Binary.read? s = some x)
    (finite : x.isFinite = true) : (readNumber? s).isSome = true := by
  unfold readNumber?
  split
  · rfl
  · split
    · rfl
    · rw [read]
      simp [finite]

theorem readNumber?_of_spells {s : String} {n : Int} (spelled : Number.Spells s n)
    (low : -2 ^ 63 ≤ n) (high : n < 2 ^ 64) :
    ∃ w, readNumber? s = some w ∧ w.integer? = some n := by
  have signedRange : Range.signed 64 = ⟨-2 ^ 63, 2 ^ 63 - 1⟩ := rfl
  have unsignedRange : Range.unsigned 64 = ⟨0, 2 ^ 64 - 1⟩ := rfl
  have zero : (Range.signed 64).contains 0 = true := by decide
  unfold readNumber?
  cases read : (Range.signed 64).read? s with
  | some m =>
    have ⟨spelled', fits⟩ := Number.spells_of_read? zero read
    obtain rfl := spelled'.unique spelled
    rw [Range.contains_iff, signedRange] at fits
    dsimp only at fits
    refine ⟨_, rfl, congrArg some ?_⟩
    exact Int64.toInt_ofInt_of_le (by omega) (by omega)
  | none =>
    have large : 2 ^ 63 ≤ n := by
      by_contra small
      have fits : (Range.signed 64).contains n = true := by
        rw [Range.contains_iff, signedRange]
        dsimp only
        omega
      rw [Range.read?_of_spells zero spelled fits (by decide)] at read
      cases read
    obtain ⟨negative, ds, m, signed, digits, rfl⟩ := spelled
    have positive : negative = true → (Range.unsigned 64).lo < 0 := by
      rintro rfl
      simp only [Number.Decoded.signed, if_true] at large
      omega
    have fits : (Range.unsigned 64).contains (Number.Decoded.signed negative m) = true := by
      rw [Range.contains_iff, unsignedRange]
      dsimp only
      omega
    rw [(Range.read?_eq_some_iff (by decide)).mpr
      ⟨negative, ds, m, signed, digits, rfl, fits, positive⟩]
    refine ⟨_, rfl, congrArg some ?_⟩
    rw [UInt64.ofInt, UInt64.toNat_ofNat']
    omega

/-- Whatever fits an integer type of at most 64 bits is read as a number. -/
theorem readNumber?_of_wide {s : String} {t : Coerce.IntegerType} {n : Int}
    (low : -2 ^ 63 ≤ t.range.lo) (high : t.range.hi < 2 ^ 64)
    (wide : Coerce.WideText s (.integer t) n) (fits : t.range.contains n = true) :
    (readNumber? (Text.trim s)).isSome = true := by
  cases wide with
  | whole x _ read value => exact readNumber?_of_finite read (Coerce.isFinite_of_wholeNumber value)
  | integer read =>
    have ⟨low', high'⟩ := Range.contains_iff.mp fits
    obtain ⟨w, found, _⟩ := readNumber?_of_spells
      (Number.spells_of_read? Coerce.wide_zero read).1 (by omega) (by omega)
    rw [found]
    rfl

/-! ### Numbers -/

theorem trim_joined_ne {r : Rule} (filled : rawParam r ≠ "") : Text.trim r.joined ≠ "" := by
  intro empty
  rw [trim_joined filled (by rw [empty]; decide)] at empty
  exact filled empty

theorem no_space_of_wide {s : String} {target : Coerce.Target} {n : Int}
    (h : Coerce.WideText s target n) : ' ' ∉ (Text.trim s).toList := by
  cases h with
  | integer read => exact Number.no_space_of_readInteger Coerce.wide_zero read
  | whole x _ read _ => exact Number.no_space_of_readBinary read

theorem integerExpr_text {s : String} {t : Coerce.IntegerType} {x : Go.Expr}
    (filled : Text.trim s ≠ "") (h : Emit.integerExpr t (.string s) = .ok x) :
    ∃ n, Coerce.WideText s (.integer t) n ∧ t.range.contains n = true ∧
      x = .word (Number.integerText n) := by
  obtain ⟨n, converted, h⟩ := bind_ok h
  have ⟨wide, fits⟩ := Coerce.toInteger_text (Emit.coerced_ok converted)
  exact ⟨n, Coerce.wideOfString_ok filled wide, fits, pure_ok h⟩

/-- An integer that a schema takes from a rule stands in its first parameter. -/
theorem wide_of_integerExpr {r : Rule} {t : Coerce.IntegerType} {x : Go.Expr}
    (filled : rawParam r ≠ "") (h : Emit.integerExpr t (.string r.joined) = .ok x) :
    ∃ n, Coerce.WideText r.joined (.integer t) n ∧ t.range.contains n = true ∧
      Text.trim r.joined = rawParam r := by
  obtain ⟨n, wide, fits, _⟩ := integerExpr_text (trim_joined_ne filled) h
  exact ⟨n, wide, fits, trim_joined filled (no_space_of_wide wide)⟩

/-- What a schema takes for a bound on a number is one to a check, unless the first parameter is
blank. -/
theorem readNumber?_of_boundExpr {k : Primitive} {r : Rule} {x : Go.Expr}
    (h : Emit.boundExpr k r.joined = .ok x) (filled : rawParam r ≠ "") :
    (readNumber? (rawParam r)).isSome = true := by
  unfold Emit.boundExpr at h
  split at h
  · rename_i integer
    obtain ⟨t, written, low, high⟩ := Emit.scalar_integer integer
    rw [written] at h
    obtain ⟨n, wide, fits, first⟩ := wide_of_integerExpr filled h
    rw [← first]
    exact readNumber?_of_wide low high wide fits
  · split at h
    · rename_i float
      obtain ⟨_, h, _⟩ := bind_ok h
      obtain ⟨y, read, finite⟩ := Emit.scalar_float float (trim_joined_ne filled) h
      rw [← trim_joined filled (Number.no_space_of_readBinary read)]
      exact readNumber?_of_finite read finite
    · cases h

/-! ### Sizes -/

/-- What a schema takes for a size is one to a check exactly when the first parameter is plain
digits. -/
theorem readCount_iff {r : Rule} {x : Go.Expr} (h : Emit.sizeExpr r.joined = .ok x) :
    ((Range.unsigned 64).read? (rawParam r)).isSome = true ↔ IsCount (rawParam r) := by
  have zero : (Range.unsigned 64).contains 0 = true := by decide
  constructor
  · intro reads
    obtain ⟨n, read⟩ := Option.isSome_iff_exists.mp reads
    obtain ⟨negative, ds, m, spelled, digits, _, _, below⟩ := (Range.read?_eq_some_iff zero).mp read
    cases negative with
    | false => exact ⟨ds, (Number.readNat_eq_some digits).1, Number.readNat_isDigit digits, spelled⟩
    | true => exact absurd (below rfl) (by decide)
  · rintro ⟨ds, some, isDigit, spelled⟩
    obtain ⟨m, digits⟩ := Number.readNat_of_isDigit some isDigit
    have filled : rawParam r ≠ "" := by
      intro empty
      rw [empty] at spelled
      cases spelled
      exact some rfl
    obtain ⟨n, wide, fits, first⟩ := wide_of_integerExpr filled h
    rw [← first] at spelled ⊢
    have value := wide.of_spells ⟨false, ds, m, spelled, digits, rfl⟩
    rw [value] at fits
    rw [(Range.read?_eq_some_iff zero).mpr
      ⟨false, ds, m, spelled, digits, rfl, fits, Bool.noConfusion⟩]
    rfl

/-! ### Rules -/

theorem isNumber_of_boundExpr {s : Shape} {k : Primitive} {param : String} {x : Go.Expr}
    (pointee : s.pointee = .primitive k) (h : Emit.boundExpr k param = .ok x) :
    s.isNumber = true := by
  unfold Shape.isNumber Shape.primitive?
  rw [pointee]
  unfold Emit.boundExpr at h
  split at h
  · rename_i integer
    simp [integer]
  · split at h
    · rename_i float
      simp [float]
    · cases h

theorem isNumber_of_sized {f : Field} {leaf : Option Emit.Base}
    (h : (Emit.Families.ofField f leaf).sized = true) : f.shape.isNumber = false := by
  unfold Shape.isNumber Shape.primitive?
  simp only [Emit.Families.ofField, Bool.or_eq_true] at h
  rcases h with text | collection
  · rw [Bool.and_eq_true, beq_iff_eq] at text
    rw [text.1]
    rfl
  · split at collection
    · rename_i slice
      rw [slice]
      rfl
    · rename_i map
      rw [map]
      rfl
    · cases collection

/-- How a schema has written the parameter of a bound. -/
inductive BoundText (s : Shape) (r : Rule) (k : Rule.Kind) : Prop where
  | number (isNumber : s.isNumber = true) (noLength : k ≠ .length) (noSize : k ≠ .size)
      (p : Primitive) (x : Go.Expr) (written : Emit.boundExpr p r.joined = .ok x)
  | size (noNumber : s.isNumber = false) (isSize : k.isSizeBound = true) (x : Go.Expr)
      (written : Emit.sizeExpr r.joined = .ok x)

theorem boundText_of_limitArg {f : Field} {has : Emit.Families} {r : Rule} {k : Rule.Kind}
    {x : Go.Expr} (limit : k = .min ∨ k = .max) (h : Emit.limitArg r f has = .ok x) :
    BoundText f.shape r k := by
  have isSize : k.isSizeBound = true := by rcases limit with rfl | rfl <;> rfl
  unfold Emit.limitArg at h
  split at h
  · rename_i string
    obtain ⟨_, _, h⟩ := bind_ok h
    refine .size ?_ isSize x (Emit.checkedParam_ok h)
    rw [Shape.isNumber, Shape.primitive?, string]
    rfl
  · rename_i slice
    refine .size ?_ isSize x (Emit.checkedParam_ok h)
    rw [Shape.isNumber, Shape.primitive?, slice]
    rfl
  · rename_i map
    refine .size ?_ isSize x (Emit.checkedParam_ok h)
    rw [Shape.isNumber, Shape.primitive?, map]
    rfl
  · rename_i p _ pointee
    have written := Emit.checkedParam_ok h
    refine .number (isNumber_of_boundExpr pointee written) ?_ ?_ p x written <;>
      rcases limit with rfl | rfl <;> decide
  · cases h

theorem boundText_of_orderArg {f : Field} {r : Rule} {k : Rule.Kind} {x : Go.Expr}
    (order : k.isNumericBound = true) (h : Emit.orderArg r f = .ok x) : BoundText f.shape r k := by
  unfold Emit.orderArg at h
  split at h
  · rename_i p found
    have pointee := Emit.primitive?_eq_some (Option.filter_eq_some_iff.mp found).1
    have written := Emit.checkedParam_ok h
    refine .number (isNumber_of_boundExpr pointee written) ?_ ?_ p x written <;>
      rintro rfl <;> cases order
  · cases h

theorem boundText_of_ruleArgs {f : Field} {leaf : Option Emit.Base} {r : Rule} {k : Rule.Kind}
    {args : Option (List Go.Expr)}
    (h : Emit.ruleArgs f (Emit.Families.ofField f leaf) r k = .ok args)
    (bound : (k.isNumericBound || k.isSizeBound) = true) : BoundText f.shape r k := by
  cases k with
  | min =>
    obtain ⟨x, limited, _⟩ := bind_ok h
    exact boundText_of_limitArg (.inl rfl) limited
  | max =>
    obtain ⟨x, limited, _⟩ := bind_ok h
    exact boundText_of_limitArg (.inr rfl) limited
  | length | size =>
    obtain ⟨_, asked, h⟩ := bind_ok h
    obtain ⟨x, written, _⟩ := bind_ok h
    exact .size (isNumber_of_sized (Emit.demand_ok asked)) rfl x (Emit.checkedParam_ok written)
  | gt | gte | lt | lte | multipleOf =>
    obtain ⟨x, ordered, _⟩ := bind_ok h
    exact boundText_of_orderArg rfl ordered
  | _ => cases bound

theorem blamesValue_bound_iff {s : Shape} {r : Rule} {k : Rule.Kind} {v : Value}
    (text : BoundText s r k) (bound : (k.isNumericBound || k.isSizeBound) = true)
    (number : v.isNumeric = s.isNumber) :
    BlamesValue (checkKind k r v) ↔
      if s.isNumber then rawParam r ≠ "" else IsCount (rawParam r) := by
  cases text with
  | number isNumber noLength noSize p x written =>
    have asNumber : checkKind k r v = checkNumber k r v := by
      cases k with
      | min | max => simp only [checkKind, number, isNumber, if_true]
      | length => exact (noLength rfl).elim
      | size => exact (noSize rfl).elim
      | gt | gte | lt | lte | multipleOf => rfl
      | _ => cases bound
    rw [asNumber, checkNumber_blames_iff, if_pos isNumber]
    constructor
    · intro reads empty
      rw [empty, readNumber?_empty] at reads
      cases reads
    · exact readNumber?_of_boundExpr written
  | size noNumber isSize x written =>
    rw [checkKind_sizeBound isSize r (number.trans noNumber), checkLength_blames_iff,
      readCount_iff written, if_neg (by rw [noNumber]; decide)]

theorem blamesValue_regex {f : Field} {has : Emit.Families} {r : Rule}
    {args : Option (List Go.Expr)} (wellFormed : r.WellFormed) (kind : r.kind? = some .regex)
    (rendered : Emit.ruleArgs f has r .regex = .ok args) (v : Value) :
    BlamesValue (checkKind .regex r v) := by
  obtain ⟨_, _, h⟩ := bind_ok rendered
  obtain ⟨x, written, _⟩ := bind_ok h
  -- A pattern is the only parameter of its rule, so that joining leaves it as it is.
  have whole : r.joined = r.param?.getD "" := by
    have filled := wellFormed.params _ kind rfl
    have single := wellFormed.regex (Rule.Kind.name_of_ofName? kind).symm
    obtain ⟨p, ps, params⟩ := List.exists_cons_of_ne_nil filled
    rw [params, List.length_cons] at single
    obtain rfl : ps = [] := List.length_eq_zero_iff.mp (by omega)
    simp [Rule.joined, Rule.param?, params]
  unfold Emit.regexArg at written
  split at written
  · rename_i p read
    rw [whole] at read
    exact blamesValue_checkRegex v read
  · cases Emit.checkedParam_ok written

theorem blamesValue_rule_iff {f : Field} {leaf : Option Emit.Base} {r : Rule} {k : Rule.Kind}
    {args : Option (List Go.Expr)} {v : Value} (wellFormed : r.WellFormed)
    (kind : r.kind? = some k)
    (rendered : Emit.ruleArgs f (Emit.Families.ofField f leaf) r k = .ok args)
    (number : v.isNumeric = f.shape.isNumber) :
    BlamesValue (checkRule r v) ↔ r.IsReadFirst f.shape := by
  have checked : checkRule r v = checkKind k r v := by rw [checkRule, kind]
  rw [checked]
  by_cases bound : (k.isNumericBound || k.isSizeBound) = true
  · rw [blamesValue_bound_iff (boundText_of_ruleArgs rendered bound) bound number]
    constructor
    · intro reads l other _
      exact reads
    · exact fun reads => reads k kind bound
  · have vacuous : r.IsReadFirst f.shape := by
      intro l other isBound
      obtain rfl := Option.some.inj (kind.symm.trans other)
      exact (bound isBound).elim
    refine iff_of_true ?_ vacuous
    by_cases regex : k = .regex
    · subst regex
      exact blamesValue_regex wellFormed kind rendered v
    · rw [Bool.or_eq_true, not_or, Bool.not_eq_true, Bool.not_eq_true] at bound
      exact blamesValue_checkKind r v bound.1 bound.2 regex

/-! ### Runs -/

/-- On a field that has a schema, a check of a value of the field's shape finds fault with the value
alone exactly when it can read the first parameter of each bound. -/
theorem run_blames_value_iff {tag : String} {s : Emit.Settings} {r : Record} {f : Field}
    {text : String} {v : Value} (parsed : Tag.parse tag = .ok f.rules)
    (rendered : Emit.fieldText s r f = .ok text) (held : f.shape.holds v.indirectKind = true)
    (present : v.isNil = false) :
    (∀ i ∈ (run f.rules v).issues, i.code ≠ .invalidParam ∧ i.code ≠ .unknownRule) ↔
      ∀ rule ∈ f.rules, rule.IsReadFirst f.shape := by
  obtain ⟨e, written, _⟩ := bind_ok rendered
  obtain ⟨known, leaf, calls, read, _, called, _⟩ := Emit.ofField_ok written
  have single : ∀ rule ∈ f.rules, ∀ w : Value, w.isNumeric = v.isNumeric →
      (BlamesValue (checkRule rule w) ↔ rule.IsReadFirst f.shape) := by
    intro rule member w same
    obtain ⟨k, kind⟩ := Emit.kind_of_kinds read member
    obtain ⟨call, _, rendered⟩ := ok_of_mapM_ok called ((Emit.mem_kinds read).mpr ⟨member, kind⟩)
    obtain ⟨args, argued, _⟩ := Emit.ruleCall_ok rendered
    exact blamesValue_rule_iff (Tag.wellFormed_of_parse parsed rule member) kind argued
      (same.trans (isNumeric_of_holds held))
  rw [run, if_neg (by rw [present]; decide)]
  exact (runFrom_blames_iff single).trans (by simp)

def title (rules : List Rule) : Field :=
  .ofRules "Title" "title" "string" (.primitive .string) "" rules

theorem parse_title :
    Tag.parse "trim,min=+2" = .ok (title [⟨"trim", []⟩, ⟨"min", ["+2"]⟩]).rules :=
  toOption_eq_some_iff.mp (by decide +kernel)

theorem fieldText_title :
    Emit.fieldText .standard Emit.task (title [⟨"trim", []⟩, ⟨"min", ["+2"]⟩]) =
      .ok "schema.String().Trim().Min(2)" :=
  toOption_eq_some_iff.mp (by decide +kernel)

theorem run_title_blames_value_iff :
    (∀ i ∈ (run [⟨"trim", []⟩, ⟨"min", ["+2"]⟩] (.string "a")).issues,
        i.code ≠ .invalidParam ∧ i.code ≠ .unknownRule) ↔
      ∀ rule ∈ [(⟨"trim", []⟩ : Rule), ⟨"min", ["+2"]⟩],
        rule.IsReadFirst (.primitive .string) :=
  run_blames_value_iff (v := .string "a") parse_title fieldText_title rfl rfl

/-- A length with a point makes a schema, but a check cannot read it. -/
theorem run_length_with_point :
    Tag.parse "min=2.0" = .ok [⟨"min", ["2.0"]⟩] ∧
      Emit.fieldText .standard Emit.task (title [⟨"min", ["2.0"]⟩]) =
        .ok "schema.String().Min(2)" ∧
      (Shape.primitive .string).holds (Value.string "abc").indirectKind = true ∧
      (Value.string "abc").isNil = false ∧
      ∃ i ∈ (run [⟨"min", ["2.0"]⟩] (.string "abc")).issues, i.code = .invalidParam :=
  ⟨toOption_eq_some_iff.mp (by decide +kernel), toOption_eq_some_iff.mp (by decide +kernel), rfl,
    rfl, by decide +kernel⟩

end Check

end TagSchema
