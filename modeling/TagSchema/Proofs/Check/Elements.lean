import TagSchema.Proofs.Check.Fault
import TagSchema.Proofs.Emit.Chain

/-!
# Elements of arrays

Rules for an enumeration, a time or an identifier take the place of the innermost element in the
schema of nested slices. A check holds them against the array as a whole, which none of them
accepts: `run_agrees_iff` says what is left of the agreement of the two.
-/

namespace TagSchema

/-- The rules that may stand in for the leaf of a schema. -/
def Rule.Kind.replacesLeaf : Rule.Kind → Bool
  | .enum | .time | .uuid => true
  | _ => false

def Shape.sliceDepth : Shape → Nat
  | pointer s => s.sliceDepth
  | slice s => s.sliceDepth + 1
  | _ => 0

mutual

/-- The elements of nested arrays, behind all pointers; nil has none. -/
def Value.leaves : Value → List Value
  | .nil | .nilPointer => []
  | .pointer v => v.leaves
  | .array items => allLeaves items
  | v => [v]

def Value.allLeaves : List Value → List Value
  | [] => []
  | v :: vs => v.leaves ++ allLeaves vs

end

namespace Emit

theorem withLeaf_slices (leaf : Base) (s : Shape) :
    Base.withLeaf leaf s = Base.slices s.sliceDepth leaf := by
  induction s with
  | pointer s ih => exact ih
  | slice s ih => exact congrArg Base.slice ih
  | _ => rfl

/-- A rule that stands in for a leaf of text is pushed down to it. -/
theorem exists_leaf {f : Field} {leaf : Option Base} {rule : Rule} {k : Rule.Kind}
    (replaced : LeafBase f.shape.leaf f.rules leaf) (string : f.shape.leaf = .primitive .string)
    (present : rule ∈ f.rules) (kind : rule.kind? = some k) (replaces : k.replacesLeaf = true) :
    ∃ base, leaf = some base := by
  have held : Rule.hasKind k f.rules = true :=
    List.any_eq_true.mpr ⟨rule, present, by rw [kind, beq_self_eq_true]⟩
  cases replaced with
  | enum values | time | uuid => exact ⟨_, rfl⟩
  | own noEnum noTime noUuid =>
    cases k with
    | enum =>
      rw [noEnum] at held
      cases held
    | time =>
      rw [noTime] at held
      cases held
    | uuid => exact (noUuid held string).elim
    | _ => cases replaces

end Emit

namespace Check

/-- None of the rules accepts an array, whatever is in it. -/
theorem checkKind_array {k : Rule.Kind} (replaces : k.replacesLeaf = true) (r : Rule) {v : Value}
    {items : List Value} (array : v.indirect = some (.array items)) :
    ∃ message, checkKind k r v = .error ⟨.failed, message⟩ := by
  have noText : v.string? = none := by rw [Value.string?, array]
  cases k with
  | enum =>
    have noNumber : v.isNumeric = false := by rw [Value.isNumeric, array]
    have unlisted : isListed r.params v = false := by
      rw [isListed, noNumber, if_neg Bool.false_ne_true,
        Value.eq_of_indirect (f := Coerce.toText) (fun _ => rfl) array]
      rfl
    exact ⟨_, by rw [checkKind, unlisted]; rfl⟩
  | time =>
    have other : Predicate.timeValue v = false := by
      rw [Predicate.timeValue, array]
      rfl
    exact ⟨_, by simp only [checkKind, Rule.Kind.predicate?, other]; rfl⟩
  | uuid =>
    have other : Predicate.uuid v = false := by
      rw [Predicate.uuid, Predicate.matchesPattern, noText]
      rfl
    exact ⟨_, by simp only [checkKind, Rule.Kind.predicate?, other]; rfl⟩
  | _ => cases replaces

theorem isNil_of_array {v : Value} {items : List Value}
    (array : v.indirect = some (.array items)) : v.isNil = false := by
  rw [Value.isNil, array]
  rfl

theorem run_array {r : Rule} {k : Rule.Kind} {v : Value} {items : List Value}
    (kind : r.kind? = some k) (replaces : k.replacesLeaf = true)
    (array : v.indirect = some (.array items)) :
    ∃ message, (run [r] v).issues = [⟨Tag.writeRule r, .failed, message⟩] := by
  obtain ⟨message, failed⟩ := checkKind_array replaces r array
  refine ⟨message, ?_⟩
  rw [run_single (isNil_of_array array), issueOf, checkRule, kind]
  dsimp only
  rw [failed]
  rfl

/-- The schema of nested slices has the rule at its leaf, but a check finds the array itself at
fault. So the check of an array tells whether its leaves pass only if one of them fails. -/
theorem run_agrees_iff {s : Emit.Settings} {r : Record} {f : Field} {rule : Rule} {k : Rule.Kind}
    {depth : Nat} {text : String} {v : Value} {items : List Value}
    (string : f.shape.leaf = .primitive .string) (nested : f.shape.sliceDepth = depth + 1)
    (present : rule ∈ f.rules) (kind : rule.kind? = some k) (replaces : k.replacesLeaf = true)
    (rendered : Emit.fieldText s r f = .ok text) (array : v.indirect = some (.array items)) :
    (∃ leaf calls, Emit.LeafBase f.shape.leaf f.rules (some leaf) ∧
      Emit.CallsOf f f.rules calls ∧
      text = Emit.chainText s f (.ofField r f (some leaf)) calls ∧
      (Emit.Base.selfDepth r f.typeText = none →
        Emit.Base.ofField r f (some leaf) = .slice (.slices depth leaf))) ∧
    (∃ message, (run [rule] v).issues = [⟨Tag.writeRule rule, .failed, message⟩]) ∧
    (((run [rule] v).isOk = true ↔ ∀ w ∈ v.leaves, (run [rule] w).isOk = true) ↔
      ∃ w ∈ v.leaves, (run [rule] w).isOk = false) := by
  obtain ⟨message, issues⟩ := run_array kind replaces array
  refine ⟨?_, ⟨message, issues⟩, ?_⟩
  · obtain ⟨known, leaf, calls, read, based, ofRules, whole⟩ := Emit.fieldText_calls rendered
    have replaced := Emit.leafBase?_cases read based
    obtain ⟨base, rfl⟩ := Emit.exists_leaf replaced string present kind replaces
    refine ⟨base, calls, replaced, ofRules, whole, fun noSelf => ?_⟩
    rw [Emit.Base.ofField, noSelf]
    show Emit.Base.withLeaf base f.shape = _
    rw [Emit.withLeaf_slices, nested]
    rfl
  · have rejected : (run [rule] v).isOk = false := by
      rw [Report.isOk, issues]
      rfl
    rw [rejected]
    simp

def tags : Field :=
  .ofRules "Tags" "tags" "[]string" (.slice (.primitive .string)) "enum=a b" [⟨"enum", ["a", "b"]⟩]

theorem fieldText_tags :
    Emit.fieldText .standard Emit.task tags = .ok "schema.Slice(schema.Enum(\"a\", \"b\"))" :=
  toOption_eq_some_iff.mp (by decide +kernel)

theorem tags_agree_iff :
    Emit.fieldText .standard Emit.task tags = .ok "schema.Slice(schema.Enum(\"a\", \"b\"))" ∧
    (∃ leaf calls, Emit.LeafBase (.primitive .string) tags.rules (some leaf) ∧
      Emit.CallsOf tags tags.rules calls ∧
      "schema.Slice(schema.Enum(\"a\", \"b\"))" =
        Emit.chainText .standard tags (.ofField Emit.task tags (some leaf)) calls ∧
      (Emit.Base.selfDepth Emit.task "[]string" = none →
        Emit.Base.ofField Emit.task tags (some leaf) = .slice leaf)) ∧
    (∃ message, (run [⟨"enum", ["a", "b"]⟩] (.array [.string "a", .string "c"])).issues =
      [⟨Tag.writeRule ⟨"enum", ["a", "b"]⟩, .failed, message⟩]) ∧
    (((run [⟨"enum", ["a", "b"]⟩] (.array [.string "a", .string "c"])).isOk = true ↔
        ∀ w ∈ (Value.array [.string "a", .string "c"]).leaves,
          (run [⟨"enum", ["a", "b"]⟩] w).isOk = true) ↔
      ∃ w ∈ (Value.array [.string "a", .string "c"]).leaves,
        (run [⟨"enum", ["a", "b"]⟩] w).isOk = false) := by
  have nested : tags.shape.sliceDepth = 0 + 1 := rfl
  have present : ⟨"enum", ["a", "b"]⟩ ∈ tags.rules := List.mem_singleton.mpr rfl
  exact ⟨fieldText_tags, run_agrees_iff (k := .enum) (v := .array [.string "a", .string "c"]) rfl
    nested present (by decide) rfl fieldText_tags rfl⟩

/-- An array of listed texts is not listed itself. -/
theorem run_listed_elements :
    Emit.fieldText .standard Emit.task tags = .ok "schema.Slice(schema.Enum(\"a\", \"b\"))" ∧
      (∀ w ∈ (Value.array [.string "a"]).leaves,
        (run [⟨"enum", ["a", "b"]⟩] w).isOk = true) ∧
      (run [⟨"enum", ["a", "b"]⟩] (.array [.string "a"])).isOk = false := by
  refine ⟨fieldText_tags, fun w member => ?_, by decide +kernel⟩
  obtain rfl := List.mem_singleton.mp member
  decide +kernel

end Check

end TagSchema
