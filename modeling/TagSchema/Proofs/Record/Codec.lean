import TagSchema.Proofs.Json.Order
import TagSchema.Record.Codec

/-!
# Records written and read

A record is read back from its JSON, in the order in which members are written and in the order of
their keys: `ofJson?_dump`. A member is left out where what it stands for is empty, and only there.
-/

namespace TagSchema

namespace Json

/-! ### Members of an object that is put together -/

theorem get?_append (as bs : List (String × Json)) (key : String) :
    (object (as ++ bs)).get? key = ((object bs).get? key).or ((object as).get? key) := by
  rw [get?, List.reverse_append, List.lookup_append]
  rfl

theorem get?_cons (name : String) (v : Json) (ms : List (String × Json)) (key : String) :
    (object ((name, v) :: ms)).get? key =
      ((object ms).get? key).or (if key = name then some v else none) := by
  rw [← List.singleton_append, get?_append]
  congr 1
  rw [get?, List.reverse_singleton, List.lookup_cons, List.lookup_nil]
  by_cases same : key = name
  · rw [if_pos same, same, beq_self_eq_true]
  · rw [if_neg same, beq_false_of_ne same]

theorem get?_nil (key : String) : (object []).get? key = none := rfl

theorem get?_optionalList (name key : String) (items : List Json) :
    (object (optionalList name items)).get? key =
      if key = name ∧ items ≠ [] then some (.array items) else none := by
  cases items with
  | nil => simp [optionalList, get?_nil]
  | cons j js => simp [optionalList, get?_cons, get?_nil]

theorem get?_unless (empty : Prop) [Decidable empty] (ms : List (String × Json)) (key : String) :
    (object (if empty then [] else ms)).get? key =
      if empty then none else (object ms).get? key := by
  split <;> rfl

/-- A member is left out where it is empty and only there, and a missing one is read as empty. -/
structure Omits {α β : Type} (write : α → Json) (read : Json → Option α) (name : String)
    (part : α → β) (empty : β) : Prop where
  written : ∀ a, (write a).get? name = none ↔ part a = empty
  read : ∀ j a, read j = some a → j.get? name = none → part a = empty

/-! ### Members in another order -/

theorem stringMember?_sorted (j : Json) (key : String) :
    j.sorted.stringMember? key = j.stringMember? key := by
  rw [stringMember?, get?_sorted, Option.bind_map]
  exact congrArg (Option.bind _) (funext string?_sorted)

theorem boolMember?_sorted (j : Json) (key : String) :
    j.sorted.boolMember? key = j.boolMember? key := by
  rw [boolMember?, get?_sorted, Option.bind_map]
  exact congrArg (Option.bind _) (funext bool?_sorted)

theorem items_sorted {α : Type} {read : Json → Option α} (same : ∀ j, read (sorted j) = read j)
    (j : Json) : (j.sorted.array?.bind (·.mapM read)) = j.array?.bind (·.mapM read) := by
  rw [array?_sorted, Option.bind_map]
  refine congrArg (Option.bind _) (funext fun items => ?_)
  show (items.map sorted).mapM read = _
  rw [List.mapM_map]
  exact congrArg (List.mapM · items) (funext same)

theorem listOr?_sorted {α : Type} {read : Json → Option α} (same : ∀ j, read (sorted j) = read j)
    (j : Json) (key : String) : j.sorted.listOr? key read = j.listOr? key read := by
  rw [listOr?, listOr?, get?_sorted]
  cases j.get? key with
  | none => rfl
  | some v => exact items_sorted same v

end Json

open Json (get?_append get?_cons get?_nil get?_optionalList get?_unless get?_sorted Omits)

/-! ### Shapes -/

namespace Shape

theorem bare?_sorted (j : Json) (s : Shape) : bare? j.sorted s = bare? j s := by
  rw [bare?, bare?, get?_sorted]
  cases j.get? "value" with
  | none => rfl
  | some v => cases v <;> rfl

/-- What the value of a shape stands for, by the type beside it. -/
def ofValue? (type : String) (value : Json) : Option Shape :=
  if type = "primitive" then (value.string?.bind Primitive.ofCanonical?).map primitive
  else if type = "struct" then value.string?.map struct
  else if type = "pointer" then (ofJson? value).map pointer
  else if type = "slice" then (ofJson? value).map slice
  else if type = "map" then
    match value.get? "key", value.get? "value" with
    | some k, some v => do return map (← ofJson? k) (← ofJson? v)
    | _, _ => none
  else none

theorem ofJson?_eq (j : Json) :
    ofJson? j = (j.stringMember? "type").bind fun type =>
      if type = "time" then bare? j time
      else if type = "any" then bare? j any
      else (j.get? "value").bind (ofValue? type) := by
  cases typed : j.stringMember? "type" with
  | none =>
    rw [Json.stringMember?] at typed
    rw [ofJson?, typed]
    rfl
  | some type =>
    by_cases bare : type = "time" ∨ type = "any"
    · rw [Json.stringMember?] at typed
      rw [ofJson?, typed]
      rcases bare with rfl | rfl <;> rfl
    · rw [not_or] at bare
      rw [Option.bind_some, if_neg bare.1, if_neg bare.2]
      cases valued : j.get? "value" with
      | none =>
        rw [Json.stringMember?] at typed
        rw [ofJson?, typed]
        simp only [Option.bind_eq_bind, Option.bind_some, bare.1, bare.2, if_false]
        split
        · rfl
        · rename_i found
          rw [valued] at found
          cases found
      | some value =>
        obtain ⟨t, member, string⟩ := Option.bind_eq_some_iff.mp typed
        obtain rfl : t = .string type := by
          cases t with
          | string s => rw [Option.some.inj string]
          | _ => cases string
        exact ofJson?_of_value member valued bare.1 bare.2

theorem ofValue?_sorted {type : String} {value : Json}
    (inside : ∀ j : Json, sizeOf j ≤ sizeOf value → ofJson? j.sorted = ofJson? j) :
    ofValue? type value.sorted = ofValue? type value := by
  have entries : (match value.sorted.get? "key", value.sorted.get? "value" with
      | some k, some v => do return map (← ofJson? k) (← ofJson? v)
      | _, _ => none) =
      match value.get? "key", value.get? "value" with
      | some k, some v => do return map (← ofJson? k) (← ofJson? v)
      | _, _ => none := by
    rw [get?_sorted, get?_sorted]
    cases key : value.get? "key" with
    | none => rfl
    | some k =>
      cases element : value.get? "value" with
      | none => rfl
      | some v =>
        simp only [Option.map_some, inside k (Nat.le_of_lt (Json.sizeOf_get? key)),
          inside v (Nat.le_of_lt (Json.sizeOf_get? element))]
  rw [ofValue?, ofValue?, Json.string?_sorted, inside value (Nat.le_refl _), entries]

/-- Reading a shape does not depend on the order of members. -/
theorem ofJson?_sorted (j : Json) : ofJson? j.sorted = ofJson? j := by
  rw [ofJson?_eq, ofJson?_eq, Json.stringMember?_sorted, bare?_sorted, bare?_sorted, get?_sorted]
  cases valued : j.get? "value" with
  | none => rfl
  | some value =>
    have inside : ∀ k : Json, sizeOf k ≤ sizeOf value → ofJson? k.sorted = ofJson? k := by
      intro k smaller
      have := Nat.lt_of_le_of_lt smaller (Json.sizeOf_get? valued)
      exact ofJson?_sorted k
    simp only [Option.map_some, Option.bind_some, ofValue?_sorted inside]
termination_by sizeOf j

end Shape

/-! ### Rules and fields -/

namespace Rule

theorem ofJson?_sorted (j : Json) : ofJson? j.sorted = ofJson? j := by
  rw [ofJson?, ofJson?, Json.stringMember?_sorted, Json.listOr?_sorted Json.string?_sorted]

theorem omits_params : Omits toJson ofJson? "params" params [] where
  written r := by simp [toJson, get?_cons, get?_optionalList]
  read j r h missing := by
    simp only [ofJson?, Json.listOr?, missing, Option.bind_eq_bind, Option.bind_eq_some_iff] at h
    obtain ⟨name, -, params, none, whole⟩ := h
    rw [← Option.some.inj whole, ← Option.some.inj none]

end Rule

namespace Field

theorem ofJson?_sorted (j : Json) : ofJson? j.sorted = ofJson? j := by
  have shape : (j.sorted.get? "semantic_type").bind Shape.ofJson? =
      (j.get? "semantic_type").bind Shape.ofJson? := by
    rw [get?_sorted, Option.bind_map]
    exact congrArg (Option.bind _) (funext Shape.ofJson?_sorted)
  have tag : ((j.sorted.get? "raw_tag").getD (.string "")).string? =
      ((j.get? "raw_tag").getD (.string "")).string? := by
    rw [get?_sorted]
    cases j.get? "raw_tag" with
    | none => rfl
    | some v => exact Json.string?_sorted v
  simp only [ofJson?, Json.stringMember?_sorted, Json.boolMember?_sorted,
    Json.listOr?_sorted Rule.ofJson?_sorted, shape, tag]

theorem get?_tag (f : Field) :
    f.toJson.get? "raw_tag" = if f.tag = "" then none else some (.string f.tag) := by
  simp [toJson, get?_append, get?_cons, get?_nil, get?_optionalList, get?_unless]

theorem get?_rules (f : Field) : f.toJson.get? "rules" =
    if f.rules = [] then none else some (.array (f.rules.map Rule.toJson)) := by
  simp [toJson, get?_append, get?_cons, get?_nil, get?_optionalList, get?_unless]

theorem ofJson?_toJson (f : Field) : ofJson? f.toJson = some f := by
  have rules : f.toJson.listOr? "rules" Rule.ofJson? = some f.rules :=
    Json.listOr?_written Rule.ofJson?_toJson f.get?_rules
  have tag : ((f.toJson.get? "raw_tag").getD (.string "")).string? = some f.tag := by
    rw [get?_tag]
    split
    · rename_i empty
      rw [empty]
      rfl
    · rfl
  rw [ofJson?, rules, tag]
  simp [Json.stringMember?, Json.boolMember?, toJson, get?_append, get?_cons, get?_nil,
    get?_optionalList, get?_unless, Shape.ofJson?_toJson, Json.bool?]

theorem omits_tag : Omits toJson ofJson? "raw_tag" tag "" where
  written f := by simp [get?_tag]
  read j f h missing := by
    simp only [ofJson?, missing, Option.bind_eq_bind, Option.bind_eq_some_iff] at h
    obtain ⟨_, -, _, -, _, -, _, -, _, none, _, -, _, -, _, -, _, -, whole⟩ := h
    rw [← Option.some.inj whole, ← Option.some.inj none]

theorem omits_rules : Omits toJson ofJson? "rules" rules [] where
  written f := by simp [get?_rules]
  read j f h missing := by
    simp only [ofJson?, Json.listOr?, missing, Option.bind_eq_bind, Option.bind_eq_some_iff] at h
    obtain ⟨_, -, _, -, _, -, _, -, _, -, _, none, _, -, _, -, _, -, whole⟩ := h
    rw [← Option.some.inj whole, ← Option.some.inj none]

end Field

/-! ### Records -/

namespace Record

theorem get?_typeParams (r : Record) : r.toJson.get? "type_params" =
    if r.typeParams = [] then none else some (.array (r.typeParams.map .string)) := by
  simp [toJson, get?_append, get?_cons, get?_nil, get?_optionalList, importsJson, get?_unless]

theorem get?_imports (r : Record) : r.toJson.get? "imports" =
    if r.imports = [] then none
    else some (.object (r.imports.map fun (name, path) => (name, .string path))) := by
  simp [toJson, get?_append, get?_cons, get?_nil, get?_optionalList, importsJson, get?_unless]

/-- Imports are read from any document that has them in their order. -/
theorem importsOfJson?_written {j : Json} {imports : List (String × String)}
    (member : j.get? "imports" = if imports = [] then none
      else some (.object (imports.map fun (name, path) => (name, .string path)))) :
    importsOfJson? j = some imports := by
  rw [importsOfJson?, member]
  cases imports with
  | nil => rfl
  | cons i is =>
    rw [if_neg (List.cons_ne_nil i is)]
    apply Json.mapM_written
    intro i
    rfl

theorem ofJson?_toJson (r : Record) : ofJson? r.toJson = some r := by
  have params : r.toJson.listOr? "type_params" Json.string? = some r.typeParams :=
    Json.listOr?_written Json.string?_string r.get?_typeParams
  have fields : (r.fields.map Field.toJson).mapM Field.ofJson? = some r.fields :=
    Json.mapM_written Field.ofJson?_toJson r.fields
  rw [ofJson?, params, importsOfJson?_written r.get?_imports]
  simp [Json.stringMember?, Json.boolMember?, toJson, get?_append, get?_cons, get?_nil,
    get?_optionalList, importsJson, get?_unless, Json.bool?, Json.array?, fields]

theorem sorted_imports {imports : List (String × String)} (ordered : Keyed.Ascending imports) :
    (Json.object (imports.map fun (name, path) => (name, .string path))).sorted =
      .object (imports.map fun (name, path) => (name, .string path)) := by
  have members : Json.sortedMembers (imports.map fun (name, path) => (name, .string path)) =
      imports.map fun (name, path) => (name, .string path) := by
    rw [Json.sortedMembers_eq, List.map_map]
    rfl
  rw [Json.sorted, members, Json.ofMembers, Keyed.ofList_of_ascending]
  exact List.pairwise_map.mpr ordered

/-- The document may have its members in order of key if the imports have that order too. -/
theorem ofJson?_sorted_toJson {r : Record} (ordered : Keyed.Ascending r.imports) :
    ofJson? r.toJson.sorted = some r := by
  have imports : importsOfJson? r.toJson.sorted = importsOfJson? r.toJson := by
    rw [importsOfJson?_written r.get?_imports]
    apply importsOfJson?_written
    rw [get?_sorted, get?_imports]
    split
    · rfl
    · rw [Option.map_some, sorted_imports ordered]
  have fields : ((r.toJson.sorted.get? "fields").bind fun v =>
      v.array?.bind (·.mapM Field.ofJson?)) =
      (r.toJson.get? "fields").bind fun v => v.array?.bind (·.mapM Field.ofJson?) := by
    rw [get?_sorted, Option.bind_map]
    exact congrArg (Option.bind _) (funext (Json.items_sorted Field.ofJson?_sorted))
  rw [← ofJson?_toJson r]
  simp only [ofJson?, Json.stringMember?_sorted, Json.boolMember?_sorted,
    Json.listOr?_sorted Json.string?_sorted, imports, fields]

theorem omits_typeParams : Omits toJson ofJson? "type_params" typeParams [] where
  written r := by simp [get?_typeParams]
  read j r h missing := by
    simp only [ofJson?, Json.listOr?, missing, Option.bind_eq_bind, Option.bind_eq_some_iff] at h
    obtain ⟨_, -, _, none, _, -, _, -, _, -, _, -, _, -, whole⟩ := h
    rw [← Option.some.inj whole, ← Option.some.inj none]

theorem omits_imports : Omits toJson ofJson? "imports" imports [] where
  written r := by simp [get?_imports]
  read j r h missing := by
    simp only [ofJson?, importsOfJson?, missing, Option.bind_eq_bind, Option.bind_eq_some_iff] at h
    obtain ⟨_, -, _, -, _, -, _, -, _, -, _, none, _, -, whole⟩ := h
    rw [← Option.some.inj whole, ← Option.some.inj none]

/-- Nothing is lost where a record is written as JSON and read again, in the order in which members
are written and in the order of their keys, and what was read is written the same. A member is left
out of a record, a field or a rule where it is empty, and a missing one is read as empty. -/
theorem ofJson?_dump :
    (∀ r : Record, ofJson? r.toJson = some r ∧
      (ofJson? r.toJson).map toJson = some r.toJson) ∧
    (∀ r : Record, Keyed.Ascending r.imports → ofJson? r.toJson.sorted = some r ∧
      (ofJson? r.toJson.sorted).map (·.toJson.sorted) = some r.toJson.sorted) ∧
    (Omits toJson ofJson? "type_params" typeParams [] ∧
      Omits toJson ofJson? "imports" imports []) ∧
    (Omits Field.toJson Field.ofJson? "raw_tag" Field.tag "" ∧
      Omits Field.toJson Field.ofJson? "rules" Field.rules []) ∧
    Omits Rule.toJson Rule.ofJson? "params" Rule.params [] := by
  refine ⟨fun r => ⟨ofJson?_toJson r, ?_⟩, fun r ordered => ⟨ofJson?_sorted_toJson ordered, ?_⟩,
    ⟨omits_typeParams, omits_imports⟩, ⟨Field.omits_tag, Field.omits_rules⟩, Rule.omits_params⟩
  · rw [ofJson?_toJson, Option.map_some]
  · rw [ofJson?_sorted_toJson ordered, Option.map_some]

/-- A record with a map of times and a plain field. -/
def visit : Record where
  name := "Visit"
  typeParams := []
  package := "desk"
  file := "visit.go"
  optedIn := true
  imports := [("clock", "time"), ("desk", "example.com/desk")]
  fields := [
    ⟨"At", "at", "map[string][]*time.Time", .map (.primitive .string) (.slice (.pointer .time)),
      "required,size=2", [⟨"required", []⟩, ⟨"size", ["2"]⟩], true, false, false⟩,
    ⟨"Who", "who", "*Page[T]", .pointer (.struct "Page[T]"), "", [], false, false, true⟩]

theorem ofJson?_dump_visit :
    Keyed.Ascending visit.imports ∧ ofJson? visit.toJson.sorted = some visit ∧
      visit.toJson.get? "type_params" = none := by
  have ordered : Keyed.Ascending visit.imports := by
    simp only [visit, Keyed.Ascending, List.pairwise_pair]
    decide
  exact ⟨ordered, (ofJson?_dump.2.1 visit ordered).1,
    (ofJson?_dump.2.2.1.1.written visit).mpr rfl⟩

end Record

end TagSchema
