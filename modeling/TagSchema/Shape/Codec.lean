import TagSchema.Json.Basic
import TagSchema.Shape.Basic

/-!
# Shapes as JSON

A shape is an object with its `type` and, unless the type says all, its `value`. `ofJson?_toJson`
says that nothing is lost.
-/

namespace TagSchema.Shape

def tagged (type : String) : Json := .object [("type", .string type)]

def valued (type : String) (value : Json) : Json :=
  .object [("type", .string type), ("value", value)]

def toJson : Shape → Json
  | primitive k => valued "primitive" (.string k.goName)
  | pointer s => valued "pointer" s.toJson
  | slice s => valued "slice" s.toJson
  | map k v => valued "map" (.object [("key", k.toJson), ("value", v.toJson)])
  | time => tagged "time"
  | struct name => valued "struct" (.string name)
  | any => tagged "any"

/-- A type without a value admits a null one. -/
def bare? (j : Json) (s : Shape) : Option Shape :=
  match j.get? "value" with
  | none | some .null => some s
  | some _ => none

def ofJson? (j : Json) : Option Shape := do
  let type ← (j.get? "type").bind Json.string?
  if type = "time" then bare? j time
  else if type = "any" then bare? j any
  else
    match hj : j.get? "value" with
    | none => none
    | some value =>
      have := Json.sizeOf_get? hj
      if type = "primitive" then (value.string?.bind Primitive.ofCanonical?).map primitive
      else if type = "struct" then value.string?.map struct
      else if type = "pointer" then (ofJson? value).map pointer
      else if type = "slice" then (ofJson? value).map slice
      else if type = "map" then
        match hk : value.get? "key", hv : value.get? "value" with
        | some k, some v =>
          have := Json.sizeOf_get? hk
          have := Json.sizeOf_get? hv
          return map (← ofJson? k) (← ofJson? v)
        | _, _ => none
      else none
termination_by sizeOf j

@[simp] theorem get?_tagged (type : String) :
    (tagged type).get? "type" = some (.string type) ∧ (tagged type).get? "value" = none := by
  simp [tagged, Json.get?, List.lookup_cons]

@[simp] theorem get?_valued (type : String) (value : Json) :
    (valued type value).get? "type" = some (.string type) ∧
      (valued type value).get? "value" = some value := by
  simp [valued, Json.get?, List.lookup_cons]

@[simp] theorem get?_entry (k v : Json) :
    (Json.object [("key", k), ("value", v)]).get? "key" = some k ∧
      (Json.object [("key", k), ("value", v)]).get? "value" = some v := by
  simp [Json.get?, List.lookup_cons]

/-- A shape of a type with a value, read from that value. -/
theorem ofJson?_of_value {j value : Json} {type : String}
    (ht : j.get? "type" = some (.string type)) (hv : j.get? "value" = some value)
    (time : type ≠ "time") (any : type ≠ "any") :
    ofJson? j =
      if type = "primitive" then (value.string?.bind Primitive.ofCanonical?).map primitive
      else if type = "struct" then value.string?.map struct
      else if type = "pointer" then (ofJson? value).map pointer
      else if type = "slice" then (ofJson? value).map slice
      else if type = "map" then
        match value.get? "key", value.get? "value" with
        | some k, some v => do return map (← ofJson? k) (← ofJson? v)
        | _, _ => none
      else none := by
  rw [ofJson?]
  simp only [ht, Option.bind_eq_bind, Option.bind_some, Json.string?_string, time, any, if_false]
  split
  · simp_all
  · rename_i w hw
    obtain rfl : w = value := by simpa [hv] using hw.symm
    congr 5
    split <;> split <;> simp_all

theorem ofJson?_toJson (s : Shape) : ofJson? s.toJson = some s := by
  induction s with
  | time | any => unfold ofJson?; simp [toJson, bare?]
  | primitive k =>
    rw [toJson, ofJson?_of_value (get?_valued ..).1 (get?_valued ..).2 (by decide) (by decide)]
    simp [Primitive.ofCanonical?_goName]
  | struct name | pointer s ih | slice s ih | map k v hk hv =>
    rw [toJson, ofJson?_of_value (get?_valued ..).1 (get?_valued ..).2 (by decide) (by decide)]
    simp_all

end TagSchema.Shape
