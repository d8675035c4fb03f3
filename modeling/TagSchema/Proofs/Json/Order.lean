import TagSchema.Json.Basic
import TagSchema.Proofs.Text.Keyed

/-!
# Order of members

A document that was read has the members of every object in order of their keys. `sorted` puts any
document into that order, and `get?_sorted` says that look-ups do not notice.
-/

namespace TagSchema.Json

mutual

/-- The document with each object's members in order of key, the last of each. -/
def sorted : Json → Json
  | .array items => .array (sortedItems items)
  | .object members => ofMembers (sortedMembers members)
  | .null => .null
  | .bool b => .bool b
  | .number n => .number n
  | .string s => .string s

def sortedItems : List Json → List Json
  | [] => []
  | j :: js => sorted j :: sortedItems js

def sortedMembers : List (String × Json) → List (String × Json)
  | [] => []
  | (k, v) :: ms => (k, sorted v) :: sortedMembers ms

end

theorem sortedItems_eq (items : List Json) : sortedItems items = items.map sorted := by
  induction items with
  | nil => rfl
  | cons j js ih => rw [sortedItems, ih, List.map_cons]

theorem sortedMembers_eq (ms : List (String × Json)) :
    sortedMembers ms = ms.map fun m => (m.1, m.2.sorted) := by
  induction ms with
  | nil => rfl
  | cons m ms ih => rw [sortedMembers, ih, List.map_cons]

theorem lookup_map (ms : List (String × Json)) (f : Json → Json) (key : String) :
    (ms.map fun m => (m.1, f m.2)).lookup key = (ms.lookup key).map f := by
  induction ms with
  | nil => rfl
  | cons m ms ih =>
    obtain ⟨k, v⟩ := m
    simp only [List.map_cons, List.lookup_cons]
    split
    · rfl
    · exact ih

/-- A member of the document in order is that member in order. -/
theorem get?_sorted (j : Json) (key : String) : j.sorted.get? key = (j.get? key).map sorted := by
  cases j with
  | object ms =>
    rw [sorted, ofMembers, get?, get?, Keyed.lookup_reverse (Keyed.ascending_ofList _),
      Keyed.lookup_ofList_eq, sortedMembers_eq, ← List.map_reverse, lookup_map]
  | _ => rfl

@[simp] theorem string?_sorted (j : Json) : j.sorted.string? = j.string? := by
  cases j <;> rfl

@[simp] theorem bool?_sorted (j : Json) : j.sorted.bool? = j.bool? := by
  cases j <;> rfl

theorem array?_sorted (j : Json) : j.sorted.array? = j.array?.map (·.map sorted) := by
  cases j with
  | array items => rw [sorted, array?, sortedItems_eq, array?, Option.map_some]
  | _ => rfl

end TagSchema.Json
