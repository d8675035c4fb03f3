import TagSchema.Number.Binary
import TagSchema.Text.Keyed

/-!
# JSON documents

An object is a list of members; one that was read holds its keys once each, in ascending order.
-/

namespace TagSchema

inductive Json.Number where
  | integer (n : Int)
  | float (x : Number.Binary64)
  deriving DecidableEq, Repr

inductive Json where
  | null
  | bool (b : Bool)
  | number (n : Json.Number)
  | string (s : String)
  | array (items : List Json)
  | object (members : List (String × Json))
  deriving Repr, Inhabited

namespace Json

def int (n : Int) : Json := .number (.integer n)

/-- The last member of that name. -/
def get? (j : Json) (key : String) : Option Json :=
  match j with
  | .object members => members.reverse.lookup key
  | _ => none

theorem sizeOf_lookup {key : String} {v : Json} :
    ∀ {ms : List (String × Json)}, ms.lookup key = some v → sizeOf v < sizeOf ms
  | (k, w) :: ms, h => by
    simp only [List.lookup_cons] at h
    split at h
    · simp_all; omega
    · have := sizeOf_lookup h
      simp; omega

theorem sizeOf_reverse (ms : List (String × Json)) : sizeOf ms.reverse = sizeOf ms := by
  have append (xs ys : List (String × Json)) : sizeOf (xs ++ ys) + 1 = sizeOf xs + sizeOf ys := by
    induction xs with
    | nil => simp; omega
    | cons x xs ih => simp; omega
  induction ms with
  | nil => rfl
  | cons m ms ih =>
    have := append ms.reverse [m]
    simp only [List.reverse_cons, List.cons.sizeOf_spec, List.nil.sizeOf_spec] at this ⊢
    omega

/-- A member is smaller than its object. -/
theorem sizeOf_get? {j v : Json} {key : String} (h : j.get? key = some v) :
    sizeOf v < sizeOf j := by
  cases j with
  | object ms =>
    have := sizeOf_lookup h
    rw [sizeOf_reverse] at this
    simp; omega
  | _ => simp [get?] at h

def string? : Json → Option String
  | .string s => some s
  | _ => none

@[simp] theorem string?_string (s : String) : (string s).string? = some s := rfl

def bool? : Json → Option Bool
  | .bool b => some b
  | _ => none

def array? : Json → Option (List Json)
  | .array items => some items
  | _ => none

def int? : Json → Option Int
  | .number (.integer n) => some n
  | _ => none

/-- An object of the members, the last of each name. -/
def ofMembers (members : List (String × Json)) : Json :=
  .object (Keyed.ofList members)

end Json

end TagSchema
