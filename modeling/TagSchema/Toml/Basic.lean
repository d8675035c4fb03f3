/-!
# Configuration documents

Tables of strings, truth values and arrays. A table remembers how it came to be, since that decides
whether it may still grow: a table is given by one header, by dotted keys or in line, never by two
of these. `lookup_bind` says that a bound key is found.
-/

namespace TagSchema

namespace Toml

/-- How a table was given. -/
inductive Origin where
  /-- Between braces. -/
  | braced
  | header
  /-- By the header of a table inside it. -/
  | implied
  | dotted
  deriving DecidableEq, Repr

end Toml

inductive Toml where
  | string (s : String)
  | bool (b : Bool)
  | array (items : List Toml)
  | table (origin : Toml.Origin) (members : List (String × Toml))
  deriving Repr

namespace Toml

abbrev Members := List (String × Toml)

/-- The members with the value of a key replaced; a new key goes to the end. -/
def set (key : String) (value : Toml) : Members → Members
  | [] => [(key, value)]
  | (k, v) :: ms => if key = k then (key, value) :: ms else (k, v) :: set key value ms

/-- Binds a value to dotted keys. No key is bound twice, and only tables that dotted keys began are
continued. -/
def bind : List String → Toml → Members → Option Members
  | [], _, _ => none
  | [key], value, ms => if (ms.lookup key).isNone then some (set key value ms) else none
  | key :: keys, value, ms =>
    match ms.lookup key with
    | none => (bind keys value []).map fun inner => set key (.table .dotted inner) ms
    | some (.table .dotted inner) =>
      (bind keys value inner).map fun inner => set key (.table .dotted inner) ms
    | some _ => none

/-- Opens the table of a header. It must be new, apart from headers of tables inside it. -/
def openTable : List String → Members → Option Members
  | [], _ => none
  | [key], ms =>
    match ms.lookup key with
    | none => some (set key (.table .header []) ms)
    | some (.table .implied inner) => some (set key (.table .header inner) ms)
    | some _ => none
  | key :: keys, ms =>
    match ms.lookup key with
    | none => (openTable keys []).map fun inner => set key (.table .implied inner) ms
    | some (.table origin inner) =>
      if origin = .braced then none
      else (openTable keys inner).map fun inner => set key (.table origin inner) ms
    | some _ => none

/-- Binds a value to dotted keys in the table of a header. -/
def bindIn : List String → List String → Toml → Members → Option Members
  | [], keys, value, ms => bind keys value ms
  | key :: header, keys, value, ms =>
    match ms.lookup key with
    | some (.table origin inner) =>
      (bindIn header keys value inner).map fun inner => set key (.table origin inner) ms
    | _ => none

theorem lookup_set (key : String) (value : Toml) (ms : Members) :
    (set key value ms).lookup key = some value := by
  induction ms with
  | nil => simp [set]
  | cons m ms ih =>
    simp only [set]
    split
    · simp
    · rename_i h
      rw [List.lookup_cons, beq_false_of_ne h]
      exact ih

/-- A bound key holds its value. -/
theorem lookup_bind {key : String} {value : Toml} {ms ns : Members}
    (h : bind [key] value ms = some ns) : ns.lookup key = some value := by
  simp only [bind] at h
  split at h
  · cases h
    exact lookup_set key value ms
  · simp at h

end Toml

end TagSchema
