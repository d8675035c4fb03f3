/-!
# Columns of entries

The values of a composite literal stand in columns. A column ends where the next key is much longer
or much shorter than the keys so far. `sections_flatten` says that no entry is lost.
-/

namespace TagSchema.Emit.Layout

/-- A key and its value, both rendered. -/
abbrev Entry := String × String

/-- Keys of up to this many bytes end no column. -/
def shortKey : Nat := 40

/-- The geometric mean of the sizes so far, as the sum of their logarithms. -/
structure Mean where
  logSum : Float
  count : Nat

namespace Mean

def zero : Mean := ⟨0.0, 0⟩

def add (m : Mean) (size : Nat) : Mean :=
  if size = 0 then m else ⟨m.logSum + (Float.ofNat size).log, m.count + 1⟩

/-- Whether a size is at least two and a half times the mean, or at most its reciprocal part. -/
def isFar (m : Mean) (size : Nat) : Bool :=
  let ratio := Float.ofNat size / (m.logSum / Float.ofNat m.count).exp
  2.5 * ratio ≤ 1.0 || 2.5 ≤ ratio

end Mean

def size (e : Entry) : Nat := e.1.utf8ByteSize

/-- Whether a key of size `next` that follows one of size `previous` starts a column. -/
def breaks (m : Mean) (previous next : Nat) : Bool :=
  m.count != 0 && !(previous ≤ shortKey && next ≤ shortKey) && m.isFar next

/-- The entries, column by column; `m` is the mean of the keys before them. -/
def sections (m : Mean) : List Entry → List (List Entry)
  | [] => []
  | [e] => [[e]]
  | e :: next :: es =>
    let m := m.add (size e)
    match sections m (next :: es) with
    | column :: columns =>
      if breaks m (size e) (size next) then [e] :: column :: columns
      else (e :: column) :: columns
    | [] => [[e]]

theorem sections_ne_nil (m : Mean) (e : Entry) (es : List Entry) : sections m (e :: es) ≠ [] := by
  cases es with
  | nil => simp [sections]
  | cons d es =>
    simp only [sections]
    split
    · split <;> simp
    · simp

theorem sections_flatten (m : Mean) (es : List Entry) : (sections m es).flatten = es := by
  fun_induction sections m es with
  | case1 => rfl
  | case2 => rfl
  | case3 m e next es m' column columns h hb ih => simp_all
  | case4 m e next es m' column columns h hb ih => simp_all
  | case5 m e next es m' h ih => exact absurd h (sections_ne_nil m' next es)

/-- One line per entry, the values in one column. -/
def columnLines (column : List Entry) : List String :=
  let width := (column.map fun e => e.1.length).foldl max 0
  column.map fun (key, value) =>
    key ++ ":" ++ String.ofList (List.replicate (width - key.length + 1) ' ') ++ value ++ ","

def align (entries : List Entry) : List String := (sections Mean.zero entries).flatMap columnLines

end TagSchema.Emit.Layout
