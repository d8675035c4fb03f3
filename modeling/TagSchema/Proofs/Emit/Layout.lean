import Mathlib.Data.List.Forall2
import TagSchema.Emit.Layout

/-!
# Values one below the other

`align_columns` says what the lines of entries look like: nothing is lost, the values of a column
start at one place, and no column is wider than its keys need. Short keys next to each other stay in
one column (`isChain_sections`).
-/

namespace TagSchema.Emit.Layout

variable {m : Mean} {e : Entry} {column : List Entry}

/-! ### Columns -/

/-- The first column begins with the first entry. -/
theorem exists_sections_cons (m : Mean) (e : Entry) (es : List Entry) :
    ∃ column columns, sections m (e :: es) = (e :: column) :: columns := by
  cases es with
  | nil => exact ⟨[], [], rfl⟩
  | cons next es =>
    rw [sections]
    split
    · split
      · exact ⟨[], _, rfl⟩
      · exact ⟨_, _, rfl⟩
    · exact ⟨[], [], rfl⟩

theorem ne_nil_of_mem_sections (m : Mean) (es : List Entry) :
    ∀ column ∈ sections m es, column ≠ [] := by
  fun_induction sections m es with
  | case1 => exact List.forall_mem_nil _
  | case2 e => simp
  | case3 m e next es m' first columns whole _ ih =>
    rw [whole] at ih
    exact List.forall_mem_cons.mpr ⟨List.cons_ne_nil e [], ih⟩
  | case4 m e next es m' first columns whole _ ih =>
    rw [whole] at ih
    exact List.forall_mem_cons.mpr ⟨List.cons_ne_nil e first, (List.forall_mem_cons.mp ih).2⟩
  | case5 m e next es m' none => exact (sections_ne_nil m' next es none).elim

theorem long_of_breaks {previous next : Nat} (h : breaks m previous next = true) :
    shortKey < previous ∨ shortKey < next := by
  simp only [breaks, Bool.and_eq_true, Bool.not_eq_true', Bool.and_eq_false_iff,
    decide_eq_false_iff_not, Nat.not_le] at h
  exact h.1.2

/-- A column ends only at a long key or before one. -/
theorem isChain_sections (m : Mean) (es : List Entry) :
    (sections m es).IsChain fun column following => ∃ e ∈ column.getLast?,
      ∃ next ∈ following.head?, shortKey < size e ∨ shortKey < size next := by
  fun_induction sections m es with
  | case1 => exact .nil
  | case2 e => exact .singleton _
  | case3 m e next es m' first columns whole breaks ih =>
    -- The border lies between `e` and `next`, with which the other columns begin.
    obtain ⟨rest, later, begins⟩ := exists_sections_cons m' next es
    obtain ⟨rfl, rfl⟩ := List.cons.inj (whole.symm.trans begins)
    exact .cons_cons ⟨e, rfl, next, rfl, long_of_breaks breaks⟩ (whole ▸ ih)
  | case4 m e next es m' first columns whole _ ih =>
    obtain ⟨rest, later, begins⟩ := exists_sections_cons m' next es
    obtain ⟨rfl, rfl⟩ := List.cons.inj (whole.symm.trans begins)
    rw [whole] at ih
    -- The longer first column ends where the shorter one does.
    cases ih with
    | singleton => exact .singleton _
    | cons_cons border ih => exact .cons_cons (by rwa [List.getLast?_cons_cons]) ih
  | case5 m e next es m' none => exact (sections_ne_nil m' next es none).elim

/-- Short keys stand in one column. -/
theorem sections_short {es : List Entry} (some : es ≠ []) (short : ∀ e ∈ es, size e ≤ shortKey) :
    sections m es = [es] := by
  have whole := sections_flatten m es
  have chain := isChain_sections m es
  cases columns : sections m es with
  | nil =>
    rw [columns] at whole
    exact (some whole.symm).elim
  | cons column columns' =>
    cases columns' with
    | nil =>
      rw [columns, List.flatten_singleton] at whole
      rw [whole]
    | cons following later =>
      rw [columns] at whole chain
      obtain ⟨e, last, next, first, long⟩ := (List.isChain_cons_cons.mp chain).1
      have member : e ∈ es := by
        rw [← whole]
        exact List.mem_append_left _ (List.mem_of_mem_getLast? last)
      have member' : next ∈ es := by
        rw [← whole]
        exact List.mem_append_right _ (List.mem_append_left _ (List.mem_of_mem_head? first))
      have := short e member
      have := short next member'
      omega

/-! ### Lines -/

/-- What stands before a value. -/
def lead (e : Entry) (spaces : Nat) : String :=
  e.1 ++ ":" ++ String.ofList (List.replicate spaces ' ')

theorem length_lead (e : Entry) (spaces : Nat) :
    (lead e spaces).length = e.1.length + 1 + spaces := by
  have colon : ":".length = 1 := rfl
  simp [lead, colon]

/-- The lines of a column: the values start at one place, and somewhere one space is enough. -/
structure Shows (column : List Entry) (lines : List String) (spaces : Entry → Nat) : Prop where
  lines : lines = column.map fun e => lead e (spaces e) ++ e.2 ++ ","
  apart : ∀ e ∈ column, 1 ≤ spaces e
  level : ∃ start, ∀ e ∈ column, (lead e (spaces e)).length = start
  tight : ∃ e ∈ column, spaces e = 1

/-- The length of the longest key. -/
def width (column : List Entry) : Nat := (column.map fun e => e.1.length).foldl max 0

theorem width_spec (some : column ≠ []) :
    (∃ e ∈ column, e.1.length = width column) ∧ ∀ e ∈ column, e.1.length ≤ width column := by
  have keys : column.map (fun e => e.1.length) ≠ [] := by simpa using some
  obtain ⟨longest, found⟩ := Option.isSome_iff_exists.mp (List.isSome_max?_of_ne_nil keys)
  have ⟨member, above⟩ := List.max?_eq_some_iff.mp found
  have reached : width column = longest := by
    rw [width, List.foldl_max, found]
    exact Nat.zero_max _
  rw [reached]
  exact ⟨List.mem_map.mp member, fun e listed => above _ (List.mem_map_of_mem listed)⟩

theorem shows_columnLines (some : column ≠ []) :
    ∃ spaces, Shows column (columnLines column) spaces := by
  have ⟨⟨longest, member, reached⟩, above⟩ := width_spec some
  refine ⟨fun e => width column - e.1.length + 1, rfl, fun e _ => Nat.le_add_left 1 _,
    ⟨width column + 2, fun e listed => ?_⟩, ⟨longest, member, by rw [reached, Nat.sub_self]⟩⟩
  have := above e listed
  rw [length_lead]
  omega

/-- The lines show the entries in order, one each. They fall into columns, in each of which the
values start at one place, and short keys make one column. -/
theorem align_columns (entries : List Entry) : ∃ columns blocks,
    columns.flatten = entries ∧ align entries = blocks.flatten ∧
    List.Forall₂ (fun column lines => ∃ spaces, Shows column lines spaces) columns blocks ∧
    (entries ≠ [] → (∀ e ∈ entries, e.1.utf8ByteSize ≤ 40) → columns = [entries]) := by
  refine ⟨sections .zero entries, (sections .zero entries).map columnLines,
    sections_flatten _ _, List.flatMap_def, ?_, sections_short⟩
  rw [List.forall₂_map_right_iff, List.forall₂_same]
  exact fun column member => shows_columnLines (ne_nil_of_mem_sections _ _ column member)

end TagSchema.Emit.Layout
