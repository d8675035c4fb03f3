/-!
# Entries in order of key

A list of entries whose keys ascend holds each key once. `lookup_insert` says that the entry last
inserted is found, and `ascending_insert` that insertion keeps the order.
-/

namespace TagSchema.Keyed

variable {α : Type}

/-- The entries with `key` set to `value`, in ascending order of keys. -/
def insert (key : String) (value : α) : List (String × α) → List (String × α)
  | [] => [(key, value)]
  | (k, v) :: es =>
    if key < k then (key, value) :: (k, v) :: es
    else if key = k then (key, value) :: es
    else (k, v) :: insert key value es

/-- The entries in order of key, the last of each. -/
def ofList (es : List (String × α)) : List (String × α) :=
  es.foldl (fun acc e => insert e.1 e.2 acc) []

theorem lookup_insert (key : String) (value : α) (es : List (String × α)) :
    (insert key value es).lookup key = some value := by
  induction es with
  | nil => simp [insert]
  | cons e es ih =>
    simp only [insert]
    split
    · simp
    · split
      · simp
      · rename_i h
        rw [List.lookup_cons, beq_false_of_ne h]
        exact ih

theorem lookup_insert_of_ne {key other : String} (different : other ≠ key) (value : α)
    (es : List (String × α)) : (insert key value es).lookup other = es.lookup other := by
  have missed := beq_false_of_ne different
  induction es with
  | nil => simp [insert, different]
  | cons e es ih =>
    simp only [insert]
    split
    · rw [List.lookup_cons, missed]
    · split
      · rename_i same
        rw [List.lookup_cons, List.lookup_cons, ← same, missed]
      · rw [List.lookup_cons, List.lookup_cons, ih]

/-- Each key is below those after it. -/
def Ascending (es : List (String × α)) : Prop := es.Pairwise fun a b => a.1 < b.1

theorem mem_insert {key : String} {value : α} {es : List (String × α)} {e : String × α}
    (h : e ∈ insert key value es) : e = (key, value) ∨ e ∈ es := by
  induction es with
  | nil => simpa [insert] using h
  | cons d es ih =>
    simp only [insert] at h
    split at h
    · simpa using h
    · split at h
      · have := List.mem_cons.1 h
        rcases this with h | h <;> simp [h]
      · rcases List.mem_cons.1 h with h | h
        · simp [h]
        · rcases ih h with h | h <;> simp [h]

theorem ascending_insert (key : String) (value : α) {es : List (String × α)} (h : Ascending es) :
    Ascending (insert key value es) := by
  induction es with
  | nil => simp [insert, Ascending]
  | cons e es ih =>
    have ⟨he, hs⟩ := List.pairwise_cons.1 h
    simp only [insert]
    split
    · rename_i hlt
      refine List.pairwise_cons.2 ⟨fun d hd => ?_, h⟩
      rcases List.mem_cons.1 hd with rfl | hd
      · exact hlt
      · exact String.lt_trans hlt (he d hd)
    · split
      · rename_i heq
        exact List.pairwise_cons.2 ⟨fun d hd => heq ▸ he d hd, hs⟩
      · rename_i hlt hne
        refine List.pairwise_cons.2 ⟨fun d hd => ?_, ih hs⟩
        rcases mem_insert hd with rfl | hd
        · exact Decidable.byContradiction fun hnot =>
            hne (String.le_antisymm (String.not_lt.1 hnot) (String.not_lt.1 hlt))
        · exact he d hd

theorem mem_ofList {es : List (String × α)} {e : String × α} (h : e ∈ ofList es) : e ∈ es := by
  suffices step : ∀ acc, e ∈ es.foldl (fun acc e => insert e.1 e.2 acc) acc → e ∈ acc ∨ e ∈ es by
    simpa using step [] h
  clear h
  induction es with
  | nil => exact fun acc h => .inl h
  | cons d es ih =>
    intro acc h
    rcases ih _ h with h | h
    · rcases mem_insert h with rfl | h
      · exact .inr List.mem_cons_self
      · exact .inl h
    · exact .inr (List.mem_cons_of_mem _ h)

theorem lookup_ofList {key : String} {value : α} {es : List (String × α)}
    (distinct : (es.map (·.1)).Nodup) (member : (key, value) ∈ es) :
    (ofList es).lookup key = some value := by
  have kept {es : List (String × α)} (absent : key ∉ es.map (·.1)) (acc : List (String × α)) :
      (es.foldl (fun acc e => insert e.1 e.2 acc) acc).lookup key = acc.lookup key := by
    induction es generalizing acc with
    | nil => rfl
    | cons e es ih =>
      rw [List.map_cons, List.mem_cons, not_or] at absent
      rw [List.foldl_cons, ih absent.2, lookup_insert_of_ne absent.1]
  obtain ⟨before, after, rfl⟩ := List.append_of_mem member
  rw [List.map_append, List.map_cons, List.nodup_append, List.nodup_cons] at distinct
  rw [ofList, List.foldl_append, List.foldl_cons, kept distinct.2.1.1, lookup_insert]

theorem ascending_ofList (es : List (String × α)) : Ascending (ofList es) := by
  suffices h : ∀ acc, Ascending acc →
      Ascending (es.foldl (fun acc e => insert e.1 e.2 acc) acc) from h [] List.Pairwise.nil
  induction es with
  | nil => exact fun acc h => h
  | cons e es ih => exact fun acc h => ih _ (ascending_insert e.1 e.2 h)

end TagSchema.Keyed
