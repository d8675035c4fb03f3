import Mathlib.Data.List.Induction
import TagSchema.Text.Keyed

/-!
# Lists in order of key

`lookup_ofList_eq` says which entry of a key counts, and `ofList_of_ascending` that a list in order
stays as it is.
-/

namespace TagSchema.Keyed

variable {α : Type}

theorem ofList_concat (es : List (String × α)) (e : String × α) :
    ofList (es ++ [e]) = insert e.1 e.2 (ofList es) := by
  rw [ofList, List.foldl_append]
  rfl

/-- The last entry of a key counts. -/
theorem lookup_ofList_eq (es : List (String × α)) (key : String) :
    (ofList es).lookup key = es.reverse.lookup key := by
  induction es using List.reverseRecOn with
  | nil => rfl
  | append_singleton es e ih =>
    rw [ofList_concat, List.reverse_append]
    show (insert e.1 e.2 (ofList es)).lookup key = ((e.1, e.2) :: es.reverse).lookup key
    by_cases same : key = e.1
    · rw [same, lookup_insert, List.lookup_cons_self]
    · rw [lookup_insert_of_ne same, ih, List.lookup_cons, beq_false_of_ne same]

theorem insert_last {key : String} {es : List (String × α)} (value : α)
    (below : ∀ e ∈ es, e.1 < key) : insert key value es = es ++ [(key, value)] := by
  induction es with
  | nil => rfl
  | cons e es ih =>
    rw [List.forall_mem_cons] at below
    have notLess : ¬ key < e.1 := fun less => String.lt_irrefl _ (String.lt_trans less below.1)
    have different : key ≠ e.1 := by
      rintro rfl
      exact String.lt_irrefl _ below.1
    rw [insert, if_neg notLess, if_neg different, ih below.2, List.cons_append]

theorem ofList_of_ascending {es : List (String × α)} (h : Ascending es) : ofList es = es := by
  induction es using List.reverseRecOn with
  | nil => rfl
  | append_singleton es e ih =>
    obtain ⟨first, -, below⟩ := List.pairwise_append.mp h
    rw [ofList_concat, ih first]
    exact insert_last e.2 fun d member => below d member e (List.mem_singleton_self e)

/-- Where each key stands once, both ends of the list give the same entry. -/
theorem lookup_reverse {es : List (String × α)} (h : Ascending es) (key : String) :
    es.reverse.lookup key = es.lookup key := by
  rw [← lookup_ofList_eq, ofList_of_ascending h]

end TagSchema.Keyed
