import TagSchema.Proofs.Path

/-!
# Directories of paths

A path that ends in a name lies in a directory and has one component more than it: `named_inv`. What
stands behind one directory tells paths apart: `components_join_eq_iff`.
-/

namespace TagSchema.Path

variable {p q x y first other : String} {rest mid inert : List String}

/-! ### Directories -/

theorem laterComponents_last (filled : isInert x = false)
    (all : ∀ y ∈ inert, isInert y = true) : laterComponents (x :: inert) = [componentOf x] := by
  rw [← List.singleton_append, laterComponents_append, laterComponents_inert all]
  simp [laterComponents, filled]

theorem components_parent?_of_parts (h : parts p = first :: (mid ++ x :: inert))
    (filled : isInert x = false) (all : ∀ y ∈ inert, isInert y = true) :
    ∃ d, parent? p = some d ∧
      components d = start first (mid ++ x :: inert) ++ laterComponents mid := by
  obtain ⟨kept, dropped, rfl, none, parent⟩ := parent?_of_parts h filled all
  rw [laterComponents_append, laterComponents_inert none, List.append_nil]
  split at parent
  · rename_i bare
    obtain ⟨rfl, rfl⟩ := bare
    refine ⟨"/", parent, ?_⟩
    rw [start, if_pos rfl, if_neg (by simp)]
    decide
  · rename_i more
    obtain ⟨d, parent, cut⟩ := parent
    refine ⟨d, parent, ?_⟩
    rw [components_eq cut]
    congr 1
    exact start_congr fun empty => iff_of_false (fun none => more ⟨empty, none⟩) (by simp)

theorem componentOf_eq_name {n : String} (h : componentOf x = .name n) : x = n ∧ n ≠ ".." := by
  unfold componentOf at h
  split at h
  · cases h
  · rename_i other
    cases h
    exact ⟨rfl, other⟩

theorem fileName?_eq_some_iff {n : String} :
    fileName? p = some n ↔ (components p).getLast? = some (.name n) := by
  unfold fileName?
  split
  · rename_i found
    rw [found, Option.some.injEq, Option.some.injEq, Component.name.injEq]
  · rename_i none
    exact iff_of_false (by simp) (none n)

/-- A first part that stands for a name is the name. -/
theorem start_of_last {n : String} (last : (start first rest).getLast? = some (.name n)) :
    first = n ∧ start first rest = [.name n] ∧ n ≠ "" ∧ n ≠ "." ∧ n ≠ ".." := by
  unfold start at last ⊢
  by_cases empty : first = ""
  · rw [if_pos empty] at last
    split at last <;> cases last
  · rw [if_neg empty] at last ⊢
    by_cases point : first = "."
    · rw [if_pos point] at last
      cases last
    · rw [if_neg point] at last ⊢
      have component : componentOf first = .name n := Option.some.inj last
      obtain ⟨rfl, up⟩ := componentOf_eq_name component
      exact ⟨rfl, by rw [component], empty, point, up⟩

/-- The directory of a path that ends in a name. -/
theorem named_inv {n : String} (named : fileName? p = some n) :
    IsName n ∧ ∃ d, parent? p = some d ∧ components p = components d ++ [.name n] := by
  obtain ⟨first, rest, cut⟩ := List.exists_cons_of_ne_nil (parts_ne_nil p)
  have noSlash : ∀ x ∈ first :: rest, '/' ∉ x.toList := fun x member =>
    noSlash_of_mem_parts (cut ▸ member)
  have last := fileName?_eq_some_iff.mp named
  have whole := components_eq cut
  rcases exists_last_active rest with all | ⟨mid, x, inert, rfl, filled, all⟩
  · -- The first part is the name, and nothing stands before it.
    rw [laterComponents_inert all, List.append_nil] at whole
    rw [whole] at last
    obtain ⟨rfl, alone, some, point, up⟩ := start_of_last last
    refine ⟨⟨some, point, up, noSlash _ List.mem_cons_self⟩, "", ?_, whole.trans alone⟩
    unfold parent?
    rw [cut]
    simp only [dropWhile_all_inert all, if_neg some]
  · obtain ⟨d, parent, directory⟩ := components_parent?_of_parts cut filled all
    rw [laterComponents_append, laterComponents_last filled all, ← List.append_assoc,
      ← directory] at whole
    rw [whole, List.getLast?_concat] at last
    have component := Option.some.inj last
    obtain ⟨rfl, up⟩ := componentOf_eq_name component
    obtain ⟨noEmpty, noPoint⟩ := Bool.or_eq_false_iff.mp filled
    exact ⟨⟨of_decide_eq_false noEmpty, of_decide_eq_false noPoint, up, noSlash x (by simp)⟩, d,
      parent, by rw [whole, component]⟩

/-- The paths lie in one directory. -/
def Beside (p q : String) : Prop :=
  ∃ d e, parent? p = some d ∧ parent? q = some e ∧ same d e = true

theorem withFileName_of_named {n d : String} (named : fileName? p = some n)
    (parent : parent? p = some d) (m : String) : withFileName p m = join d m := by
  rw [withFileName, named, parent]
  rfl

theorem components_withFileName {n m : String} (name : IsName n) (other : IsName m) :
    components (withFileName (join p n) m) = components p ++ [.name m] := by
  have named := fileName?_join p name
  obtain ⟨_, d, parent, whole⟩ := named_inv named
  have directory := List.append_cancel_right (whole.symm.trans (components_join p name))
  rw [withFileName_of_named named parent, components_join d other, directory]

/-- A name in the place of another one is beside it. -/
theorem withFileName_name {n m : String} (named : fileName? p = some n) (name : IsName m) :
    fileName? (withFileName p m) = some m ∧ Beside (withFileName p m) p := by
  obtain ⟨_, d, parent, _⟩ := named_inv named
  rw [withFileName_of_named named parent]
  have named' := fileName?_join d name
  obtain ⟨_, e, parent', whole⟩ := named_inv named'
  refine ⟨named', e, d, parent', parent, same_iff.mpr ?_⟩
  exact List.append_cancel_right (whole.symm.trans (components_join d name))

/-! ### Paths behind a directory -/

theorem components_eq_nil_iff : components p = [] ↔ p = "" := by
  constructor
  · intro none
    obtain ⟨first, rest, cut⟩ := List.exists_cons_of_ne_nil (parts_ne_nil p)
    rw [components_eq cut, List.append_eq_nil_iff, start] at none
    by_cases empty : first = ""
    · rw [if_pos empty] at none
      split at none
      · rename_i more
        rw [empty, more] at cut
        exact eq_empty_of_parts cut
      · cases none.1
    · rw [if_neg empty] at none
      split at none <;> cases none.1
  · rintro rfl
    rfl

theorem componentOf_injective (h : componentOf x = componentOf y) : x = y := by
  unfold componentOf at h
  split at h <;> split at h <;> simp_all

theorem componentOf_ne_current (x : String) : componentOf x ≠ .current := by
  unfold componentOf
  split <;> simp

theorem start_injective (some : first ≠ "") (some' : other ≠ "")
    (h : start first rest = start other rest) : first = other := by
  unfold start at h
  rw [if_neg some, if_neg some'] at h
  split at h <;> split at h <;> rw [List.singleton_inj] at h
  · simp_all
  · exact (componentOf_ne_current _ h.symm).elim
  · exact (componentOf_ne_current _ h).elim
  · exact componentOf_injective h

theorem laterComponents_injective (some : first ≠ "") (some' : other ≠ "")
    (h : laterComponents [first] = laterComponents [other]) : first = other := by
  have part (x : String) (some : x ≠ "") :
      laterComponents [x] = if x = "." then [] else [componentOf x] := by
    by_cases point : x = "." <;> simp [laterComponents, isInert, some, point]
  rw [part _ some, part _ some'] at h
  split at h <;> split at h
  · simp_all
  · cases h
  · cases h
  · exact componentOf_injective (List.singleton_inj.mp h)

/-- Paths behind one directory that differ in the first part at most are the same if they do not. -/
theorem components_join_eq_iff (beside : components p = components q) (relative : IsRelative x)
    (relative' : IsRelative y) (cut : parts x = first :: rest) (cut' : parts y = other :: rest) :
    components (join p x) = components (join q y) ↔ first = other := by
  have some := (isRelative_iff cut).mp relative
  have some' := (isRelative_iff cut').mp relative'
  have empty : p = "" ↔ q = "" := by
    rw [← components_eq_nil_iff, beside, components_eq_nil_iff]
  rw [components_join_relative p relative cut, components_join_relative q relative' cut',
    List.append_cancel_right_eq]
  by_cases bare : p = ""
  · rw [if_pos bare, if_pos (empty.mp bare)]
    exact ⟨start_injective some some', fun same => by rw [same]⟩
  · rw [if_neg bare, if_neg fun none => bare (empty.mpr none), beside,
      List.append_cancel_left_eq]
    exact ⟨laterComponents_injective some some', fun same => by rw [same]⟩

end TagSchema.Path
