import TagSchema.Text.Fields

/-!
# Cutting and joining at a separator

`fields_append` and `fields_intercalate`. Texts between separators can be told from where they are
joined (`intercalate_injective`), and also where a doubled separator stands between two rows of them
(`cutAt_doubled`).
-/

namespace TagSchema.Text

variable {sep : Char}

theorem fields_of_not_mem {cs : List Char} (h : sep ∉ cs) : fields sep cs = [cs] := by
  induction cs with
  | nil => rfl
  | cons c cs ih =>
    rw [List.mem_cons, not_or] at h
    rw [fields, ih h.2, if_neg (by simpa using Ne.symm h.1)]

theorem fields_append (cs ds : List Char) :
    fields sep (cs ++ sep :: ds) = fields sep cs ++ fields sep ds := by
  induction cs with
  | nil => simp [fields]
  | cons c cs ih =>
    rw [List.cons_append, fields, fields, ih]
    split
    · rfl
    · cases found : fields sep cs with
      | nil => exact (fields_ne_nil sep cs found).elim
      | cons f fs => rfl

/-- Text without a separator lengthens the last field. -/
theorem fields_append_of_not_mem (cs : List Char) {ds : List Char} (h : sep ∉ ds) :
    ∃ init last, fields sep cs = init ++ [last] ∧ fields sep (cs ++ ds) = init ++ [last ++ ds] := by
  induction cs with
  | nil => exact ⟨[], [], rfl, fields_of_not_mem h⟩
  | cons c cs ih =>
    obtain ⟨init, last, whole, longer⟩ := ih
    rw [List.cons_append, fields, fields, whole, longer]
    split
    · exact ⟨[] :: init, last, rfl, rfl⟩
    · cases init with
      | nil => exact ⟨[], c :: last, rfl, rfl⟩
      | cons f init => exact ⟨(c :: f) :: init, last, rfl, rfl⟩

theorem fields_of_not_mem_append {cs ds field : List Char} {fs : List (List Char)} (h : sep ∉ cs)
    (whole : fields sep ds = field :: fs) : fields sep (cs ++ ds) = (cs ++ field) :: fs := by
  induction cs with
  | nil => exact whole
  | cons c cs ih =>
    rw [List.mem_cons, not_or] at h
    rw [List.cons_append, fields, ih h.2, if_neg (by simpa using Ne.symm h.1)]
    rfl

theorem not_mem_fields {cs field : List Char} (h : field ∈ fields sep cs) : sep ∉ field := by
  induction cs generalizing field with
  | nil =>
    rw [List.mem_singleton.mp h]
    exact List.not_mem_nil
  | cons c cs ih =>
    rw [fields] at h
    split at h
    · rcases List.mem_cons.mp h with rfl | h
      · exact List.not_mem_nil
      · exact ih h
    · rename_i other
      split at h
      · rename_i f fs found
        rw [found] at ih
        rcases List.mem_cons.mp h with rfl | h
        · rw [List.mem_cons, not_or]
          exact ⟨fun same => other (by simp [same]), ih List.mem_cons_self⟩
        · exact ih (List.mem_cons_of_mem _ h)
      · rename_i none
        exact (fields_ne_nil sep cs none).elim

theorem mem_of_mem_fields {cs field : List Char} (h : field ∈ fields sep cs) {c : Char}
    (member : c ∈ field) : c ∈ cs := by
  induction cs generalizing field with
  | nil =>
    rw [List.mem_singleton.mp h] at member
    exact member
  | cons d cs ih =>
    rw [fields] at h
    split at h
    · rcases List.mem_cons.mp h with rfl | h
      · cases member
      · exact List.mem_cons_of_mem _ (ih h member)
    · split at h
      · rename_i f fs found
        rw [found] at ih
        rcases List.mem_cons.mp h with rfl | h
        · rcases List.mem_cons.mp member with rfl | member
          · exact List.mem_cons_self
          · exact List.mem_cons_of_mem _ (ih List.mem_cons_self member)
        · exact List.mem_cons_of_mem _ (ih (List.mem_cons_of_mem _ h) member)
      · rename_i none
        exact (fields_ne_nil sep cs none).elim

theorem intercalate_fields (cs : List Char) : [sep].intercalate (fields sep cs) = cs := by
  induction cs with
  | nil => rfl
  | cons c cs ih =>
    rw [fields]
    have some := fields_ne_nil sep cs
    split
    · rename_i same
      rw [List.intercalate_cons_of_ne_nil some, ih, beq_iff_eq.mp same]
      rfl
    · cases found : fields sep cs with
      | nil => exact (some found).elim
      | cons f fs =>
        rw [found] at ih
        cases fs with
        | nil => simpa using ih
        | cons g fs => simpa using ih

theorem fields_intercalate {fs : List (List Char)} (some : fs ≠ []) (h : ∀ f ∈ fs, sep ∉ f) :
    fields sep ([sep].intercalate fs) = fs := by
  induction fs with
  | nil => exact (some rfl).elim
  | cons f fs ih =>
    rw [List.forall_mem_cons] at h
    cases fs with
    | nil => simpa using fields_of_not_mem h.1
    | cons g fs =>
      rw [List.intercalate_cons_cons, List.append_assoc, List.singleton_append, fields_append,
        ih (List.cons_ne_nil _ _) h.2, fields_of_not_mem h.1, List.singleton_append]

theorem mem_of_mem_intercalate {fs : List (List Char)} {c : Char}
    (h : c ∈ [sep].intercalate fs) : c = sep ∨ ∃ f ∈ fs, c ∈ f := by
  induction fs with
  | nil => cases h
  | cons f fs ih =>
    cases fs with
    | nil => exact .inr ⟨f, List.mem_cons_self, by simpa using h⟩
    | cons g fs =>
      rw [List.intercalate_cons_cons, List.mem_append, List.mem_append, List.mem_singleton] at h
      rcases h with (h | h) | h
      · exact .inr ⟨f, List.mem_cons_self, h⟩
      · exact .inl h
      · exact (ih h).imp_right fun ⟨f, member, here⟩ => ⟨f, List.mem_cons_of_mem _ member, here⟩

/-! ### A separator after or before each text -/

theorem intercalate_cons (f : List Char) (fs : List (List Char)) :
    [sep].intercalate (f :: fs) = f ++ fs.flatMap (sep :: ·) := by
  induction fs generalizing f with
  | nil => simp
  | cons g fs ih =>
    rw [List.intercalate_cons_cons, ih, List.flatMap_cons]
    simp

theorem flatMap_before {fs : List (List Char)} (some : fs ≠ []) :
    fs.flatMap (sep :: ·) = sep :: [sep].intercalate fs := by
  cases fs with
  | nil => exact (some rfl).elim
  | cons f fs => rw [intercalate_cons, List.flatMap_cons, List.cons_append]

theorem intercalate_concat {between : List Char} (fs : List (List Char)) (last : List Char) :
    between.intercalate (fs ++ [last]) = fs.flatMap (· ++ between) ++ last := by
  induction fs with
  | nil => simp
  | cons f fs ih =>
    rw [List.cons_append, List.intercalate_cons_of_ne_nil (by simp), ih, List.flatMap_cons,
      List.append_assoc (f ++ between)]

theorem flatMap_after {fs : List (List Char)} (some : fs ≠ []) :
    fs.flatMap (· ++ [sep]) = [sep].intercalate fs ++ [sep] := by
  rw [← List.append_nil (fs.flatMap _), ← intercalate_concat]
  induction fs with
  | nil => exact (some rfl).elim
  | cons f fs ih =>
    cases fs with
    | nil => simp
    | cons g fs =>
      rw [List.cons_append, List.intercalate_cons_of_ne_nil (by simp), ih (List.cons_ne_nil _ _),
        List.intercalate_cons_cons]
      simp only [List.append_assoc]

/-! ### Texts that can be told apart -/

/-- A text between separators that is not empty. -/
def IsPiece (sep : Char) (f : List Char) : Prop := f ≠ [] ∧ sep ∉ f

theorem intercalate_injective {fs gs : List (List Char)} (hf : ∀ f ∈ fs, IsPiece sep f)
    (hg : ∀ g ∈ gs, IsPiece sep g) (same : [sep].intercalate fs = [sep].intercalate gs) :
    fs = gs := by
  have empty {hs : List (List Char)} (h : ∀ f ∈ hs, IsPiece sep f)
      (none : [sep].intercalate hs = []) : hs = [] := by
    cases hs with
    | nil => rfl
    | cons f hs =>
      rw [intercalate_cons, List.append_eq_nil_iff] at none
      exact ((List.forall_mem_cons.mp h).1.1 none.1).elim
  cases fs with
  | nil => exact (empty hg same.symm).symm
  | cons f fs =>
    cases gs with
    | nil => exact empty hf same
    | cons g gs =>
      rw [← fields_intercalate (List.cons_ne_nil f fs) fun f h => (hf f h).2, same,
        fields_intercalate (List.cons_ne_nil g gs) fun g h => (hg g h).2]

theorem cutAt_eq_some {mark cs front back : List Char} (h : cutAt mark cs = some (front, back)) :
    cs = front ++ mark ++ back := by
  induction cs generalizing front with
  | nil =>
    rw [cutAt] at h
    split at h
    · rename_i none
      obtain ⟨rfl, rfl⟩ := Prod.mk.inj (Option.some.inj h)
      rw [List.isEmpty_iff.mp none]
      rfl
    · cases h
  | cons c cs ih =>
    rw [cutAt] at h
    split at h
    · rename_i start
      obtain ⟨rfl, rfl⟩ := Prod.mk.inj (Option.some.inj h)
      obtain ⟨rest, whole⟩ := List.isPrefixOf_iff_prefix.mp start
      rw [← whole, List.drop_left, List.nil_append]
    · obtain ⟨⟨front, back⟩, found, same⟩ := Option.map_eq_some_iff.mp h
      obtain ⟨rfl, rfl⟩ := Prod.mk.inj same
      rw [ih found]
      rfl

theorem cutAt_of_not_mem {mark : List Char} {f : List Char} (h : sep ∉ f) (cs : List Char) :
    cutAt (sep :: mark) (f ++ cs) = (cutAt (sep :: mark) cs).map fun (a, b) => (f ++ a, b) := by
  induction f with
  | nil => simp
  | cons c f ih =>
    rw [List.mem_cons, not_or] at h
    have other : (sep :: mark).isPrefixOf (c :: (f ++ cs)) = false := by
      rw [List.isPrefixOf, beq_false_of_ne h.1, Bool.false_and]
    rw [List.cons_append, cutAt, other, ih h.2, Option.map_map]
    rfl

theorem cutAt_separated {f : List Char} (piece : IsPiece sep f) (cs : List Char) :
    cutAt [sep, sep] (sep :: (f ++ cs)) =
      (cutAt [sep, sep] cs).map fun (a, b) => (sep :: f ++ a, b) := by
  have other : [sep, sep].isPrefixOf (sep :: (f ++ cs)) = false := by
    cases f with
    | nil => exact (piece.1 rfl).elim
    | cons c f =>
      have apart : sep ≠ c := fun same => piece.2 (same ▸ List.mem_cons_self)
      rw [List.cons_append, List.isPrefixOf, List.isPrefixOf, beq_false_of_ne apart]
      simp
  rw [cutAt, other, cutAt_of_not_mem piece.2, Option.map_map]
  rfl

theorem cutAt_flatMap {fs : List (List Char)} (pieces : ∀ f ∈ fs, IsPiece sep f) (cs : List Char) :
    cutAt [sep, sep] (fs.flatMap (sep :: ·) ++ cs) =
      (cutAt [sep, sep] cs).map fun (a, b) => (fs.flatMap (sep :: ·) ++ a, b) := by
  induction fs with
  | nil => simp
  | cons f fs ih =>
    rw [List.forall_mem_cons] at pieces
    rw [List.flatMap_cons, List.append_assoc, List.cons_append, cutAt_separated pieces.1,
      ih pieces.2, Option.map_map]
    congr 1
    funext found
    simp

theorem cutAt_intercalate {fs : List (List Char)} (pieces : ∀ f ∈ fs, IsPiece sep f)
    (cs : List Char) : cutAt [sep, sep] ([sep].intercalate fs ++ cs) =
      (cutAt [sep, sep] cs).map fun (a, b) => ([sep].intercalate fs ++ a, b) := by
  cases fs with
  | nil => simp
  | cons f fs =>
    rw [List.forall_mem_cons] at pieces
    rw [intercalate_cons, List.append_assoc, cutAt_of_not_mem pieces.1.2, cutAt_flatMap pieces.2,
      Option.map_map]
    congr 1
    funext found
    simp

theorem cutAt_single {fs : List (List Char)} (pieces : ∀ f ∈ fs, IsPiece sep f) :
    cutAt [sep, sep] ([sep].intercalate fs) = none := by
  have cut := cutAt_intercalate pieces []
  rwa [List.append_nil] at cut

theorem cutAt_doubled {fs : List (List Char)} (pieces : ∀ f ∈ fs, IsPiece sep f)
    (back : List Char) : cutAt [sep, sep] ([sep].intercalate fs ++ sep :: sep :: back) =
      some ([sep].intercalate fs, back) := by
  rw [cutAt_intercalate pieces, cutAt, if_pos (by simp)]
  simp

end TagSchema.Text
