import Mathlib.Data.List.Forall2

/-!
# Attempts

What the parts of a successful attempt have given, and which part a failed one has failed at.
-/

namespace TagSchema

variable {ε η α β γ δ : Type}

theorem bind_ok {m : Except ε α} {k : α → Except ε β} {b : β} (h : (m >>= k) = .ok b) :
    ∃ a, m = .ok a ∧ k a = .ok b := by
  cases m with
  | error e => cases h
  | ok a => exact ⟨a, rfl, h⟩

theorem bind_of_ok {m : Except ε α} {a : α} (h : m = .ok a) {k : α → Except ε β} :
    (m >>= k) = k a := by
  rw [h]
  rfl

theorem pure_ok {a b : α} (h : (pure a : Except ε α) = .ok b) : b = a := (Except.ok.inj h).symm

theorem toOption_eq_some_iff {x : Except ε α} {a : α} : x.toOption = some a ↔ x = .ok a := by
  cases x <;> simp [Except.toOption]

theorem mapError_eq_ok_iff {x : Except ε α} {f : ε → η} {a : α} :
    x.mapError f = .ok a ↔ x = .ok a := by
  cases x <;> simp [Except.mapError]

theorem elim_eq_ok_iff {o : Option α} {e : ε} {a : α} :
    o.elim (Except.error e) .ok = .ok a ↔ o = some a := by
  cases o <;> simp

theorem map_ok {x : Except ε α} {f : α → β} {b : β} (h : x.map f = .ok b) :
    ∃ a, x = .ok a ∧ f a = b := by
  cases x with
  | error e => cases h
  | ok a => exact ⟨a, rfl, Except.ok.inj h⟩

/-- A list of attempts succeeds exactly when each does, in place. -/
theorem mapM_eq_ok_iff {f : α → Except ε β} {xs : List α} {ys : List β} :
    xs.mapM f = .ok ys ↔ List.Forall₂ (fun x y => f x = .ok y) xs ys := by
  induction xs generalizing ys with
  | nil => cases ys <;> simp [pure, Except.pure]
  | cons x xs ih =>
    rw [List.mapM_cons]
    constructor
    · intro h
      obtain ⟨y, first, h⟩ := bind_ok h
      obtain ⟨rest, later, h⟩ := bind_ok h
      rw [pure_ok h]
      exact .cons first (ih.mp later)
    · intro h
      cases h with
      | cons first later => rw [first, ih.mpr later]; rfl

theorem mapM_cons_eq_ok_iff {f : α → Except ε β} {x : α} {xs : List α} {ys : List β} :
    (x :: xs).mapM f = .ok ys ↔ ∃ y zs, f x = .ok y ∧ xs.mapM f = .ok zs ∧ ys = y :: zs := by
  rw [mapM_eq_ok_iff, List.forall₂_cons_left_iff]
  simp only [mapM_eq_ok_iff]

theorem mapM_append_eq_ok_iff {f : α → Except ε β} {xs ys : List α} {zs : List β} :
    (xs ++ ys).mapM f = .ok zs ↔
      ∃ us vs, xs.mapM f = .ok us ∧ ys.mapM f = .ok vs ∧ zs = us ++ vs := by
  induction xs generalizing zs with
  | nil => simp [pure, Except.pure]
  | cons x xs ih =>
    rw [List.cons_append, mapM_cons_eq_ok_iff]
    simp only [ih, mapM_cons_eq_ok_iff]
    constructor
    · rintro ⟨y, _, first, ⟨us, vs, rest, later, rfl⟩, rfl⟩
      exact ⟨y :: us, vs, ⟨y, us, first, rest, rfl⟩, later, rfl⟩
    · rintro ⟨_, vs, ⟨y, us, first, rest, rfl⟩, later, rfl⟩
      exact ⟨y, us ++ vs, first, ⟨us, vs, rest, later, rfl⟩, rfl⟩

/-- Two attempts next to each other among others. -/
theorem mapM_pair_eq_ok_iff {f : α → Except ε β} {before after : List α} {a b : α}
    {zs : List β} :
    (before ++ a :: b :: after).mapM f = .ok zs ↔
      ∃ us x y vs, before.mapM f = .ok us ∧ f a = .ok x ∧ f b = .ok y ∧ after.mapM f = .ok vs ∧
        zs = us ++ x :: y :: vs := by
  rw [mapM_append_eq_ok_iff]
  simp only [mapM_cons_eq_ok_iff]
  constructor
  · rintro ⟨us, _, front, ⟨x, _, first, ⟨y, vs, second, back, rfl⟩, rfl⟩, rfl⟩
    exact ⟨us, x, y, vs, front, first, second, back, rfl⟩
  · rintro ⟨us, x, y, vs, front, first, second, back, rfl⟩
    exact ⟨us, x :: y :: vs, front, ⟨x, y :: vs, first, ⟨y, vs, second, back, rfl⟩, rfl⟩, rfl⟩

theorem mapM_ok_of_map {f : α → Except ε β} {g : β → α} {ys : List β}
    (h : ∀ y ∈ ys, f (g y) = .ok y) : (ys.map g).mapM f = .ok ys := by
  rw [mapM_eq_ok_iff, List.forall₂_map_left_iff, List.forall₂_same]
  exact h

/-- Attempts that agree up to what an error tells both succeed or both fail. -/
theorem of_mapError_eq {x y : Except ε α} {g : ε → η} (h : y.mapError g = x.mapError g) :
    (∃ a, x = .ok a ∧ y = .ok a) ∨ ∃ e e', x = .error e ∧ y = .error e' ∧ g e' = g e := by
  cases x with
  | ok a => exact .inl ⟨a, rfl, mapError_eq_ok_iff.mp h⟩
  | error e =>
    cases y with
    | ok a => cases h
    | error e' => exact .inr ⟨e, e', rfl, rfl, Except.error.inj h⟩

theorem mapM_mapError_congr {f : α → Except ε β} {g : ε → η} {xs ys : List α}
    (same : List.Forall₂ (fun x y => (f y).mapError g = (f x).mapError g) xs ys) :
    (ys.mapM f).mapError g = (xs.mapM f).mapError g := by
  induction same with
  | nil => rfl
  | cons first _ ih =>
    rw [List.mapM_cons, List.mapM_cons]
    rcases of_mapError_eq first with ⟨a, done, done'⟩ | ⟨e, e', failed, failed', same⟩
    · rw [done, done']
      rcases of_mapError_eq ih with ⟨as, done, done'⟩ | ⟨e, e', failed, failed', same⟩
      · rw [done, done']
      · rw [failed, failed']
        exact congrArg Except.error same
    · rw [failed, failed']
      exact congrArg Except.error same

/-- Attempts at related inputs succeed with related results. -/
theorem mapM_ok_of_forall₂ {f : α → Except ε β} {g : γ → Except η δ} {R : α → γ → Prop}
    {S : β → δ → Prop} {xs : List α} {zs : List γ} {ys : List β} (related : List.Forall₂ R xs zs)
    (step : ∀ x z y, R x z → f x = .ok y → ∃ w, g z = .ok w ∧ S y w) (h : xs.mapM f = .ok ys) :
    ∃ ws, zs.mapM g = .ok ws ∧ List.Forall₂ S ys ws := by
  have paired := mapM_eq_ok_iff.mp h
  clear h
  induction related generalizing ys with
  | nil =>
    cases paired
    exact ⟨[], rfl, .nil⟩
  | cons same _ ih =>
    cases paired with
    | cons first later =>
      obtain ⟨w, done, result⟩ := step _ _ _ same first
      obtain ⟨ws, rest, results⟩ := ih later
      exact ⟨w :: ws, by rw [List.mapM_cons, done, rest]; rfl, .cons result results⟩

theorem mapM_ok_mono {f : α → Except ε β} {g : α → Except η β} {xs : List α} {ys : List β}
    (step : ∀ x y, f x = .ok y → g x = .ok y) (h : xs.mapM f = .ok ys) : xs.mapM g = .ok ys :=
  mapM_eq_ok_iff.mpr ((mapM_eq_ok_iff.mp h).imp step)

theorem mapM_congr {f g : α → Except ε β} {xs : List α} (same : ∀ x ∈ xs, g x = f x) :
    xs.mapM g = xs.mapM f := by
  induction xs with
  | nil => rfl
  | cons x xs ih =>
    rw [List.forall_mem_cons] at same
    rw [List.mapM_cons, List.mapM_cons, same.1, ih same.2]

/-- What is left out among the inputs is left out among the results. -/
theorem mapM_filter_ok {f : α → Except ε β} {xs : List α} {ys : List β} (keep : α → Bool)
    (kept : β → Bool) (same : ∀ x y, f x = .ok y → kept y = keep x) (h : xs.mapM f = .ok ys) :
    (xs.filter keep).mapM f = .ok (ys.filter kept) := by
  rw [mapM_eq_ok_iff] at *
  exact List.rel_filter (fun {x y} made => iff_of_eq (congrArg (· = true) (same x y made).symm)) h

theorem exists_mapM_ok {f : α → Except ε β} {xs : List α} (h : ∀ x ∈ xs, ∃ y, f x = .ok y) :
    ∃ ys, xs.mapM f = .ok ys := by
  induction xs with
  | nil => exact ⟨[], rfl⟩
  | cons x xs ih =>
    rw [List.forall_mem_cons] at h
    obtain ⟨y, first⟩ := h.1
    obtain ⟨ys, later⟩ := ih h.2
    exact ⟨y :: ys, by rw [List.mapM_cons, first, later]; rfl⟩

/-- What successful attempts have given are the results of the single ones. -/
theorem mem_mapM_ok {f : α → Except ε β} {xs : List α} {ys : List β} (h : xs.mapM f = .ok ys)
    {y : β} : y ∈ ys ↔ ∃ x ∈ xs, f x = .ok y := by
  have paired := mapM_eq_ok_iff.mp h
  clear h
  induction paired with
  | nil => simp
  | @cons x z _ _ first _ ih =>
    rw [List.mem_cons, List.exists_mem_cons_iff, first]
    exact or_congr ⟨fun same => by rw [same], fun same => (Except.ok.inj same).symm⟩ ih

/-- What the single results have in common with their sources, the lists have. -/
theorem map_of_mapM_ok {f : α → Except ε β} {g : β → γ} {h : α → γ} {xs : List α} {ys : List β}
    (ok : xs.mapM f = .ok ys) (same : ∀ x y, f x = .ok y → g y = h x) : ys.map g = xs.map h := by
  have paired := mapM_eq_ok_iff.mp ok
  clear ok
  induction paired with
  | nil => rfl
  | cons first _ ih => rw [List.map_cons, List.map_cons, same _ _ first, ih]

theorem ok_of_mapM_ok {f : α → Except ε β} {xs : List α} {ys : List β} (h : xs.mapM f = .ok ys)
    {x : α} (member : x ∈ xs) : ∃ y ∈ ys, f x = .ok y := by
  have paired := mapM_eq_ok_iff.mp h
  clear h
  induction paired with
  | nil => cases member
  | cons first _ ih =>
    rcases List.mem_cons.mp member with rfl | later
    · exact ⟨_, List.mem_cons_self, first⟩
    · obtain ⟨y, present, read⟩ := ih later
      exact ⟨y, List.mem_cons_of_mem _ present, read⟩

/-! ### Attempts that fail -/

/-- An attempt that fails, for whatever reason. -/
def Fails (x : Except ε α) : Prop := ∃ e, x = .error e

theorem fails_iff {x : Except ε α} : Fails x ↔ ∀ a, x ≠ .ok a := by
  cases x with
  | error e => exact iff_of_true ⟨e, rfl⟩ fun a done => nomatch done
  | ok a => exact iff_of_false (fun ⟨_, failed⟩ => nomatch failed) fun none => none a rfl

theorem not_fails_ok (a : α) : ¬ Fails (.ok a : Except ε α) := fun ⟨_, failed⟩ => nomatch failed

@[simp] theorem fails_mapError_iff {x : Except ε α} {f : ε → η} :
    Fails (x.mapError f) ↔ Fails x := by
  cases x <;> simp [Fails, Except.mapError]

@[simp] theorem fails_map_iff {x : Except ε α} {f : α → β} : Fails (x.map f) ↔ Fails x := by
  cases x <;> simp [Fails, Except.map]

theorem fails_bind_iff {m : Except ε α} {k : α → Except ε β} :
    Fails (m >>= k) ↔ Fails m ∨ ∃ a, m = .ok a ∧ Fails (k a) := by
  cases m with
  | error e => exact iff_of_true ⟨e, rfl⟩ (.inl ⟨e, rfl⟩)
  | ok a =>
    refine ⟨fun failed => .inr ⟨a, rfl, failed⟩, fun h => ?_⟩
    obtain ⟨_, same, failed⟩ := h.resolve_left (not_fails_ok a)
    exact Except.ok.inj same ▸ failed

/-- Attempts one after another fail if and only if one of them fails, wherever it stands. -/
theorem fails_mapM_iff {f : α → Except ε β} {xs : List α} :
    Fails (xs.mapM f) ↔ ∃ x ∈ xs, Fails (f x) := by
  constructor
  · intro failed
    by_contra none
    have all : ∀ x ∈ xs, ∃ y, f x = .ok y := by
      intro x member
      by_contra other
      exact none ⟨x, member, fails_iff.mpr fun y done => other ⟨y, done⟩⟩
    obtain ⟨ys, done⟩ := exists_mapM_ok all
    exact not_fails_ok ys (done ▸ failed)
  · rintro ⟨x, member, failed⟩
    refine fails_iff.mpr fun ys done => ?_
    obtain ⟨y, _, made⟩ := ok_of_mapM_ok done member
    exact not_fails_ok y (made ▸ failed)

end TagSchema
