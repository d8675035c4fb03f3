/-!
# Runs of code points

The character tables list evenly spaced code points as runs, in ascending order.
`contains_eq_any` says that stopping at the first run beyond a code point loses nothing.
-/

namespace TagSchema.Text

/-- The code points `first`, `first + step`, …, `last`. -/
structure Run where
  first : Nat
  last : Nat
  step : Nat

namespace Run

def has (r : Run) (c : Nat) : Bool :=
  r.first ≤ c && c ≤ r.last && (c - r.first) % r.step == 0

/-- Membership in ascending runs, read up to the first run that starts beyond `c`. -/
def contains : List Run → Nat → Bool
  | [], _ => false
  | r :: rs, c => if c < r.first then false else r.has c || contains rs c

/-- Each run starts after the one before it. -/
def Ascending (rs : List Run) : Prop := rs.Pairwise fun a b => a.first < b.first

theorem has_of_lt {r : Run} {c : Nat} (h : c < r.first) : r.has c = false := by
  have : ¬ r.first ≤ c := by omega
  simp [has, this]

theorem contains_eq_any {rs : List Run} (h : Ascending rs) (c : Nat) :
    contains rs c = rs.any (·.has c) := by
  induction rs with
  | nil => rfl
  | cons r rs ih =>
    have ⟨hr, hs⟩ := List.pairwise_cons.1 h
    by_cases hc : c < r.first
    · have : rs.any (·.has c) = false := by
        rw [List.any_eq_false]
        intro x hx
        simp [has_of_lt (Nat.lt_trans hc (hr x hx))]
      simp [contains, hc, has_of_lt hc, this]
    · simp [contains, hc, ih hs]

end Run

end TagSchema.Text
