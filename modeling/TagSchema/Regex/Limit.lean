import TagSchema.Regex.Basic

/-!
# The limit of size

The engine compiles a pattern to an automaton and refuses one that takes more than `sizeLimit`
bytes. What an automaton takes is the engine's own affair: a `Limit` only says which patterns are
small enough, and `Limit.Lawful` what is known of it. `Limit.standard` is the limit in use, with an
estimate in place of the automaton; nothing that is proved of a lawful limit depends on it.
-/

namespace TagSchema.Regex

/-- The bytes that an automaton may take. -/
def sizeLimit : Nat := 10485760

/-- Which patterns are small enough to compile. -/
structure Limit where
  admits : Regex → Bool

/-! ### Measures of patterns -/

/-- How often a counted repetition is written out. -/
def writtenOut (least : Nat) (most : Option Nat) : Nat := max 1 (max least (most.getD 0))

/-- Ranges of the set, one by one. -/
def CharSet.extent : CharSet → Nat
  | .union a b => a.extent + b.extent
  | _ => 1

/-- The ranges and positions that the pattern names once its repetitions are written out. -/
def extent : Regex → Nat
  | .empty | .anchor _ => 1
  | .set s => s.extent
  | .cat a b => a.extent + b.extent
  | .alt a b => a.extent + b.extent + 1
  | .rep a least most => (a.extent + 1) * writtenOut least most

/-- Each range of the set is a single character or within ASCII. -/
def CharSet.isNarrow : CharSet → Bool
  | .range lo hi => lo == hi || hi.toNat < 0x80
  | .nothing => true
  | .union a b => a.isNarrow && b.isNarrow
  | .categories _ | .property _ | .script _ | .anything | .inter .. | .diff .. | .symmDiff ..
  | .compl _ | .folded _ => false

def isNarrow : Regex → Bool
  | .empty | .anchor _ => true
  | .set s => s.isNarrow
  | .cat a b | .alt a b => a.isNarrow && b.isNarrow
  | .rep a _ _ => a.isNarrow

/-- The fewest characters that a match has. -/
def shortest : Regex → Nat
  | .empty | .anchor _ => 0
  | .set _ => 1
  | .cat a b => a.shortest + b.shortest
  | .alt a b => min a.shortest b.shortest
  | .rep a least _ => a.shortest * least

/-! ### Laws -/

/-- What is known of the engine's limit. -/
structure Limit.Lawful (limit : Limit) : Prop where
  /-- Counted repetitions are written out and nothing else multiplies a pattern. A range that is a
  single character or within ASCII takes a kilobyte at most. -/
  ample {r : Regex} : r.isNarrow = true → 1024 * r.extent ≤ sizeLimit → limit.admits r = true
  /-- A match passes a state for each of its characters, and a state takes 32 bytes. -/
  tight {r : Regex} : sizeLimit < 32 * r.shortest → limit.admits r = false
  /-- A part of a text takes no more than the text. -/
  part {a b r : Regex} : limit.admits (whole (a ++ (r ++ b))) = true →
    limit.admits (whole r) = true

/-! ### The limit in use -/

/-- An estimate of what the states for a set take. -/
def CharSet.weight : CharSet → Nat
  | .range lo hi => if lo == hi then 32 * lo.utf8Size else if hi.toNat < 0x80 then 64 else 200
  | .categories ks => 64 + 60 * (ks.flatMap (·.runs)).length
  | .property .word => 46000
  | .property .alphabetic => 44000
  | .property _ => 4000
  | .script s => 64 + 60 * s.runs.length
  | .nothing => 32
  | .anything => 400
  | .union a b | .inter a b | .diff a b | .symmDiff a b => a.weight + b.weight
  | .compl a => a.weight + 200
  | .folded a => a.weight + 40

/-- An estimate of what the automaton takes. -/
def weight : Regex → Nat
  | .empty | .anchor _ => 32
  | .set s => s.weight
  | .cat a b => a.weight + b.weight
  | .alt a b => a.weight + b.weight + 64
  | .rep a least most => 64 + a.weight * writtenOut least most

def Limit.standard : Limit := ⟨fun r => r.weight ≤ sizeLimit⟩

theorem one_le_writtenOut (least : Nat) (most : Option Nat) : 1 ≤ writtenOut least most :=
  Nat.le_max_left _ _

theorem least_le_writtenOut (least : Nat) (most : Option Nat) : least ≤ writtenOut least most :=
  Nat.le_trans (Nat.le_max_left _ _) (Nat.le_max_right _ _)

theorem CharSet.weight_le_extent {s : CharSet} (narrow : s.isNarrow = true) :
    s.weight ≤ 128 * s.extent := by
  induction s with
  | range lo hi =>
    have bytes := lo.utf8Size_le_four
    change _ ≤ 128 * 1
    rw [weight]
    split
    · omega
    · rename_i wide
      rw [isNarrow, Bool.or_eq_true, decide_eq_true_eq] at narrow
      rw [if_pos (narrow.resolve_left wide)]
      decide
  | nothing => decide
  | union a b first second =>
    rw [isNarrow, Bool.and_eq_true] at narrow
    have first := first narrow.1
    have second := second narrow.2
    rw [weight, extent]
    omega
  | _ => cases narrow

theorem weight_le_extent {r : Regex} (narrow : r.isNarrow = true) : r.weight ≤ 128 * r.extent := by
  induction r with
  | empty | anchor => exact (by decide : 32 ≤ 128 * 1)
  | set s => exact s.weight_le_extent narrow
  | cat a b first second =>
    rw [isNarrow, Bool.and_eq_true] at narrow
    have first := first narrow.1
    have second := second narrow.2
    rw [weight, extent]
    omega
  | alt a b left right =>
    rw [isNarrow, Bool.and_eq_true] at narrow
    have left := left narrow.1
    have right := right narrow.2
    rw [weight, extent]
    omega
  | rep a least most ih =>
    have once := one_le_writtenOut least most
    have each : a.weight * writtenOut least most ≤ 128 * a.extent * writtenOut least most :=
      Nat.mul_le_mul_right _ (ih narrow)
    rw [weight, extent, ← Nat.mul_assoc, Nat.mul_add, Nat.add_mul]
    omega

theorem CharSet.le_weight (s : CharSet) : 32 ≤ s.weight := by
  induction s with
  | range lo hi =>
    have bytes := lo.utf8Size_pos
    rw [weight]
    split
    · omega
    · split <;> decide
  | property p => cases p <;> decide
  | nothing => exact Nat.le_refl 32
  | _ => rw [weight]; omega

theorem shortest_le_weight (r : Regex) : 32 * r.shortest ≤ r.weight := by
  induction r with
  | empty | anchor => exact Nat.zero_le _
  | set s => exact s.le_weight
  | cat a b first second =>
    rw [weight, shortest]
    omega
  | alt a b left right =>
    rw [weight, shortest]
    omega
  | rep a least most ih =>
    have each : 32 * a.shortest * least ≤ a.weight * writtenOut least most :=
      Nat.mul_le_mul ih (least_le_writtenOut least most)
    rw [weight, shortest, ← Nat.mul_assoc]
    omega

theorem weight_append (a b : Regex) : (a ++ b).weight = a.weight + b.weight := rfl

theorem weight_whole (r : Regex) : (whole r).weight = 32 + r.weight + 32 := rfl

theorem Limit.standard_lawful : Limit.standard.Lawful where
  ample narrow small := decide_eq_true (by have := weight_le_extent narrow; omega)
  tight {r} large := decide_eq_false (by have := shortest_le_weight r; omega)
  part {a b r} small := by
    have small : _ ≤ sizeLimit := of_decide_eq_true small
    rw [weight_whole, weight_append, weight_append] at small
    exact decide_eq_true (by rw [weight_whole]; omega)

end TagSchema.Regex
