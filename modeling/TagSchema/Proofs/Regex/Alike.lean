import Mathlib.Data.List.Sort
import TagSchema.Proofs.Regex.Matcher

/-!
# Patterns that match alike

Patterns of different shape may match the same texts. `canonical` forgets how concatenations,
alternatives and unions of sets are nested, and keeps what a pattern matches: `alike_canonical`.
-/

namespace TagSchema.Regex

/-- The patterns match the same texts wherever these stand. -/
def Alike (a b : Regex) : Prop :=
  ∀ before u after, Spans a before u after ↔ Spans b before u after

namespace Alike

variable {a b c d : Regex}

theorem refl (a : Regex) : Alike a a := fun _ _ _ => Iff.rfl

theorem symm (h : Alike a b) : Alike b a := fun _ _ _ => (h _ _ _).symm

theorem trans (first : Alike a b) (second : Alike b c) : Alike a c :=
  fun _ _ _ => (first _ _ _).trans (second _ _ _)

theorem cat (first : Alike a b) (second : Alike c d) : Alike (.cat a c) (.cat b d) := by
  intro before u after
  simp only [spans_cat, first _ _ _, second _ _ _]

theorem alt (first : Alike a b) (second : Alike c d) : Alike (.alt a c) (.alt b d) := by
  intro before u after
  simp only [spans_alt, first _ _ _, second _ _ _]

theorem times {n : Nat} (h : Alike a b) {before u after : List Char} :
    SpansTimes a n before u after ↔ SpansTimes b n before u after := by
  induction n generalizing before u with
  | zero => rw [spansTimes_zero, spansTimes_zero]
  | succ n ih => simp only [spansTimes_succ, h _ _ _, ih]

theorem rep (h : Alike a b) (least : Nat) (most : Option Nat) :
    Alike (.rep a least most) (.rep b least most) := by
  intro before u after
  simp only [spans_rep, h.times]

theorem set {s t : CharSet} (h : ∀ c, s.has c = t.has c) : Alike (.set s) (.set t) := by
  intro before u after
  simp only [spans_set, h]

theorem cat_assoc (a b c : Regex) : Alike (.cat (.cat a b) c) (.cat a (.cat b c)) := by
  intro before u after
  simp only [spans_cat]
  constructor
  · rintro ⟨_, v, rfl, ⟨s, t, rfl, first, second⟩, third⟩
    refine ⟨s, t ++ v, by simp, by simpa using first, t, v, rfl, second, by simpa using third⟩
  · rintro ⟨s, _, rfl, first, t, v, rfl, second, third⟩
    refine ⟨s ++ t, v, by simp, ⟨s, t, rfl, by simpa using first, second⟩, by simpa using third⟩

theorem empty_cat (a : Regex) : Alike (.cat .empty a) a := by
  intro before u after
  simp [spans_cat, spans_empty]

theorem cat_empty (a : Regex) : Alike (.cat a .empty) a := by
  intro before u after
  simp [spans_cat, spans_empty]

theorem alt_assoc (a b c : Regex) : Alike (.alt (.alt a b) c) (.alt a (.alt b c)) := by
  intro before u after
  simp only [spans_alt, or_assoc]

theorem rep_zero (a : Regex) : Alike (.rep a 0 (some 0)) .empty := by
  intro before u after
  simp only [spans_rep, spans_empty, admits, Option.mem_some_iff, forall_eq', Nat.le_zero]
  constructor
  · rintro ⟨n, ⟨-, rfl⟩, none⟩
    exact spansTimes_zero.mp none
  · intro none
    exact ⟨0, ⟨Nat.le_refl 0, rfl⟩, spansTimes_zero.mpr none⟩

theorem rep_succ (a : Regex) (n : Nat) :
    Alike (.rep a (n + 1) (some (n + 1))) (.cat a (.rep a n (some n))) := by
  have exact_count (k : Nat) {before u after : List Char} :
      Spans (.rep a k (some k)) before u after ↔ SpansTimes a k before u after := by
    simp only [spans_rep, admits, Option.mem_some_iff, forall_eq', ← Nat.le_antisymm_iff]
    constructor
    · rintro ⟨_, rfl, h⟩
      exact h
    · intro h
      exact ⟨k, rfl, h⟩
  intro before u after
  simp only [spans_cat, exact_count, spansTimes_succ]

theorem isMatch (h : Alike a b) (s : String) : a.isMatch s = b.isMatch s := by
  rw [Bool.eq_iff_iff, isMatch_iff_occurs, isMatch_iff_occurs]
  simp only [Occurs, h _ _ _]

end Alike

/-! ### Sets of characters -/

namespace CharSet

def ofMembers : List CharSet → CharSet
  | [] => .nothing
  | [s] => s
  | s :: ss => .union s (ofMembers ss)

/-- All characters if a set stands beside its complement. -/
def united (ss : List CharSet) : CharSet :=
  if ss.any fun s => ss.contains (.compl s) then .anything else ofMembers ss

/-- Where a member of a union is put: ranges by their first character, after all others. -/
def place : CharSet → Nat
  | .range lo _ => lo.toNat + 1
  | _ => 0

def sorted (ss : List CharSet) : List CharSet := ss.insertionSort fun s t => s.place ≤ t.place

/-- The sets a union consists of; two neighbours are two sets. -/
def members : CharSet → List CharSet
  | .union a b => members a ++ members b
  | .nothing => []
  | .range lo hi => if hi.toNat = lo.toNat + 1 then [single lo, single hi] else [.range lo hi]
  | .compl a => [.compl (united (sorted (members a)))]
  | s => [s]

def canonical (s : CharSet) : CharSet := united (sorted s.members)

theorem has_ofMembers (ss : List CharSet) (c : Char) :
    (ofMembers ss).has c = ss.any (·.has c) := by
  induction ss with
  | nil => rfl
  | cons s ss ih =>
    cases ss with
    | nil => simp [ofMembers]
    | cons t ss =>
      change (s.has c || (ofMembers (t :: ss)).has c) = (s.has c || (t :: ss).any (·.has c))
      rw [ih]

theorem has_united (ss : List CharSet) (c : Char) : (united ss).has c = ss.any (·.has c) := by
  rw [united]
  split
  · rename_i whole
    obtain ⟨s, member, opposite⟩ := List.any_eq_true.mp whole
    rw [List.contains_iff_mem] at opposite
    symm
    rw [has, List.any_eq_true]
    cases inside : s.has c with
    | true => exact ⟨s, member, inside⟩
    | false => exact ⟨_, opposite, by rw [has, inside]; rfl⟩
  · exact has_ofMembers ss c

theorem any_sorted (ss : List CharSet) (c : Char) : (sorted ss).any (·.has c) = ss.any (·.has c) :=
  (List.perm_insertionSort _ ss).any_eq

theorem has_members (s : CharSet) (c : Char) : s.members.any (·.has c) = s.has c := by
  induction s with
  | union a b left right => rw [members, List.any_append, left, right, has]
  | range lo hi =>
    rw [members]
    split
    · rename_i next
      rw [Bool.eq_iff_iff]
      simp only [List.any_cons, List.any_nil, Bool.or_false, has_single, Bool.or_eq_true,
        beq_iff_eq, has, Bool.and_eq_true, decide_eq_true_eq, ← Char.toNat_inj]
      change _ ↔ lo.toNat ≤ c.toNat ∧ c.toNat ≤ hi.toNat
      omega
    · simp
  | compl a ih => simp [members, has, has_united, any_sorted, ih]
  | nothing => rfl
  | _ => simp [members]

theorem has_canonical (s : CharSet) (c : Char) : s.canonical.has c = s.has c := by
  rw [canonical, has_united, any_sorted, has_members]

end CharSet

/-! ### Patterns -/

/-- One pattern after another, without nesting on the left. -/
def joined : Regex → Regex → Regex
  | .empty, r => r
  | .cat a b, r => .cat a (joined b r)
  | a, .empty => a
  | a, r => .cat a r

/-- One pattern or another, without nesting on the left. -/
def either : Regex → Regex → Regex
  | .alt a b, r => .alt a (either b r)
  | a, r => .alt a r

def copies (r : Regex) : Nat → Regex
  | 0 => .empty
  | n + 1 => joined r (copies r n)

/-- Concatenations, alternatives and unions nested on the right, sets in order, and two or three
repetitions written out. -/
def canonical : Regex → Regex
  | .empty => .empty
  | .set s => .set s.canonical
  | .anchor a => .anchor a
  | .cat a b => joined a.canonical b.canonical
  | .alt a b => either a.canonical b.canonical
  | .rep a least most =>
    if most = some least ∧ least ≤ 3 then copies a.canonical least
    else .rep a.canonical least most

theorem alike_joined (a b : Regex) : Alike (joined a b) (.cat a b) := by
  induction a with
  | empty => exact (Alike.empty_cat b).symm
  | cat a c _ ih => exact ((Alike.refl a).cat ih).trans (Alike.cat_assoc a c b).symm
  | _ => cases b <;> first | exact Alike.refl _ | exact (Alike.cat_empty _).symm

theorem alike_either (a b : Regex) : Alike (either a b) (.alt a b) := by
  induction a with
  | alt a c _ ih => exact ((Alike.refl a).alt ih).trans (Alike.alt_assoc a c b).symm
  | _ => exact Alike.refl _

theorem alike_copies (r : Regex) (n : Nat) : Alike (copies r n) (.rep r n (some n)) := by
  induction n with
  | zero => exact (Alike.rep_zero r).symm
  | succ n ih =>
    exact (alike_joined _ _).trans (((Alike.refl r).cat ih).trans (Alike.rep_succ r n).symm)

theorem alike_canonical (r : Regex) : Alike r.canonical r := by
  induction r with
  | set s => exact Alike.set s.has_canonical
  | cat a b first second => exact (alike_joined _ _).trans (first.cat second)
  | alt a b first second => exact (alike_either _ _).trans (first.alt second)
  | rep a least most ih =>
    rw [canonical]
    split
    · rename_i few
      rw [few.1]
      exact (alike_copies _ _).trans (ih.rep _ _)
    · exact ih.rep _ _
  | _ => exact Alike.refl _

theorem alike_of_canonical {a b : Regex} (same : a.canonical = b.canonical) : Alike a b :=
  (alike_canonical a).symm.trans (same ▸ alike_canonical b)

end TagSchema.Regex
