import Mathlib.Data.Nat.ModEq
import TagSchema.Proofs.Text.Case

/-!
# Texts after a case mapping

A mapped character is not mapped further, and it is in the other case only where it was already:
`IsCaseMap`. A letter that has a case but no mapping stays as it is. As for letters in lower case,
the tables settle this run by run (`Run.misses`).
-/

namespace TagSchema.Text

/-! ### Runs that share nothing -/

namespace Run

/-- How far neighbours are apart; the only member of a run has none. -/
def stride (r : Run) : Nat := if Nat.beq r.first r.last then 0 else r.step

theorem modEq_first {r : Run} {n : Nat} (h : r.has n = true) : n ≡ r.first [MOD r.stride] := by
  obtain ⟨low, high, aligned⟩ := has_iff.mp h
  rw [stride]
  split
  · rename_i single
    have ends := Nat.eq_of_beq_eq_true single
    rw [show n = r.first by omega]
  · exact ((Nat.modEq_iff_dvd' low).mpr (Nat.dvd_of_mod_eq_zero aligned)).symm

/-- Whether `s` ends before `r` starts, or their members leave different remainders. -/
def apart (r s : Run) : Bool :=
  Nat.blt s.last r.first ||
    !Nat.beq (r.first % Nat.gcd r.stride s.stride) (s.first % Nat.gcd r.stride s.stride)

theorem not_has_of_apart {r s : Run} {n : Nat} (h : r.apart s = true) (member : r.has n = true) :
    s.has n = false := by
  rw [Bool.eq_false_iff]
  intro shared
  rcases Bool.or_eq_true_iff.mp h with before | remainders
  · have ends := Nat.le_of_ble_eq_true before
    have low := (has_iff.mp member).1
    have high := (has_iff.mp shared).2.1
    omega
  · have same : r.first ≡ s.first [MOD Nat.gcd r.stride s.stride] :=
      ((modEq_first member).of_dvd (Nat.gcd_dvd_left _ _)).symm.trans
        ((modEq_first shared).of_dvd (Nat.gcd_dvd_right _ _))
    exact Nat.ne_of_beq_eq_false (Bool.not_eq_true' _ ▸ remainders) same

/-- Whether `r` shares nothing with the runs up to the first that starts beyond it. -/
def misses (r : Run) : List Run → Bool
  | [] => true
  | s :: ss => Nat.blt r.last s.first || (r.apart s && misses r ss)

theorem not_contains_of_misses {r : Run} {rs : List Run} {n : Nat} (h : r.misses rs = true)
    (member : r.has n = true) : contains rs n = false := by
  induction rs with
  | nil => rfl
  | cons s ss ih =>
    rw [contains]
    split
    · rfl
    · rename_i started
      rcases Bool.or_eq_true_iff.mp h with beyond | h
      · have ends := Nat.le_of_ble_eq_true beyond
        have high := (has_iff.mp member).2.1
        omega
      · obtain ⟨apart, rest⟩ := Bool.and_eq_true_iff.mp h
        rw [not_has_of_apart apart member, ih rest]
        rfl

theorem not_has_of_not_contains {rs : List Run} {n : Nat}
    (chain : rs.IsChain (·.first < ·.first)) (h : contains rs n = false) {r : Run}
    (member : r ∈ rs) : r.has n = false := by
  rw [Bool.eq_false_iff] at h ⊢
  exact mt (contains_of_has chain member) h

end Run

/-! ### Tables of a case -/

theorem Shift.apply_of_not_contains {rows : List Shift} {c : Char}
    (chain : (rows.map run).IsChain (·.first < ·.first))
    (h : Run.contains (rows.map run) c.toNat = false) : apply rows c = c := by
  have missing : rows.find? (·.run.has c.toNat) = none := by
    rw [List.find?_eq_none]
    intro s member
    rw [Run.not_has_of_not_contains chain h (List.mem_map_of_mem member)]
    exact Bool.false_ne_true
  rw [apply, missing]

/-- The letters of a case and the rows that move them, once and out of the case. -/
structure CaseTable where
  rows : List Shift
  letters : List Run
  /-- What has the case without being a letter of it. -/
  others : List Run
  /-- The case and the mapping as they are for ASCII. -/
  cased : Char → Bool
  moved : Char → Char
  safe : rows.all Shift.isSafe = true
  ascending : (rows.map Shift.run).IsChain (·.first < ·.first)
  leaves_letters : rows.all (·.target.misses letters) = true
  leaves_others : rows.all (·.target.misses others) = true
  leaves_rows : rows.all (·.target.misses (rows.map Shift.run)) = true
  cased_ascii : ∀ n < 0x80, cased (Char.ofNat n) =
    (Run.contains letters n || Run.contains others n)
  moved_ascii : ∀ n < 0x80, moved (Char.ofNat n) =
    if Run.contains (rows.map Shift.run) n then Shift.apply rows (Char.ofNat n) else Char.ofNat n

namespace CaseTable

variable (t : CaseTable) {c : Char}

def apply (c : Char) : Char := Shift.apply t.rows c

def has (c : Char) : Bool :=
  if c.toNat < 0x80 then t.cased c
  else Run.contains t.letters c.toNat || Run.contains t.others c.toNat

variable {t}

theorem not_contains_apply {runs : List Run} (leaves : t.rows.all (·.target.misses runs) = true)
    (moved : t.apply c ≠ c) : Run.contains runs (t.apply c).toNat = false := by
  obtain ⟨s, member, reached⟩ := (Shift.apply_cases t.safe c).resolve_left moved
  exact Run.not_contains_of_misses (List.all_eq_true.mp leaves s member) reached

theorem apply_apply : t.apply (t.apply c) = t.apply c := by
  by_cases moved : t.apply c = c
  · rw [moved, moved]
  · exact Shift.apply_of_not_contains t.ascending (not_contains_apply t.leaves_rows moved)

theorem not_has_apply (moved : t.apply c ≠ c) : t.has (t.apply c) = false := by
  have outside : (Run.contains t.letters (t.apply c).toNat ||
      Run.contains t.others (t.apply c).toNat) = false := by
    rw [not_contains_apply t.leaves_letters moved, not_contains_apply t.leaves_others moved]
    rfl
  rw [has]
  split
  · rename_i ascii
    have table := t.cased_ascii _ ascii
    rwa [Char.ofNat_toNat, outside] at table
  · exact outside

theorem moved_eq_apply (ascii : c.toNat < 0x80) : t.moved c = t.apply c := by
  have table := t.moved_ascii c.toNat ascii
  rw [Char.ofNat_toNat] at table
  rw [table]
  split
  · rfl
  · rename_i outside
    exact (Shift.apply_of_not_contains t.ascending (Bool.eq_false_iff.mpr outside)).symm

end CaseTable

def capitals : CaseTable where
  rows := lowerShifts
  letters := uppercaseLetters
  others := otherUppercase
  cased := Char.isUpper
  moved := Char.toLower
  safe := lowerShifts_small.1
  ascending := by decide +kernel
  leaves_letters := by decide +kernel
  leaves_others := by decide +kernel
  leaves_rows := by decide +kernel
  cased_ascii := by decide +kernel
  moved_ascii := by decide +kernel

def smalls : CaseTable where
  rows := upperShifts
  letters := lowercaseLetters
  others := otherLowercase
  cased := Char.isLower
  moved := Char.toUpper
  safe := by decide +kernel
  ascending := by decide +kernel
  leaves_letters := by decide +kernel
  leaves_others := by decide +kernel
  leaves_rows := by decide +kernel
  cased_ascii := by decide +kernel
  moved_ascii := by decide +kernel

/-- The characters that have an uppercase form of several characters. -/
def expanded : List Run := upperExpansions.map fun e => ⟨e.1, e.1, 1⟩

theorem upperExpansions_settle : expanded.IsChain (·.first < ·.first) ∧
    upperShifts.all (·.target.misses expanded) = true ∧
    ∀ e ∈ upperExpansions, 0x80 ≤ e.1 ∧ ∀ n ∈ e.2,
      upperChar (Char.ofNat n) = [Char.ofNat n] ∧ isLowercase (Char.ofNat n) = false := by
  decide +kernel

/-! ### Characters -/

/-- Each character is kept, or its images are kept and none of them is in the other case. -/
def Settles (mapped : Char → List Char) (other : Char → Bool) : Prop :=
  ∀ c, mapped c = [c] ∨ ∀ d ∈ mapped c, mapped d = [d] ∧ other d = false

theorem lowerChar_eq {c : Char} (other : c ≠ '\u0130') : lowerChar c = [capitals.apply c] := by
  rw [lowerChar]
  split
  · rename_i ascii
    exact congrArg (fun d => [d]) (capitals.moved_eq_apply ascii)
  · rw [if_neg (by simpa using other)]
    rfl

theorem upperChar_eq {c : Char} (single : upperExpansions.lookup c.toNat = none) :
    upperChar c = [smalls.apply c] := by
  rw [upperChar]
  split
  · rename_i ascii
    exact congrArg (fun d => [d]) (smalls.moved_eq_apply ascii)
  · rw [single]
    rfl

theorem upperChar_expanded {c : Char} {ns : List Nat}
    (several : upperExpansions.lookup c.toNat = some ns) :
    (c.toNat, ns) ∈ upperExpansions ∧ upperChar c = ns.map Char.ofNat := by
  have listed : (c.toNat, ns) ∈ upperExpansions := by
    obtain ⟨before, after, split, -⟩ := List.lookup_eq_some_iff.mp several
    rw [split]
    exact List.mem_append_right _ List.mem_cons_self
  have wide := (upperExpansions_settle.2.2 _ listed).1
  rw [upperChar, if_neg (Nat.not_lt.mpr wide), several]
  exact ⟨listed, rfl⟩

theorem lookup_of_not_expanded {n : Nat} (h : Run.contains expanded n = false) :
    upperExpansions.lookup n = none := by
  rw [List.lookup_eq_none_iff]
  intro e member
  have absent :=
    Run.not_has_of_not_contains upperExpansions_settle.1 h (List.mem_map_of_mem member)
  have other : n ≠ e.1 := by
    rintro rfl
    exact Bool.eq_false_iff.mp absent
      (Run.has_iff.mpr ⟨Nat.le_refl _, Nat.le_refl _, Nat.mod_one _⟩)
  simpa using other

/-- The letters that `lowerChar` and `lowerFrom` treat on their own. -/
theorem irregular_letters : isUppercase '\u0130' = true ∧
    lowerChar '\u0130' = ['i', '\u0307'] ∧ lowerChar 'Σ' = ['σ'] ∧
    ['i', '\u0307', 'ς'].all (fun d => lowerChar d == [d] && !isUppercase d) = true := by
  decide +kernel

theorem irregular_images {d : Char} (h : d ∈ ['i', '\u0307', 'ς']) :
    lowerChar d = [d] ∧ isUppercase d = false := by
  have small := List.all_eq_true.mp irregular_letters.2.2.2 d h
  rwa [Bool.and_eq_true, beq_iff_eq, Bool.not_eq_true'] at small

theorem lowerChar_settles : Settles lowerChar isUppercase := by
  intro c
  obtain ⟨dotted, images, -⟩ := irregular_letters
  by_cases special : c = '\u0130'
  · subst special
    rw [images]
    exact .inr fun d member => irregular_images (List.mem_append_left ['ς'] member)
  rw [lowerChar_eq special]
  by_cases moved : capitals.apply c = c
  · exact .inl (by rw [moved])
  have small : isUppercase (capitals.apply c) = false := CaseTable.not_has_apply moved
  have dotless : capitals.apply c ≠ '\u0130' := by
    intro same
    rw [same, dotted] at small
    cases small
  refine .inr fun d member => ?_
  rw [List.mem_singleton.mp member, lowerChar_eq dotless, CaseTable.apply_apply]
  exact ⟨rfl, small⟩

theorem upperChar_settles : Settles upperChar isLowercase := by
  intro c
  obtain ⟨-, leaves, images⟩ := upperExpansions_settle
  cases several : upperExpansions.lookup c.toNat with
  | some ns =>
    obtain ⟨listed, expansion⟩ := upperChar_expanded several
    refine .inr fun d member => ?_
    rw [expansion, List.mem_map] at member
    obtain ⟨n, within, rfl⟩ := member
    exact (images _ listed).2 n within
  | none =>
    rw [upperChar_eq several]
    by_cases moved : smalls.apply c = c
    · exact .inl (by rw [moved])
    have single : upperExpansions.lookup (smalls.apply c).toNat = none :=
      lookup_of_not_expanded (CaseTable.not_contains_apply leaves moved)
    refine .inr fun d member => ?_
    rw [List.mem_singleton.mp member, upperChar_eq single, CaseTable.apply_apply]
    exact ⟨rfl, CaseTable.not_has_apply moved⟩

/-! ### Texts -/

/-- A mapping of texts that maps no character twice, and brings in none of the other case. -/
structure IsCaseMap (mapped : Char → List Char) (other : Char → Bool)
    (text : List Char → List Char) : Prop where
  settled : ∀ {cs d}, d ∈ text cs → mapped d = [d]
  kept : ∀ {cs d}, d ∈ text cs → other d = true → d ∈ cs
  keeps : ∀ {cs c}, c ∈ cs → mapped c = [c] → c ∈ text cs
  still : ∀ {cs}, (∀ c ∈ cs, mapped c = [c]) → text cs = cs

namespace IsCaseMap

variable {mapped : Char → List Char} {other : Char → Bool} {text : List Char → List Char}

/-- What is left of the other case is what has no mapping. -/
theorem exists_other_iff (h : IsCaseMap mapped other text) {cs : List Char} :
    (∃ d ∈ text cs, other d = true) ↔ ∃ c ∈ cs, other c = true ∧ mapped c = [c] := by
  constructor
  · rintro ⟨d, member, cased⟩
    exact ⟨d, h.kept member cased, cased, h.settled member⟩
  · rintro ⟨c, member, cased, fixed⟩
    exact ⟨c, h.keeps member fixed, cased⟩

theorem idempotent (h : IsCaseMap mapped other text) (cs : List Char) :
    text (text cs) = text cs :=
  h.still fun _ member => h.settled member

end IsCaseMap

theorem Settles.of_mem {mapped : Char → List Char} {other : Char → Bool}
    (h : Settles mapped other) {c d : Char} (member : d ∈ mapped c) :
    mapped d = [d] ∧ (other d = true → d = c) := by
  rcases h c with fixed | moved
  · rw [fixed, List.mem_singleton] at member
    exact ⟨member ▸ fixed, fun _ => member⟩
  · obtain ⟨fixed, lost⟩ := moved d member
    exact ⟨fixed, fun cased => absurd cased (by rw [lost]; exact Bool.false_ne_true)⟩

/-- Only a final sigma depends on what stands around it. -/
theorem mem_lowerFrom {before cs : List Char} {d : Char} (h : d ∈ lowerFrom before cs) :
    d = 'ς' ∨ ∃ c ∈ cs, d ∈ lowerChar c := by
  induction cs generalizing before with
  | nil => cases h
  | cons c cs ih =>
    rw [lowerFrom, List.mem_append] at h
    rcases h with first | rest
    · split at first
      · rename_i sigma
        split at first
        · exact .inl (List.mem_singleton.mp first)
        · refine .inr ⟨c, List.mem_cons_self, ?_⟩
          obtain ⟨-, -, small, -⟩ := irregular_letters
          rwa [beq_iff_eq.mp sigma, small]
      · exact .inr ⟨c, List.mem_cons_self, first⟩
    · rcases ih rest with final | ⟨e, member, image⟩
      · exact .inl final
      · exact .inr ⟨e, List.mem_cons_of_mem _ member, image⟩

theorem lowerFrom_cons_of_fixed {before cs : List Char} {c : Char} (fixed : lowerChar c = [c]) :
    lowerFrom before (c :: cs) = c :: lowerFrom (c :: before) cs := by
  have other : (c == 'Σ') = false := by
    rw [beq_eq_false_iff_ne]
    rintro rfl
    obtain ⟨-, -, small, -⟩ := irregular_letters
    rw [small] at fixed
    cases fixed
  rw [lowerFrom, other, if_neg Bool.false_ne_true, fixed]
  rfl

theorem lowerFrom_isCaseMap (before : List Char) :
    IsCaseMap lowerChar isUppercase (lowerFrom before) where
  settled := by
    intro cs d h
    rcases mem_lowerFrom h with rfl | ⟨c, -, image⟩
    · exact (irregular_images (by decide)).1
    · exact (lowerChar_settles.of_mem image).1
  kept := by
    intro cs d h cased
    rcases mem_lowerFrom h with rfl | ⟨c, member, image⟩
    · rw [(irregular_images (by decide)).2] at cased
      cases cased
    · rwa [(lowerChar_settles.of_mem image).2 cased]
  keeps := by
    intro cs c member fixed
    induction cs generalizing before with
    | nil => cases member
    | cons e cs ih =>
      rcases List.mem_cons.mp member with rfl | member
      · rw [lowerFrom_cons_of_fixed fixed]
        exact List.mem_cons_self
      · exact List.mem_append_right _ (ih _ member)
  still := by
    intro cs fixed
    induction cs generalizing before with
    | nil => rfl
    | cons c cs ih =>
      obtain ⟨first, rest⟩ := List.forall_mem_cons.mp fixed
      rw [lowerFrom_cons_of_fixed first, ih _ rest]

theorem flatMap_upperChar_isCaseMap :
    IsCaseMap upperChar isLowercase (List.flatMap upperChar) where
  settled := by
    intro cs d h
    obtain ⟨c, -, image⟩ := List.mem_flatMap.mp h
    exact (upperChar_settles.of_mem image).1
  kept := by
    intro cs d h cased
    obtain ⟨c, member, image⟩ := List.mem_flatMap.mp h
    rwa [(upperChar_settles.of_mem image).2 cased]
  keeps := by
    intro cs c member fixed
    refine List.mem_flatMap.mpr ⟨c, member, ?_⟩
    rw [fixed]
    exact List.mem_cons_self
  still := by
    intro cs fixed
    rw [List.flatMap_congr fixed, List.flatMap_singleton']

end TagSchema.Text
