import Mathlib.Data.List.TakeWhile
import TagSchema.Number.Read
import TagSchema.Number.Integer
import TagSchema.Proofs.Except

/-!
# Reading numbers

`Range.read?_eq_some_iff` says what an integer looks like, apart from the range it has to fit, and
`no_space_of_readBinary` keeps spaces out of every numeral.
-/

namespace TagSchema.Number

/-! ### Digits -/

theorem digitValue_isDigit {c : Char} {d : Nat} (h : digitValue 10 c = some d) :
    c.isDigit = true := by
  unfold digitValue at h
  split at h
  · assumption
  · obtain ⟨value, small⟩ := Option.filter_eq_some_iff.mp h
    have small : d < 10 := by simpa using small
    split at value
    · have := Option.some.inj value
      omega
    · split at value
      · have := Option.some.inj value
        omega
      · cases value

theorem readDigits_isDigit {acc n : Nat} {cs : List Char} (h : readDigits 10 acc cs = some n) :
    ∀ c ∈ cs, c.isDigit = true := by
  induction cs generalizing acc with
  | nil => simp
  | cons c cs ih =>
    obtain ⟨d, value, h⟩ := Option.bind_eq_some_iff.mp h
    exact List.forall_mem_cons.mpr ⟨digitValue_isDigit value, ih h⟩

theorem readDigits_le {base acc n : Nat} {cs : List Char} (positive : 0 < base)
    (h : readDigits base acc cs = some n) : acc ≤ n := by
  induction cs generalizing acc with
  | nil => exact Nat.le_of_eq (Option.some.inj h)
  | cons c cs ih =>
    obtain ⟨d, _, h⟩ := Option.bind_eq_some_iff.mp h
    have grown := ih h
    have scaled := Nat.le_mul_of_pos_right acc positive
    omega

theorem isSome_readDigits {base acc : Nat} {cs : List Char} :
    (readDigits base acc cs).isSome = true ↔ ∀ c ∈ cs, (digitValue base c).isSome = true := by
  induction cs generalizing acc with
  | nil => simp [readDigits]
  | cons c cs ih =>
    rw [readDigits, List.forall_mem_cons]
    cases digitValue base c with
    | none => simp
    | some d => simpa using ih

theorem isSome_readNat {base : Nat} {cs : List Char} : (readNat base cs).isSome = true ↔
    cs ≠ [] ∧ ∀ c ∈ cs, (digitValue base c).isSome = true := by
  rw [readNat]
  split
  · rename_i none
    simp [List.isEmpty_iff.mp none]
  · rename_i filled
    rw [isSome_readDigits, and_iff_right (fun none => filled (List.isEmpty_iff.mpr none))]

theorem readNat_eq_some {base n : Nat} {cs : List Char} (h : readNat base cs = some n) :
    cs ≠ [] ∧ readDigits base 0 cs = some n := by
  unfold readNat at h
  split at h
  · cases h
  · rename_i filled
    exact ⟨fun none => filled (List.isEmpty_iff.mpr none), h⟩

theorem readNat_isDigit {n : Nat} {cs : List Char} (h : readNat 10 cs = some n) :
    ∀ c ∈ cs, c.isDigit = true :=
  readDigits_isDigit (readNat_eq_some h).2

/-! ### Integers -/

theorem Range.contains_iff {r : Range} {n : Int} : r.contains n = true ↔ r.lo ≤ n ∧ n ≤ r.hi := by
  simp [Range.contains]

/-- Numbers between zero and one of the range are in the range. -/
theorem Range.contains_signed {r : Range} {negative : Bool} {m n : Nat} (zero : r.contains 0 = true)
    (h : r.contains (Decoded.signed negative n) = true) (le : m ≤ n) :
    r.contains (Decoded.signed negative m) = true := by
  rw [Range.contains_iff] at *
  cases negative with
  | false =>
    simp only [Decoded.signed, Bool.false_eq_true, if_false] at *
    omega
  | true =>
    simp only [Decoded.signed, if_true] at *
    omega

/-- A digit more takes the number further from zero. -/
theorem signed_next (negative : Bool) (acc base d : Nat) :
    Decoded.signed negative acc * base + (if negative then -(d : Int) else d) =
      Decoded.signed negative (acc * base + d) := by
  cases negative with
  | false => simp [Decoded.signed]
  | true =>
    simp only [Decoded.signed, if_true]
    rw [Int.natCast_add, Int.natCast_mul, Int.neg_mul]
    omega

/-- The bound is checked at every digit, but the last one decides. -/
theorem readBounded_eq_ok_iff {r : Range} {base acc : Nat} {negative : Bool} {cs : List Char}
    {n : Int} (positive : 0 < base) (zero : r.contains 0 = true)
    (start : r.contains (Decoded.signed negative acc) = true) :
    readBounded r base negative (Decoded.signed negative acc) cs = .ok n ↔
      ∃ m, readDigits base acc cs = some m ∧ n = Decoded.signed negative m ∧
        r.contains n = true := by
  induction cs generalizing acc with
  | nil =>
    simp only [readBounded, readDigits, Except.ok.injEq, Option.some.injEq, exists_eq_left']
    exact ⟨fun same => ⟨same.symm, same ▸ start⟩, fun h => h.1.symm⟩
  | cons c cs ih =>
    simp only [readBounded, readDigits]
    cases digitValue base c with
    | none => simp
    | some d =>
      simp only [Option.bind_some, signed_next]
      split
      · rename_i fits
        exact ih fits
      · rename_i outside
        constructor
        · intro h
          cases h
        · rintro ⟨m, read, rfl, fits⟩
          exact (outside (Range.contains_signed zero fits (readDigits_le positive read))).elim

/-- Digits with an optional sign before them. -/
inductive SignedDigits (ds : List Char) : Bool → List Char → Prop where
  | bare : SignedDigits ds false ds
  | plus : SignedDigits ds false ('+' :: ds)
  | minus : SignedDigits ds true ('-' :: ds)

theorem readInteger_eq_ok_iff {r : Range} {cs : List Char} {n : Int} :
    readInteger r 10 cs = .ok n ↔ ∃ negative ds, SignedDigits ds negative cs ∧ ds ≠ [] ∧
      (negative = true → r.lo < 0) ∧ readBounded r 10 negative 0 ds = .ok n := by
  constructor
  · intro h
    unfold readInteger at h
    split at h
    · split at h
      · cases h
      · rename_i ds filled
        exact ⟨false, ds, .plus, by simpa using filled, by simp, h⟩
    · split at h
      · cases h
      · rename_i ds filled
        simp only [Bool.or_eq_true, not_or, List.isEmpty_iff, Bool.not_eq_true', Bool.not_eq_false,
          decide_eq_true_eq] at filled
        exact ⟨true, ds, .minus, filled.1, fun _ => filled.2, h⟩
    · split at h
      · cases h
      · rename_i filled
        exact ⟨false, cs, .bare, by simpa using filled, by simp, h⟩
  · rintro ⟨negative, ds, spelled, filled, below, h⟩
    cases spelled with
    | bare =>
      obtain ⟨c, cs, rfl⟩ := List.exists_cons_of_ne_nil filled
      have digit : c.isDigit = true := by
        simp only [readBounded] at h
        split at h
        · cases h
        · rename_i value
          exact digitValue_isDigit value
      unfold readInteger
      split
      · rename_i same
        cases same
        cases digit
      · rename_i same
        cases same
        cases digit
      · exact h
    | plus => simpa [readInteger, filled] using h
    | minus => simpa [readInteger, filled, below rfl] using h

/-- An integer is digits with an optional sign, and the range has a say in the minus sign and in the
number alone. -/
theorem Range.read?_eq_some_iff {r : Range} (zero : r.contains 0 = true) {s : String} {n : Int} :
    r.read? s = some n ↔
      ∃ negative ds m, SignedDigits ds negative s.toList ∧ readNat 10 ds = some m ∧
        n = Decoded.signed negative m ∧ r.contains n = true ∧ (negative = true → r.lo < 0) := by
  have digits (negative : Bool) (ds : List Char) :
      readBounded r 10 negative 0 ds = .ok n ↔ ∃ m, readDigits 10 0 ds = some m ∧
        n = Decoded.signed negative m ∧ r.contains n = true := by
    have start : Decoded.signed negative 0 = 0 := by cases negative <;> rfl
    rw [← start]
    exact readBounded_eq_ok_iff (by decide) zero (by rwa [start])
  rw [Range.read?, toOption_eq_some_iff, readInteger_eq_ok_iff]
  constructor
  · rintro ⟨negative, ds, spelled, filled, below, h⟩
    obtain ⟨m, read, value, fits⟩ := (digits negative ds).mp h
    exact ⟨negative, ds, m, spelled, by simpa [readNat, filled] using read, value, fits, below⟩
  · rintro ⟨negative, ds, m, spelled, read, value, fits, below⟩
    have ⟨filled, read⟩ := readNat_eq_some read
    exact ⟨negative, ds, spelled, filled, below, (digits negative ds).mpr ⟨m, read, value, fits⟩⟩

/-! ### Spaces -/

theorem no_space_of_isDigit {cs : List Char} (h : ∀ c ∈ cs, c.isDigit = true) : ' ' ∉ cs :=
  fun member => absurd (h _ member) (by decide)

theorem no_space_of_readInteger {r : Range} (zero : r.contains 0 = true) {s : String} {n : Int}
    (h : r.read? s = some n) : ' ' ∉ s.toList := by
  obtain ⟨negative, ds, m, spelled, read, _⟩ := (Range.read?_eq_some_iff zero).mp h
  have clean := no_space_of_isDigit (readNat_isDigit read)
  generalize s.toList = cs at spelled ⊢
  cases spelled <;> simp [clean]

/-- The characters of a finite number. -/
def isNumeralChar (c : Char) : Bool := c.isDigit || ['.', 'e', 'E', '+', '-'].contains c

theorem isNumeralChar_of_isDigit {c : Char} (h : c.isDigit = true) : isNumeralChar c = true := by
  rw [isNumeralChar, h, Bool.true_or]

theorem isNumeralChar_of_readNat {cs : List Char} {n : Nat} (h : readNat 10 cs = some n) :
    ∀ c ∈ cs, isNumeralChar c = true :=
  fun c member => isNumeralChar_of_isDigit (readNat_isDigit h c member)

theorem no_space_of_isNumeralChar {cs : List Char} (h : ∀ c ∈ cs, isNumeralChar c = true) :
    ' ' ∉ cs :=
  fun member => absurd (h _ member) (by decide)

theorem isNumeralChar_of_readExponent {cs : List Char} {e : Int} (h : readExponent cs = some e) :
    ∀ c ∈ cs, isNumeralChar c = true := by
  unfold readExponent at h
  split at h
  · simp
  · rename_i c cs
    split at h
    · rename_i mark
      have ok : isNumeralChar c = true := by
        rcases Bool.or_eq_true_iff.mp mark with same | same
        · rw [beq_iff_eq.mp same]
          rfl
        · rw [beq_iff_eq.mp same]
          rfl
      rw [List.forall_mem_cons]
      refine ⟨ok, ?_⟩
      split at h
      · obtain ⟨_, h, _⟩ := Option.map_eq_some_iff.mp h
        obtain ⟨n, read, _⟩ := Option.bind_eq_some_iff.mp h
        exact List.forall_mem_cons.mpr ⟨rfl, isNumeralChar_of_readNat read⟩
      · obtain ⟨n, read, _⟩ := Option.map_eq_some_iff.mp h
        exact List.forall_mem_cons.mpr ⟨rfl, isNumeralChar_of_readNat read⟩
      · obtain ⟨n, read, _⟩ := Option.map_eq_some_iff.mp h
        exact isNumeralChar_of_readNat read
    · cases h

theorem isNumeralChar_of_readMagnitude {cs : List Char} {m : Nat × Int}
    (h : readMagnitude cs = some m) : ∀ c ∈ cs, isNumeralChar c = true := by
  obtain ⟨n, read, h⟩ := Option.bind_eq_some_iff.mp h
  obtain ⟨e, exponent, _⟩ := Option.bind_eq_some_iff.mp h
  have digits := isNumeralChar_of_readNat read
  have rest := isNumeralChar_of_readExponent exponent
  have span (cs : List Char) : (∀ c ∈ cs, isNumeralChar c = true) ↔
      (∀ c ∈ cs.takeWhile Char.isDigit, isNumeralChar c = true) ∧
        ∀ c ∈ cs.dropWhile Char.isDigit, isNumeralChar c = true := by
    rw [← List.forall_mem_append, List.takeWhile_append_dropWhile]
  rw [span]
  generalize cs.dropWhile Char.isDigit = tail at digits rest ⊢
  split at digits
  · rename_i ds
    rw [List.forall_mem_append] at digits
    exact ⟨digits.1, List.forall_mem_cons.mpr ⟨rfl, (span ds).mpr ⟨digits.2, rest⟩⟩⟩
  · rename_i noPoint
    rw [List.append_nil] at digits
    split at rest
    · exact (noPoint _ rfl).elim
    · exact ⟨digits, rest⟩

theorem no_space_of_readUnsigned {negative : Bool} {cs : List Char} {n : Numeral}
    (h : readUnsigned negative cs = some n) : ' ' ∉ cs := by
  have folded {word : String} (same : cs.map Char.toLower = word.toList)
      (clean : ' ' ∉ word.toList) : ' ' ∉ cs := by
    intro member
    rw [← same] at clean
    exact clean (List.mem_map.mpr ⟨' ', member, rfl⟩)
  simp only [readUnsigned] at h
  split at h
  · rename_i nan
    exact folded nan (by decide)
  · split at h
    · rename_i infinite
      rcases (Bool.or_eq_true _ _).mp infinite with short | long
      · exact folded (of_decide_eq_true short) (by decide)
      · exact folded (of_decide_eq_true long) (by decide)
    · obtain ⟨m, magnitude, _⟩ := Option.map_eq_some_iff.mp h
      exact no_space_of_isNumeralChar (isNumeralChar_of_readMagnitude magnitude)

theorem no_space_of_readBinary {l : Layout} {s : String} {x : Binary l}
    (h : Binary.read? s = some x) : ' ' ∉ s.toList := by
  obtain ⟨n, numeral, _⟩ := Option.map_eq_some_iff.mp h
  generalize s.toList = cs at numeral ⊢
  unfold Numeral.read? at numeral
  split at numeral <;> simp [no_space_of_readUnsigned numeral]

/-- A numeral of a finite number has no names in it. -/
theorem isNumeralChar_of_numeral {cs : List Char} {negative : Bool} {n : Nat} {e : Int}
    (h : Numeral.read? cs = some (.finite negative n e)) : ∀ c ∈ cs, isNumeralChar c = true := by
  have unsigned {sign : Bool} {cs : List Char}
      (h : readUnsigned sign cs = some (.finite negative n e)) :
      ∀ c ∈ cs, isNumeralChar c = true := by
    simp only [readUnsigned] at h
    split at h
    · cases h
    · split at h
      · cases h
      · obtain ⟨m, magnitude, _⟩ := Option.map_eq_some_iff.mp h
        exact isNumeralChar_of_readMagnitude magnitude
  unfold Numeral.read? at h
  split at h
  · exact List.forall_mem_cons.mpr ⟨rfl, unsigned h⟩
  · exact List.forall_mem_cons.mpr ⟨rfl, unsigned h⟩
  · exact unsigned h

theorem isNumeralChar_of_readBinary {s : String} {x : Binary64} (h : Binary.read? s = some x)
    (finite : x.isFinite = true) : ∀ c ∈ s.toList, isNumeralChar c = true := by
  obtain ⟨n, numeral, rfl⟩ := Option.map_eq_some_iff.mp h
  cases n with
  | finite negative n e => exact isNumeralChar_of_numeral numeral
  | infinite negative | nan negative => cases negative <;> cases finite

/-! ### Digits as numerals -/

theorem val_of_isDigit {c : Char} (h : c.isDigit = true) : c.val ≤ 57 := by
  have bounds := (Bool.and_eq_true _ _).mp h
  exact of_decide_eq_true bounds.2

theorem digitValue_of_isDigit {c : Char} (h : c.isDigit = true) :
    digitValue 10 c = some (c.toNat - 48) := by
  have bound : c.toNat ≤ 57 := UInt32.le_iff_toNat_le.mp (val_of_isDigit h)
  have zero : '0'.toNat = 48 := rfl
  rw [digitValue, if_pos h, zero, Option.filter_some, if_pos (decide_eq_true (by omega))]

theorem toLower_of_isDigit {c : Char} (h : c.isDigit = true) : c.toLower = c := by
  unfold Char.toLower
  rw [dif_neg]
  rintro ⟨low, _⟩
  exact absurd (UInt32.le_trans low (val_of_isDigit h)) (by decide)

theorem readNat_of_isDigit {cs : List Char} (some : cs ≠ []) (h : ∀ c ∈ cs, c.isDigit = true) :
    ∃ n, readNat 10 cs = .some n := by
  rw [← Option.isSome_iff_exists, isSome_readNat]
  refine ⟨some, fun c member => ?_⟩
  rw [digitValue_of_isDigit (h c member)]
  rfl

theorem readMagnitude_digits {cs : List Char} {n : Nat} (h : readNat 10 cs = some n) :
    readMagnitude cs = some (n, 0) := by
  have digits := readNat_isDigit h
  have whole : cs.takeWhile Char.isDigit = cs := List.takeWhile_eq_self_iff.mpr digits
  have rest : cs.dropWhile Char.isDigit = [] := List.dropWhile_eq_nil_iff.mpr digits
  simp [readMagnitude, whole, rest, h, readExponent]

/-- A digit is in none of the names. -/
theorem readUnsigned_of_digit {negative : Bool} {cs : List Char} (h : ∃ c ∈ cs, c.isDigit = true) :
    readUnsigned negative cs =
      (readMagnitude cs).map fun (n, e) => .finite negative n e := by
  obtain ⟨c, member, digit⟩ := h
  have folded : c ∈ cs.map Char.toLower := by
    rw [← toLower_of_isDigit digit]
    exact List.mem_map_of_mem member
  have noName {name : List Char} (letters : name.all (!·.isDigit) = true) :
      cs.map Char.toLower ≠ name := by
    intro same
    have letter := List.all_eq_true.mp letters c (same ▸ folded)
    rw [digit] at letter
    cases letter
  have nan : cs.map Char.toLower ≠ "nan".toList := noName (by decide)
  have infinite : cs.map Char.toLower ≠ "inf".toList ∧ cs.map Char.toLower ≠ "infinity".toList :=
    ⟨noName (by decide), noName (by decide)⟩
  simp only [readUnsigned, nan, infinite, decide_false, Bool.or_self, Bool.false_eq_true, if_false]

theorem readUnsigned_digits {negative : Bool} {cs : List Char} {n : Nat}
    (h : readNat 10 cs = some n) : readUnsigned negative cs = some (.finite negative n 0) := by
  obtain ⟨c, member⟩ := List.exists_mem_of_ne_nil cs (readNat_eq_some h).1
  rw [readUnsigned_of_digit ⟨c, member, readNat_isDigit h c member⟩, readMagnitude_digits h]
  rfl

theorem readBinary_digits {l : Layout} {negative : Bool} {ds : List Char} {s : String} {n : Nat}
    (spelled : SignedDigits ds negative s.toList) (h : readNat 10 ds = some n) :
    (Binary.read? s : Option (Binary l)) = some (Binary.ofDecimal negative n 0) := by
  have numeral : Numeral.read? s.toList = some (.finite negative n 0) := by
    generalize s.toList = cs at spelled
    have ⟨filled, _⟩ := readNat_eq_some h
    cases spelled with
    | plus | minus => exact readUnsigned_digits h
    | bare =>
      obtain ⟨c, cs, rfl⟩ := List.exists_cons_of_ne_nil filled
      have digit := readNat_isDigit h c List.mem_cons_self
      unfold Numeral.read?
      split
      · rename_i same
        cases same
        cases digit
      · rename_i same
        cases same
        cases digit
      · exact readUnsigned_digits h
  rw [Binary.read?, numeral]
  rfl

/-- The integer that digits with an optional sign spell. -/
def Spells (s : String) (n : Int) : Prop :=
  ∃ negative ds m, SignedDigits ds negative s.toList ∧ readNat 10 ds = some m ∧
    n = Decoded.signed negative m

theorem Range.read?_of_spells {r : Range} {s : String} {n : Int} (zero : r.contains 0 = true)
    (spelled : Spells s n) (fits : r.contains n = true) (below : r.lo < 0) :
    r.read? s = some n := by
  obtain ⟨negative, ds, m, signed, read, value⟩ := spelled
  exact (read?_eq_some_iff zero).mpr ⟨negative, ds, m, signed, read, value, fits, fun _ => below⟩

theorem spells_of_read? {r : Range} {s : String} {n : Int} (zero : r.contains 0 = true)
    (h : r.read? s = some n) : Spells s n ∧ r.contains n = true := by
  obtain ⟨negative, ds, m, signed, read, value, fits, _⟩ := (Range.read?_eq_some_iff zero).mp h
  exact ⟨⟨negative, ds, m, signed, read, value⟩, fits⟩

/-- A numeral spells one number: a range that holds two readings gives the same answer for both. -/
theorem Spells.unique {s : String} {n m : Int} (first : Spells s n) (second : Spells s m) :
    n = m := by
  let r : Range := ⟨-(n.natAbs + m.natAbs + 1), n.natAbs + m.natAbs⟩
  have zero : r.contains 0 = true := by
    rw [Range.contains_iff]
    constructor <;> simp only [r] <;> omega
  have below : r.lo < 0 := by
    simp only [r]
    omega
  have holdsFirst : r.contains n = true := by
    rw [Range.contains_iff]
    constructor <;> simp only [r] <;> omega
  have holdsSecond : r.contains m = true := by
    rw [Range.contains_iff]
    constructor <;> simp only [r] <;> omega
  have read := Range.read?_of_spells zero first holdsFirst below
  rw [Range.read?_of_spells zero second holdsSecond below] at read
  exact (Option.some.inj read).symm

theorem Range.read?_of_outside {r : Range} {s : String} {n : Int} (zero : r.contains 0 = true)
    (spelled : Spells s n) (outside : r.contains n = false) : r.read? s = none := by
  cases read : r.read? s with
  | none => rfl
  | some m =>
    have ⟨other, fits⟩ := spells_of_read? zero read
    rw [other.unique spelled, outside] at fits
    cases fits

end TagSchema.Number
