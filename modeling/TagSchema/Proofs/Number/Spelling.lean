import Mathlib.Data.Nat.Digits.Defs
import TagSchema.Proofs.Number.Read
import TagSchema.Proofs.Text.Trim

/-!
# Integers and the text that spells them

`spells_iff` says which integer a numeral stands for, and `spells_integerText` that the decimal text
of an integer is one of its numerals. Trimming leaves a numeral as it is. `Based` is an integer with
an optional mark for base sixteen, whose digits count as in Mathlib's `Nat.ofDigits`.
-/

namespace TagSchema.Number

theorem readDigits_eq {acc : Nat} {cs : List Char} (h : ∀ c ∈ cs, c.isDigit = true) :
    readDigits 10 acc cs = some (Nat.ofDigitChars 10 cs acc) := by
  induction cs generalizing acc with
  | nil => rfl
  | cons c cs ih =>
    rw [List.forall_mem_cons] at h
    rw [readDigits, digitValue_of_isDigit h.1, Option.bind_some, ih h.2, Nat.mul_comm]
    rfl

/-- A numeral is an optional sign and at least one digit, and stands for what its digits are worth
in base ten. -/
theorem spells_iff {s : String} {n : Int} : Spells s n ↔
    ∃ negative ds, SignedDigits ds negative s.toList ∧ ds ≠ [] ∧ (∀ c ∈ ds, c.isDigit = true) ∧
      n = Decoded.signed negative (Nat.ofDigitChars 10 ds 0) := by
  constructor
  · rintro ⟨negative, ds, m, signed, read, rfl⟩
    have digits := readNat_isDigit read
    have ⟨filled, value⟩ := readNat_eq_some read
    rw [readDigits_eq digits] at value
    exact ⟨negative, ds, signed, filled, digits, by rw [Option.some.inj value]⟩
  · rintro ⟨negative, ds, signed, filled, digits, rfl⟩
    refine ⟨negative, ds, _, signed, ?_, rfl⟩
    rw [readNat, if_neg (by simpa using filled), readDigits_eq digits]

theorem spells_integerText (n : Int) : Spells (integerText n) n := by
  have digit : ∀ c ∈ digits n.natAbs, c.isDigit = true :=
    fun c => Nat.isDigit_of_mem_toDigits (by decide) (by decide)
  have value : Nat.ofDigitChars 10 (digits n.natAbs) 0 = n.natAbs :=
    Nat.ofDigitChars_toDigits (by decide) (by decide)
  rw [spells_iff]
  by_cases negative : n < 0
  · refine ⟨true, digits n.natAbs, ?_, Nat.toDigits_ne_nil, digit, ?_⟩
    · rw [integerText, if_pos negative, String.toList_ofList]
      exact .minus
    · rw [value, Decoded.signed, if_pos rfl]
      omega
  · refine ⟨false, digits n.natAbs, ?_, Nat.toDigits_ne_nil, digit, ?_⟩
    · rw [integerText, if_neg negative, String.toList_ofList]
      exact .bare
    · rw [value, Decoded.signed, if_neg (by decide)]
      omega

/-! ### Blanks -/

theorem isBlank_of_isDigit {c : Char} (h : c.isDigit = true) : Text.isBlank c = false := by
  have bounds := (Bool.and_eq_true _ _).mp h
  have low : 48 ≤ c.toNat := UInt32.le_iff_toNat_le.mp (of_decide_eq_true bounds.1)
  have high : c.toNat ≤ 57 := UInt32.le_iff_toNat_le.mp (of_decide_eq_true bounds.2)
  by_contra blank
  have code := Text.code_of_isBlank (Bool.not_eq_false _ ▸ blank)
  omega

theorem solid_of_spells {p : String} {n : Int} (h : Spells p n) :
    p.toList ≠ [] ∧ ∀ c ∈ p.toList, Text.isBlank c = false := by
  obtain ⟨negative, ds, m, spelled, read, _⟩ := h
  have ⟨filled, _⟩ := readNat_eq_some read
  have solid : ∀ c ∈ ds, Text.isBlank c = false :=
    fun c member => isBlank_of_isDigit (readNat_isDigit read c member)
  generalize p.toList = cs at spelled
  cases spelled with
  | bare => exact ⟨filled, solid⟩
  | plus | minus => exact ⟨List.cons_ne_nil _ _, List.forall_mem_cons.mpr ⟨by decide, solid⟩⟩

theorem trim_of_spells {p : String} {n : Int} (h : Spells p n) : Text.trim p = p := by
  have ⟨_, solid⟩ := solid_of_spells h
  rw [Text.trim, Text.trimChars_of_bare (Text.bare_of_no_blank solid), String.ofList_toList]

theorem ne_of_spells {p : String} {n : Int} (h : Spells p n) : p ≠ "" := by
  rintro rfl
  exact (solid_of_spells h).1 rfl

/-! ### Base ten and base sixteen -/

/-- A digit of a base, small or capital, and its value. -/
def IsDigit (base : Nat) (c : Char) (d : Nat) : Prop :=
  d < base ∧ (c = d.digitChar ∨ c = d.digitChar.toUpper)

theorem digitValue_lt {base d : Nat} {c : Char} (h : digitValue base c = some d) : d < base :=
  of_decide_eq_true (Option.filter_eq_some_iff.mp h).2

theorem digitValue_of_sixteen {base d : Nat} {c : Char} (lt : d < base)
    (h : digitValue 16 c = some d) : digitValue base c = some d :=
  Option.filter_eq_some_iff.mpr ⟨(Option.filter_eq_some_iff.mp h).1, decide_eq_true lt⟩

theorem sixteen_of_digitValue {base d : Nat} {c : Char} (small : base ≤ 16)
    (h : digitValue base c = some d) : digitValue 16 c = some d := by
  have lt := digitValue_lt h
  exact Option.filter_eq_some_iff.mpr
    ⟨(Option.filter_eq_some_iff.mp h).1, decide_eq_true (by omega)⟩

theorem digitValue_digitChar {d : Nat} (lt : d < 16) :
    digitValue 16 d.digitChar = some d ∧ digitValue 16 d.digitChar.toUpper = some d := by
  have all : ∀ d < 16, digitValue 16 d.digitChar = some d ∧
      digitValue 16 d.digitChar.toUpper = some d := by decide
  exact all d lt

/-- What holds of a run of characters by their places in it. -/
theorem eq_of_between {c first last : Char} {f : Nat → Char} (low : first ≤ c) (high : c ≤ last)
    (all : ∀ k ≤ last.toNat - first.toNat, Char.ofNat (first.toNat + k) = f k) :
    c = f (c.toNat - first.toNat) := by
  have low : first.toNat ≤ c.toNat := UInt32.le_iff_toNat_le.mp low
  have high : c.toNat ≤ last.toNat := UInt32.le_iff_toNat_le.mp high
  rw [← all _ (by omega), Nat.add_sub_cancel' low, Char.ofNat_toNat]

theorem digitChar_of_digitValue {c : Char} {d : Nat} (h : digitValue 16 c = some d) :
    c = d.digitChar ∨ c = d.digitChar.toUpper := by
  obtain ⟨value, -⟩ := Option.filter_eq_some_iff.mp h
  have bounds (first last : Char) (between : (first ≤ c && c ≤ last) = true) :
      first ≤ c ∧ c ≤ last := by
    simpa using between
  split at value
  · rename_i digit
    obtain ⟨low, high⟩ := bounds '0' '9' digit
    rw [← Option.some.inj value]
    exact .inl (eq_of_between (f := Nat.digitChar) low high (by decide))
  · split at value
    · rename_i letter
      obtain ⟨low, high⟩ := bounds 'a' 'f' letter
      rw [← Option.some.inj value]
      exact .inl (eq_of_between (f := fun k => (k + 10).digitChar) low high (by decide))
    · split at value
      · rename_i letter
        obtain ⟨low, high⟩ := bounds 'A' 'F' letter
        rw [← Option.some.inj value]
        exact .inr (eq_of_between (f := fun k => (k + 10).digitChar.toUpper) low high (by decide))
      · cases value

theorem digitValue_eq_some_iff {base d : Nat} {c : Char} (small : base ≤ 16) :
    digitValue base c = some d ↔ IsDigit base c d := by
  constructor
  · intro h
    exact ⟨digitValue_lt h, digitChar_of_digitValue (sixteen_of_digitValue small h)⟩
  · intro h
    obtain ⟨lt, spelled⟩ := h
    obtain ⟨asSmall, asCapital⟩ := digitValue_digitChar (Nat.lt_of_lt_of_le lt small)
    cases spelled with
    | inl same => exact digitValue_of_sixteen lt (same ▸ asSmall)
    | inr same => exact digitValue_of_sixteen lt (same ▸ asCapital)

/-- A run of digits counts each digit `base` times as much as the one behind it. -/
theorem readDigits_eq_some_iff {base acc n : Nat} {cs : List Char} (small : base ≤ 16) :
    readDigits base acc cs = some n ↔ ∃ ds, List.Forall₂ (IsDigit base) cs ds ∧
      n = Nat.ofDigits base ds.reverse + base ^ ds.length * acc := by
  induction cs generalizing acc with
  | nil => simp [readDigits, eq_comm]
  | cons c cs ih =>
    have place (d : Nat) (ds : List Nat) :
        Nat.ofDigits base ds.reverse + base ^ ds.length * (acc * base + d) =
          Nat.ofDigits base (d :: ds).reverse + base ^ (d :: ds).length * acc := by
      rw [List.reverse_cons, Nat.ofDigits_append, Nat.ofDigits_singleton, List.length_reverse,
        List.length_cons, Nat.pow_succ, Nat.mul_add, Nat.mul_comm acc, Nat.mul_assoc]
      omega
    rw [readDigits, Option.bind_eq_some_iff]
    constructor
    · intro h
      obtain ⟨d, value, rest⟩ := h
      obtain ⟨ds, digits, same⟩ := ih.mp rest
      exact ⟨d :: ds, .cons ((digitValue_eq_some_iff small).mp value) digits,
        same.trans (place d ds)⟩
    · intro h
      obtain ⟨ds, digits, same⟩ := h
      cases digits with
      | @cons _ d _ ds value digits =>
        exact ⟨d, (digitValue_eq_some_iff small).mpr value,
          ih.mpr ⟨ds, digits, same.trans (place d ds).symm⟩⟩

theorem readNat_eq_some_iff {base n : Nat} {cs : List Char} (small : base ≤ 16) :
    readNat base cs = some n ↔ cs ≠ [] ∧ ∃ ds, List.Forall₂ (IsDigit base) cs ds ∧
      n = Nat.ofDigits base ds.reverse := by
  have read : readDigits base 0 cs = some n ↔ ∃ ds, List.Forall₂ (IsDigit base) cs ds ∧
      n = Nat.ofDigits base ds.reverse + base ^ ds.length * 0 := readDigits_eq_some_iff small
  simp only [Nat.mul_zero, Nat.add_zero] at read
  rw [← read, readNat]
  cases cs with
  | nil => simp
  | cons c cs => simp

/-- The mark of a base, in front of its digits. -/
inductive BaseMark : Nat → List Char → Prop
  | decimal : BaseMark 10 []
  | small : BaseMark 16 ['0', 'x']
  | capital : BaseMark 16 ['0', 'X']

theorem BaseMark.bounds {base : Nat} {mark : List Char} (marked : BaseMark base mark) :
    0 < base ∧ base ≤ 16 := by
  cases marked <;> omega

/-- An optional sign, an optional mark and at least one digit, and the integer that they denote. -/
inductive Based (cs : List Char) : Int → Prop
  | intro {negative : Bool} {base : Nat} {mark digits : List Char} {ds : List Nat}
      (marked : BaseMark base mark) (filled : digits ≠ [])
      (values : List.Forall₂ (IsDigit base) digits ds)
      (signed : SignedDigits (mark ++ digits) negative cs) :
      Based cs (Decoded.signed negative (Nat.ofDigits base ds.reverse))

/-- A number beyond the range overflows, whatever its digits: no later digit brings it back. -/
theorem readBounded_overflow {r : Range} {base acc m : Nat} {negative : Bool} {cs : List Char}
    (start : r.contains (Decoded.signed negative acc) = true)
    (read : readDigits base acc cs = some m)
    (outside : r.contains (Decoded.signed negative m) = false) :
    readBounded r base negative (Decoded.signed negative acc) cs = .error .overflow := by
  induction cs generalizing acc with
  | nil =>
    rw [Option.some.inj read, outside] at start
    cases start
  | cons c cs ih =>
    obtain ⟨d, value, rest⟩ := Option.bind_eq_some_iff.mp read
    simp only [readBounded, value, signed_next]
    split
    · rename_i fits
      exact ih fits rest
    · rfl

end TagSchema.Number
