import TagSchema.Coerce.Scalar
import TagSchema.Proofs.Number.Literal

/-!
# Numbers from text

What a successful conversion of text has read: `toInteger_text` for integers and
`toDouble_text` for numbers with a fraction. `toBigInt_text` says which text is a big integer.
-/

namespace TagSchema.Coerce

open TagSchema.Number

theorem wide_zero : wide.contains 0 = true := by decide

theorem wide_contains_iff {n : Int} : wide.contains n = true ↔ -2 ^ 127 ≤ n ∧ n < 2 ^ 127 := by
  have low : wide.lo = -2 ^ 127 := rfl
  have high : wide.hi = 2 ^ 127 - 1 := rfl
  rw [Range.contains_iff, low, high, Int.le_sub_one_iff]

theorem isFinite_of_wholeNumber {l : Layout} {x : Binary l} {source : Value.Kind} {target : Target}
    {n : Int} (h : wholeNumber x source target = .ok n) : x.isFinite = true := by
  unfold wholeNumber at h
  unfold Binary.isFinite
  split at h
  · cases h
  · cases h
  · rename_i finite
    rw [finite]

/-- An integer from `2 ^ 127` on stays too large in the rounding. -/
theorem wholeNumber_large {z : Int} (large : 2 ^ 127 ≤ z.natAbs) (source : Value.Kind)
    (target : Target) : ∃ text, wholeNumber (Binary.ofInt z : Binary64) source target =
      .error (.overflow source text target) := by
  have tooLarge {m : Nat} {e : Int} (digits : 2 ^ 52 ≤ m) (places : 75 ≤ e) :
      (Decoded.ratio m e).2 * Nat.pow 2 127 ≤ (Decoded.ratio m e).1 := by
    obtain ⟨k, rfl⟩ : ∃ k : Nat, e = (75 + k : Nat) := ⟨(e - 75).toNat, by omega⟩
    simp only [Decoded.ratio, Int.natCast_nonneg, if_true, Int.toNat_natCast, Nat.one_mul]
    calc 2 ^ 127 = 2 ^ 52 * 2 ^ 75 := by rw [← Nat.pow_add]
      _ ≤ m * 2 ^ (75 + k) := Nat.mul_le_mul digits (Nat.pow_le_pow_right (by decide) (by omega))
  rw [Binary.ofInt, wholeNumber]
  rcases Binary.decode_ofRatio_large large with
    ⟨s, infinite⟩ | ⟨s, m, e, finite, digits, places⟩
  · rw [infinite]
    exact ⟨_, rfl⟩
  · rw [finite]
    dsimp only
    rw [if_pos (tooLarge digits places)]
    exact ⟨_, rfl⟩

/-- Digits are tried as a binary number where the integer is too large, and are too large there
too. -/
theorem read?_large {s : String} {n : Int} (spelled : Spells s n)
    (outside : wide.contains n = false) (target : Target) : ∃ (x : Binary64) (text : String),
      Binary.read? s = some x ∧ wholeNumber x .string target =
        .error (.overflow .string text target) := by
  rw [Bool.eq_false_iff, ne_eq, wide_contains_iff] at outside
  have n_ne : n ≠ 0 := by omega
  obtain ⟨text, overflow⟩ := wholeNumber_large (z := n) (by omega) .string target
  exact ⟨_, text, readBinary_of_spells spelled n_ne, overflow⟩

/-- Text that is not blank is read as an integer, or as a whole number with a point, an exponent or
too many digits. -/
inductive WideText (s : String) (target : Target) (n : Int) : Prop where
  | integer (read : wide.read? (Text.trim s) = some n)
  | whole (x : Binary64) (noInteger : wide.read? (Text.trim s) = none)
      (read : Binary.read? (Text.trim s) = some x) (value : wholeNumber x .string target = .ok n)

theorem wideOfString_ok {s : String} {target : Target} {n : Int} (filled : Text.trim s ≠ "")
    (h : wideOfString s target = .ok n) : WideText s target n := by
  simp only [wideOfString, String.isEmpty_iff, filled, if_false] at h
  split at h
  · rename_i read
    rw [← Except.ok.inj h]
    exact .integer read
  · rename_i noInteger
    split at h
    · rename_i x read
      exact .whole x noInteger read h
    · cases h

/-- Plain digits are read as the integer they spell, however many there are. -/
theorem WideText.of_spells {s : String} {target : Target} {n m : Int}
    (h : WideText s target m) (spelled : Spells (Text.trim s) n) : m = n := by
  cases h with
  | integer read => exact (spells_of_read? wide_zero read).1.unique spelled
  | whole x noInteger read value =>
    cases fits : wide.contains n with
    | true =>
      rw [Range.read?_of_spells wide_zero spelled fits (by decide)] at noInteger
      cases noInteger
    | false =>
      obtain ⟨y, _, large, overflow⟩ := read?_large spelled fits target
      rw [large] at read
      obtain rfl := Option.some.inj read
      rw [overflow] at value
      cases value

theorem toInteger_text {t : IntegerType} {s : String} {n : Int}
    (h : toInteger t (.string s) = .ok n) :
    wideOfString s (.integer t) = .ok n ∧ t.range.contains n = true := by
  unfold toInteger at h
  obtain ⟨m, read, h⟩ := bind_ok h
  dsimp only at h
  split at h
  · cases h
  · split at h
    · cases h
    · rename_i fits
      obtain rfl := pure_ok h
      rw [Bool.not_eq_true', Bool.not_eq_false] at fits
      exact ⟨read, fits⟩

theorem toDouble_text {target : Target} {s : String} {x : Binary64} (filled : Text.trim s ≠ "")
    (h : toDoubleFor target (.string s) = .ok x) : Binary.read? (Text.trim s) = some x := by
  simp only [toDoubleFor, String.isEmpty_iff, filled, if_false] at h
  split at h
  · rename_i read
    rw [read, Except.ok.inj h]
  · cases h

theorem toSingle_text {s : String} {y : Binary32} (filled : Text.trim s ≠ "")
    (h : toSingle (.string s) = .ok y) :
    ∃ x : Binary64, Binary.read? (Text.trim s) = some x ∧ y = x.convert := by
  unfold toSingle at h
  obtain ⟨x, read, h⟩ := bind_ok h
  dsimp only at h
  split at h
  · cases h
  · exact ⟨x, toDouble_text filled read, pure_ok h⟩

/-- What is finite after a conversion was finite before. -/
theorem isFinite_of_convert {x : Binary64} (h : (x.convert : Binary32).isFinite = true) :
    x.isFinite = true := by
  have noInfinity (s : Bool) : (Binary.infinity s : Binary32).isFinite = false := by
    cases s <;> decide
  have noNumber (s : Bool) : (Binary.nan s : Binary32).isFinite = false := by
    cases s <;> decide
  unfold Binary.convert at h
  unfold Binary.isFinite
  split at h
  · rw [noNumber] at h
    cases h
  · rw [noInfinity] at h
    cases h
  · rename_i finite
    rw [finite]

/-! ### Big integers -/

variable {v : Value} {s : String} {n : Int} {cs : List Char}

theorem signed_splitSign (cs : List Char) : SignedDigits (splitSign cs).2 (splitSign cs).1 cs := by
  unfold splitSign
  split
  · exact .minus
  · exact .plus
  · exact .bare

theorem splitSign_of_signed {negative : Bool} {rest : List Char}
    (signed : SignedDigits rest negative cs) (unsigned : '-' ∉ rest.head? ∧ '+' ∉ rest.head?) :
    splitSign cs = (negative, rest) := by
  cases signed with
  | plus | minus => rfl
  | bare =>
    unfold splitSign
    split
    · exact (unsigned.1 rfl).elim
    · exact (unsigned.2 rfl).elim
    · rfl

theorem marked_splitBase (cs : List Char) :
    ∃ mark, BaseMark (splitBase cs).1 mark ∧ mark ++ (splitBase cs).2 = cs := by
  unfold splitBase
  split
  · exact ⟨_, .small, rfl⟩
  · exact ⟨_, .capital, rfl⟩
  · exact ⟨_, .decimal, rfl⟩

theorem splitBase_of_marked {base : Nat} {mark digits : List Char} (marked : BaseMark base mark)
    (values : ∀ c ∈ digits, (digitValue base c).isSome = true) :
    splitBase (mark ++ digits) = (base, digits) := by
  cases marked with
  | small | capital => rfl
  | decimal =>
    have noDigit {c : Char} (none : digitValue 10 c = none) : c ∉ digits := by
      intro member
      have value := values c member
      rw [none] at value
      cases value
    rw [List.nil_append]
    unfold splitBase
    split
    · exact (noDigit (c := 'x') (by decide) (by simp)).elim
    · exact (noDigit (c := 'X') (by decide) (by simp)).elim
    · rfl

/-- The base and the digits behind a sign and a mark. -/
def digitsOf (cs : List Char) : Nat × List Char := splitBase (splitSign cs).2

theorem digitsOf_positive (cs : List Char) : 0 < (digitsOf cs).1 := by
  obtain ⟨_, marked, _⟩ := marked_splitBase (splitSign cs).2
  exact marked.bounds.1

/-- Sign and mark are told from digits, so that there is one way to read a numeral. -/
theorem based_iff : Based cs n ↔ ∃ m, readNat (digitsOf cs).1 (digitsOf cs).2 = some m ∧
    n = Decoded.signed (splitSign cs).1 m := by
  constructor
  · intro h
    obtain @⟨negative, base, mark, digits, ds, marked, filled, values, signed⟩ := h
    have read := (readNat_eq_some_iff marked.bounds.2).mpr ⟨filled, ds, values, rfl⟩
    have digit := (isSome_readNat.mp (Option.isSome_of_eq_some read)).2
    have unsigned : '-' ∉ (mark ++ digits).head? ∧ '+' ∉ (mark ++ digits).head? := by
      cases marked with
      | small | capital => exact ⟨by simp, by simp⟩
      | decimal =>
        refine ⟨fun sign => ?_, fun sign => ?_⟩ <;> cases digit _ (List.mem_of_mem_head? sign)
    have first := splitSign_of_signed signed unsigned
    have second := splitBase_of_marked marked digit
    refine ⟨_, ?_, by rw [first]⟩
    rw [digitsOf, first, second]
    exact read
  · intro h
    obtain ⟨m, read, rfl⟩ := h
    obtain ⟨mark, marked, text⟩ := marked_splitBase (splitSign cs).2
    obtain ⟨filled, ds, values, rfl⟩ := (readNat_eq_some_iff marked.bounds.2).mp read
    exact .intro marked filled values (text ▸ signed_splitSign cs)

/-- Text that is not blank is digits in range, digits out of range, or malformed. -/
theorem bigIntOfString_filled (filled : Text.trimChars s.toList ≠ []) :
    bigIntOfString s =
      if (digitsOf (Text.trimChars s.toList)).2.isEmpty then
        .error (.invalidFormat .string s .bigInt)
      else match readBounded wide (digitsOf (Text.trimChars s.toList)).1
          (splitSign (Text.trimChars s.toList)).1 0 (digitsOf (Text.trimChars s.toList)).2 with
        | .ok n => .ok n
        | .error .overflow => .error (.overflow .string s .bigInt)
        | .error .malformed => .error (.invalidFormat .string s .bigInt) := by
  have solid : (Text.trimChars s.toList).isEmpty = false := by simpa using filled
  unfold bigIntOfString
  simp only [solid, Bool.false_eq_true, if_false]
  rfl

theorem bigIntOfString_blank (blank : Text.allBlank s.toList = true) :
    bigIntOfString s = .error (.emptyInput .string .bigInt) := by
  unfold bigIntOfString
  rw [Text.trimChars_eq_nil_iff.mpr blank]
  rfl

theorem readBounded_wide_iff {base : Nat} {negative : Bool} (small : 0 < base) :
    readBounded wide base negative 0 cs = .ok n ↔ ∃ m, readDigits base 0 cs = some m ∧
      n = Decoded.signed negative m ∧ wide.contains n = true := by
  have zero : Decoded.signed negative 0 = 0 := by cases negative <;> rfl
  rw [← zero]
  exact readBounded_eq_ok_iff small wide_zero (by rw [zero]; exact wide_zero)

theorem bigIntOfString_ok_iff : bigIntOfString s = .ok n ↔
    Based (Text.trimChars s.toList) n ∧ wide.contains n = true := by
  rw [based_iff]
  cases blank : Text.allBlank s.toList with
  | true =>
    rw [bigIntOfString_blank blank, Text.trimChars_eq_nil_iff.mpr blank]
    apply iff_of_false
    · rintro ⟨⟩
    · rintro ⟨⟨m, ⟨⟩, _⟩, _⟩
  | false =>
    have filled : Text.trimChars s.toList ≠ [] := by
      rw [Ne, Text.trimChars_eq_nil_iff, blank]
      exact Bool.false_ne_true
    rw [bigIntOfString_filled filled]
    generalize Text.trimChars s.toList = cs
    rw [readNat]
    split
    · apply iff_of_false
      · rintro ⟨⟩
      · rintro ⟨⟨m, ⟨⟩, _⟩, _⟩
    · have read : readBounded wide (digitsOf cs).1 (splitSign cs).1 0 (digitsOf cs).2 = .ok n ↔ _ :=
        readBounded_wide_iff (digitsOf_positive cs)
      constructor
      · intro h
        split at h
        · rename_i found
          rw [Except.ok.inj h] at found
          obtain ⟨m, value, same, fits⟩ := read.mp found
          exact ⟨⟨m, value, same⟩, fits⟩
        · cases h
        · cases h
      · intro h
        obtain ⟨⟨m, value, same⟩, fits⟩ := h
        rw [read.mpr ⟨m, value, same, fits⟩]

theorem bigIntOfString_overflow (based : Based (Text.trimChars s.toList) n)
    (outside : wide.contains n = false) :
    bigIntOfString s = .error (.overflow .string s .bigInt) := by
  obtain ⟨m, read, rfl⟩ := based_iff.mp based
  have ⟨digits, value⟩ := readNat_eq_some read
  have filled : Text.trimChars s.toList ≠ [] := by
    intro empty
    rw [empty] at read
    cases read
  have zero : Decoded.signed (splitSign (Text.trimChars s.toList)).1 0 = 0 := by
    cases (splitSign (Text.trimChars s.toList)).1 <;> rfl
  have start : wide.contains (Decoded.signed (splitSign (Text.trimChars s.toList)).1 0) = true := by
    rw [zero]
    exact wide_zero
  have beyond := readBounded_overflow start value outside
  rw [zero] at beyond
  rw [bigIntOfString_filled filled, beyond]
  simp [digits]

theorem bigIntOfString_empty {source : Value.Kind} {target : Target}
    (h : bigIntOfString s = .error (.emptyInput source target)) :
    Text.allBlank s.toList = true := by
  rw [← Text.trimChars_eq_nil_iff]
  by_contra filled
  rw [bigIntOfString_filled filled] at h
  split at h
  · cases h
  · split at h <;> cases h

/-- Behind any number of pointers, text is converted exactly if between its blanks there is an
integer that 128 bits have room for; it is reported as empty exactly if it is blank, and as too
large if it is an integer without room. -/
theorem toBigInt_text (found : v.indirect = some (.string s)) :
    (∀ n, toBigInt v = .ok n ↔ Based (Text.trim s).toList n ∧ -2 ^ 127 ≤ n ∧ n < 2 ^ 127) ∧
    (∀ source target, toBigInt v = .error (.emptyInput source target) ↔
      Text.allBlank s.toList = true ∧ source = .string ∧ target = .bigInt) ∧
    ∀ n, Based (Text.trim s).toList n → ¬ (-2 ^ 127 ≤ n ∧ n < 2 ^ 127) →
      toBigInt v = .error (.overflow .string s .bigInt) := by
  have same : toBigInt v = bigIntOfString s :=
    Value.eq_of_indirect (f := toBigInt) (fun _ => rfl) found
  rw [same, Text.toList_trim]
  refine ⟨fun n => ?_, fun source target => ⟨fun h => ?_, fun h => ?_⟩, fun n based outside => ?_⟩
  · rw [← wide_contains_iff]
    exact bigIntOfString_ok_iff
  · have blank := bigIntOfString_empty h
    rw [bigIntOfString_blank blank] at h
    cases h
    exact ⟨blank, rfl, rfl⟩
  · obtain ⟨blank, rfl, rfl⟩ := h
    exact bigIntOfString_blank blank
  · refine bigIntOfString_overflow based ?_
    rw [Bool.eq_false_iff, Ne, wide_contains_iff]
    exact outside

/-- The lowest integer of 128 bits in base sixteen, and its magnitude, which is one too large. -/
theorem toBigInt_text_lowest :
    toBigInt (.pointer (.pointer (.string "\u00A0-0x80000000000000000000000000000000\n"))) =
        .ok (-2 ^ 127) ∧
      toBigInt (.string "+0X80000000000000000000000000000000") =
        .error (.overflow .string "+0X80000000000000000000000000000000" .bigInt) ∧
      toBigInt (.pointer (.string "\t ")) = .error (.emptyInput .string .bigInt) := by
  have ⟨reads, _⟩ := toBigInt_text
    (v := .pointer (.pointer (.string "\u00A0-0x80000000000000000000000000000000\n"))) rfl
  have ⟨_, _, overflows⟩ := toBigInt_text (v := .string "+0X80000000000000000000000000000000") rfl
  have ⟨_, empties, _⟩ := toBigInt_text (v := .pointer (.string "\t ")) rfl
  refine ⟨(reads _).mpr ⟨based_iff.mpr ⟨2 ^ 127, by decide +kernel, by decide +kernel⟩, by decide⟩,
    overflows (2 ^ 127) (based_iff.mpr ⟨2 ^ 127, by decide +kernel, by decide +kernel⟩) (by decide),
    (empties _ _).mpr ⟨by decide, rfl, rfl⟩⟩

end TagSchema.Coerce
