import TagSchema.Proofs.Number.Spelling
import TagSchema.Proofs.Number.Value

/-!
# Decimal literals

`read?_literal`: a literal with a point or an exponent is read as the quotient that it denotes,
rounded to double width once. The places past which no power is computed change nothing.
-/

namespace TagSchema.Number

open Decoded (signed)

/-! ### Powers that are not computed -/

theorem digitCount_bounds {n : Nat} (positive : n ≠ 0) :
    n < 10 ^ digitCount n ∧ 10 ^ (digitCount n - 1) ≤ n := by
  have filled : 0 < digitCount n := Nat.length_toDigits_pos
  refine ⟨(Nat.length_toDigits_le_iff (by decide) filled).mp (Nat.le_refl _), ?_⟩
  by_cases several : 0 < digitCount n - 1
  · by_contra small
    have short := (Nat.length_toDigits_le_iff (by decide) several).mpr (Nat.lt_of_not_le small)
    have same : (Nat.toDigits 10 n).length = digitCount n := rfl
    omega
  · have single : digitCount n - 1 = 0 := by omega
    rw [single]
    omega

theorem pow_two_le_pow_ten {i k : Nat} (le : i ≤ 3 * k) : 2 ^ i ≤ 10 ^ k := by
  calc 2 ^ i ≤ 2 ^ (3 * k) := Nat.pow_le_pow_right (by decide) le
    _ = 8 ^ k := by rw [Nat.pow_mul]
    _ ≤ 10 ^ k := Nat.pow_le_pow_left (by decide) k

theorem two_mul_pow (n c : Nat) : 2 * (n * 2 ^ c) = n * 2 ^ (c + 1) := by
  rw [Nat.pow_succ, Nat.mul_comm 2, Nat.mul_assoc]

namespace Binary

variable {negative : Bool} {num den n : Nat} {e : Int}

theorem ofRatio_zero (negative : Bool) (den : Nat) :
    (ofRatio negative 0 den : Binary64) = zero negative := if_pos rfl

theorem ofRatio_small (h : 2 * (num * 2 ^ 1074) < den) :
    (ofRatio negative num den : Binary64) = zero negative := by
  by_cases num_zero : num = 0
  · rw [num_zero, ofRatio_zero]
  · obtain ⟨p, last, bits⟩ := ofRatio_eq negative num_zero (Nat.ne_zero_of_lt h)
    have lowest : p = 0 := by
      refine last.below.resolve_right fun reached => ?_
      have scaled := Nat.le_mul_of_pos_right den (Nat.two_pow_pos (p + 52))
      omega
    have nothing : roundQuotient (num * 2 ^ 1074) den = 0 := by
      have small : num * 2 ^ 1074 < den := by omega
      have cases := roundQuotient_cases (num * 2 ^ 1074) den
      rw [Nat.div_eq_of_lt small, Nat.mod_eq_of_lt small] at cases
      omega
    rw [bits, lowest, Nat.pow_zero, Nat.mul_one, nothing, Nat.zero_mul, Nat.min_zero]
    rfl

theorem ofRatio_huge (num_ne : num ≠ 0) (den_ne : den ≠ 0) (h : den * 2 ^ 1024 ≤ num) :
    (ofRatio negative num den : Binary64) = infinity negative := by
  have positive := Nat.pos_of_ne_zero den_ne
  obtain ⟨p, last, bits⟩ := ofRatio_eq negative num_ne den_ne
  have ⟨_, normal⟩ := roundQuotient_bounds positive last
  have place := exponent_lt_of_mul_pow_lt h last.above
  rw [bits, Nat.min_eq_left (by omega)]
  rfl

theorem ofDecimal_eq_ofRatio (negative : Bool) (n : Nat) (e : Int) :
    (ofDecimal negative n e : Binary64) =
      ofRatio negative (n * 10 ^ e.toNat) (10 ^ (-e).toNat) := by
  by_cases nothing : n = 0
  · rw [nothing, Nat.zero_mul, ofRatio_zero]
    simp [ofDecimal]
  · have ⟨below, reached⟩ := digitCount_bounds nothing
    simp only [ofDecimal, nothing, decide_false, Bool.false_or, decide_eq_true_eq]
    split
    · rename_i small
      refine (ofRatio_small ?_).symm
      calc 2 * (n * 10 ^ e.toNat * 2 ^ 1074) = n * 10 ^ e.toNat * 2 ^ (1074 + 1) :=
            two_mul_pow _ _
        _ ≤ n * 10 ^ e.toNat * 10 ^ 400 :=
            Nat.mul_le_mul_left _ (pow_two_le_pow_ten (by decide))
        _ = n * 10 ^ (e.toNat + 400) := by rw [Nat.mul_assoc, ← Nat.pow_add]
        _ < 10 ^ digitCount n * 10 ^ (e.toNat + 400) :=
            Nat.mul_lt_mul_of_pos_right below (Nat.pow_pos (by decide))
        _ = 10 ^ (digitCount n + (e.toNat + 400)) := by rw [← Nat.pow_add]
        _ ≤ 10 ^ (-e).toNat := Nat.pow_le_pow_right (by decide) (by omega)
    · split
      · rename_i large
        have num_ne := Nat.mul_ne_zero nothing (pow_ne_zero e.toNat (by decide : 10 ≠ 0))
        refine (ofRatio_huge num_ne (pow_ne_zero _ (by decide)) ?_).symm
        calc 10 ^ (-e).toNat * 2 ^ 1024 ≤ 10 ^ (-e).toNat * 10 ^ 400 :=
              Nat.mul_le_mul_left _ (pow_two_le_pow_ten (by decide))
          _ = 10 ^ ((-e).toNat + 400) := by rw [← Nat.pow_add]
          _ ≤ 10 ^ (digitCount n - 1 + e.toNat) := Nat.pow_le_pow_right (by decide) (by omega)
          _ = 10 ^ (digitCount n - 1) * 10 ^ e.toNat := by rw [Nat.pow_add]
          _ ≤ n * 10 ^ e.toNat := Nat.mul_le_mul_right _ reached
      · split
        · rename_i positive
          have whole : (-e).toNat = 0 := by omega
          rw [whole]
          rfl
        · rename_i negative
          have part : e.toNat = 0 := by omega
          rw [part, Nat.pow_zero, Nat.mul_one]
          rfl

end Binary

/-! ### Literals -/

/-- Digits with an optional point. -/
inductive Mantissa (whole : List Char) : List Char → List Char → Prop
  | plain : Mantissa whole [] whole
  | pointed (fraction : List Char) : Mantissa whole fraction (whole ++ '.' :: fraction)

/-- Nothing, or `e` and digits with an optional sign. -/
inductive Exponent : List Char → Int → Prop
  | none : Exponent [] 0
  | marked {mark : Char} {negative : Bool} {ds rest : List Char} (isMark : mark = 'e' ∨ mark = 'E')
      (filled : ds ≠ []) (digits : ∀ c ∈ ds, c.isDigit = true)
      (signed : SignedDigits ds negative rest) :
      Exponent (mark :: rest) (Decoded.signed negative (Nat.ofDigitChars 10 ds 0))

/-- A finite decimal literal, and the number that it denotes. -/
inductive Literal (s : String) : ℚ → Prop
  | intro {negative : Bool} {whole fraction mantissa exponent : List Char} {e : Int}
      (filled : whole ++ fraction ≠ []) (digits : ∀ c ∈ whole ++ fraction, c.isDigit = true)
      (pointed : Mantissa whole fraction mantissa) (scaled : Exponent exponent e)
      (signed : SignedDigits (mantissa ++ exponent) negative s.toList) :
      Literal s (Decoded.signed negative (Nat.ofDigitChars 10 (whole ++ fraction) 0) *
        10 ^ (e - fraction.length))

theorem readNat_eq {ds : List Char} (filled : ds ≠ []) (digits : ∀ c ∈ ds, c.isDigit = true) :
    readNat 10 ds = some (Nat.ofDigitChars 10 ds 0) := by
  rw [readNat, if_neg (by simpa using filled), readDigits_eq digits]

theorem exists_readNat_le {cs : List Char} {bound : Nat} :
    (∃ n ≤ bound, readNat 10 cs = some n) ↔
      cs ≠ [] ∧ (∀ c ∈ cs, c.isDigit = true) ∧ Nat.ofDigitChars 10 cs 0 ≤ bound := by
  constructor
  · rintro ⟨n, small, read⟩
    have digits := readNat_isDigit read
    have filled := (readNat_eq_some read).1
    rw [readNat_eq filled digits] at read
    exact ⟨filled, digits, by rwa [Option.some.inj read]⟩
  · rintro ⟨filled, digits, small⟩
    exact ⟨_, small, readNat_eq filled digits⟩

theorem readExponent_eq {cs : List Char} {e : Int} (scaled : Exponent cs e) :
    readExponent cs = some e := by
  cases scaled with
  | none => rfl
  | @marked mark negative ds rest isMark filled digits spelled =>
    have marked : (mark == 'e' || mark == 'E') = true := by
      rcases isMark with rfl | rfl <;> rfl
    have read := readNat_eq filled digits
    simp only [readExponent, marked, if_true]
    cases spelled with
    | plus | minus =>
      simp only [read]
      rfl
    | bare =>
      split
      · cases digits '-' List.mem_cons_self
      · cases digits '+' List.mem_cons_self
      · rw [read]
        rfl

theorem span_digits {ds rest : List Char} (digits : ∀ c ∈ ds, c.isDigit = true)
    (stop : ∀ c ∈ rest.head?, c.isDigit = false) :
    (ds ++ rest).takeWhile Char.isDigit = ds ∧ (ds ++ rest).dropWhile Char.isDigit = rest := by
  rw [List.takeWhile_append_of_pos digits, List.dropWhile_append_of_pos digits]
  cases rest with
  | nil => simp
  | cons c rest =>
    have other := stop c rfl
    simp [other]

theorem head_of_exponent {cs : List Char} {e : Int} (scaled : Exponent cs e) :
    ∀ c ∈ cs.head?, c.isDigit = false ∧ c ≠ '.' := by
  cases scaled with
  | none => nofun
  | marked isMark _ _ _ =>
    rintro c ⟨⟩
    rcases isMark with rfl | rfl <;> decide

theorem readMagnitude_eq {whole fraction mantissa exponent : List Char} {e : Int}
    (filled : whole ++ fraction ≠ []) (digits : ∀ c ∈ whole ++ fraction, c.isDigit = true)
    (pointed : Mantissa whole fraction mantissa) (scaled : Exponent exponent e) :
    readMagnitude (mantissa ++ exponent) =
      some (Nat.ofDigitChars 10 (whole ++ fraction) 0, e - fraction.length) := by
  have head := head_of_exponent scaled
  obtain ⟨ofWhole, ofFraction⟩ := List.forall_mem_append.mp digits
  have read := readNat_eq filled digits
  cases pointed with
  | plain =>
    obtain ⟨front, back⟩ := span_digits ofWhole fun c member => (head c member).1
    have noPoint : ∀ ds, exponent ≠ '.' :: ds := by
      rintro ds rfl
      exact (head '.' rfl).2 rfl
    simp only [readMagnitude, front, back, read, readExponent_eq scaled]
    rfl
  | pointed =>
    have stop : ∀ c ∈ ('.' :: (fraction ++ exponent)).head?, c.isDigit = false := by
      rintro c ⟨⟩
      rfl
    obtain ⟨front, back⟩ := span_digits ofWhole stop
    obtain ⟨places, rest⟩ := span_digits ofFraction fun c member => (head c member).1
    rw [List.append_assoc, List.cons_append]
    simp only [readMagnitude, front, back, places, rest, read, readExponent_eq scaled]
    rfl

theorem exponent_of_read {cs : List Char} {e : Int} (h : readExponent cs = some e) :
    Exponent cs e := by
  have spelled {ds : List Char} {n : Nat} (read : readNat 10 ds = some n) :
      ds ≠ [] ∧ (∀ c ∈ ds, c.isDigit = true) ∧ n = Nat.ofDigitChars 10 ds 0 := by
    have filled := (readNat_eq_some read).1
    have digits := readNat_isDigit read
    rw [readNat_eq filled digits] at read
    exact ⟨filled, digits, (Option.some.inj read).symm⟩
  unfold readExponent at h
  split at h
  · cases h
    exact .none
  · split at h
    · rename_i mark
      have isMark := (Bool.or_eq_true_iff.mp mark).imp eq_of_beq eq_of_beq
      split at h
      · obtain ⟨_, lifted, rfl⟩ := Option.map_eq_some_iff.mp h
        obtain ⟨n, read, same⟩ := Option.bind_eq_some_iff.mp lifted
        cases same
        obtain ⟨filled, digits, rfl⟩ := spelled read
        exact .marked isMark filled digits .minus
      · obtain ⟨_, read, rfl⟩ := Option.map_eq_some_iff.mp h
        obtain ⟨filled, digits, rfl⟩ := spelled read
        exact .marked isMark filled digits .plus
      · obtain ⟨_, read, rfl⟩ := Option.map_eq_some_iff.mp h
        obtain ⟨filled, digits, rfl⟩ := spelled read
        exact .marked isMark filled digits .bare
    · cases h

/-- What is read as digits and a power of ten. -/
theorem mantissa_of_read {cs : List Char} {m : Nat × Int} (h : readMagnitude cs = some m) :
    ∃ whole fraction mantissa exponent e, whole ++ fraction ≠ [] ∧
      (∀ c ∈ whole ++ fraction, c.isDigit = true) ∧ Mantissa whole fraction mantissa ∧
      Exponent exponent e ∧ cs = mantissa ++ exponent := by
  obtain ⟨n, read, h⟩ := Option.bind_eq_some_iff.mp h
  obtain ⟨e, scaled, _⟩ := Option.bind_eq_some_iff.mp h
  have spelled := And.intro (readNat_eq_some read).1 (readNat_isDigit read)
  have whole := List.takeWhile_append_dropWhile (p := Char.isDigit) (l := cs)
  generalize cs.takeWhile Char.isDigit = ds at spelled whole
  generalize cs.dropWhile Char.isDigit = rest at spelled whole scaled
  split at scaled
  · rename_i tail
    have places := List.takeWhile_append_dropWhile (p := Char.isDigit) (l := tail)
    refine ⟨_, _, _, _, e, spelled.1, spelled.2, .pointed _, exponent_of_read scaled, ?_⟩
    change cs = ds ++ '.' :: tail.takeWhile Char.isDigit ++ tail.dropWhile Char.isDigit
    rw [List.append_assoc, List.cons_append, places, whole]
  · rename_i noPoint
    split at spelled
    · exact (noPoint _ rfl).elim
    · exact ⟨ds, [], ds, rest, e, spelled.1, spelled.2, .plain, exponent_of_read scaled,
        whole.symm⟩

theorem head_of_mantissa {whole fraction mantissa : List Char} (rest : List Char)
    (filled : whole ++ fraction ≠ []) (digits : ∀ c ∈ whole ++ fraction, c.isDigit = true)
    (pointed : Mantissa whole fraction mantissa) :
    ∃ c cs, mantissa ++ rest = c :: cs ∧ c ≠ '-' ∧ c ≠ '+' := by
  have unsigned {c : Char} (digit : c.isDigit = true) : c ≠ '-' ∧ c ≠ '+' := by
    constructor <;> (rintro rfl; cases digit)
  cases whole with
  | cons c cs =>
    have ok := unsigned (digits c List.mem_cons_self)
    cases pointed <;> exact ⟨c, _, rfl, ok⟩
  | nil =>
    cases pointed with
    | plain => exact (filled rfl).elim
    | pointed => exact ⟨'.', _, rfl, by decide⟩

theorem mem_of_mantissa {whole fraction mantissa : List Char} {c : Char}
    (pointed : Mantissa whole fraction mantissa) (member : c ∈ whole ++ fraction) :
    c ∈ mantissa := by
  cases pointed with
  | plain => simpa using member
  | pointed fraction =>
    rcases List.mem_append.mp member with before | after
    · exact List.mem_append_left _ before
    · exact List.mem_append_right _ (List.mem_cons_of_mem '.' after)

/-- What stands behind the sign of a literal decides the number that is read. -/
theorem numeral_eq {cs whole fraction mantissa exponent : List Char} {negative : Bool} {e : Int}
    (filled : whole ++ fraction ≠ []) (digits : ∀ c ∈ whole ++ fraction, c.isDigit = true)
    (pointed : Mantissa whole fraction mantissa) (scaled : Exponent exponent e)
    (signed : SignedDigits (mantissa ++ exponent) negative cs) :
    Numeral.read? cs = some
      (.finite negative (Nat.ofDigitChars 10 (whole ++ fraction) 0) (e - fraction.length)) := by
  have magnitude : readUnsigned negative (mantissa ++ exponent) = some
      (.finite negative (Nat.ofDigitChars 10 (whole ++ fraction) 0) (e - fraction.length)) := by
    obtain ⟨c, member⟩ := List.exists_mem_of_ne_nil _ filled
    have inside := List.mem_append_left exponent (mem_of_mantissa pointed member)
    rw [readUnsigned_of_digit ⟨c, inside, digits c member⟩,
      readMagnitude_eq filled digits pointed scaled]
    rfl
  cases signed with
  | plus | minus => exact magnitude
  | bare =>
    obtain ⟨c, cs, text, noMinus, noPlus⟩ := head_of_mantissa exponent filled digits pointed
    rw [text] at magnitude ⊢
    unfold Numeral.read?
    split
    · rename_i same
      cases same
      exact (noMinus rfl).elim
    · rename_i same
      cases same
      exact (noPlus rfl).elim
    · exact magnitude

theorem numeral_of_literal {s : String} {q : ℚ} (literal : Literal s q) :
    ∃ negative n e, Numeral.read? s.toList = some (.finite negative n e) ∧
      q = signed negative n * 10 ^ e := by
  obtain ⟨filled, digits, pointed, scaled, signed⟩ := literal
  exact ⟨_, _, _, numeral_eq filled digits pointed scaled signed, rfl⟩

theorem signed_mul_pow (negative : Bool) (n : Nat) (e : Int) :
    (signed negative n : ℚ) * 10 ^ e =
      signed negative (n * 10 ^ e.toNat) / (10 ^ (-e).toNat : Nat) := by
  rw [zpow_parts (by norm_num : (10 : ℚ) ≠ 0), Decoded.signed_mul]
  push_cast
  rw [mul_div_assoc]

theorem read?_literal {s : String} {q : ℚ} (literal : Literal s q) :
    ∃ negative num den, den ≠ 0 ∧ q = (signed negative num : ℚ) / (den : Nat) ∧
      Binary.read? s = some (Binary.ofRatio negative num den : Binary64) := by
  obtain ⟨negative, n, e, read, rfl⟩ := numeral_of_literal literal
  refine ⟨negative, _, _, pow_ne_zero _ (by decide), signed_mul_pow negative n e, ?_⟩
  rw [Binary.read?, read, ← Binary.ofDecimal_eq_ofRatio]
  rfl

theorem Literal.unique {s : String} {p q : ℚ} (first : Literal s p) (second : Literal s q) :
    p = q := by
  obtain ⟨_, _, _, read, rfl⟩ := numeral_of_literal first
  obtain ⟨_, _, _, again, rfl⟩ := numeral_of_literal second
  rw [read] at again
  cases again
  rfl

theorem literal_of_spells {s : String} {z : Int} (spelled : Spells s z) : Literal s z := by
  obtain ⟨negative, ds, signed, filled, digits, rfl⟩ := spells_iff.mp spelled
  rw [← List.append_nil ds] at filled digits signed
  simpa using Literal.intro filled digits .plain .none (List.append_nil ds ▸ signed)

theorem isBlank_of_isNumeralChar {c : Char} (h : isNumeralChar c = true) :
    Text.isBlank c = false := by
  rcases Bool.or_eq_true_iff.mp h with digit | sign
  · exact isBlank_of_isDigit digit
  · have none : ['.', 'e', 'E', '+', '-'].all (!Text.isBlank ·) = true := by decide
    simpa using List.all_eq_true.mp none c (List.contains_iff_mem.mp sign)

theorem trim_of_literal {s : String} {q : ℚ} (literal : Literal s q) : Text.trim s = s := by
  obtain ⟨_, _, _, read, _⟩ := numeral_of_literal literal
  have solid : ∀ c ∈ s.toList, Text.isBlank c = false :=
    fun c member => isBlank_of_isNumeralChar (isNumeralChar_of_numeral read c member)
  rw [Text.trim, Text.trimChars_of_bare (Text.bare_of_no_blank solid), String.ofList_toList]

theorem ne_of_literal {s : String} {q : ℚ} (literal : Literal s q) : s ≠ "" := by
  rintro rfl
  obtain ⟨_, _, _, read, _⟩ := numeral_of_literal literal
  cases read

/-- Digits are read as the integer that they spell, rounded. -/
theorem readBinary_of_spells {s : String} {z : Int} (spelled : Spells s z) (z_ne : z ≠ 0) :
    Binary.read? s = some (Binary.ofInt z : Binary64) := by
  obtain ⟨negative, ds, m, signed, read, rfl⟩ := spelled
  have sign : decide (Decoded.signed negative m < 0) = negative := by
    cases negative <;> simp only [Decoded.signed, if_true, Bool.false_eq_true, if_false] at z_ne ⊢
    · simp
    · simp
      omega
  rw [readBinary_digits signed read, Binary.ofDecimal_eq_ofRatio, Binary.ofInt, sign,
    Decoded.natAbs_signed]
  simp

end TagSchema.Number
