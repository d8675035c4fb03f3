import TagSchema.Proofs.Predicate.Format

/-!
# Address blocks that are recognised twice

The catalog has a pattern for the blocks of either version, and the predicates read the address and
the prefix length. They differ on prefix lengths with zeros in front, which the predicates read as
numbers, and where the pattern of addresses misses a quad: `blocks_agree_iff`.
-/

namespace TagSchema.Number

theorem mul_pow_le_ofDigitChars {n : Nat} {ds : List Char} (digits : ∀ c ∈ ds, c.isDigit = true) :
    n * 10 ^ ds.length ≤ Nat.ofDigitChars 10 ds n := by
  induction ds generalizing n with
  | nil => simp
  | cons d ds ih =>
    rw [List.forall_mem_cons] at digits
    rw [Nat.ofDigitChars_cons, List.length_cons, Nat.pow_succ', ← Nat.mul_assoc]
    refine Nat.le_trans (Nat.mul_le_mul_right _ ?_) (ih digits.2)
    omega

/-- Digits with a zero in front of others. -/
def IsPadded (ds : List Char) : Prop := ds.head? = some '0' ∧ 1 < ds.length

/-- A number below a power of ten has few digits if none is a zero in front. -/
theorem length_le_of_lt_pow {k : Nat} {ds : List Char} (digits : ∀ c ∈ ds, c.isDigit = true)
    (bare : ¬ IsPadded ds) (positive : 0 < k) (small : Nat.ofDigitChars 10 ds 0 < 10 ^ k) :
    ds.length ≤ k := by
  cases ds with
  | nil => exact Nat.zero_le k
  | cons d ds =>
    by_contra long
    rw [List.length_cons, Nat.not_le, Nat.lt_succ_iff] at long
    rw [List.forall_mem_cons, Char.isDigit_iff_toNat] at digits
    have nonzero : d ≠ '0' := by
      rintro rfl
      exact bare ⟨rfl, by rw [List.length_cons]; omega⟩
    have leading : 1 ≤ 10 * 0 + (d.toNat - 48) := by
      have digit : 48 ≤ d.toNat := digits.1.1
      have other : d.toNat ≠ 48 := Char.toNat_inj.ne.mpr nonzero
      omega
    have large : 10 ^ k ≤ Nat.ofDigitChars 10 (d :: ds) 0 := by
      rw [Nat.ofDigitChars_cons]
      calc 10 ^ k ≤ 1 * 10 ^ ds.length := by
            rw [Nat.one_mul]
            exact Nat.pow_le_pow_right (by decide) long
        _ ≤ _ := Nat.mul_le_mul_right _ leading
        _ ≤ _ := mul_pow_le_ofDigitChars digits.2
    omega

end TagSchema.Number

namespace TagSchema.Pattern

open Regex Number

variable {u : List Char}

theorem length_le_of_number {bound k : Nat} (below : bound < 10 ^ k) (positive : 0 < k)
    (number : ∃ n ≤ bound, readNat 10 u = some n) (bare : ¬ IsPadded u) : u.length ≤ k := by
  obtain ⟨-, digits, small⟩ := exists_readNat_le.mp number
  exact length_le_of_lt_pow digits bare positive (Nat.lt_of_le_of_lt small below)

theorem mem_shortPrefixLength : u ∈ shortPrefixLength.language ↔
    (∃ n ≤ 32, readNat 10 u = some n) ∧ ¬ IsPadded u := by
  have few (number : ∃ n ≤ 32, readNat 10 u = some n) (bare : ¬ IsPadded u) : u.length ≤ 2 :=
    length_le_of_number (by decide) (by decide) number bare
  simp only [shortPrefixLength, mem_or, mem_optional, mem_append, mem_char, mem_chars, has_range,
    CharSet.digit]
  rw [exists_readNat_le, IsPadded] at *
  simp only [Char.isDigit_iff_toNat] at *
  rcases u with _ | ⟨a, _ | ⟨b, _ | ⟨c, ds⟩⟩⟩
  · simp
  · simp [Nat.ofDigitChars_cons]
    omega
  · simp [Nat.ofDigitChars_cons]
    simp only [← Char.toNat_inj, Char.reduceToNat]
    omega
  · refine iff_of_false (by simp) ?_
    rintro ⟨number, bare⟩
    have short := few number bare
    simp only [List.length_cons] at short
    omega

theorem mem_longPrefixLength : u ∈ longPrefixLength.language ↔
    (∃ n ≤ 128, readNat 10 u = some n) ∧ ¬ IsPadded u := by
  have few (number : ∃ n ≤ 128, readNat 10 u = some n) (bare : ¬ IsPadded u) : u.length ≤ 3 :=
    length_le_of_number (by decide) (by decide) number bare
  simp only [longPrefixLength, mem_anyOf, List.exists_mem_cons_iff, mem_optional, mem_append,
    mem_text, mem_char, mem_chars, has_range, CharSet.digit]
  rw [exists_readNat_le, IsPadded] at *
  simp only [Char.isDigit_iff_toNat] at *
  rcases u with _ | ⟨a, _ | ⟨b, _ | ⟨c, _ | ⟨d, ds⟩⟩⟩⟩
  · simp
  · simp [Nat.ofDigitChars_cons]
    omega
  · simp [Nat.ofDigitChars_cons]
    simp only [← Char.toNat_inj, Char.reduceToNat]
    omega
  · simp [Nat.ofDigitChars_cons]
    simp only [← Char.toNat_inj, Char.reduceToNat]
    omega
  · refine iff_of_false (by simp) ?_
    rintro ⟨number, bare⟩
    have short := few number bare
    simp only [List.length_cons] at short
    omega

end TagSchema.Pattern

namespace TagSchema.Predicate

open Regex Number Network Pattern

/-- An address and the number of its leading bits, which fits its version. -/
def IsBlock (version : Nat) (cs address bits : List Char) : Prop :=
  cs = address ++ '/' :: bits ∧ ∃ n, readNat 10 bits = some n ∧ Fits version address n

theorem readPrefixLength_eq_some_iff {bits : List Char} {n : Nat} :
    readPrefixLength bits = some n ↔ readNat 10 bits = some n ∧ n ≤ 255 := by
  rw [readPrefixLength, Option.filter_eq_some_iff, decide_eq_true_eq]

theorem Fits.le_255 {version n : Nat} {address : List Char} (h : Fits version address n) :
    n ≤ 255 := by
  rcases h with ⟨-, -, few⟩ | ⟨-, -, few⟩ <;> omega

theorem isCidr_iff_isBlock {version : Nat} {cs : List Char} :
    isCidr version cs = true ↔ ∃ address bits, IsBlock version cs address bits := by
  simp only [isCidr_iff, IsBlock, readPrefixLength_eq_some_iff]
  constructor
  · rintro ⟨address, bits, n, whole, ⟨read, -⟩, fits⟩
    exact ⟨address, bits, whole, n, read, fits⟩
  · rintro ⟨address, bits, whole, n, read, fits⟩
    exact ⟨address, bits, n, whole, ⟨read, fits.le_255⟩, fits⟩

theorem IsBlock.unique {version : Nat} {cs address bits address' bits' : List Char}
    (first : IsBlock version cs address bits) (second : IsBlock version cs address' bits') :
    address = address' ∧ bits = bits' := by
  obtain ⟨rfl, n, read, fits⟩ := first
  obtain ⟨same, n', read', fits'⟩ := second
  have clean := slash_not_mem_of_readPrefixLength
    (readPrefixLength_eq_some_iff.mpr ⟨read, fits.le_255⟩)
  obtain ⟨rfl, -, rfl⟩ :=
    (List.append_cons_inj_of_notMem fits.slash_not_mem clean).mp same
  exact ⟨rfl, rfl⟩

theorem isMatch_block {address length : Regex} (plain : address.isPlain = true)
    (plain' : length.isPlain = true) {s : String} :
    (whole (address ++ char '/' ++ length)).isMatch s = true ↔ ∃ a bits,
      s.toList = a ++ '/' :: bits ∧ a ∈ address.language ∧ bits ∈ length.language := by
  have both : (address ++ char '/' ++ length).isPlain = true := by
    change (address.isPlain && true && length.isPlain) = true
    rw [plain, plain']
    rfl
  rw [isMatch_whole both, mem_append_char_append]

theorem isMatch_cidrV4 {s : String} : Pattern.cidrV4.isMatch s = true ↔
    ∃ address bits, IsBlock 4 s.toList address bits ∧ ¬ IsPadded bits := by
  rw [Pattern.cidrV4, isMatch_block rfl rfl]
  simp only [mem_dottedQuad, mem_shortPrefixLength]
  constructor
  · rintro ⟨a, bits, same, quad, ⟨n, small, read⟩, bare⟩
    exact ⟨a, bits, ⟨same, n, read, .inl ⟨.inr rfl, quad, small⟩⟩, bare⟩
  · rintro ⟨a, bits, ⟨same, n, read, ⟨-, quad, small⟩ | ⟨other, -⟩⟩, bare⟩
    · exact ⟨a, bits, same, quad, ⟨n, small, read⟩, bare⟩
    · omega

theorem isMatch_cidrV6 {s : String} : Pattern.cidrV6.isMatch s = true ↔
    ∃ address bits, IsBlock 6 s.toList address bits ∧
      ¬ (IsPadded bits ∨ HasInnerGroups address) := by
  rw [Pattern.cidrV6, isMatch_block rfl rfl]
  simp only [mem_ipv6Text_iff, mem_longPrefixLength, not_or]
  constructor
  · rintro ⟨a, bits, same, ⟨v6, outer⟩, ⟨n, small, read⟩, bare⟩
    exact ⟨a, bits, ⟨same, n, read, .inr ⟨.inr rfl, v6, small⟩⟩, bare, outer⟩
  · rintro ⟨a, bits, ⟨same, n, read, ⟨other, -⟩ | ⟨-, v6, small⟩⟩, bare, outer⟩
    · omega
    · exact ⟨a, bits, same, ⟨v6, outer⟩, ⟨n, small, read⟩, bare⟩

/-- The predicate and a pattern that leaves out some blocks agree on texts that are none of
these. -/
theorem cidr_eq_iff {version : Nat} {s : String} {found : Bool}
    {Missed : List Char → List Char → Prop} (matched : found = true ↔
      ∃ address bits, IsBlock version s.toList address bits ∧ ¬ Missed address bits) :
    cidr version (.string s) = found ↔
      ¬ ∃ address bits, IsBlock version s.toList address bits ∧ Missed address bits := by
  have read : cidr version (.string s) = true ↔
      ∃ address bits, IsBlock version s.toList address bits := isCidr_iff_isBlock
  rw [Bool.eq_iff_iff, read, matched]
  constructor
  · rintro agree ⟨a, bits, block, missed⟩
    obtain ⟨a', bits', block', kept⟩ := agree.mp ⟨a, bits, block⟩
    obtain ⟨rfl, rfl⟩ := block.unique block'
    exact kept missed
  · intro none
    constructor
    · rintro ⟨a, bits, block⟩
      exact ⟨a, bits, block, fun missed => none ⟨a, bits, block, missed⟩⟩
    · rintro ⟨a, bits, block, -⟩
      exact ⟨a, bits, block⟩

/-- A block whose prefix length has zeros in front. -/
def HasPaddedLength (version : Nat) (cs : List Char) : Prop :=
  ∃ address bits, IsBlock version cs address bits ∧ IsPadded bits

/-- A block of IPv6 addresses with groups between `::` and a quad. -/
def HasInnerBlock (cs : List Char) : Prop :=
  ∃ address bits, IsBlock 6 cs address bits ∧ HasInnerGroups address

/-- A quad behind a colon, at the end of an address. -/
def HasQuadTail (cs : List Char) : Prop :=
  ∃ front q bits, cs = front ++ ':' :: q ++ '/' :: bits ∧ IsQuad q

theorem HasInnerBlock.quadTail {cs : List Char} (h : HasInnerBlock cs) : HasQuadTail cs := by
  obtain ⟨_, bits, ⟨rfl, -⟩, front, inner, q, rfl, -, -, quad, -, some, -⟩ := h
  refine ⟨doubled front [] ++ [':'].intercalate inner, q, bits, ?_, quad⟩
  rw [doubled, Text.intercalate_concat, Text.flatMap_after some]
  simp [doubled]

/-- A block is accepted by the predicate and matched by the pattern alike, except where its prefix
length is padded or a quad has groups between it and `::`. -/
theorem blocks_agree_iff (s : String) :
    (cidrV4 (.string s) = Pattern.cidrV4.isMatch s ↔ ¬ HasPaddedLength 4 s.toList) ∧
      (cidrV6 (.string s) = Pattern.cidrV6.isMatch s ↔
        ¬ HasPaddedLength 6 s.toList ∧ ¬ HasInnerBlock s.toList) ∧
      (¬ HasQuadTail s.toList →
        (cidrV6 (.string s) = Pattern.cidrV6.isMatch s ↔ ¬ HasPaddedLength 6 s.toList)) := by
  have long : cidrV6 (.string s) = Pattern.cidrV6.isMatch s ↔
      ¬ HasPaddedLength 6 s.toList ∧ ¬ HasInnerBlock s.toList := by
    rw [cidrV6, cidr_eq_iff isMatch_cidrV6, HasPaddedLength, HasInnerBlock, ← not_or]
    simp only [and_or_left, exists_or]
  refine ⟨cidr_eq_iff isMatch_cidrV4, long, ?_⟩
  intro tailless
  rw [long]
  exact and_iff_left fun inner => tailless inner.quadTail

theorem blocks_agree_iff_tailless : ¬ HasQuadTail "fe80::/10".toList ∧
    (cidrV6 (.string "fe80::/10") = Pattern.cidrV6.isMatch "fe80::/10" ↔
      ¬ HasPaddedLength 6 "fe80::/10".toList) := by
  have tailless : ¬ HasQuadTail "fe80::/10".toList := by
    rintro ⟨front, q, bits, same, quad⟩
    have point : '.' ∈ "fe80::/10".toList := by
      rw [same]
      exact List.mem_append_left _ (List.mem_append_right _ (.tail _ quad.dot_mem))
    exact absurd point (by decide)
  exact ⟨tailless, (blocks_agree_iff _).2.2 tailless⟩

theorem padded_lengths_disagree :
    cidrV4 (.string "10.0.0.0/08") = true ∧ Pattern.cidrV4.isMatch "10.0.0.0/08" = false := by
  decide

end TagSchema.Predicate
