import TagSchema.Pattern.Network
import TagSchema.Proofs.Network.Address
import TagSchema.Proofs.Number.Literal
import TagSchema.Proofs.Regex.Language

/-!
# Which addresses the patterns match

The pattern of dotted quads matches what reads as one, `mem_dottedQuad`. That of IPv6 knows a quad
behind groups that follow `::` only where these say that the address is mapped: `mem_ipv6Text_iff`.
-/

namespace TagSchema.Pattern

open Regex Number Network

variable {u : List Char}

/-! ### Octets and groups -/

theorem mem_octet : u ∈ octet.language ↔ (readOctet u).isSome = true := by
  rw [isSome_readOctet, exists_readNat_le]
  simp only [octet, mem_anyOf, List.exists_mem_cons_iff, mem_append, mem_text, mem_char, mem_chars,
    has_range, CharSet.digit, Char.isDigit_iff_toNat]
  -- The alternatives are told apart by the number of digits, and then by their codes.
  match u with
  | [] => simp
  | [c] =>
    simp [Nat.ofDigitChars_cons]
    omega
  | [b, c] =>
    simp [Nat.ofDigitChars_cons]
    simp only [← Char.toNat_inj, Char.reduceToNat]
    omega
  | [a, b, c] =>
    simp [Nat.ofDigitChars_cons]
    simp only [← Char.toNat_inj, Char.reduceToNat]
    omega
  | _ :: _ :: _ :: _ :: _ => simp

theorem has_hexDigit (c : Char) : CharSet.hexDigit.has c = (digitValue 16 c).isSome := by
  have ordered (a b : Char) : a ≤ b ↔ a.toNat ≤ b.toNat := Iff.rfl
  have known : CharSet.hexDigit.has c = true ↔ (48 ≤ c.toNat ∧ c.toNat ≤ 57) ∨
      (97 ≤ c.toNat ∧ c.toNat ≤ 102) ∨ 65 ≤ c.toNat ∧ c.toNat ≤ 70 := by
    simp only [CharSet.hexDigit, CharSet.ranges, CharSet.has, ordered, Char.reduceToNat,
      Bool.or_eq_true, Bool.and_eq_true, decide_eq_true_eq]
  rw [Bool.eq_iff_iff, known, digitValue]
  simp only [Char.isDigit_iff_toNat, ordered, Char.reduceToNat, Bool.and_eq_true, decide_eq_true_eq]
  split_ifs
  all_goals
    simp
    omega

theorem mem_hextet : u ∈ hextet.language ↔ IsGroup u := by
  rw [hextet, mem_between_chars, isGroup_iff]
  simp only [has_hexDigit, Nat.one_le_iff_ne_zero, ne_eq, List.length_eq_zero_iff]

/-- Pieces with a text after each, and one more piece at the end. -/
theorem mem_joined {r last : Regex} {between : List Char} {n : Nat} :
    u ∈ (times n (r ++ literal between) ++ last).language ↔
      ∃ ps q, u = between.intercalate (ps ++ [q]) ∧ ps.length = n ∧ (∀ p ∈ ps, p ∈ r.language) ∧
        q ∈ last.language := by
  have once (s : List Char) : s ∈ (r ++ literal between).language ↔
      ∃ p, p ∈ r.language ∧ s = p ++ between := by
    simp only [mem_append, mem_literal, exists_eq_left]
    exact exists_congr fun p => and_congr_right fun _ => eq_comm
  rw [mem_append]
  change (∃ s ∈ (Regex.between n n (r ++ literal between)).language, _) ↔ _
  simp only [mem_between_map once, ← le_antisymm_iff, Text.intercalate_concat]
  constructor
  · rintro ⟨_, ⟨ps, rfl, pieces, rfl⟩, q, final, rfl⟩
    exact ⟨ps, q, rfl, rfl, pieces, final⟩
  · rintro ⟨ps, q, rfl, rfl, pieces, final⟩
    exact ⟨_, ⟨ps, rfl, pieces, rfl⟩, q, final, rfl⟩

theorem mem_separated {r last : Regex} {sep : Char} {n : Nat} :
    u ∈ (times n (r ++ char sep) ++ last).language ↔
      ∃ ps q, u = [sep].intercalate (ps ++ [q]) ∧ ps.length = n ∧ (∀ p ∈ ps, p ∈ r.language) ∧
        q ∈ last.language :=
  @mem_joined u r last [sep] n

/-- Pieces of one kind with a text between them. -/
theorem mem_joined_alike {r : Regex} {between : List Char} {n : Nat} :
    u ∈ (times n (r ++ literal between) ++ r).language ↔
      ∃ ps, u = between.intercalate ps ∧ ps.length = n + 1 ∧ ∀ p ∈ ps, p ∈ r.language := by
  rw [mem_joined]
  constructor
  · rintro ⟨ps, q, rfl, rfl, pieces, last⟩
    refine ⟨ps ++ [q], rfl, ?_, ?_⟩
    · rw [List.length_append, List.length_singleton]
    · exact List.forall_mem_append.mpr ⟨pieces, List.forall_mem_singleton.mpr last⟩
  · rintro ⟨ps, rfl, count, pieces⟩
    rcases ps.eq_nil_or_concat' with rfl | ⟨ps, q, rfl⟩
    · cases count
    · rw [List.length_append, List.length_singleton, Nat.succ_inj] at count
      rw [List.forall_mem_append, List.forall_mem_singleton] at pieces
      exact ⟨ps, q, rfl, count, pieces⟩

theorem mem_dottedQuad : u ∈ dottedQuad.language ↔ IsQuad u := by
  rw [isQuad_iff]
  simp only [← mem_octet]
  exact @mem_joined_alike u octet ['.'] 3

/-! ### Rows of groups -/

theorem mem_hextetColon : u ∈ hextetColon.language ↔ ∃ g, IsGroup g ∧ u = g ++ [':'] := by
  simp only [hextetColon, mem_append_char, mem_hextet]

theorem mem_colonHextet : u ∈ colonHextet.language ↔ ∃ g, IsGroup g ∧ u = ':' :: g := by
  simp only [colonHextet, mem_char_append, mem_hextet]

theorem mem_row {last : Regex} {n : Nat} : u ∈ (times n hextetColon ++ last).language ↔
    ∃ ps q, u = [':'].intercalate (ps ++ [q]) ∧ ps.length = n ∧ (∀ p ∈ ps, IsGroup p) ∧
      q ∈ last.language := by
  rw [hextetColon, mem_separated]
  simp only [mem_hextet]

/-- Two rows of groups, of lengths within the bounds, with `::` between them. -/
def IsGap (m m' n n' : Nat) (u : List Char) : Prop :=
  ∃ front back, u = doubled front back ∧ ((m ≤ front.length ∧ front.length ≤ m') ∧
    n ≤ back.length ∧ back.length ≤ n') ∧ (∀ g ∈ front, IsGroup g) ∧ ∀ g ∈ back, IsGroup g

theorem IsGap.short {m m' n n' : Nat} (gap : IsGap m m' n n' u) (few : m' + n' ≤ 7) :
    ∃ front back, u = doubled front back ∧ front.length + back.length ≤ 7 ∧
      (∀ g ∈ front, IsGroup g) ∧ ∀ g ∈ back, IsGroup g := by
  obtain ⟨front, back, whole, ⟨⟨-, hm⟩, -, hn⟩, groups⟩ := gap
  exact ⟨front, back, whole, by omega, groups⟩

theorem mem_front {m : Nat} : u ∈ (between 1 m hextetColon).language ↔
    ∃ gs, (1 ≤ gs.length ∧ gs.length ≤ m) ∧ (∀ g ∈ gs, IsGroup g) ∧
      u = [':'].intercalate gs ++ [':'] := by
  rw [mem_between_map fun _ => mem_hextetColon]
  refine exists_congr fun gs => and_congr_right fun count => ?_
  rw [Text.flatMap_after (List.ne_nil_of_length_pos count.1)]

theorem mem_back {n : Nat} : u ∈ (between 1 n colonHextet).language ↔
    ∃ gs, (1 ≤ gs.length ∧ gs.length ≤ n) ∧ (∀ g ∈ gs, IsGroup g) ∧
      u = ':' :: [':'].intercalate gs := by
  rw [mem_between_map fun _ => mem_colonHextet]
  refine exists_congr fun gs => and_congr_right fun count => ?_
  rw [Text.flatMap_before (List.ne_nil_of_length_pos count.1)]

theorem mem_gap {m n : Nat} :
    u ∈ (between 1 m hextetColon ++ between 1 n colonHextet).language ↔ IsGap 1 m 1 n u := by
  rw [mem_append]
  simp only [mem_front, mem_back]
  constructor
  · rintro ⟨_, ⟨front, few, hf, rfl⟩, _, ⟨back, few', hb, rfl⟩, rfl⟩
    exact ⟨front, back, by simp [doubled], ⟨few, few'⟩, hf, hb⟩
  · rintro ⟨front, back, rfl, ⟨few, few'⟩, hf, hb⟩
    exact ⟨_, ⟨front, few, hf, rfl⟩, _, ⟨back, few', hb, rfl⟩, by simp [doubled]⟩

theorem mem_front_gap {m : Nat} :
    u ∈ (between 1 m hextetColon ++ char ':').language ↔ IsGap 1 m 0 0 u := by
  simp only [mem_append_char, mem_front]
  constructor
  · rintro ⟨_, ⟨front, few, hf, rfl⟩, rfl⟩
    exact ⟨front, [], by simp [doubled], ⟨few, by simp⟩, hf, by simp⟩
  · rintro ⟨front, back, rfl, ⟨few, -, none⟩, hf, -⟩
    obtain rfl := List.eq_nil_of_length_eq_zero (Nat.le_zero.mp none)
    exact ⟨_, ⟨front, few, hf, rfl⟩, by simp [doubled]⟩

theorem mem_single_gap {n : Nat} :
    u ∈ (hextetColon ++ between 1 n colonHextet).language ↔ IsGap 1 1 1 n u := by
  rw [← mem_gap]
  change u ∈ hextetColon.language * _ ↔ u ∈ (between 1 1 hextetColon).language * _
  rw [language_between_one]

theorem mem_back_gap {n : Nat} :
    u ∈ (char ':' ++ (between 1 n colonHextet ||| char ':')).language ↔ IsGap 0 0 0 n u := by
  simp only [mem_char_append, mem_char, mem_or, mem_back]
  constructor
  · rintro ⟨_, ⟨back, few, hb, rfl⟩ | rfl, rfl⟩
    · exact ⟨[], back, rfl, ⟨by simp, Nat.zero_le _, few.2⟩, by simp, hb⟩
    · exact ⟨[], [], rfl, by simp, by simp, by simp⟩
  · rintro ⟨front, back, rfl, ⟨⟨-, none⟩, -, few⟩, -, hb⟩
    obtain rfl := List.eq_nil_of_length_eq_zero (Nat.le_zero.mp none)
    refine ⟨_, ?_, rfl⟩
    cases back with
    | nil => exact .inr rfl
    | cons g gs => exact .inl ⟨g :: gs, ⟨by simp, few⟩, hb, rfl⟩

theorem mem_front_last {last : Regex} {m : Nat} :
    u ∈ (between 1 m hextetColon ++ char ':' ++ last).language ↔
      ∃ front q, u = doubled front [q] ∧ (1 ≤ front.length ∧ front.length ≤ m) ∧
        (∀ g ∈ front, IsGroup g) ∧ q ∈ last.language := by
  rw [mem_append]
  simp only [mem_append_char, mem_front]
  constructor
  · rintro ⟨_, ⟨_, ⟨front, few, hf, rfl⟩, rfl⟩, q, final, rfl⟩
    exact ⟨front, q, by simp [doubled], few, hf, final⟩
  · rintro ⟨front, q, rfl, few, hf, final⟩
    exact ⟨_, ⟨_, ⟨front, few, hf, rfl⟩, rfl⟩, q, final, by simp [doubled]⟩

/-- The groups in front of the quad of an address that is mapped to IPv6, `ffff`, or translated,
`ffff` and zero. -/
def IsMapped (inner : List (List Char)) : Prop :=
  ∃ m, (m.length = 4 ∧ ∀ c ∈ m, c ∈ ['f', 'F']) ∧
    (inner = [m] ∨ ∃ z, inner = [m, z] ∧ (1 ≤ z.length ∧ z.length ≤ 4) ∧ ∀ c ∈ z, c = '0')

theorem IsMapped.isGroup {inner : List (List Char)} (mapped : IsMapped inner) :
    ∀ g ∈ inner, IsGroup g := by
  obtain ⟨m, ⟨four, ones⟩, shape⟩ := mapped
  have group : IsGroup m := by
    refine isGroup_iff.mpr ⟨⟨List.ne_nil_of_length_pos (by omega), by omega⟩, ?_⟩
    intro c member
    rcases List.mem_pair.mp (ones c member) with rfl | rfl <;> rfl
  rcases shape with rfl | ⟨z, rfl, ⟨some, few⟩, zeros⟩
  · exact List.forall_mem_singleton.mpr group
  · have zero : IsGroup z := by
      refine isGroup_iff.mpr ⟨⟨List.ne_nil_of_length_pos some, few⟩, ?_⟩
      intro c member
      rw [zeros c member]
      rfl
    simpa using ⟨group, zero⟩

theorem IsMapped.length_le {inner : List (List Char)} (mapped : IsMapped inner) :
    inner.length ≤ 2 := by
  obtain ⟨m, -, rfl | ⟨z, rfl, -⟩⟩ := mapped <;> simp

theorem mem_mapping : u ∈ (times 4 (chars (.oneOf ['f', 'F'])) ++
    optional (char ':' ++ between 1 4 (char '0')) ++ char ':').language ↔
      ∃ inner, IsMapped inner ∧ u = inner.flatMap (· ++ [':']) := by
  have ones (m : List Char) : m ∈ (times 4 (chars (.oneOf ['f', 'F']))).language ↔
      m.length = 4 ∧ ∀ c ∈ m, c ∈ ['f', 'F'] := by
    change m ∈ (between 4 4 (chars (.oneOf ['f', 'F']))).language ↔ _
    rw [mem_between_chars, ← le_antisymm_iff, eq_comm]
    simp only [CharSet.has_oneOf]
  have zeros (z : List Char) : z ∈ (between 1 4 (char '0')).language ↔
      (1 ≤ z.length ∧ z.length ≤ 4) ∧ ∀ c ∈ z, c = '0' := by
    change z ∈ (between 1 4 (chars (.single '0'))).language ↔ _
    rw [mem_between_chars]
    simp only [CharSet.has_single, beq_iff_eq, @eq_comm _ '0']
  simp only [mem_append_char, mem_append (b := optional _), mem_optional, mem_char_append, ones,
    zeros]
  constructor
  · rintro ⟨_, ⟨m, isOnes, _, rfl | ⟨z, isZeros, rfl⟩, rfl⟩, rfl⟩
    · exact ⟨[m], ⟨m, isOnes, .inl rfl⟩, by simp⟩
    · exact ⟨[m, z], ⟨m, isOnes, .inr ⟨z, rfl, isZeros⟩⟩, by simp⟩
  · rintro ⟨_, ⟨m, isOnes, rfl | ⟨z, rfl, isZeros⟩⟩, rfl⟩
    · exact ⟨_, ⟨m, isOnes, [], .inl rfl, rfl⟩, by simp⟩
    · exact ⟨_, ⟨m, isOnes, _, .inr ⟨z, isZeros, rfl⟩, rfl⟩, by simp⟩

theorem mem_mapped : u ∈ (text "::" ++
    optional (times 4 (chars (.oneOf ['f', 'F'])) ++
      optional (char ':' ++ between 1 4 (char '0')) ++ char ':') ++ dottedQuad).language ↔
    ∃ inner q, u = doubled [] (inner ++ [q]) ∧ (inner = [] ∨ IsMapped inner) ∧ IsQuad q := by
  rw [mem_append]
  simp only [mem_append (a := text _), mem_text, mem_optional, mem_mapping, mem_dottedQuad,
    exists_eq_left, doubled, Text.intercalate_concat]
  constructor
  · rintro ⟨_, ⟨_, rfl | ⟨inner, mapped, rfl⟩, rfl⟩, q, quad, rfl⟩
    · exact ⟨[], q, rfl, .inl rfl, quad⟩
    · exact ⟨inner, q, rfl, .inr mapped, quad⟩
  · rintro ⟨inner, q, rfl, rfl | mapped, quad⟩
    · exact ⟨_, ⟨[], .inl rfl, rfl⟩, q, quad, rfl⟩
    · exact ⟨_, ⟨_, .inr ⟨inner, mapped, rfl⟩, rfl⟩, q, quad, rfl⟩

/-! ### Addresses -/

/-- Behind `::` stand groups and then a quad, and the groups are not those of a mapped address. -/
def HasInnerGroups (u : List Char) : Prop :=
  ∃ front inner q, u = doubled front (inner ++ [q]) ∧ (∀ g ∈ front, IsGroup g) ∧
    (∀ g ∈ inner, IsGroup g) ∧ IsQuad q ∧ front.length + inner.length ≤ 5 ∧ inner ≠ [] ∧
      ¬ (front = [] ∧ IsMapped inner)

theorem doubled_mem {front back : List (List Char)} (few : front.length + back.length ≤ 7)
    (hf : ∀ g ∈ front, IsGroup g) (hb : ∀ g ∈ back, IsGroup g) :
    doubled front back ∈ ipv6Text.language := by
  have gap {m m' n n' : Nat} (bounds : (m ≤ front.length ∧ front.length ≤ m') ∧
      n ≤ back.length ∧ back.length ≤ n') : IsGap m m' n n' (doubled front back) :=
    ⟨front, back, rfl, bounds, hf, hb⟩
  rw [ipv6Text]
  -- The longer the row behind `::` may be, the shorter is the one before it.
  rcases Nat.eq_zero_or_pos front.length with none | some
  · exact mem_anyOf_of_getElem? 8 rfl (mem_back_gap.mpr (gap (by omega)))
  · match size : back.length with
    | 0 => exact mem_anyOf_of_getElem? 1 rfl (mem_front_gap.mpr (gap (by omega)))
    | 1 =>
      obtain ⟨g, rfl⟩ := List.length_eq_one_iff.mp size
      exact mem_anyOf_of_getElem? 2 rfl (mem_front_last.mpr
        ⟨front, g, rfl, by omega, hf, mem_hextet.mpr (List.forall_mem_singleton.mp hb)⟩)
    | 2 => exact mem_anyOf_of_getElem? 3 rfl (mem_gap.mpr (gap (by omega)))
    | 3 => exact mem_anyOf_of_getElem? 4 rfl (mem_gap.mpr (gap (by omega)))
    | 4 => exact mem_anyOf_of_getElem? 5 rfl (mem_gap.mpr (gap (by omega)))
    | 5 => exact mem_anyOf_of_getElem? 6 rfl (mem_gap.mpr (gap (by omega)))
    | n + 6 => exact mem_anyOf_of_getElem? 7 rfl (mem_single_gap.mpr (gap (by omega)))

theorem isV6_tail {front inner : List (List Char)} {q : List Char} (hf : ∀ g ∈ front, IsGroup g)
    (hi : ∀ g ∈ inner, IsGroup g) (quad : IsQuad q) (few : front.length + inner.length ≤ 5) :
    IsV6 (doubled front (inner ++ [q])) :=
  .inr ⟨front, inner ++ [q], _, _, rfl, .inl ⟨hf, rfl⟩,
    stands_concat.mpr ⟨hi, .inr ⟨rfl, quad, rfl⟩⟩, by omega⟩

theorem HasInnerGroups.isV6 (h : HasInnerGroups u) : IsV6 u := by
  obtain ⟨front, inner, q, rfl, hf, hi, quad, few, -⟩ := h
  exact isV6_tail hf hi quad few

theorem row_mem {ps : List (List Char)} (stands : Stands true ps 8) :
    [':'].intercalate ps ∈ ipv6Text.language := by
  rw [ipv6Text]
  rcases ps.eq_nil_or_concat' with rfl | ⟨ps, q, rfl⟩
  · rcases stands with ⟨-, none⟩ | ⟨-, ps, q, none, -⟩
    · cases none
    · simp at none
  · rcases stands_concat.mp stands with ⟨groups, ⟨group, count⟩ | ⟨-, quad, count⟩⟩
    · exact mem_anyOf_of_getElem? 0 rfl
        (mem_row.mpr ⟨ps, q, rfl, by omega, groups, mem_hextet.mpr group⟩)
    · exact mem_anyOf_of_getElem? 9 rfl
        (mem_row.mpr ⟨ps, q, rfl, by omega, groups, mem_dottedQuad.mpr quad⟩)

theorem tail_mem {front inner : List (List Char)} {q : List Char} (few : front.length ≤ 5)
    (known : inner = [] ∨ front = [] ∧ IsMapped inner) (hf : ∀ g ∈ front, IsGroup g)
    (quad : IsQuad q) : doubled front (inner ++ [q]) ∈ ipv6Text.language := by
  rw [ipv6Text]
  rcases Nat.eq_zero_or_pos front.length with none | some
  · obtain rfl := List.eq_nil_of_length_eq_zero none
    exact mem_anyOf_of_getElem? 10 rfl
      (mem_mapped.mpr ⟨inner, q, rfl, known.imp_right And.right, quad⟩)
  · rcases known with rfl | ⟨rfl, -⟩
    · exact mem_anyOf_of_getElem? 11 rfl (mem_front_last.mpr
        ⟨front, q, rfl, ⟨some, few⟩, hf, mem_dottedQuad.mpr quad⟩)
    · cases some

theorem mem_ipv6Text : u ∈ ipv6Text.language ↔
    (∃ ps, u = [':'].intercalate ps ∧ Stands true ps 8) ∨
    (∃ front back, u = doubled front back ∧ front.length + back.length ≤ 7 ∧
      (∀ g ∈ front, IsGroup g) ∧ ∀ g ∈ back, IsGroup g) ∨
    ∃ front inner q, u = doubled front (inner ++ [q]) ∧ front.length ≤ 5 ∧
      (inner = [] ∨ front = [] ∧ IsMapped inner) ∧ (∀ g ∈ front, IsGroup g) ∧ IsQuad q := by
  constructor
  · rw [ipv6Text, mem_anyOf]
    simp only [List.exists_mem_cons_iff, mem_row, mem_front_gap, mem_front_last, mem_gap,
      mem_single_gap, mem_back_gap, mem_mapped, mem_hextet, mem_dottedQuad, List.not_mem_nil,
      false_and, exists_false, or_false]
    rintro (row | gap | last | gap | gap | gap | gap | gap | gap | row | mapped | last)
    · obtain ⟨ps, q, rfl, seven, groups, group⟩ := row
      exact .inl ⟨_, rfl, stands_concat.mpr ⟨groups, .inl ⟨group, by omega⟩⟩⟩
    · exact .inr (.inl (gap.short le_rfl))
    · obtain ⟨front, q, rfl, ⟨-, few⟩, groups, group⟩ := last
      exact .inr (.inl ⟨front, [q], rfl, Nat.succ_le_succ few, groups,
        List.forall_mem_singleton.mpr group⟩)
    iterate 6 exact .inr (.inl (gap.short le_rfl))
    · obtain ⟨ps, q, rfl, six, groups, quad⟩ := row
      exact .inl ⟨_, rfl, stands_concat.mpr ⟨groups, .inr ⟨rfl, quad, by omega⟩⟩⟩
    · obtain ⟨inner, q, rfl, known, quad⟩ := mapped
      exact .inr (.inr ⟨[], inner, q, rfl, Nat.zero_le _, known.imp_right fun h => ⟨rfl, h⟩,
        by simp, quad⟩)
    · obtain ⟨front, q, rfl, ⟨-, few⟩, groups, quad⟩ := last
      exact .inr (.inr ⟨front, [], q, rfl, few, .inl rfl, groups, quad⟩)
  · rintro (⟨ps, rfl, stands⟩ | ⟨front, back, rfl, few, hf, hb⟩ |
      ⟨front, inner, q, rfl, few, known, hf, quad⟩)
    · exact row_mem stands
    · exact doubled_mem few hf hb
    · exact tail_mem few known hf quad

/-- The pattern leaves out the addresses that have groups between `::` and a quad, apart from the
mapped ones. -/
theorem mem_ipv6Text_iff : u ∈ ipv6Text.language ↔ IsV6 u ∧ ¬ HasInnerGroups u := by
  have piece {ps : List (List Char)} (groups : ∀ g ∈ ps, IsGroup g) :
      ∀ p ∈ ps, Text.IsPiece ':' p := fun p member => (groups p member).isPiece
  have pieces {ps : List (List Char)} {q : List Char} (groups : ∀ g ∈ ps, IsGroup g)
      (quad : IsQuad q) : ∀ p ∈ ps ++ [q], Text.IsPiece ':' p :=
    List.forall_mem_append.mpr ⟨piece groups, List.forall_mem_singleton.mpr quad.isPiece⟩
  rw [mem_ipv6Text]
  constructor
  · rintro (⟨ps, rfl, stands⟩ | ⟨front, back, rfl, few, hf, hb⟩ |
      ⟨front, inner, q, rfl, few, known, hf, quad⟩)
    · refine ⟨.inl ⟨ps, rfl, stands⟩, ?_⟩
      rintro ⟨front, inner, q, same, hf, -⟩
      exact doubled_ne_intercalate (piece hf) stands.isPiece same.symm
    · refine ⟨.inr ⟨front, back, _, _, rfl, .inl ⟨hf, rfl⟩, .inl ⟨hb, rfl⟩, few⟩, ?_⟩
      rintro ⟨front', inner, q, same, hf', hi, quad, -⟩
      obtain ⟨-, rfl⟩ := doubled_injective (piece hf) (piece hb) (piece hf') (pieces hi quad) same
      exact quad.not_isGroup (hb q (by simp))
    · obtain ⟨hi, sum⟩ : (∀ g ∈ inner, IsGroup g) ∧ front.length + inner.length ≤ 5 := by
        rcases known with rfl | ⟨rfl, mapped⟩
        · exact ⟨by simp, few⟩
        · refine ⟨mapped.isGroup, ?_⟩
          have := mapped.length_le
          rw [List.length_nil]
          omega
      refine ⟨isV6_tail hf hi quad sum, ?_⟩
      rintro ⟨front', inner', q', same, hf', hi', quad', -, some, unknown⟩
      obtain ⟨rfl, row⟩ :=
        doubled_injective (piece hf) (pieces hi quad) (piece hf') (pieces hi' quad') same
      obtain ⟨rfl, -⟩ := List.append_inj' row rfl
      exact known.elim some unknown
  · rintro ⟨⟨ps, rfl, stands⟩ | ⟨front, back, m, n, rfl, hf, hb, few⟩, outer⟩
    · exact .inl ⟨ps, rfl, stands⟩
    · rcases hf with ⟨hf, rfl⟩ | ⟨⟨⟩, -⟩
      rcases hb with ⟨hb, rfl⟩ | ⟨-, inner, q, rfl, hi, quad, rfl⟩
      · exact .inr (.inl ⟨front, back, rfl, few, hf, hb⟩)
      · refine .inr (.inr ⟨front, inner, q, rfl, by omega, ?_, hf, quad⟩)
        by_contra unknown
        rw [not_or] at unknown
        exact outer ⟨front, inner, q, rfl, hf, hi, quad, by omega, unknown.1, unknown.2⟩

end TagSchema.Pattern
