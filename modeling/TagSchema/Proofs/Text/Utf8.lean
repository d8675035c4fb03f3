import TagSchema.Text.Utf8
import Mathlib.Data.List.Basic

/-!
# Texts and their bytes

The bytes of a text decode to the text (`ofUtf8?_toUTF8`), and no other bytes do
(`ofUtf8?_eq_some_iff`).
-/

namespace TagSchema.Text

/-! ### Characters of several bytes -/

/-- A byte that continues a character. -/
def IsContinuation (b : UInt8) : Prop := 0x80 ≤ b.toNat ∧ b.toNat ≤ 0xBF

theorem takeContinuation_append {bs : List UInt8} (h : ∀ b ∈ bs, IsContinuation b)
    (rest : List UInt8) : takeContinuation 0x80 0xBF bs.length (bs ++ rest) = bs := by
  induction bs with
  | nil => cases rest <;> rfl
  | cons b bs ih =>
    rw [List.forall_mem_cons] at h
    have inside : ((0x80 : UInt8) ≤ b && b ≤ 0xBF) = true := by
      simpa [UInt8.le_iff_toNat_le, IsContinuation] using h.1
    rw [List.length_cons, List.cons_append, takeContinuation, if_pos inside, ih h.2]

/-- A lead byte and its continuation decode to the character of their bits. -/
theorem decodeHead_lead {lead lo hi first : UInt8} {later : List UInt8} (high : 0x80 ≤ lead.toNat)
    (class_ : leadClass lead = some (later.length + 1, lo, hi))
    (inside : lo.toNat ≤ first.toNat ∧ first.toNat ≤ hi.toNat)
    (continued : ∀ b ∈ later, IsContinuation b) (rest : List UInt8) :
    decodeHead (lead :: first :: later ++ rest) =
      some (.ok (Char.ofNat ((first :: later).foldl (fun acc t => acc * 64 + t.toNat % 64)
        (lead.toNat % Nat.pow 2 (6 - (later.length + 1)))), later.length + 2)) := by
  have noAscii : ¬ lead < 0x80 := by
    rw [UInt8.lt_iff_toNat_lt]
    exact Nat.not_lt.mpr high
  have taken : takeContinuation lo hi (later.length + 1) (first :: later ++ rest) =
      first :: later := by
    have inside : (lo ≤ first && first ≤ hi) = true := by
      simpa [UInt8.le_iff_toNat_le] using inside
    rw [List.cons_append, takeContinuation, if_pos inside, takeContinuation_append continued]
  rw [List.cons_append, decodeHead, if_neg noAscii, class_]
  simp only [taken, List.length_cons, if_true]

theorem leadClass_two {b : UInt8} (h : 0xC2 ≤ b.toNat ∧ b.toNat ≤ 0xDF) :
    leadClass b = some (1, 0x80, 0xBF) := by
  rw [leadClass, if_pos (by simpa [UInt8.le_iff_toNat_le] using h)]

theorem leadClass_three {b : UInt8} (h : 0xE0 ≤ b.toNat ∧ b.toNat ≤ 0xEF) :
    leadClass b = some (2, if b = 0xE0 then 0xA0 else 0x80, if b = 0xED then 0x9F else 0xBF) := by
  have table : ∀ n : Fin 16, leadClass (UInt8.ofNat (0xE0 + n)) =
      some (2, if UInt8.ofNat (0xE0 + n) = 0xE0 then 0xA0 else 0x80,
        if UInt8.ofNat (0xE0 + n) = 0xED then 0x9F else 0xBF) := by decide
  have at_ := table ⟨b.toNat - 0xE0, by omega⟩
  rwa [Nat.add_sub_cancel' h.1, UInt8.ofNat_toNat] at at_

theorem leadClass_four {b : UInt8} (h : 0xF0 ≤ b.toNat ∧ b.toNat ≤ 0xF4) :
    leadClass b = some (3, if b = 0xF0 then 0x90 else 0x80, if b = 0xF4 then 0x8F else 0xBF) := by
  have table : ∀ n : Fin 5, leadClass (UInt8.ofNat (0xF0 + n)) =
      some (3, if UInt8.ofNat (0xF0 + n) = 0xF0 then 0x90 else 0x80,
        if UInt8.ofNat (0xF0 + n) = 0xF4 then 0x8F else 0xBF) := by decide
  have at_ := table ⟨b.toNat - 0xF0, by omega⟩
  rwa [Nat.add_sub_cancel' h.1, UInt8.ofNat_toNat] at at_

/-! ### Characters -/

theorem toNat_byte {n : Nat} (h : n < 256) : (UInt8.ofNat n).toNat = n := by
  simpa using Nat.mod_eq_of_lt h

theorem isContinuation_low (n : Nat) : IsContinuation (UInt8.ofNat (n % 0x40 + 0x80)) := by
  rw [IsContinuation, toNat_byte (by omega)]
  omega

theorem decodeHead_utf8EncodeChar (c : Char) (rest : List UInt8) :
    decodeHead (String.utf8EncodeChar c ++ rest) =
      some (.ok (c, (String.utf8EncodeChar c).length)) := by
  have size := c.valid
  have code : Char.ofNat c.val.toNat = c := Char.ofNat_toNat c
  generalize v_eq : c.val.toNat = v at code
  have valid : v < 0xD800 ∨ 0xDFFF < v ∧ v < 0x110000 := by
    rw [← v_eq]
    exact c.valid
  unfold String.utf8EncodeChar
  rw [v_eq]
  dsimp only
  split
  · rename_i one
    have ascii : (UInt8.ofNat v) < 0x80 := by
      rw [UInt8.lt_iff_toNat_lt, toNat_byte (by omega)]
      exact Nat.lt_succ_of_le one
    rw [List.cons_append, decodeHead, if_pos ascii, toNat_byte (by omega), code]
    rfl
  · split
    · have lead : (UInt8.ofNat (v / 64 % 0x20 + 0xc0)).toNat = v / 64 + 0xc0 := by
        rw [toNat_byte (by omega)]
        omega
      have next := toNat_byte (show v % 0x40 + 0x80 < 256 by omega)
      refine (decodeHead_lead (by omega) (leadClass_two (by omega)) ?_ (by simp) rest).trans ?_
      · exact isContinuation_low v
      have value : (v / 64 + 0xc0) % Nat.pow 2 5 * 64 + (v % 0x40 + 0x80) % 64 = v := by
        change (v / 64 + 0xc0) % 32 * 64 + (v % 0x40 + 0x80) % 64 = v
        omega
      simp only [List.length_nil, List.foldl_cons, List.foldl_nil, lead, next, value, code]
      rfl
    · split
      · have lead : (UInt8.ofNat (v / 4096 % 0x10 + 0xe0)).toNat = v / 4096 + 0xe0 := by
          rw [toNat_byte (by omega)]
          omega
        have next := toNat_byte (show v / 64 % 0x40 + 0x80 < 256 by omega)
        have last := toNat_byte (show v % 0x40 + 0x80 < 256 by omega)
        refine (decodeHead_lead (by omega) (leadClass_three (by omega)) ?_ ?_ rest).trans ?_
        · rw [apply_ite UInt8.toNat, apply_ite UInt8.toNat, next]
          simp only [← UInt8.toNat_inj, lead, UInt8.reduceToNat]
          split <;> split <;> omega
        · simpa using isContinuation_low v
        · have value : ((v / 4096 + 0xe0) % Nat.pow 2 4 * 64 + (v / 64 % 0x40 + 0x80) % 64) * 64 +
              (v % 0x40 + 0x80) % 64 = v := by
            change ((v / 4096 + 0xe0) % 16 * 64 + (v / 64 % 0x40 + 0x80) % 64) * 64 +
              (v % 0x40 + 0x80) % 64 = v
            omega
          simp only [List.length_cons, List.length_nil, List.foldl_cons, List.foldl_nil, lead, next,
            last, value, code]
      · have lead : (UInt8.ofNat (v / 262144 % 0x08 + 0xf0)).toNat = v / 262144 + 0xf0 := by
          rw [toNat_byte (by omega)]
          omega
        have next := toNat_byte (show v / 4096 % 0x40 + 0x80 < 256 by omega)
        have third := toNat_byte (show v / 64 % 0x40 + 0x80 < 256 by omega)
        have last := toNat_byte (show v % 0x40 + 0x80 < 256 by omega)
        refine (decodeHead_lead (by omega) (leadClass_four (by omega)) ?_ ?_ rest).trans ?_
        · rw [apply_ite UInt8.toNat, apply_ite UInt8.toNat, next]
          simp only [← UInt8.toNat_inj, lead, UInt8.reduceToNat]
          split <;> split <;> omega
        · exact List.forall_mem_cons.mpr
            ⟨isContinuation_low _, List.forall_mem_singleton.mpr (isContinuation_low v)⟩
        · have value : (((v / 262144 + 0xf0) % Nat.pow 2 3 * 64 +
              (v / 4096 % 0x40 + 0x80) % 64) * 64 +
              (v / 64 % 0x40 + 0x80) % 64) * 64 + (v % 0x40 + 0x80) % 64 = v := by
            change (((v / 262144 + 0xf0) % 8 * 64 + (v / 4096 % 0x40 + 0x80) % 64) * 64 +
              (v / 64 % 0x40 + 0x80) % 64) * 64 + (v % 0x40 + 0x80) % 64 = v
            omega
          simp only [List.length_cons, List.length_nil, List.foldl_cons, List.foldl_nil, lead, next,
            third, last, value, code]

/-! ### Texts -/

theorem toList_loop (bytes : ByteArray) (i : Nat) (done : List UInt8) :
    ByteArray.toList.loop bytes i done = done.reverse ++ bytes.data.toList.drop i := by
  induction left : bytes.size - i generalizing i done with
  | zero =>
    rw [ByteArray.toList.loop, if_neg (by omega), List.drop_eq_nil_of_le, List.append_nil]
    have size : bytes.data.toList.length = bytes.size := rfl
    omega
  | succ n ih =>
    have inside : i < bytes.data.toList.length := by
      have size : bytes.data.toList.length = bytes.size := rfl
      omega
    have byte : bytes.get! i = bytes.data.toList[i] := getElem!_pos bytes.data i inside
    rw [ByteArray.toList.loop, if_pos (by omega), ih (i + 1) _ (by omega), byte,
      List.reverse_cons, List.append_assoc, List.drop_eq_getElem_cons inside]
    rfl

theorem toList_toUTF8 (s : String) : s.toUTF8.toList = s.toList.flatMap String.utf8EncodeChar := by
  have bytes : s.toUTF8 = (s.toList.flatMap String.utf8EncodeChar).toByteArray := by
    rw [← String.ofList_toList (s := s), String.toUTF8_eq_toByteArray, String.toList_ofList]
    rfl
  rw [bytes, ByteArray.toList, toList_loop, List.toList_data_toByteArray]
  rfl

theorem decodeAll_encoded (cs : List Char) (fuel : Nat)
    (enough : (cs.flatMap String.utf8EncodeChar).length ≤ fuel) :
    decodeAll fuel (cs.flatMap String.utf8EncodeChar) = cs.map some := by
  induction cs generalizing fuel with
  | nil => cases fuel <;> rfl
  | cons c cs ih =>
    have size := String.length_utf8EncodeChar c
    have positive := Char.utf8Size_pos c
    rw [List.flatMap_cons, List.length_append] at enough
    obtain ⟨n, rfl⟩ := Nat.exists_eq_add_of_lt (show 0 < fuel by omega)
    rw [Nat.zero_add, List.flatMap_cons, decodeAll, decodeHead_utf8EncodeChar]
    dsimp only
    rw [List.drop_left, ih n (by omega), List.map_cons]

theorem mapM_id_some (cs : List Char) : (cs.map some).mapM id = some cs := by
  induction cs with
  | nil => rfl
  | cons c cs ih =>
    rw [List.map_cons, List.mapM_cons, ih]
    rfl

/-- The bytes of a text decode to the text. -/
theorem ofUtf8?_toUTF8 (s : String) : ofUtf8? s.toUTF8.toList = some s := by
  rw [ofUtf8?, toList_toUTF8, decodeAll_encoded _ _ (Nat.le_refl _), mapM_id_some, Option.map_some,
    String.ofList_toList]

/-! ### Decoded bytes -/

theorem toNat_ofNat {v : Nat} (valid : v.isValidChar) : (Char.ofNat v).val.toNat = v := by
  rw [Char.ofNat, dif_pos valid]
  rfl

theorem leadClass_some {b : UInt8} {k : Nat × UInt8 × UInt8} (h : leadClass b = some k) :
    (0xC2 ≤ b.toNat ∧ b.toNat ≤ 0xDF) ∨ (0xE0 ≤ b.toNat ∧ b.toNat ≤ 0xEF) ∨
      (0xF0 ≤ b.toNat ∧ b.toNat ≤ 0xF4) := by
  have table : ∀ n : Fin 256, (leadClass (UInt8.ofNat n)).isSome = true →
      (0xC2 ≤ n.val ∧ n.val ≤ 0xDF) ∨ (0xE0 ≤ n.val ∧ n.val ≤ 0xEF) ∨
        (0xF0 ≤ n.val ∧ n.val ≤ 0xF4) := by decide +kernel
  refine table ⟨b.toNat, b.toNat_lt⟩ ?_
  rw [UInt8.ofNat_toNat, h]
  rfl

/-- As many bytes as are asked for: the first between its bounds, the others continue. -/
theorem takeContinuation_full {lo hi : UInt8} {n : Nat} {bs : List UInt8}
    (full : (takeContinuation lo hi (n + 1) bs).length = n + 1) :
    ∃ first later rest, bs = first :: (later ++ rest) ∧
      takeContinuation lo hi (n + 1) bs = first :: later ∧ later.length = n ∧
      (lo.toNat ≤ first.toNat ∧ first.toNat ≤ hi.toNat) ∧ ∀ b ∈ later, IsContinuation b := by
  induction n generalizing lo hi bs with
  | zero =>
    cases bs with
    | nil => cases full
    | cons b bs =>
      rw [takeContinuation] at full ⊢
      split at full
      · rename_i inside
        rw [if_pos inside]
        simp only [Bool.and_eq_true, decide_eq_true_eq, UInt8.le_iff_toNat_le] at inside
        exact ⟨b, [], bs, rfl, by cases bs <;> rfl, rfl, inside, by simp⟩
      · cases full
  | succ n ih =>
    cases bs with
    | nil => cases full
    | cons b bs =>
      rw [takeContinuation] at full ⊢
      split at full
      · rename_i inside
        rw [if_pos inside]
        simp only [Bool.and_eq_true, decide_eq_true_eq, UInt8.le_iff_toNat_le] at inside
        obtain ⟨first, later, rest, rfl, taken, count, bounds, all⟩ := ih (Nat.succ.inj full)
        refine ⟨b, first :: later, rest, rfl, by rw [taken], congrArg Nat.succ count, inside, ?_⟩
        exact List.forall_mem_cons.mpr ⟨bounds, all⟩
      · cases full
 
theorem utf8EncodeChar_two {v : Nat} (low : 0x80 ≤ v) (high : v ≤ 0x7FF) :
    String.utf8EncodeChar (Char.ofNat v) =
      [UInt8.ofNat (v / 64 + 0xc0), UInt8.ofNat (v % 64 + 0x80)] := by
  have value := toNat_ofNat (v := v) (.inl (by omega))
  have lead : v / 64 % 0x20 = v / 64 := by omega
  rw [String.utf8EncodeChar, value]
  rw [if_neg (by omega), if_pos high, lead]

theorem utf8EncodeChar_three {v : Nat} (low : 0x800 ≤ v) (high : v ≤ 0xFFFF)
    (valid : v.isValidChar) : String.utf8EncodeChar (Char.ofNat v) =
      [UInt8.ofNat (v / 4096 + 0xe0), UInt8.ofNat (v / 64 % 64 + 0x80),
        UInt8.ofNat (v % 64 + 0x80)] := by
  have lead : v / 4096 % 0x10 = v / 4096 := by omega
  rw [String.utf8EncodeChar, toNat_ofNat valid]
  rw [if_neg (by omega), if_neg (by omega), if_pos high, lead]

theorem utf8EncodeChar_four {v : Nat} (low : 0x10000 ≤ v) (high : v ≤ 0x10FFFF) :
    String.utf8EncodeChar (Char.ofNat v) =
      [UInt8.ofNat (v / 262144 + 0xf0), UInt8.ofNat (v / 4096 % 64 + 0x80),
        UInt8.ofNat (v / 64 % 64 + 0x80), UInt8.ofNat (v % 64 + 0x80)] := by
  have value := toNat_ofNat (v := v) (.inr ⟨by omega, by omega⟩)
  have lead : v / 262144 % 0x08 = v / 262144 := by omega
  rw [String.utf8EncodeChar, value]
  rw [if_neg (by omega), if_neg (by omega), if_neg (by omega), lead]

/-- The bits of well-formed bytes encode to these bytes. -/
theorem utf8EncodeChar_bits {lead lo hi first : UInt8} {later : List UInt8}
    (class_ : leadClass lead = some (later.length + 1, lo, hi))
    (inside : lo.toNat ≤ first.toNat ∧ first.toNat ≤ hi.toNat)
    (continued : ∀ b ∈ later, IsContinuation b) :
    String.utf8EncodeChar (Char.ofNat ((first :: later).foldl (fun acc t => acc * 64 + t.toNat % 64)
      (lead.toNat % Nat.pow 2 (6 - (later.length + 1))))) = lead :: first :: later := by
  have byte {b : UInt8} {m : Nat} (h : m = b.toNat) : UInt8.ofNat m = b := by
    rw [h, UInt8.ofNat_toNat]
  rcases leadClass_some class_ with two | three | four
  · have bounds := (leadClass_two two).symm.trans class_
    simp only [Option.some.injEq, Prod.mk.injEq] at bounds
    obtain ⟨count, rfl, rfl⟩ := bounds
    obtain rfl := List.length_eq_zero_iff.mp (show later.length = 0 by omega)
    change 0x80 ≤ first.toNat ∧ first.toNat ≤ 0xBF at inside
    change String.utf8EncodeChar (Char.ofNat (lead.toNat % 32 * 64 + first.toNat % 64)) = _
    rw [utf8EncodeChar_two (by omega) (by omega), byte (b := lead) (by omega),
      byte (b := first) (by omega)]
  · have bounds := (leadClass_three three).symm.trans class_
    simp only [Option.some.injEq, Prod.mk.injEq] at bounds
    obtain ⟨count, rfl, rfl⟩ := bounds
    obtain ⟨second, rfl⟩ := List.length_eq_one_iff.mp (show later.length = 1 by omega)
    have next : 0x80 ≤ second.toNat ∧ second.toNat ≤ 0xBF := continued second (by simp)
    rw [apply_ite UInt8.toNat, apply_ite UInt8.toNat] at inside
    simp only [← UInt8.toNat_inj, UInt8.reduceToNat] at inside
    change String.utf8EncodeChar (Char.ofNat
      ((lead.toNat % 16 * 64 + first.toNat % 64) * 64 + second.toNat % 64)) = _
    have range : 0x80 ≤ first.toNat ∧ first.toNat ≤ 0xBF ∧
        (lead.toNat = 0xE0 → 0xA0 ≤ first.toNat) ∧ (lead.toNat = 0xED → first.toNat ≤ 0x9F) := by
      split at inside <;> split at inside <;> omega
    rw [utf8EncodeChar_three (by omega) (by omega) (by unfold Nat.isValidChar; omega),
      byte (b := lead) (by omega), byte (b := first) (by omega), byte (b := second) (by omega)]
  · have bounds := (leadClass_four four).symm.trans class_
    simp only [Option.some.injEq, Prod.mk.injEq] at bounds
    obtain ⟨count, rfl, rfl⟩ := bounds
    obtain ⟨second, third, rfl⟩ := List.length_eq_two.mp (show later.length = 2 by omega)
    have next : (0x80 ≤ second.toNat ∧ second.toNat ≤ 0xBF) ∧
        (0x80 ≤ third.toNat ∧ third.toNat ≤ 0xBF) :=
      ⟨continued second (by simp), continued third (by simp)⟩
    rw [apply_ite UInt8.toNat, apply_ite UInt8.toNat] at inside
    simp only [← UInt8.toNat_inj, UInt8.reduceToNat] at inside
    change String.utf8EncodeChar (Char.ofNat (((lead.toNat % 8 * 64 + first.toNat % 64) * 64 +
      second.toNat % 64) * 64 + third.toNat % 64)) = _
    have range : 0x80 ≤ first.toNat ∧ first.toNat ≤ 0xBF ∧
        (lead.toNat = 0xF0 → 0x90 ≤ first.toNat) ∧ (lead.toNat = 0xF4 → first.toNat ≤ 0x8F) := by
      split at inside <;> split at inside <;> omega
    rw [utf8EncodeChar_four (by omega) (by omega), byte (b := lead) (by omega),
      byte (b := first) (by omega), byte (b := second) (by omega), byte (b := third) (by omega)]

theorem decodeHead_ok {bs : List UInt8} {c : Char} {n : Nat}
    (h : decodeHead bs = some (.ok (c, n))) : bs = String.utf8EncodeChar c ++ bs.drop n := by
  unfold decodeHead at h
  split at h
  · cases h
  · rename_i b bs
    split at h
    · rename_i ascii
      rw [UInt8.lt_iff_toNat_lt] at ascii
      change b.toNat < 128 at ascii
      cases h
      have value := toNat_ofNat (v := b.toNat) (.inl (by omega))
      rw [String.utf8EncodeChar, value]
      rw [if_pos (by omega), UInt8.ofNat_toNat]
      rfl
    · split at h
      · cases h
      · rename_i k lo hi class_
        dsimp only at h
        split at h
        · rename_i full
          cases h
          cases k with
          | zero =>
            rcases leadClass_some class_ with lead | lead | lead
            · cases (leadClass_two lead).symm.trans class_
            · cases (leadClass_three lead).symm.trans class_
            · cases (leadClass_four lead).symm.trans class_
          | succ k =>
            obtain ⟨first, later, rest, rfl, taken, rfl, inside, continued⟩ :=
              takeContinuation_full full
            rw [taken, utf8EncodeChar_bits class_ inside continued]
            simp
        · cases h

theorem bytes_of_decodeAll {bs : List UInt8} {cs : List Char} {fuel : Nat}
    (enough : bs.length ≤ fuel) (h : (decodeAll fuel bs).mapM id = some cs) :
    bs = cs.flatMap String.utf8EncodeChar := by
  induction fuel generalizing bs cs with
  | zero =>
    obtain rfl := List.length_eq_zero_iff.mp (Nat.le_zero.mp enough)
    cases h
    rfl
  | succ fuel ih =>
    rw [decodeAll] at h
    split at h
    · rename_i none
      cases bs with
      | nil =>
        cases h
        rfl
      | cons b bs =>
        unfold decodeHead at none
        grind
    · rename_i c n head
      have whole := decodeHead_ok head
      have size := String.length_utf8EncodeChar c
      have positive := Char.utf8Size_pos c
      have shorter := congrArg List.length whole
      rw [List.length_append] at shorter
      rw [List.mapM_cons] at h
      obtain ⟨later, read, rfl⟩ : ∃ later, (decodeAll fuel (bs.drop n)).mapM id = some later ∧
          c :: later = cs := by
        cases rest : (decodeAll fuel (bs.drop n)).mapM id with
        | none =>
          rw [rest] at h
          cases h
        | some later =>
          rw [rest] at h
          exact ⟨later, rfl, Option.some.inj h⟩
      rw [List.flatMap_cons, ← ih (by omega) read]
      exact whole
    · cases h

/-- A text has one encoding. -/
theorem ofUtf8?_eq_some_iff {bs : List UInt8} {s : String} :
    ofUtf8? bs = some s ↔ bs = s.toUTF8.toList := by
  refine ⟨fun h => ?_, fun h => by rw [h, ofUtf8?_toUTF8]⟩
  obtain ⟨cs, read, rfl⟩ := Option.map_eq_some_iff.mp h
  rw [toList_toUTF8, String.toList_ofList]
  exact bytes_of_decodeAll (Nat.le_refl _) read

end TagSchema.Text
