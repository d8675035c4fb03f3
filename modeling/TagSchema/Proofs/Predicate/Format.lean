import Mathlib.Data.List.Basic
import TagSchema.Predicate.Format
import TagSchema.Proofs.Pattern.Network

/-!
# Formats that are recognised twice

An address is a block of one address if the longest prefix length follows it. For dotted quads the
pattern agrees with this, and for IPv6 except where it misses a quad: `addresses_agree_iff`.
-/

namespace TagSchema.Predicate

open Network Pattern

/-- Whether the prefix length fits an address of the version; version 0 stands for both. -/
def Fits (version : Nat) (address : List Char) (n : Nat) : Prop :=
  (version = 0 ∨ version = 4) ∧ IsQuad address ∧ n ≤ 32 ∨
    (version = 0 ∨ version = 6) ∧ IsV6 address ∧ n ≤ 128

theorem Fits.slash_not_mem {version n : Nat} {address : List Char} (h : Fits version address n) :
    '/' ∉ address := by
  rcases h with ⟨-, quad, -⟩ | ⟨-, v6, -⟩
  · exact quad.not_mem (by decide) rfl
  · exact v6.slash_not_mem

theorem slash_not_mem_of_readPrefixLength {bits : List Char} {n : Nat}
    (h : readPrefixLength bits = some n) : '/' ∉ bits := by
  intro slash
  have digit := Number.readNat_isDigit (Option.filter_eq_some_iff.mp h).1 '/' slash
  cases digit

theorem isCidr_iff {version : Nat} {cs : List Char} : isCidr version cs = true ↔
    ∃ address bits n, cs = address ++ '/' :: bits ∧ readPrefixLength bits = some n ∧
      Fits version address n := by
  have decided {address bits : List Char} (cut : Text.fields '/' cs = [address, bits]) :
      isCidr version cs = true ↔ ∃ n, readPrefixLength bits = some n ∧ Fits version address n := by
    simp only [Fits, ← parse?_v4_iff, ← parse?_v6_iff]
    rw [isCidr, cut]
    dsimp only
    cases readPrefixLength bits with
    | none => cases Address.parse? address <;> simp
    | some n =>
      cases Address.parse? address with
      | none => simp
      | some found => cases found <;> simp
  constructor
  · intro block
    have pieces : ∃ address bits, Text.fields '/' cs = [address, bits] := by
      unfold isCidr at block
      split at block
      · rename_i address bits cut
        exact ⟨address, bits, cut⟩
      · cases block
    obtain ⟨address, bits, cut⟩ := pieces
    obtain ⟨n, length, fits⟩ := (decided cut).mp block
    have whole : ['/'].intercalate (Text.fields '/' cs) = cs := Text.intercalate_fields cs
    rw [cut] at whole
    exact ⟨address, bits, n, by simpa using whole.symm, length, fits⟩
  · rintro ⟨address, bits, n, rfl, length, fits⟩
    refine (decided ?_).mpr ⟨n, length, fits⟩
    rw [Text.fields_append, Text.fields_of_not_mem fits.slash_not_mem,
      Text.fields_of_not_mem (slash_not_mem_of_readPrefixLength length)]
    rfl

theorem isCidr_append {version : Nat} {address bits : List Char} :
    isCidr version (address ++ '/' :: bits) = true ↔
      ∃ n, readPrefixLength bits = some n ∧ Fits version address n := by
  rw [isCidr_iff]
  constructor
  · rintro ⟨address', bits', n, same, length, fits⟩
    have clean := slash_not_mem_of_readPrefixLength length
    obtain ⟨rfl, -, rfl⟩ :=
      (List.append_cons_inj_of_notMem fits.slash_not_mem clean).mp same.symm
    exact ⟨n, length, fits⟩
  · rintro ⟨n, length, fits⟩
    exact ⟨address, bits, n, rfl, length, fits⟩

theorem ipv4_iff {s : String} : ipv4 (.string s) = true ↔ IsQuad s.toList :=
  (Regex.isMatch_whole rfl).trans mem_dottedQuad

theorem ipv6_iff {s : String} :
    ipv6 (.string s) = true ↔ IsV6 s.toList ∧ ¬ HasInnerGroups s.toList :=
  (Regex.isMatch_whole rfl).trans mem_ipv6Text_iff

/-- A prefix of full length leaves the decision to the address. -/
theorem cidr_host {s : String} : (cidr 4 (.string (s ++ "/32")) = true ↔ IsQuad s.toList) ∧
    (cidr 6 (.string (s ++ "/128")) = true ↔ IsV6 s.toList) := by
  have short : readPrefixLength ['3', '2'] = some 32 := by decide
  have long : readPrefixLength ['1', '2', '8'] = some 128 := by decide
  constructor
  · change isCidr 4 (s ++ "/32").toList = true ↔ _
    rw [String.toList_append]
    change isCidr 4 (s.toList ++ '/' :: ['3', '2']) = true ↔ _
    rw [isCidr_append, short]
    simp [Fits]
  · change isCidr 6 (s ++ "/128").toList = true ↔ _
    rw [String.toList_append]
    change isCidr 6 (s.toList ++ '/' :: ['1', '2', '8']) = true ↔ _
    rw [isCidr_append, long]
    simp [Fits]

/-- An IPv4 address is accepted alone and with a prefix of full length alike. The same holds for
IPv6 exactly if no quad has groups between it and `::`. -/
theorem addresses_agree_iff (s : String) :
    ipv4 (.string s) = cidr 4 (.string (s ++ "/32")) ∧
      (ipv6 (.string s) = cidr 6 (.string (s ++ "/128")) ↔ ¬ HasInnerGroups s.toList) := by
  constructor
  · rw [Bool.eq_iff_iff, ipv4_iff, cidr_host.1]
  · rw [Bool.eq_iff_iff, ipv6_iff, cidr_host.2]
    constructor
    · intro agree inner
      exact (agree.mpr inner.isV6).2 inner
    · intro outer
      exact and_iff_left outer

theorem inner_groups_disagree :
    ipv6 (.string "1::2:1.2.3.4") = false ∧ cidr 6 (.string ("1::2:1.2.3.4" ++ "/128")) = true := by
  decide

end TagSchema.Predicate
