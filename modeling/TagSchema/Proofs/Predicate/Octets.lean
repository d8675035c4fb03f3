import TagSchema.Proofs.Pattern.Source
import TagSchema.Proofs.Predicate.Format

/-!
# MAC addresses

With any delimiter whose pattern the engine admits, the predicate accepts the addresses that this
delimiter joins, and no other text: `mac_iff`. Delimiters of moderate length are admitted and very
long ones are not.
-/

namespace TagSchema.Predicate

open Regex Pattern

/-- Six octets of two digits each, with the delimiter between them, in digits of one case. -/
def IsMac (delimiter s : String) : Prop :=
  ∃ octets : List (List Char), octets.length = 6 ∧ (∀ o ∈ octets, o.length = 2) ∧
    s.toList = (delimiterOr delimiter).intercalate octets ∧
    ((∀ o ∈ octets, ∀ c ∈ o, ('0' ≤ c ∧ c ≤ '9') ∨ ('A' ≤ c ∧ c ≤ 'F')) ∨
      ∀ o ∈ octets, ∀ c ∈ o, ('0' ≤ c ∧ c ≤ '9') ∨ ('a' ≤ c ∧ c ≤ 'f'))

theorem occurs_octets {cs between : List Char} {digits : CharSet} :
    (octets digits between).Occurs cs ↔
      ∃ octets : List (List Char), octets.length = 6 ∧ (∀ o ∈ octets, o.length = 2) ∧
        cs = between.intercalate octets ∧ ∀ o ∈ octets, ∀ c ∈ o, digits.has c = true := by
  have plain : (times 5 (times 2 (chars digits) ++ literal between) ++
      times 2 (chars digits)).isPlain = true := by
    change (isPlain (literal between) && true) = true
    rw [isPlain_literal, Bool.and_true]
  rw [octets, occurs_whole, spans_iff_mem plain, mem_joined_alike]
  simp only [mem_times_chars]
  constructor
  · rintro ⟨os, whole, six, each⟩
    exact ⟨os, six, fun o member => (each o member).1, whole, fun o member => (each o member).2⟩
  · rintro ⟨os, six, lengths, whole, each⟩
    exact ⟨os, whole, six, fun o member => ⟨lengths o member, each o member⟩⟩

theorem has_ranges {a f c : Char} : (CharSet.ranges [('0', '9'), (a, f)]).has c = true ↔
    ('0' ≤ c ∧ c ≤ '9') ∨ (a ≤ c ∧ c ≤ f) := by
  simp only [CharSet.ranges, CharSet.has, Bool.or_eq_true, Bool.and_eq_true, decide_eq_true_eq]

theorem isMatch_mac {delimiter s : String} :
    (Pattern.mac delimiter).isMatch s = true ↔ IsMac delimiter s := by
  rw [isMatch_iff_occurs, Pattern.mac, occurs_or, occurs_octets, occurs_octets]
  simp only [has_ranges, IsMac, and_or_left, exists_or]

/-! ### Size -/

theorem extent_literal (cs : List Char) : (literal cs).extent ≤ cs.length + 1 := by
  induction cs with
  | nil => decide
  | cons c cs ih =>
    cases cs with
    | nil => exact (by decide : 1 ≤ 1 + 1)
    | cons d ds =>
      change 1 + (literal (d :: ds)).extent ≤ (d :: ds).length + 1 + 1
      omega

theorem shortest_literal (cs : List Char) : (literal cs).shortest = cs.length := by
  induction cs with
  | nil => rfl
  | cons c cs ih =>
    cases cs with
    | nil => rfl
    | cons d ds =>
      change 1 + (literal (d :: ds)).shortest = (d :: ds).length + 1
      omega

theorem isNarrow_literal (cs : List Char) : (literal cs).isNarrow = true := by
  have single (c : Char) : (char c).isNarrow = true := by
    change (c == c || _) = true
    rw [beq_self_eq_true, Bool.true_or]
  induction cs with
  | nil => rfl
  | cons c cs ih =>
    cases cs with
    | nil => exact single c
    | cons d ds =>
      change ((char c).isNarrow && (literal (d :: ds)).isNarrow) = true
      rw [single, ih, Bool.true_and]

theorem extent_octets (digits : CharSet) (between : List Char) :
    (octets digits between).extent =
      1 + (((digits.extent + 1) * 2 + (literal between).extent + 1) * 5 +
        (digits.extent + 1) * 2) + 1 := rfl

theorem shortest_octets (digits : CharSet) (between : List Char) :
    (octets digits between).shortest = (literal between).shortest * 5 + 12 := by
  change 0 + ((1 * 2 + (literal between).shortest) * 5 + 1 * 2) + 0 = _
  omega

theorem isNarrow_octets {digits : CharSet} (narrow : digits.isNarrow = true)
    (between : List Char) : (octets digits between).isNarrow = true := by
  change (true && (digits.isNarrow && (literal between).isNarrow && digits.isNarrow) && true) = true
  rw [narrow, isNarrow_literal]
  rfl

theorem extent_mac (delimiter : String) : (Pattern.mac delimiter).extent =
    (literal (delimiterOr delimiter)).extent * 10 + 87 := by
  have ranges (a f : Char) : (CharSet.ranges [('0', '9'), (a, f)]).extent = 2 := rfl
  change (octets _ _).extent + (octets _ _).extent + 1 = _
  rw [extent_octets, extent_octets, ranges, ranges]
  omega

theorem shortest_mac (delimiter : String) :
    (Pattern.mac delimiter).shortest = (delimiterOr delimiter).length * 5 + 12 := by
  change min (octets _ _).shortest (octets _ _).shortest = _
  rw [shortest_octets, shortest_octets, shortest_literal, Nat.min_self]

theorem isNarrow_mac (delimiter : String) : (Pattern.mac delimiter).isNarrow = true := by
  change ((octets _ _).isNarrow && (octets _ _).isNarrow) = true
  rw [isNarrow_octets (by decide), isNarrow_octets (by decide)]
  rfl

section

variable {limit : Limit} (lawful : limit.Lawful)
include lawful

theorem mac_builds {delimiter : String} (short : (delimiterOr delimiter).length ≤ 1000) :
    (Template.mac delimiter).build limit = .ok (Pattern.mac delimiter) := by
  have extent := extent_literal (delimiterOr delimiter)
  refine Template.build_eq_ok_iff.mpr ⟨rfl, lawful.ample (isNarrow_mac delimiter) ?_, rfl⟩
  rw [Template.regex, extent_mac, sizeLimit]
  omega

theorem mac_too_large {delimiter : String} (long : 65534 ≤ (delimiterOr delimiter).length) :
    (Template.mac delimiter).build limit = .error .tooBig := by
  refine Template.build_of_refused rfl (lawful.tight ?_)
  rw [Template.regex, shortest_mac, sizeLimit]
  omega

end

/-! ### A delimiter that is too long -/

def longDelimiter : List Char := List.replicate 70000 'x'

theorem delimiterOr_longDelimiter :
    delimiterOr (String.ofList longDelimiter) = longDelimiter := by
  have length : longDelimiter.length = 70000 := List.length_replicate
  have filled : longDelimiter ≠ [] := List.ne_nil_of_length_pos (by omega)
  have notEmpty : (String.ofList longDelimiter).isEmpty = false := by
    rw [Bool.eq_false_iff, ne_eq, String.isEmpty_iff]
    intro empty
    exact filled (String.ofList_inj.mp empty)
  rw [delimiterOr, notEmpty, if_neg (by decide), String.toList_ofList]

theorem le_length_longDelimiter :
    65534 ≤ (delimiterOr (String.ofList longDelimiter)).length := by
  rw [delimiterOr_longDelimiter, longDelimiter, List.length_replicate]
  decide

/-! ### The predicate -/

/-- The predicate accepts the addresses with the delimiter in question if this gives a pattern, as
every delimiter of moderate length does and no very long one. As source text, any delimiter stands
for itself. -/
theorem mac_iff {limit : Limit} (lawful : limit.Lawful) (delimiter s : String) :
    (mac delimiter limit (.string s) = true ↔
      (Template.mac delimiter).build limit = .ok (Pattern.mac delimiter) ∧ IsMac delimiter s) ∧
    ((delimiterOr delimiter).length ≤ 1000 →
      (Template.mac delimiter).build limit = .ok (Pattern.mac delimiter)) ∧
    (65534 ≤ (delimiterOr delimiter).length →
      (Template.mac delimiter).build limit = .error .tooBig) ∧
    ∃ r, parse? (Template.mac delimiter).source.toList = some r ∧
      (r.isMatch s = true ↔ IsMac delimiter s) := by
  refine ⟨?_, mac_builds lawful, mac_too_large lawful, ?_⟩
  · rw [mac, matchesTemplate]
    cases built : (Template.mac delimiter).build limit with
    | ok r =>
      obtain ⟨-, -, rfl⟩ := Template.build_eq_ok_iff.mp built
      change (Pattern.mac delimiter).isMatch s = true ↔ _
      rw [isMatch_mac]
      exact (and_iff_right rfl).symm
    | error fault =>
      refine iff_of_false nofun ?_
      rintro ⟨⟨⟩, -⟩
  · obtain ⟨r, reads, same⟩ := (isAnchored_mac delimiter).reads
    exact ⟨r, reads, by rw [same, isMatch_mac]⟩

theorem mac_iff_meta : (Limit.standard.Lawful ∧ (delimiterOr ".*|").length ≤ 1000 ∧
      65534 ≤ (delimiterOr (String.ofList longDelimiter)).length) ∧
    (mac ".*|" .standard (.string "0A.*|1B.*|2C.*|3D.*|4E.*|5F") = true ↔
      (Template.mac ".*|").build = .ok (Pattern.mac ".*|") ∧
        IsMac ".*|" "0A.*|1B.*|2C.*|3D.*|4E.*|5F") ∧
    (Template.mac ".*|").build = .ok (Pattern.mac ".*|") ∧
    (Template.mac (String.ofList longDelimiter)).build = .error .tooBig := by
  have short : (delimiterOr ".*|").length ≤ 1000 := by decide
  obtain ⟨joined, builds, -⟩ :=
    mac_iff Limit.standard_lawful ".*|" "0A.*|1B.*|2C.*|3D.*|4E.*|5F"
  obtain ⟨-, -, refused, -⟩ := mac_iff Limit.standard_lawful (String.ofList longDelimiter) ""
  exact ⟨⟨Limit.standard_lawful, short, le_length_longDelimiter⟩, joined, builds short,
    refused le_length_longDelimiter⟩

theorem long_delimiter_refused :
    IsMac (String.ofList longDelimiter)
        (String.ofList (longDelimiter.intercalate (List.replicate 6 ['0', '0']))) ∧
      mac (String.ofList longDelimiter) .standard
        (.string (String.ofList (longDelimiter.intercalate (List.replicate 6 ['0', '0'])))) =
          false := by
  constructor
  · have octet (o : List Char) (member : o ∈ List.replicate 6 ['0', '0']) :
        o = List.replicate 2 '0' := List.eq_of_mem_replicate member
    refine ⟨List.replicate 6 ['0', '0'], rfl, fun o member => ?_, ?_,
      .inl fun o member c digit => ?_⟩
    · rw [octet o member, List.length_replicate]
    · rw [delimiterOr_longDelimiter, String.toList_ofList]
    · rw [octet o member] at digit
      rw [List.eq_of_mem_replicate digit]
      exact .inl (by decide)
  · rw [mac, matchesTemplate, mac_too_large Limit.standard_lawful le_length_longDelimiter]

end TagSchema.Predicate
