import TagSchema.Proofs.Pattern.Template
import TagSchema.Proofs.Regex.Language

/-!
# Options of times

A time without precision stands for one of any precision, and a text has one precision at most. A
timestamp is a date, a time and a zone, so that every further zone and the lack of a precision only
add timestamps: `accepts_options`.
-/

namespace TagSchema.Pattern

open Regex

variable {u : List Char} {n m : Nat} {a b : Regex}

/-! ### Lengths of matches -/

def HasWidth (r : Regex) (n : Nat) : Prop := ∀ u ∈ r.language, u.length = n

namespace HasWidth

theorem chars (s : CharSet) : HasWidth (chars s) 1 := by
  rintro _ ⟨c, rfl, -⟩
  rfl

theorem char (c : Char) : HasWidth (char c) 1 := chars _

theorem append (first : HasWidth a n) (second : HasWidth b m) : HasWidth (a ++ b) (n + m) := by
  intro u h
  obtain ⟨s, left, t, right, rfl⟩ := mem_append.mp h
  rw [List.length_append, first s left, second t right]

theorem or (first : HasWidth a n) (second : HasWidth b n) : HasWidth (a ||| b) n := by
  intro u h
  exact (mem_or.mp h).elim (first u) (second u)

end HasWidth

theorem width_hourMinute : HasWidth hourMinute 5 :=
  have pair := HasWidth.chars
  ((((pair _).append (pair _)).or ((HasWidth.char _).append (pair _))).append
    (HasWidth.char _)).append (pair _) |>.append (pair _)

theorem width_colonSecond : HasWidth colonSecond 3 :=
  ((HasWidth.char _).append (HasWidth.chars _)).append (HasWidth.chars _)

/-- The length of a time tells its precision. -/
theorem length_of_mem_time {p : Int} (exact : 0 ≤ p) (h : u ∈ (timeText (some p)).language) :
    (u.length : Int) = if p = 0 then 8 else 9 + p := by
  have seconds := width_hourMinute.append width_colonSecond
  rw [timeText, if_neg (Int.not_lt.mpr exact)] at h
  split at h
  · rename_i zero
    rw [if_pos zero, seconds u h]
    rfl
  · rename_i positive
    have fraction : HasWidth (times p.toNat digit) p.toNat := fun _ h => (mem_times_chars.mp h).1
    rw [if_neg positive, ((seconds.append (.char '.')).append fraction) u h]
    omega

/-! ### Times -/

theorem mem_plus_of_times (positive : 1 ≤ n) (h : u ∈ (times n a).language) :
    u ∈ (plus a).language := by
  obtain ⟨ss, count, parts, whole⟩ := mem_rep.mp h
  exact mem_rep.mpr ⟨ss, ⟨Nat.le_trans positive count.1, nofun⟩, parts, whole⟩

theorem mem_append_optional_self (h : u ∈ a.language) : u ∈ (a ++ optional b).language :=
  mem_append.mpr ⟨u, h, [], mem_optional.mpr (.inl rfl), List.append_nil u⟩

theorem mem_append_optional {v : List Char} (first : u ∈ a.language) (second : v ∈ b.language) :
    u ++ v ∈ (a ++ optional b).language :=
  mem_append.mpr ⟨u, first, v, mem_optional.mpr (.inr second), rfl⟩

theorem mem_time_none {p : Option Int} (h : u ∈ (timeText p).language) :
    u ∈ (timeText none).language := by
  cases p with
  | none => exact h
  | some p =>
    rw [timeText] at h
    split at h
    · exact mem_append_optional_self h
    · split at h
      · obtain ⟨s, minute, t, second, rfl⟩ := mem_append.mp h
        exact mem_append_optional minute (mem_append_optional_self second)
      · rename_i exact positive
        obtain ⟨_, untilPoint, fraction, digits, rfl⟩ := mem_append.mp h
        obtain ⟨_, untilSecond, point, isPoint, rfl⟩ := mem_append.mp untilPoint
        obtain ⟨s, minute, t, second, rfl⟩ := mem_append.mp untilSecond
        have digits := mem_plus_of_times (show 1 ≤ p.toNat by omega) digits
        have fraction := mem_append.mpr ⟨point, isPoint, fraction, digits, rfl⟩
        simp only [List.append_assoc]
        exact mem_append_optional minute (mem_append_optional second fraction)

/-! ### Zones -/

/-- What may follow the time: `Z`, nothing for a local time, or an offset of hours and minutes. -/
def IsZone (offset isLocal : Bool) (z : List Char) : Prop :=
  z = ['Z'] ∨ (isLocal = true ∧ z = []) ∨
    offset = true ∧ ∃ sign hours minutes, (sign = '+' ∨ sign = '-') ∧
      hours.length = 2 ∧ minutes.length = 2 ∧ (∀ c ∈ hours ++ minutes, c.isDigit = true) ∧
      z = sign :: hours ++ ':' :: minutes

theorem IsZone.mono {offset isLocal offset' isLocal' : Bool} (more : offset = true → offset' = true)
    (more' : isLocal = true → isLocal' = true) (h : IsZone offset isLocal u) :
    IsZone offset' isLocal' u :=
  h.imp_right (Or.imp (And.imp_left more') (And.imp_left more))

theorem has_digit {c : Char} : CharSet.digit.has c = true ↔ c.isDigit = true := by
  rw [CharSet.digit, has_range, Char.isDigit_iff_toNat]

theorem mem_digits : u ∈ (digits n).language ↔ u.length = n ∧ ∀ c ∈ u, c.isDigit = true := by
  rw [digits, digit, mem_times_chars]
  simp only [has_digit]

theorem mem_offset : u ∈ offsetText.language ↔ ∃ sign hours minutes, (sign = '+' ∨ sign = '-') ∧
    hours.length = 2 ∧ minutes.length = 2 ∧ (∀ c ∈ hours ++ minutes, c.isDigit = true) ∧
    u = sign :: hours ++ ':' :: minutes := by
  rw [offsetText]
  simp only [mem_append, mem_chars, CharSet.has_oneOf, mem_char, mem_digits, List.forall_mem_append,
    List.mem_cons, List.not_mem_nil, or_false]
  constructor
  · rintro ⟨_, ⟨_, ⟨_, ⟨sign, rfl, known⟩, hours, ⟨two, digits⟩, rfl⟩, _, rfl, rfl⟩, minutes,
      ⟨two', digits'⟩, rfl⟩
    exact ⟨sign, hours, minutes, known, two, two', ⟨digits, digits'⟩, by simp⟩
  · rintro ⟨sign, hours, minutes, known, two, two', ⟨digits, digits'⟩, rfl⟩
    exact ⟨_, ⟨_, ⟨_, ⟨sign, rfl, known⟩, hours, ⟨two, digits⟩, rfl⟩, _, rfl, rfl⟩, minutes,
      ⟨two', digits'⟩, by simp⟩

theorem mem_zone {offset isLocal : Bool} :
    u ∈ (zoneText offset isLocal).language ↔ IsZone offset isLocal u := by
  rw [zoneText, mem_anyOf, IsZone, ← mem_offset]
  cases offset <;> cases isLocal <;> simp [mem_char, language, Language.mem_one]

/-! ### Templates -/

/-- The template gives a pattern that matches the text. -/
def Accepts (limit : Limit) (t : Template) (s : String) : Prop :=
  ∃ r, t.build limit = .ok r ∧ r.isMatch s = true

theorem isPlain_timeText (p : Option Int) : (timeText p).isPlain = true := by
  unfold timeText
  split
  · rfl
  · split
    · rfl
    · split <;> rfl

theorem isPlain_datetimeText (p : Option Int) (offset isLocal : Bool) :
    (datetimeText p offset isLocal).isPlain = true := by
  change (_ && ((timeText p).isPlain && (zoneText offset isLocal).isPlain)) = true
  rw [isPlain_timeText]
  cases offset <;> cases isLocal <;> rfl

theorem accepts_iff {limit : Limit} {t : Template} {s : String} : Accepts limit t s ↔
    t.countsInOrder = true ∧ limit.admits t.regex = true ∧ t.regex.isMatch s = true := by
  simp only [Accepts, Template.build_eq_ok_iff]
  constructor
  · rintro ⟨_, ⟨ordered, admitted, rfl⟩, found⟩
    exact ⟨ordered, admitted, found⟩
  · rintro ⟨ordered, admitted, found⟩
    exact ⟨_, ⟨ordered, admitted, rfl⟩, found⟩

theorem accepts_time {limit : Limit} {p : Option Int} {s : String} : Accepts limit (.time p) s ↔
    (Template.time p).countsInOrder = true ∧ limit.admits (time p) = true ∧
      s.toList ∈ (timeText p).language := by
  rw [accepts_iff, ← isMatch_whole (isPlain_timeText p)]
  rfl

theorem precision_unique {limit : Limit} {n m : Int} {s : String} (exact : 0 ≤ n)
    (exact' : 0 ≤ m) (h : Accepts limit (.time (some n)) s)
    (h' : Accepts limit (.time (some m)) s) : n = m := by
  have length := length_of_mem_time exact (accepts_time.mp h).2.2
  have length' := length_of_mem_time exact' (accepts_time.mp h').2.2
  split at length <;> split at length' <;> omega

theorem mem_datetime {p : Option Int} {offset isLocal : Bool} :
    u ∈ (datetimeText p offset isLocal).language ↔ ∃ d t z, u = d ++ ['T'] ++ t ++ z ∧
      d ∈ dateText.language ∧ t ∈ (timeText p).language ∧ IsZone offset isLocal z := by
  rw [datetimeText]
  simp only [mem_append, mem_char, mem_zone]
  constructor
  · rintro ⟨_, ⟨d, date, _, rfl, rfl⟩, _, ⟨t, time, z, zone, rfl⟩, rfl⟩
    exact ⟨d, t, z, by simp, date, time, zone⟩
  · rintro ⟨d, t, z, rfl, date, time, zone⟩
    exact ⟨_, ⟨d, date, _, rfl, rfl⟩, _, ⟨t, time, z, zone, rfl⟩, by simp⟩

theorem isMatch_datetime {p : Option Int} {offset isLocal : Bool} {s : String} :
    (datetime p offset isLocal).isMatch s = true ↔ ∃ d t z, s = d ++ "T" ++ t ++ z ∧
      date.isMatch d = true ∧ t.toList ∈ (timeText p).language ∧
      IsZone offset isLocal z.toList := by
  rw [datetime, isMatch_whole (isPlain_datetimeText p offset isLocal), mem_datetime]
  constructor
  · rintro ⟨d, t, z, whole, isDate, isTime, zone⟩
    refine ⟨String.ofList d, String.ofList t, String.ofList z, ?_, ?_, ?_, ?_⟩
    · rw [← String.toList_inj, whole]
      simp only [String.toList_append, String.toList_ofList]
      rfl
    · exact (isMatch_whole rfl).mpr (String.toList_ofList.symm ▸ isDate)
    · rwa [String.toList_ofList]
    · rwa [String.toList_ofList]
  · rintro ⟨d, t, z, rfl, isDate, isTime, zone⟩
    refine ⟨d.toList, t.toList, z.toList, ?_, (isMatch_whole rfl).mp isDate, isTime, zone⟩
    simp only [String.toList_append]
    rfl

section

variable {limit : Limit} (lawful : limit.Lawful)
include lawful

theorem admits_time_none : limit.admits (time none) = true := lawful.ample (by decide) (by decide)

theorem accepts_time_none {p : Option Int} {s : String} (h : Accepts limit (.time p) s) :
    Accepts limit (.time none) s :=
  accepts_time.mpr ⟨rfl, admits_time_none lawful, mem_time_none (accepts_time.mp h).2.2⟩

theorem isMatch_of_build {p : Option Int} {offset isLocal : Bool} {r : Regex} {s : String}
    (built : (Template.datetime p offset isLocal).build limit = .ok r) :
    r.isMatch s = true ↔ ∃ d t z, s = d ++ "T" ++ t ++ z ∧ date.isMatch d = true ∧
      Accepts limit (.time p) t ∧ IsZone offset isLocal z.toList := by
  obtain ⟨ordered, admitted, rfl⟩ := Template.build_eq_ok_iff.mp built
  have ordered : (Template.time p).countsInOrder = true := ordered
  have builds : limit.admits (time p) = true := lawful.part admitted
  simp only [accepts_time, ordered, builds, true_and]
  exact isMatch_datetime

theorem builds_datetime_none (offset isLocal : Bool) :
    (Template.datetime none offset isLocal).build limit =
      .ok (datetime none offset isLocal) := by
  refine Template.build_eq_ok_iff.mpr ⟨rfl, lawful.ample ?_ ?_, rfl⟩ <;>
    cases offset <;> cases isLocal <;> decide

/-- A precision only restricts the times and no time has two. A timestamp consists of a date, a
time and a zone; more zones and no precision admit more of them. -/
theorem accepts_options :
    (∀ p s, Accepts limit (.time (some p)) s → Accepts limit (.time none) s) ∧
    (∀ n m s, 0 ≤ n → 0 ≤ m → n ≠ m →
      ¬ (Accepts limit (.time (some n)) s ∧ Accepts limit (.time (some m)) s)) ∧
    (∀ p offset isLocal r s, (Template.datetime p offset isLocal).build limit = .ok r →
      (r.isMatch s = true ↔ ∃ d t z, s = d ++ "T" ++ t ++ z ∧ date.isMatch d = true ∧
        Accepts limit (.time p) t ∧ IsZone offset isLocal z.toList)) ∧
    (∀ p offset isLocal s, Accepts limit (.datetime p offset isLocal) s →
      Accepts limit (.datetime none offset isLocal) s ∧
        ∀ offset' isLocal' r, (offset = true → offset' = true) →
          (isLocal = true → isLocal' = true) →
          (Template.datetime p offset' isLocal').build limit = .ok r → r.isMatch s = true) := by
  refine ⟨fun p s => accepts_time_none lawful, ?_,
    fun p offset isLocal r s => isMatch_of_build lawful, ?_⟩
  · rintro n m s exact exact' distinct ⟨h, h'⟩
    exact distinct (precision_unique exact exact' h h')
  · rintro p offset isLocal s ⟨r, built, found⟩
    obtain ⟨d, t, z, whole, isDate, isTime, zone⟩ := (isMatch_of_build lawful built).mp found
    constructor
    · have built := builds_datetime_none lawful offset isLocal
      exact ⟨_, built, (isMatch_of_build lawful built).mpr
        ⟨d, t, z, whole, isDate, accepts_time_none lawful isTime, zone⟩⟩
    · intro offset' isLocal' r' more more' built'
      exact (isMatch_of_build lawful built').mpr
        ⟨d, t, z, whole, isDate, isTime, zone.mono more more'⟩

end

theorem accepts_options_millis :
    Limit.standard.Lawful ∧
    (Accepts .standard (.time (some 3)) "12:30:00.125" ∧
      Accepts .standard (.datetime (some 3) false false) "2024-02-29T12:30:00.125Z" ∧
      (Template.datetime (some 3) true true).build = .ok (datetime (some 3) true true)) ∧
    Accepts .standard (.time none) "12:30:00.125" ∧
    ¬ Accepts .standard (.time (some 2)) "12:30:00.125" ∧
    (∃ d t z, "2024-02-29T12:30:00.125Z" = d ++ "T" ++ t ++ z ∧ date.isMatch d = true ∧
      Accepts .standard (.time (some 3)) t ∧ IsZone true true z.toList) ∧
    Accepts .standard (.datetime none false false) "2024-02-29T12:30:00.125Z" := by
  have timed : Accepts .standard (.time (some 3)) "12:30:00.125" :=
    ⟨time (some 3), by decide, by decide⟩
  have stamped : Accepts .standard (.datetime (some 3) false false) "2024-02-29T12:30:00.125Z" :=
    ⟨datetime (some 3) false false, by decide, by decide⟩
  have built :
      (Template.datetime (some 3) true true).build = .ok (datetime (some 3) true true) := by
    decide
  obtain ⟨unset, distinct, whole, wider⟩ := accepts_options Limit.standard_lawful
  obtain ⟨unsetPrecision, moreZones⟩ := wider _ _ _ _ stamped
  have found := moreZones true true _ nofun nofun built
  exact ⟨Limit.standard_lawful, ⟨timed, stamped, built⟩, unset _ _ timed,
    fun other => distinct 3 2 _ (by decide) (by decide) (by decide) ⟨timed, other⟩,
    (whole _ _ _ _ _ built).mp found, unsetPrecision⟩

end TagSchema.Pattern
