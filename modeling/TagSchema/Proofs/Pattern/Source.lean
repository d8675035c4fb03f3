import TagSchema.Pattern.Catalog
import TagSchema.Proofs.Pattern.Template
import TagSchema.Proofs.Regex.Reader

/-!
# Patterns of whole texts

The anchors of every source bind all of its alternatives, so that a pattern matches the texts that
its body matches from end to end: `matches_whole_texts`.
-/

namespace TagSchema.Pattern

open Regex

def spelled (pieces : List String) : List Char := pieces.flatMap String.toList

def anchored (body : List Char) : List Char := '^' :: body ++ ['$']

/-- The body matches the text from the first to the last character. -/
def Fills (body : List Char) (s : String) : Prop :=
  ∃ b, parse? body = some b ∧ Spans b [] s.toList []

/-- The pattern is what its source stands for, the bodies as alternatives, and matches the texts
that a body fills. -/
structure IsAnchored (source : String) (bodies : List (List Char)) (r : Regex) : Prop where
  source_eq : source.toList = ['|'].intercalate (bodies.map anchored)
  reads : ∃ a, parse? source.toList = some a ∧ ∀ s, a.isMatch s = r.isMatch s
  bodies_read : ∀ body ∈ bodies, (parse? body).isSome = true
  isMatch_iff : ∀ s, r.isMatch s = true ↔ ∃ body ∈ bodies, Fills body s

theorem fills_iff {body : List Char} {b : Regex} (reads : parse? body = some b) {s : String} :
    Fills body s ↔ Spans b [] s.toList [] := by
  simp only [Fills, reads, Option.some.injEq, exists_eq_left']

theorem isMatch_whole_iff {b : Regex} {s : String} :
    (whole b).isMatch s = true ↔ Spans b [] s.toList [] :=
  (isMatch_iff_occurs _ _).trans occurs_whole

section

variable {source : String} {body : List Char} {a b r : Regex}

theorem IsAnchored.of_parse (text : source.toList = anchored body)
    (outer : parse? (anchored body) = some a) (inner : parse? body = some b) (same : Alike a r)
    (whole : Alike r (whole b)) : IsAnchored source [body] r where
  source_eq := text.trans List.intercalate_singleton.symm
  reads := ⟨a, text ▸ outer, same.isMatch⟩
  bodies_read := List.forall_mem_singleton.mpr (by rw [inner]; rfl)
  isMatch_iff s := by
    rw [whole.isMatch, isMatch_whole_iff, ← fills_iff inner]
    simp only [List.mem_singleton, exists_eq_left]

/-- The body has the pattern, alone and between anchors. -/
def agrees (body : List Char) (r : Regex) : Bool :=
  match parse? (anchored body), parse? body with
  | some a, some b => a.canonical == r.canonical && r.canonical == (whole b).canonical
  | _, _ => false

theorem IsAnchored.of_agrees (text : source.toList = anchored body) (h : agrees body r = true) :
    IsAnchored source [body] r := by
  unfold agrees at h
  split at h
  · rename_i a b outer inner
    rw [Bool.and_eq_true, beq_iff_eq, beq_iff_eq] at h
    exact .of_parse text outer inner (alike_of_canonical h.1) (alike_of_canonical h.2)
  · cases h

theorem IsAnchored.of_spells (text : source.toList = anchored body)
    (spells : Spells maxGroups body r) : IsAnchored source [body] (whole r) := by
  obtain ⟨a, outer, same⟩ := spells.anchored.parse
  obtain ⟨b, inner, alike⟩ := spells.parse
  exact .of_parse text outer inner same (((Alike.refl _).cat alike.symm).cat (.refl _))

theorem IsAnchored.of_spells_or {body' : List Char} {b' : Regex}
    (text : source.toList = anchored body ++ '|' :: anchored body')
    (spells : Spells maxGroups body b) (spells' : Spells maxGroups body' b') :
    IsAnchored source [body, body'] (whole b ||| whole b') := by
  obtain ⟨a, outer, same⟩ := spells.anchored.parse_or spells'.anchored
  obtain ⟨c, inner, alike⟩ := spells.parse
  obtain ⟨c', inner', alike'⟩ := spells'.parse
  refine ⟨?_, ⟨a, text ▸ outer, same.isMatch⟩, ?_, fun s => ?_⟩
  · rw [text, List.map_cons, List.map_singleton, List.intercalate_cons_cons,
      List.intercalate_singleton, List.append_assoc]
    rfl
  · rw [List.forall_mem_cons, List.forall_mem_singleton, inner, inner']
    exact ⟨rfl, rfl⟩
  · rw [isMatch_iff_occurs, occurs_or, occurs_whole, occurs_whole, ← alike, ← alike',
      ← fills_iff inner, ← fills_iff inner']
    simp only [List.mem_cons, List.not_mem_nil, or_false, exists_eq_or_imp, exists_eq_left]

end

/-! ### The catalog -/

def entryAgrees (e : String × Regex) (f : String × List String) : Bool :=
  let body := ((spelled f.2).drop 1).dropLast
  e.1 == f.1 && spelled f.2 == anchored body && agrees body e.2

theorem all_of_parts {α : Type} {p : α → Bool} {xs : List α} (n : Nat)
    (front : (xs.take n).all p = true) (back : (xs.drop n).all p = true) : xs.all p = true := by
  rw [← List.take_append_drop n xs, List.all_append, front, back]
  rfl

/-- The catalog beside its sources, which agree. They are compared in parts, to bound the memory
that evaluation takes. -/
def agreeing : {es : List ((String × Regex) × String × List String) //
    es.all (fun ef => entryAgrees ef.1 ef.2) = true} :=
  ⟨catalog.zip sources,
    all_of_parts 9 (by decide +kernel) (all_of_parts 2 (by decide +kernel)
      (all_of_parts 2 (by decide +kernel) (all_of_parts 20 (by decide +kernel)
        (by decide +kernel))))⟩

theorem lookup_of_forall₂ {α β : Type} {P : α → β → Prop} {xs : List (String × α)}
    {ys : List (String × β)} {name : String}
    (h : List.Forall₂ (fun x y => x.1 = y.1 ∧ P x.2 y.2) xs ys) (listed : name ∈ xs.map (·.1)) :
    ∃ a b, xs.lookup name = some a ∧ ys.lookup name = some b ∧ P a b := by
  induction h with
  | nil => cases listed
  | @cons x y xs ys here _ ih =>
    obtain ⟨same, holds⟩ := here
    rw [List.lookup_cons, List.lookup_cons, ← same]
    cases found : name == x.1 with
    | true => exact ⟨x.2, y.2, rfl, rfl, holds⟩
    | false =>
      refine ih ((List.mem_cons.mp listed).resolve_left fun first => ?_)
      rw [first, beq_self_eq_true] at found
      cases found

theorem isAnchored_catalog {name : String} (listed : name ∈ names) : ∃ r source body,
    byName? name = some r ∧ sourceByName? name = some source ∧ IsAnchored source [body] r := by
  have entries : List.Forall₂ (fun e f => e.1 = f.1 ∧
      ∃ body, IsAnchored (String.join f.2) [body] e.2) catalog sources := by
    refine List.forall₂_iff_zip.mpr ⟨rfl, fun {e f} member => ?_⟩
    have agreed := List.all_eq_true.mp agreeing.property _ member
    simp only [entryAgrees, Bool.and_eq_true, beq_iff_eq] at agreed
    obtain ⟨⟨same, text⟩, bodies⟩ := agreed
    exact ⟨same, _, .of_agrees (String.toList_join.trans text) bodies⟩
  obtain ⟨r, pieces, found, spelled, body, whole⟩ :=
    lookup_of_forall₂ (P := fun r pieces => ∃ body, IsAnchored (String.join pieces) [body] r)
      entries listed
  exact ⟨r, String.join pieces, body, found, by rw [sourceByName?, spelled]; rfl, whole⟩

/-! ### Identifiers of one version -/

theorem toList_anchored (pieces : List String) :
    ("^" ++ String.join pieces ++ "$").toList = anchored (spelled pieces) := by
  rw [String.toList_append, String.toList_append, String.toList_join]
  rfl

theorem isAnchored_uuidOfVersion (version : Nat) :
    IsAnchored ("^" ++ String.join (uuidOfVersionSource version) ++ "$")
      [spelled (uuidOfVersionSource version)] (uuidOfVersion version) := by
  have known : ∀ v < 9, agrees (spelled (uuidOfVersionSource v)) (uuidOfVersion v) = true := by
    decide +kernel
  refine .of_agrees (toList_anchored _) ?_
  by_cases small : version < 9
  · exact known version small
  · have unknown : ¬ (1 ≤ version && version ≤ 8) = true := by simp; omega
    rw [uuidOfVersionSource, uuidOfVersion, if_neg unknown, if_neg unknown]
    exact known 0 (by omega)

/-! ### Dates and times -/

-- Evaluation is told the levels of groups, the steps, and fuel for what the groups hold.
theorem spells_hourMinute : Spells 2 (spelled hourMinuteSource) hourMinute :=
  .of_steps 2 4 3 (by decide) (fun _ _ _ _ _ _ _ => rfl) (by decide)

theorem spells_colonSecond : Spells 2 (spelled [":[0-5][0-9]"]) colonSecond :=
  .of_steps 2 3 1 (by decide) (fun _ _ _ _ _ _ _ => rfl) (by decide)

theorem spells_point : Spells 2 (spelled ["\\."]) (char '.') :=
  .of_steps 2 1 1 (by decide) (fun _ _ _ _ _ _ _ => rfl) (by decide)

theorem spells_anySecond : Spells 2 (spelled ["(?::[0-5][0-9](?:\\.[0-9]+)?)?"])
    (optional (colonSecond ++ optional (char '.' ++ plus digit))) := by
  refine .of_steps 2 2 10 (by decide) (fun _ _ rest _ _ _ tail => ?_) (by decide)
  conv_rhs => rw [← tail]
  rfl

set_option maxRecDepth 20000 in
theorem spells_date : Spells 3 (spelled dateSource) dateText :=
  .of_steps 3 1 80 (by decide) (fun _ _ _ _ _ _ _ => rfl) (by decide)

theorem toList_integerText (n : Nat) : (Number.integerText n).toList = Number.digits n := by
  rw [Number.integerText, if_neg (by omega), String.toList_ofList, Int.natAbs_natCast]

theorem spells_digit : SpellsItem 2 "[0-9]".toList digit :=
  .of_atom (by decide) (fun _ => rfl) (by decide)

theorem spelled_append (first second : List String) :
    spelled (first ++ second) = spelled first ++ spelled second :=
  List.flatMap_append

theorem spells_time {p : Option Int} (ordered : (Template.time p).countsInOrder = true) :
    Spells 2 (spelled (timeSource p)) (timeText p) := by
  cases p with
  | none => exact spelled_append _ _ ▸ spells_hourMinute.append spells_anySecond
  | some p =>
    have fits : p.toNat < Nat.pow 2 32 := of_decide_eq_true ordered
    rw [timeSource, timeText]
    split
    · exact spells_hourMinute
    · split
      · exact spelled_append _ _ ▸ spells_hourMinute.append spells_colonSecond
      · rename_i positive _
        obtain ⟨n, rfl⟩ := Int.eq_ofNat_of_zero_le (Int.not_lt.mp positive)
        have fraction : SpellsItem 2 ("[0-9]".toList ++ '\x7b' :: (Number.digits n ++ ['\x7d']))
            (times n digit) := spells_digit.times fits
        have text : spelled (hourMinuteSource ++
              [":[0-5][0-9]", "\\.[0-9]\x7b", Number.integerText n, "\x7d"]) =
            spelled hourMinuteSource ++ spelled [":[0-5][0-9]"] ++ spelled ["\\."] ++
              ("[0-9]".toList ++ '\x7b' :: (Number.digits n ++ ['\x7d'])) := by
          rw [spelled_append, List.append_assoc, List.append_assoc, ← toList_integerText]
          rfl
        rw [text]
        exact ((spells_hourMinute.append spells_colonSecond).append spells_point).append
          fraction.spells

theorem spells_zone (offset isLocal : Bool) :
    Spells 2 (spelled (["(?:"] ++ zoneSource offset isLocal ++ [")"]))
      (zoneText offset isLocal) := by
  cases offset
  · cases isLocal <;>
      exact .of_steps 2 1 9 (by decide) (fun _ _ _ _ _ _ _ => rfl) (by decide)
  · cases isLocal <;>
      exact .of_steps 2 1 10 (by decide) (fun _ _ _ _ _ _ _ => rfl) (by decide)

theorem spells_datetime {p : Option Int} {offset isLocal : Bool}
    (ordered : (Template.datetime p offset isLocal).countsInOrder = true) :
    Spells 3 (spelled (datetimeSource p offset isLocal)) (datetimeText p offset isLocal) := by
  have mark : Reads 3 ['T'] [char 'T'] := .atom (by decide) fun _ => rfl
  have clock := ((spells_time ordered).append (spells_zone offset isLocal)).group
  have text : spelled (datetimeSource p offset isLocal) = spelled dateSource ++ ['T'] ++
      (['(', '?', ':'] ++ (spelled (timeSource p) ++
        spelled (["(?:"] ++ zoneSource offset isLocal ++ [")"])) ++ [')']) := by
    simp only [datetimeSource, spelled_append, List.append_assoc]
    rfl
  rw [text]
  exact (spells_date.append ⟨_, mark, .refl _⟩).append clock.spells

/-! ### Lengths -/

theorem spells_stringLength {min : Nat} {max : Int}
    (ordered : (Template.stringLength min max).countsInOrder = true) :
    Spells 0 (spelled (stringLengthSource min max))
      (rep (chars .anything) min (if max ≤ 0 then none else some max.toNat)) := by
  have any : SpellsItem 0 "[\\s\\S]".toList (chars .anything) :=
    .of_atom (by decide) (fun _ => rfl) (by decide)
  simp only [Template.countsInOrder, Bool.and_eq_true, Bool.or_eq_true,
    decide_eq_true_eq] at ordered
  obtain ⟨small, bounds⟩ := ordered
  by_cases unbounded : max ≤ 0
  · have text : spelled (stringLengthSource min max) =
        "[\\s\\S]".toList ++ '\x7b' :: (Number.digits min ++ [',', '\x7d']) := by
      rw [stringLengthSource, if_pos unbounded, ← toList_integerText]
      rfl
    rw [text, if_pos unbounded]
    exact (any.counted (readBounds_atLeast small)).spells
  · obtain ⟨n, rfl⟩ := Int.eq_ofNat_of_zero_le (Int.le_of_lt (Int.not_le.mp unbounded))
    obtain ⟨large, le⟩ := bounds.resolve_left unbounded
    have text : spelled (stringLengthSource min n) = "[\\s\\S]".toList ++
        '\x7b' :: (Number.digits min ++ ',' :: Number.digits n ++ ['\x7d']) := by
      rw [stringLengthSource, if_neg unbounded, ← toList_integerText, ← toList_integerText,
        List.append_assoc]
      rfl
    rw [text, if_neg unbounded]
    exact (any.counted (readBounds_between (by omega) (by omega))).spells

/-! ### Delimiters -/

/-- Every character of the delimiter stands for itself. -/
theorem spells_escaped (cs : List Char) : Spells 0 (escapeSource cs).toList (literal cs) := by
  rw [escapeSource, String.toList_ofList]
  induction cs with
  | nil => exact ⟨[], .nil, .refl _⟩
  | cons c cs ih =>
    rw [List.flatMap_cons]
    refine ((Spells.char c).append ih).alike ?_
    cases cs with
    | nil => exact Alike.cat_empty _
    | cons d ds => exact Alike.refl _

theorem spells_octets {digits : CharSet} {source : String}
    (digit : SpellsItem 0 source.toList (chars digits)) (d : List Char) :
    Spells 1 (spelled (macSource source d))
      (times 5 (times 2 (chars digits) ++ literal d) ++ times 2 (chars digits)) := by
  have octet : SpellsItem 0 (source.toList ++ ['\x7b', '2', '\x7d']) (times 2 (chars digits)) :=
    digit.times (n := 2) (by decide)
  have delimited := (octet.spells.append (spells_escaped d)).group
  have text : spelled (macSource source d) =
      ['(', '?', ':'] ++ (source.toList ++ ['\x7b', '2', '\x7d'] ++ (escapeSource d).toList) ++
        [')'] ++ ['\x7b', '5', '\x7d'] ++ (source.toList ++ ['\x7b', '2', '\x7d']) := by
    simp [spelled, macSource]
  rw [text]
  exact (delimited.times (n := 5) (by decide)).spells.append (octet.spells.mono (Nat.zero_le 1))

/-! ### Templates -/

theorem toList_source (t : Template) :
    t.source.toList = ['|'].intercalate ((t.bodies.map spelled).map anchored) := by
  rw [Template.source, String.toList_intercalate, List.map_map, List.map_map]
  exact congrArg _ (List.map_congr_left fun body _ => toList_anchored body)

theorem isAnchored_mac (delimiter : String) :
    IsAnchored (Template.mac delimiter).source ((Template.mac delimiter).bodies.map spelled)
      (mac delimiter) := by
  have upper : SpellsItem 0 "[0-9A-F]".toList (chars (.ranges [('0', '9'), ('A', 'F')])) :=
    .of_atom (by decide) (fun _ => rfl) (by decide)
  have lower : SpellsItem 0 "[0-9a-f]".toList (chars (.ranges [('0', '9'), ('a', 'f')])) :=
    .of_atom (by decide) (fun _ => rfl) (by decide)
  refine .of_spells_or ?_ ((spells_octets upper _).mono (by decide))
    ((spells_octets lower _).mono (by decide))
  rw [toList_source, Template.bodies]
  simp only [List.map_cons, List.map_nil, List.intercalate_cons_cons, List.intercalate_singleton,
    List.append_assoc, List.singleton_append]

theorem isAnchored_template {t : Template} {limit : Limit} {r : Regex}
    (built : t.build limit = .ok r) : IsAnchored t.source (t.bodies.map spelled) r := by
  obtain ⟨ordered, -, rfl⟩ := Template.build_eq_ok_iff.mp built
  have source_one (body : List String) (one : t.bodies = [body]) :
      t.source.toList = anchored (spelled body) := by
    rw [toList_source, one, List.map_singleton, List.map_singleton, List.intercalate_singleton]
  cases t with
  | time p => exact .of_spells (source_one _ rfl) ((spells_time ordered).mono (by decide))
  | datetime p offset isLocal =>
    exact .of_spells (source_one _ rfl) ((spells_datetime ordered).mono (by decide))
  | mac delimiter => exact isAnchored_mac delimiter
  | stringLength min max =>
    exact .of_spells (source_one _ rfl) ((spells_stringLength ordered).mono (by decide))

/-- A pattern matches a text exactly if its body, or one of its bodies, matches the text from the
first to the last character. -/
theorem matches_whole_texts :
    (∀ name ∈ names, ∃ r source body, byName? name = some r ∧ sourceByName? name = some source ∧
      IsAnchored source [body] r) ∧
    (∀ (t : Template) limit r, t.build limit = .ok r →
      IsAnchored t.source (t.bodies.map spelled) r) ∧
    ∀ version, IsAnchored ("^" ++ String.join (uuidOfVersionSource version) ++ "$")
      [spelled (uuidOfVersionSource version)] (uuidOfVersion version) :=
  ⟨fun _ => isAnchored_catalog, fun _ _ _ => isAnchored_template, isAnchored_uuidOfVersion⟩

theorem matches_whole_texts_delimited :
    ("DefaultTime" ∈ names ∧ (Template.mac "$|^").build = .ok (mac "$|^")) ∧
      (∃ r source body, byName? "DefaultTime" = some r ∧
        sourceByName? "DefaultTime" = some source ∧ IsAnchored source [body] r) ∧
      IsAnchored (Template.mac "$|^").source ((Template.mac "$|^").bodies.map spelled)
        (mac "$|^") := by
  have listed : "DefaultTime" ∈ names := by decide
  have built : (Template.mac "$|^").build = .ok (mac "$|^") := by decide
  exact ⟨⟨listed, built⟩, matches_whole_texts.1 _ listed, matches_whole_texts.2.1 _ _ _ built⟩

end TagSchema.Pattern
