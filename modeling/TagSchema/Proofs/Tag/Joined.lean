import Mathlib.Algebra.Group.Nat.Even
import Mathlib.Data.List.Induction
import TagSchema.Proofs.Tag.Spacing

/-!
# Tags with a comma between

A tag that is read leaves nothing open behind it but an escape, so a comma after it separates its
rules from those of a second tag: `parse_append_comma`. Only a dangling backslash takes the comma
for itself.
-/

namespace TagSchema.Tag

open TagSchema.Text (allBlank)

/-- The number of backslashes that a text ends in. -/
def trailingBackslashes (cs : List Char) : Nat := (cs.reverse.takeWhile (· == '\\')).length

theorem trailingBackslashes_slash (cs : List Char) :
    trailingBackslashes (cs ++ ['\\']) = trailingBackslashes cs + 1 := by
  simp [trailingBackslashes]

theorem trailingBackslashes_plain (cs : List Char) {c : Char} (plain : c ≠ '\\') :
    trailingBackslashes (cs ++ [c]) = 0 := by
  simp [trailingBackslashes, plain]

theorem Scan.step_slash (s : Scan) :
    ∃ t, s.step '\\' = .ok ({ s with escaped := !s.escaped }, .text t) := by
  obtain ⟨quote, brackets, braces, escaped⟩ := s
  cases escaped with
  | true => exact ⟨_, rfl⟩
  | false => exact ⟨_, rfl⟩

/-- Two backslashes in a row escape nothing behind them. -/
theorem Scan.escaped_of_run {s s' : Scan} {current last cs : List Char} {tokens : List (List Char)}
    (start : s.escaped = false) (h : s.run current cs = .ok (tokens, s', last)) :
    s'.escaped = true ↔ ¬ Even (trailingBackslashes cs) := by
  induction cs using List.reverseRecOn generalizing tokens s' last with
  | nil =>
    obtain ⟨_, rfl, _⟩ := Prod.mk.inj (Except.ok.inj h) |>.imp_right Prod.mk.inj
    simp [start, trailingBackslashes]
  | append_singleton cs c ih =>
    by_cases slash : c = '\\'
    · subst slash
      rw [run_append] at h
      obtain ⟨⟨_, before, current⟩, first, h⟩ := bind_ok h
      obtain ⟨⟨_, after, rest⟩, ran, h⟩ := bind_ok h
      obtain ⟨t, stepped⟩ := step_slash before
      simp only [run, stepped, bind, Except.bind, Except.ok.injEq, Prod.mk.injEq] at ran
      simp only [pure, Except.pure, Except.ok.injEq, Prod.mk.injEq] at h
      rw [← h.2.1, ← ran.2.1, trailingBackslashes_slash, Nat.even_add_one, ← ih first]
      simp
    · rw [run_snoc slash h, trailingBackslashes_plain cs slash]
      simp

theorem split_ok {cs : List Char} {tokens : List (List Char)} (h : split cs = .ok tokens) :
    ∃ init s last rest, ({} : Scan).run [] cs = .ok (init, s, last) ∧ s.finish = .ok rest ∧
      tokens = init ++ [last ++ rest] := by
  rw [split, splitFrom_eq_run] at h
  obtain ⟨⟨init, s, last⟩, ran, h⟩ := bind_ok h
  obtain ⟨rest, finished, h⟩ := bind_ok h
  exact ⟨init, s, last, rest, ran, finished, pure_ok h⟩

/-- A comma behind a text whose last character is not escaped ends its last token. -/
theorem split_append_comma {as bs : List Char} {tokens : List (List Char)}
    (whole : split as = .ok tokens) (even : Even (trailingBackslashes as)) :
    split (as ++ ',' :: bs) = (split bs).map (tokens ++ ·) := by
  obtain ⟨init, s, last, rest, ran, finished, rfl⟩ := split_ok whole
  have closed : s.escaped = false := by
    rw [← Bool.not_eq_true, Scan.escaped_of_run rfl ran]
    exact not_not_intro even
  obtain ⟨rfl, rfl⟩ := Scan.finish_ok closed finished
  rw [split, splitFrom_of_run ran, splitFrom_comma, split]
  cases splitFrom {} [] bs <;> simp [Except.map]

/-- A comma behind a dangling backslash belongs to the token that the backslash has ended. -/
theorem split_append_escaped {as : List Char} {tokens : List (List Char)}
    (whole : split as = .ok tokens) (odd : ¬ Even (trailingBackslashes as)) (bs : List Char) :
    ∃ init last, tokens = init ++ [last ++ ['\\']] ∧
      split (as ++ ',' :: bs) =
        (split bs).map fun later => init ++ later.modifyHead (last ++ [','] ++ ·) := by
  obtain ⟨init, s, last, rest, ran, finished, rfl⟩ := split_ok whole
  obtain ⟨state, text⟩ := Scan.finish_inv finished
  rw [(Scan.escaped_of_run rfl ran).mpr odd] at state text
  subst state text
  refine ⟨init, last, rfl, ?_⟩
  have taken : splitFrom { escaped := true } last (',' :: bs) =
      splitFrom {} (last ++ [',']) bs := rfl
  have moved := splitFrom_append {} (last ++ [',']) [] bs
  rw [List.append_nil] at moved
  rw [split, splitFrom_of_run ran, taken, moved, split]
  cases splitFrom {} [] bs <;> rfl

/-! ### Rules of both tags -/

theorem parse_of_solid {tag : String} (solid : allBlank tag.toList = false) :
    parse tag = split tag.toList >>= (·.mapM parseToken) := by
  rw [parse, parseChars, solid]
  rfl

theorem parse_ok {tag : String} {rules : List Rule} (solid : allBlank tag.toList = false)
    (h : parse tag = .ok rules) :
    ∃ tokens, split tag.toList = .ok tokens ∧ tokens.mapM parseToken = .ok rules := by
  rw [parse_of_solid solid] at h
  exact bind_ok h

theorem length_of_mapM {tokens : List (List Char)} {rules : List Rule}
    (h : tokens.mapM parseToken = .ok rules) : rules.length = tokens.length :=
  (mapM_eq_ok_iff.mp h).length_eq.symm

/-- Two tags that are read on their own are read together, with a comma between them, as the rules
of the first and then those of the second, unless a last backslash of the first is left alone. -/
theorem parse_append_comma {a b : String} {ra rb : List Rule} (solid : allBlank a.toList = false)
    (solid' : allBlank b.toList = false) (first : parse a = .ok ra) (later : parse b = .ok rb) :
    parse (a ++ "," ++ b) = .ok (ra ++ rb) ↔ Even (trailingBackslashes a.toList) := by
  obtain ⟨as, tokens, rules⟩ := parse_ok solid first
  obtain ⟨bs, tokens', rules'⟩ := parse_ok solid' later
  have text : (a ++ "," ++ b).toList = a.toList ++ ',' :: b.toList := by simp
  have solidBoth : allBlank (a ++ "," ++ b).toList = false := by
    rw [text]
    exact not_allBlank_of_mem (c := ',') (by simp) (by decide)
  rw [parse_of_solid solidBoth, text]
  constructor
  · intro read
    by_contra odd
    obtain ⟨init, last, rfl, joined⟩ := split_append_escaped tokens odd b.toList
    rw [joined, tokens'] at read
    -- The two tokens at the comma have become one, so one rule is missing.
    have count := length_of_mapM read
    rw [List.length_append, length_of_mapM rules, length_of_mapM rules'] at count
    simp at count
  · intro even
    rw [split_append_comma tokens even, tokens']
    exact mapM_append_eq_ok_iff.mpr ⟨ra, rb, rules, rules', rfl⟩

/-- The first tag ends in `\\`, and in `\` alone if its last character is left out. -/
theorem parse_append_backslashes :
    parse "required,regex=\\d\\\\,enum='a,b' c" =
        .ok [⟨"required", []⟩, ⟨"regex", ["\\d\\\\"]⟩, ⟨"enum", ["a,b", "c"]⟩] ∧
      parse "required,regex=\\d\\,enum='a,b' c" ≠
        .ok [⟨"required", []⟩, ⟨"regex", ["\\d\\"]⟩, ⟨"enum", ["a,b", "c"]⟩] := by
  have two : parse "required,regex=\\d\\\\" = .ok [⟨"required", []⟩, ⟨"regex", ["\\d\\\\"]⟩] :=
    toOption_eq_some_iff.mp (by decide +kernel)
  have one : parse "required,regex=\\d\\" = .ok [⟨"required", []⟩, ⟨"regex", ["\\d\\"]⟩] :=
    toOption_eq_some_iff.mp (by decide +kernel)
  have other : parse "enum='a,b' c" = .ok [⟨"enum", ["a,b", "c"]⟩] :=
    toOption_eq_some_iff.mp (by decide +kernel)
  exact ⟨(parse_append_comma (by decide) (by decide) two other).mpr (by decide),
    fun read => absurd ((parse_append_comma (by decide) (by decide) one other).mp read) (by decide)⟩

end TagSchema.Tag
