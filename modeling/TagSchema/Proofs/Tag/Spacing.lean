import Mathlib.Logic.Relation
import TagSchema.Proofs.Tag.RoundTrip

/-!
# Blanks around separators

Blanks next to a comma that ends a token, or next to the first `=` of a token, mean nothing.
`Spaced` adds them to a tag, and `parse_spaced` says that its rules stay the same, and so does the
cause of its error.
-/

namespace TagSchema.Tag

open TagSchema.Text (allBlank isBlank trimChars)

/-- Behind `before` the lexer is in the state `s` and has begun the token `current`. -/
def Reaches (before : List Char) (s : Scan) (current : List Char) : Prop :=
  ∃ tokens, ({} : Scan).run [] before = .ok (tokens, s, current)

/-- A tag with blanks on both sides of one comma that ends a token, or of the first `=` of one. -/
inductive Spaced : List Char → List Char → Prop where
  | comma {before : List Char} {s : Scan} {current : List Char} (rest bs cs : List Char)
      (reached : Reaches before s current) (cuts : s.step ',' = .ok (s, .cut))
      (blank : allBlank bs = true) (blank' : allBlank cs = true) :
      Spaced (before ++ ',' :: rest) (before ++ (bs ++ ',' :: (cs ++ rest)))
  | equals {before : List Char} {s : Scan} {current : List Char} (rest bs cs : List Char)
      (reached : Reaches before s current) (first : '=' ∉ current)
      (blank : allBlank bs = true) (blank' : allBlank cs = true) :
      Spaced (before ++ '=' :: rest) (before ++ (bs ++ '=' :: (cs ++ rest)))

/-! ### Tokens -/

/-- The same name and the same body, up to blanks around them. -/
structure SameParts (token other : List Char) : Prop where
  name : trimChars (splitEquals token).1 = trimChars (splitEquals other).1
  body : (splitEquals token).2.map trimChars = (splitEquals other).2.map trimChars

theorem not_mem_of_allBlank {bs : List Char} {c : Char} (blank : allBlank bs = true)
    (solid : isBlank c = false) : c ∉ bs := by
  intro member
  rw [List.all_eq_true.mp blank c member] at solid
  cases solid

theorem sameParts_equals {name bs cs : List Char} (body : List Char) (first : '=' ∉ name)
    (blank : allBlank bs = true) (blank' : allBlank cs = true) :
    SameParts (name ++ '=' :: body) (name ++ (bs ++ '=' :: (cs ++ body))) := by
  have first' : '=' ∉ name ++ bs := by
    rw [List.mem_append, not_or]
    exact ⟨first, not_mem_of_allBlank blank (by decide)⟩
  rw [← List.append_assoc]
  constructor
  · rw [splitEquals_append first, splitEquals_append first', Text.trimChars_append_blank _ blank]
  · rw [splitEquals_append first, splitEquals_append first', Option.map_some, Option.map_some,
      Text.trimChars_blank_append _ blank']

theorem sameParts_around (bs token cs : List Char) (blank : allBlank bs = true)
    (blank' : allBlank cs = true) : SameParts token (bs ++ token ++ cs) := by
  have noMark := not_mem_of_allBlank blank (c := '=') (by decide)
  have noMark' := not_mem_of_allBlank blank' (c := '=') (by decide)
  by_cases mark : '=' ∈ token
  · obtain ⟨name, body, rfl, first⟩ := List.eq_append_cons_of_mem mark
    have first' : '=' ∉ bs ++ name := by
      rw [List.mem_append, not_or]
      exact ⟨noMark, first⟩
    have whole : bs ++ (name ++ '=' :: body) ++ cs = bs ++ name ++ '=' :: (body ++ cs) := by simp
    rw [whole]
    constructor
    · rw [splitEquals_append first, splitEquals_append first', Text.trimChars_blank_append _ blank]
    · rw [splitEquals_append first, splitEquals_append first', Option.map_some, Option.map_some,
        Text.trimChars_append_blank _ blank']
  · have mark' : '=' ∉ bs ++ token ++ cs := by
      rw [List.mem_append, List.mem_append, not_or, not_or]
      exact ⟨⟨noMark, mark⟩, noMark'⟩
    constructor
    · rw [splitEquals_of_not_mem mark, splitEquals_of_not_mem mark',
        Text.trimChars_append_blank _ blank', Text.trimChars_blank_append _ blank]
    · rw [splitEquals_of_not_mem mark, splitEquals_of_not_mem mark']

theorem parseParams_congr (name : List Char) {body other : Option (List Char)}
    (same : body.map trimChars = other.map trimChars) :
    parseParams name body = parseParams name other := by
  unfold parseParams
  rw [same]

/-- Both are read as the same rule, or both fail for the same cause. -/
def SameRule (token other : List Char) : Prop :=
  (parseToken other).mapError Error.cause = (parseToken token).mapError Error.cause

theorem sameRule_of_sameParts {token other : List Char} (same : SameParts token other) :
    SameRule token other := by
  unfold SameRule parseToken
  dsimp only
  rw [← same.name, ← parseParams_congr _ same.body]
  split
  · rfl
  · split
    · rfl
    · cases parseParams (trimChars (splitEquals token).1) (splitEquals token).2 with
      | error e => rfl
      | ok params =>
        simp only [bind, Except.bind]
        split <;> rfl

/-! ### What the lexer makes of blanks -/

/-- The text that an open escape still holds back. -/
def Scan.pending (s : Scan) : List Char := if s.escaped then ['\\'] else []

/-- The state behind a character that closes nothing. -/
def Scan.released (s : Scan) : Scan := { s with escaped := false }

/-- A character that no state of the lexer takes for a mark. -/
def IsInert (c : Char) : Prop := c ∉ ['\\', ',', '"', '\'', '[', ']', '\x7b', '\x7d']

theorem isInert_of_isBlank {c : Char} (h : isBlank c = true) : IsInert c := by
  intro mark
  simp only [List.mem_cons, List.not_mem_nil, or_false] at mark
  rcases mark with rfl | rfl | rfl | rfl | rfl | rfl | rfl | rfl <;> exact absurd h (by decide)

/-- The quotes that the lexer can have opened. -/
def Scan.Proper (s : Scan) : Prop := ∀ q ∈ s.quote, q = '"' ∨ q = '\''

theorem Scan.step_proper {s s' : Scan} {c : Char} {piece : Piece} (proper : s.Proper)
    (h : s.step c = .ok (s', piece)) : s'.Proper := by
  unfold step at h
  split at h
  · cases h
    exact proper
  · split at h
    · cases h
      exact proper
    · split at h
      · cases h
        rename_i q open_
        intro p member
        dsimp only at member
        split at member
        · cases member
        · exact proper p (open_ ▸ member)
      · rename_i closed
        split at h
        · cases h
          rename_i mark
          intro p member
          obtain rfl := Option.some.inj member
          rw [Bool.or_eq_true, Bool.and_eq_true, beq_iff_eq, beq_iff_eq] at mark
          exact mark.imp_right And.left
        · repeat' first
            | (cases h; exact proper)
            | cases h
            | split at h

theorem Scan.run_proper {s s' : Scan} {current last cs : List Char} {tokens : List (List Char)}
    (proper : s.Proper) (h : s.run current cs = .ok (tokens, s', last)) : s'.Proper := by
  induction cs generalizing s current tokens with
  | nil =>
    obtain ⟨_, rfl, _⟩ := Prod.mk.inj (Except.ok.inj h) |>.imp_right Prod.mk.inj
    exact proper
  | cons c cs ih =>
    obtain ⟨⟨next, piece⟩, stepped, h⟩ := bind_ok h
    have kept := step_proper proper stepped
    cases piece with
    | text t => exact ih kept h
    | cut =>
      obtain ⟨⟨later, rest⟩, ran, h⟩ := bind_ok h
      obtain ⟨_, same⟩ := Prod.mk.inj (Except.ok.inj h)
      rw [same] at ran
      exact ih kept ran

theorem Scan.step_inert {s : Scan} {c : Char} (proper : s.Proper) (inert : IsInert c) :
    s.step c = .ok (s.released, .text (s.pending ++ [c])) := by
  simp only [IsInert, List.mem_cons, List.not_mem_nil, or_false, not_or] at inert
  obtain ⟨slash, comma, double, single, open_, close, openBrace, closeBrace⟩ := inert
  obtain ⟨quote, brackets, braces, escaped⟩ := s
  cases escaped with
  | true => simp [step, released, pending, comma]
  | false =>
    cases quote with
    | none => simp [step, released, pending, slash, comma, double, single, open_, close, openBrace,
        closeBrace]
    | some q =>
      have other : c ≠ q := by
        rintro rfl
        exact (proper c rfl).elim double single
      simp [step, released, pending, slash, other]

theorem Scan.run_inert {s : Scan} (proper : s.Proper) (current : List Char) {cs : List Char}
    (inert : ∀ c ∈ cs, IsInert c) (some : cs ≠ []) :
    s.run current cs = .ok ([], s.released, current ++ s.pending ++ cs) := by
  obtain ⟨c, cs, rfl⟩ := List.exists_cons_of_ne_nil some
  rw [List.forall_mem_cons] at inert
  have closed : s.released.Proper := proper
  have rest : s.released.Keeps cs s.released :=
    keeps_of_forall fun d member => by
      simpa [released, pending] using step_inert closed (inert.2 d member)
  simp only [run, step_inert proper inert.1, bind, Except.bind,
    rest (current ++ (s.pending ++ [c]))]
  simp

/-! ### Tokens of a spaced tag -/

theorem proper_of_reaches {before current : List Char} {s : Scan} (h : Reaches before s current) :
    s.Proper := by
  obtain ⟨tokens, ran⟩ := h
  refine Scan.run_proper ?_ ran
  intro q member
  cases member

/-- Only outside quotes, brackets, braces and escapes does a comma end a token. -/
theorem initial_of_cut {s : Scan} (h : s.step ',' = .ok (s, .cut)) : s = {} := by
  obtain ⟨quote, brackets, braces, escaped⟩ := s
  cases escaped with
  | true => simp [Scan.step] at h
  | false =>
    cases quote with
    | some q => simp [Scan.step] at h
    | none =>
      cases brackets with
      | succ n => simp [Scan.step, Scan.nested] at h
      | zero =>
        cases braces with
        | succ n => simp [Scan.step, Scan.nested] at h
        | zero => rfl

/-- Both lists of tokens are read as the same rules, or the lexer has failed with the same error. -/
inductive SameTokens :
    Except Error (List (List Char)) → Except Error (List (List Char)) → Prop where
  | error (e : Error) : SameTokens (.error e) (.error e)
  | ok {tokens others : List (List Char)} (same : List.Forall₂ SameParts tokens others) :
      SameTokens (.ok tokens) (.ok others)

theorem SameParts.refl (token : List Char) : SameParts token token := ⟨rfl, rfl⟩

theorem SameTokens.append {split other : Except Error (List (List Char))}
    (tokens : List (List Char)) (same : SameTokens split other) :
    SameTokens (split.map (tokens ++ ·)) (other.map (tokens ++ ·)) := by
  cases same with
  | error e => exact .error e
  | ok same =>
    exact .ok (List.rel_append (List.forall₂_same.mpr fun token _ => .refl token) same)

theorem SameTokens.cons {split other : Except Error (List (List Char))} {token spaced : List Char}
    (first : SameParts token spaced) (same : SameTokens split other) :
    SameTokens (split.map (token :: ·)) (other.map (spaced :: ·)) := by
  cases same with
  | error e => exact .error e
  | ok same => exact .ok (.cons first same)

theorem SameTokens.modifyHead {split : Except Error (List (List Char))}
    {f g : List Char → List Char} (same : ∀ token, SameParts (f token) (g token)) :
    SameTokens (split.map (List.modifyHead f)) (split.map (List.modifyHead g)) := by
  cases split with
  | error e => exact .error e
  | ok tokens =>
    cases tokens with
    | nil => exact .ok .nil
    | cons token tokens =>
      exact .ok (.cons (same token) (List.forall₂_same.mpr fun token _ => .refl token))

theorem isInert_of_allBlank {bs : List Char} (blank : allBlank bs = true) : ∀ c ∈ bs, IsInert c :=
  fun c member => isInert_of_isBlank (List.all_eq_true.mp blank c member)

theorem keeps_blanks {bs : List Char} (blank : allBlank bs = true) : ({} : Scan).Keeps bs {} :=
  Scan.keeps_of_forall fun c member =>
    Scan.step_inert (fun _ => nofun) (isInert_of_allBlank blank c member)

theorem splitFrom_comma (current rest : List Char) :
    splitFrom {} current (',' :: rest) = (splitFrom {} [] rest).map (current :: ·) := by
  simp only [splitFrom, step_comma, bind, Except.bind]
  cases splitFrom {} [] rest <;> rfl

theorem sameTokens_comma {bs cs : List Char} (current rest : List Char) (blank : allBlank bs = true)
    (blank' : allBlank cs = true) :
    SameTokens (splitFrom {} current (',' :: rest))
      (splitFrom {} current (bs ++ ',' :: (cs ++ rest))) := by
  have later : SameTokens (splitFrom {} [] rest) (splitFrom {} [] (cs ++ rest)) := by
    have same : SameTokens ((splitFrom {} [] rest).map (List.modifyHead ([] ++ ·)))
        ((splitFrom {} [] rest).map (List.modifyHead (cs ++ ·))) :=
      .modifyHead fun token => by simpa using sameParts_around cs token [] blank' rfl
    rw [← splitFrom_append {} [] [] rest, ← splitFrom_append {} cs [] rest] at same
    rw [splitFrom_keeps (keeps_blanks blank')]
    simpa using same
  rw [splitFrom_keeps (keeps_blanks blank), splitFrom_comma, splitFrom_comma]
  exact later.cons (sameParts_around [] current bs rfl blank)

theorem sameTokens_equals {s : Scan} {current bs cs : List Char} (rest : List Char)
    (proper : s.Proper) (first : '=' ∉ current) (blank : allBlank bs = true)
    (blank' : allBlank cs = true) :
    SameTokens (splitFrom s current ('=' :: rest))
      (splitFrom s current (bs ++ '=' :: (cs ++ rest))) := by
  have inert : IsInert '=' := by unfold IsInert; decide
  have inert' : ∀ c ∈ bs ++ '=' :: cs, IsInert c := by
    rw [List.forall_mem_append, List.forall_mem_cons]
    exact ⟨isInert_of_allBlank blank, inert, isInert_of_allBlank blank'⟩
  have alone := Scan.run_inert proper current (List.forall_mem_singleton.mpr inert)
    (List.cons_ne_nil _ _)
  have spaced := Scan.run_inert proper current inert'
    (List.append_ne_nil_of_right_ne_nil _ (List.cons_ne_nil _ _))
  have noMark : '=' ∉ current ++ s.pending := by
    rw [List.mem_append, not_or]
    refine ⟨first, ?_⟩
    unfold Scan.pending
    split <;> decide
  have same (token : List Char) : SameParts (current ++ s.pending ++ ['='] ++ token)
      (current ++ s.pending ++ (bs ++ '=' :: cs) ++ token) := by
    simpa using sameParts_equals token noMark blank blank'
  rw [← List.singleton_append, splitFrom_of_run alone,
    show bs ++ '=' :: (cs ++ rest) = bs ++ '=' :: cs ++ rest by simp, splitFrom_of_run spaced,
    ← List.append_nil (current ++ s.pending ++ ['=']),
    ← List.append_nil (current ++ s.pending ++ (bs ++ '=' :: cs)), splitFrom_append,
    splitFrom_append]
  exact (SameTokens.modifyHead same).append []

theorem sameTokens_split {tag spaced : List Char} (h : Spaced tag spaced) :
    SameTokens (split tag) (split spaced) := by
  cases h with
  | comma rest bs cs reached cuts blank blank' =>
    obtain ⟨tokens, ran⟩ := reached
    obtain rfl := initial_of_cut cuts
    rw [split, split, splitFrom_of_run ran, splitFrom_of_run ran]
    exact (sameTokens_comma _ rest blank blank').append tokens
  | equals rest bs cs reached first blank blank' =>
    have proper := proper_of_reaches reached
    obtain ⟨tokens, ran⟩ := reached
    rw [split, split, splitFrom_of_run ran, splitFrom_of_run ran]
    exact (sameTokens_equals rest proper first blank blank').append tokens

/-! ### Rules of a spaced tag -/

theorem not_allBlank_of_mem {tag : List Char} {c : Char} (member : c ∈ tag)
    (solid : isBlank c = false) : allBlank tag = false :=
  Text.allBlank_eq_false_iff.mpr ⟨c, member, solid⟩

theorem Spaced.not_allBlank {tag spaced : List Char} (h : Spaced tag spaced) :
    allBlank tag = false ∧ allBlank spaced = false := by
  cases h with
  | comma => exact ⟨not_allBlank_of_mem (c := ',') (by simp) (by decide),
      not_allBlank_of_mem (c := ',') (by simp) (by decide)⟩
  | equals => exact ⟨not_allBlank_of_mem (c := '=') (by simp) (by decide),
      not_allBlank_of_mem (c := '=') (by simp) (by decide)⟩

theorem cause_parseChars {tag spaced : List Char} (h : Spaced tag spaced) :
    (parseChars spaced).mapError Error.cause = (parseChars tag).mapError Error.cause := by
  have ⟨solid, solid'⟩ := h.not_allBlank
  unfold parseChars
  rw [solid, solid']
  simp only [Bool.false_eq_true, if_false]
  have tokens := sameTokens_split h
  generalize split tag = read at tokens ⊢
  generalize split spaced = read' at tokens ⊢
  cases tokens with
  | error e => rfl
  | ok same =>
    simp only [bind, Except.bind]
    exact mapM_mapError_congr (same.imp fun _ _ => sameRule_of_sameParts)

/-- Blanks around separators leave the rules of a tag as they are, and the cause of its error. -/
theorem parse_spaced {tag spaced : String}
    (h : Relation.ReflTransGen Spaced tag.toList spaced.toList) :
    (∀ rules, parse tag = .ok rules → parse spaced = .ok rules) ∧
      ∀ e, parse tag = .error e → ∃ e', parse spaced = .error e' ∧ e'.cause = e.cause := by
  have same : (parse spaced).mapError Error.cause = (parse tag).mapError Error.cause := by
    unfold parse
    generalize spaced.toList = last at h ⊢
    induction h with
    | refl => rfl
    | tail _ step ih => exact (cause_parseChars step).trans ih
  rcases of_mapError_eq same with ⟨rules, read, read'⟩ | ⟨e, e', failed, failed', cause⟩
  · rw [read, read']
    exact ⟨fun _ same => same, nofun⟩
  · rw [failed, failed']
    refine ⟨nofun, ?_⟩
    intro _ same
    obtain rfl := Except.error.inj same
    exact ⟨e', rfl, cause⟩

theorem spaced_enum :
    Relation.ReflTransGen Spaced "required,enum='a,b=c' d".toList
      "required\u00a0, enum\t= 'a,b=c' d".toList := by
  have behindName : Reaches "required,enum".toList {} "enum".toList := ⟨["required".toList], by rfl⟩
  have behindRule : Reaches "required".toList {} "required".toList := ⟨[], by rfl⟩
  have equals : Spaced "required,enum='a,b=c' d".toList "required,enum\t= 'a,b=c' d".toList :=
    .equals "'a,b=c' d".toList ['\t'] [' '] behindName (by decide) rfl rfl
  have comma : Spaced "required,enum\t= 'a,b=c' d".toList
      "required\u00a0, enum\t= 'a,b=c' d".toList :=
    .comma "enum\t= 'a,b=c' d".toList ['\u00a0'] [' '] behindRule rfl rfl rfl
  exact .tail (.single equals) comma

/-- Quotes hide the comma and the second `=`. -/
theorem parse_spaced_enum :
    Relation.ReflTransGen Spaced "required,enum='a,b=c' d".toList
        "required\u00a0, enum\t= 'a,b=c' d".toList ∧
      parse "required,enum='a,b=c' d" = .ok [⟨"required", []⟩, ⟨"enum", ["a,b=c", "d"]⟩] ∧
      parse "required\u00a0, enum\t= 'a,b=c' d" =
        .ok [⟨"required", []⟩, ⟨"enum", ["a,b=c", "d"]⟩] := by
  have read : parse "required,enum='a,b=c' d" =
      .ok [⟨"required", []⟩, ⟨"enum", ["a,b=c", "d"]⟩] :=
    toOption_eq_some_iff.mp (by decide +kernel)
  exact ⟨spaced_enum, read, (parse_spaced spaced_enum).1 _ read⟩

end TagSchema.Tag
