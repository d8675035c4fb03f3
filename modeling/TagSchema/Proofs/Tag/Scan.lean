import TagSchema.Proofs.Except
import TagSchema.Tag.Basic

/-!
# Runs of the tag lexer

What the lexer has made of a text before the rest is known. `run_append` lets a tag be read piece by
piece, and `split_join` says that texts the lexer keeps whole are the tokens of the tag that joins
them with commas.
-/

namespace TagSchema.Tag

open Error

/-- The tokens that a text completes, what it leaves open, and the token that it has begun. -/
def Scan.run (s : Scan) (current : List Char) :
    List Char → Except Error (List (List Char) × Scan × List Char)
  | [] => .ok ([], s, current)
  | c :: cs => do
    match ← s.step c with
    | (s, .text t) => run s (current ++ t) cs
    | (s, .cut) =>
      let (tokens, rest) ← run s [] cs
      return (current :: tokens, rest)

theorem splitFrom_eq_run (s : Scan) (current cs : List Char) :
    splitFrom s current cs = (do
      let (tokens, s, current) ← s.run current cs
      return tokens ++ [current ++ (← s.finish)]) := by
  induction cs generalizing s current with
  | nil =>
    simp [splitFrom, Scan.run, bind, Except.bind]
  | cons c cs ih =>
    simp only [splitFrom, Scan.run]
    cases s.step c with
    | error e => rfl
    | ok read =>
      obtain ⟨s, piece⟩ := read
      cases piece with
      | text t => exact ih s (current ++ t)
      | cut =>
        simp only [bind, Except.bind, ih s []]
        cases s.run [] cs with
        | error e => rfl
        | ok rest =>
          obtain ⟨tokens, s, last⟩ := rest
          cases final : s.finish <;> simp [final, pure, Except.pure]

theorem Scan.run_append (s : Scan) (current as bs : List Char) :
    s.run current (as ++ bs) = (do
      let (tokens, s, current) ← s.run current as
      let (later, rest) ← s.run current bs
      return (tokens ++ later, rest)) := by
  induction as generalizing s current with
  | nil =>
    simp only [List.nil_append, run, bind, Except.bind]
    cases s.run current bs <;> rfl
  | cons a as ih =>
    simp only [List.cons_append, run]
    cases s.step a with
    | error e => rfl
    | ok read =>
      obtain ⟨s, piece⟩ := read
      cases piece with
      | text t => exact ih s (current ++ t)
      | cut =>
        simp only [bind, Except.bind, ih s []]
        cases s.run [] as with
        | error e => rfl
        | ok before =>
          obtain ⟨tokens, s, last⟩ := before
          cases after : s.run last bs <;> simp [after, pure, Except.pure]

/-! ### Texts that stay whole -/

/-- From `s` the text becomes part of the current token as it stands, and leads to `s'`. -/
def Scan.Keeps (s : Scan) (cs : List Char) (s' : Scan) : Prop :=
  ∀ current, s.run current cs = .ok ([], s', current ++ cs)

theorem Scan.keeps_nil (s : Scan) : s.Keeps [] s := by
  intro current
  simp [run]

theorem Scan.keeps_append {s s' s'' : Scan} {as bs : List Char} (first : s.Keeps as s')
    (later : s'.Keeps bs s'') : s.Keeps (as ++ bs) s'' := by
  intro current
  rw [run_append, first current]
  simp only [bind, Except.bind, later (current ++ as)]
  simp [pure, Except.pure]

theorem Scan.keeps_of_step {s s' : Scan} {c : Char} (h : s.step c = .ok (s', .text [c])) :
    s.Keeps [c] s' := by
  intro current
  simp [run, h, bind, Except.bind]

theorem Scan.keeps_cons {s s' s'' : Scan} {c : Char} {cs : List Char}
    (first : s.step c = .ok (s', .text [c])) (later : s'.Keeps cs s'') : s.Keeps (c :: cs) s'' :=
  keeps_append (keeps_of_step first) later

theorem Scan.keeps_of_forall {s : Scan} {cs : List Char}
    (h : ∀ c ∈ cs, s.step c = .ok (s, .text [c])) : s.Keeps cs s := by
  induction cs with
  | nil => exact keeps_nil s
  | cons c cs ih =>
    exact keeps_cons (h c List.mem_cons_self) (ih fun d hd => h d (List.mem_cons_of_mem _ hd))

/-! ### Joined texts -/

theorem step_comma : ({} : Scan).step ',' = .ok ({}, .cut) := rfl

theorem splitFrom_end (current : List Char) : splitFrom {} current [] = .ok [current] := by
  simp [splitFrom, Scan.finish, bind, Except.bind, pure, Except.pure]

theorem splitFrom_of_run {s s' : Scan} {current last as : List Char} {tokens : List (List Char)}
    (h : s.run current as = .ok (tokens, s', last)) (bs : List Char) :
    splitFrom s current (as ++ bs) = (splitFrom s' last bs).map (tokens ++ ·) := by
  rw [splitFrom_eq_run, Scan.run_append, h, splitFrom_eq_run]
  simp only [bind, Except.bind]
  cases s'.run last bs with
  | error e => rfl
  | ok rest =>
    obtain ⟨later, s'', final⟩ := rest
    cases closed : s''.finish <;> simp [closed, pure, Except.pure, Except.map]

theorem splitFrom_keeps {s s' : Scan} {as : List Char} (kept : s.Keeps as s')
    (current bs : List Char) :
    splitFrom s current (as ++ bs) = splitFrom s' (current ++ as) bs := by
  rw [splitFrom_of_run (kept current)]
  cases splitFrom s' (current ++ as) bs <;> rfl

/-- Text that a token has begun with does not change where the tokens end. -/
theorem splitFrom_append (s : Scan) (before current cs : List Char) :
    splitFrom s (before ++ current) cs =
      (splitFrom s current cs).map (List.modifyHead (before ++ ·)) := by
  induction cs generalizing s current with
  | nil =>
    simp only [splitFrom]
    cases s.finish <;> simp [bind, Except.bind, pure, Except.pure, Except.map]
  | cons c cs ih =>
    simp only [splitFrom]
    cases s.step c with
    | error e => rfl
    | ok read =>
      obtain ⟨s, piece⟩ := read
      cases piece with
      | text t =>
        simp only [bind, Except.bind, List.append_assoc]
        exact ih s (current ++ t)
      | cut =>
        simp only [bind, Except.bind]
        cases splitFrom s [] cs <;> rfl

/-- Texts that stay whole are the tokens of the tag that joins them. -/
theorem split_join {texts : List (List Char)} (some : texts ≠ [])
    (whole : ∀ text ∈ texts, ({} : Scan).Keeps text {}) :
    split ([','].intercalate texts) = .ok texts := by
  induction texts with
  | nil => exact absurd rfl some
  | cons text texts ih =>
    have first := whole text List.mem_cons_self
    cases texts with
    | nil =>
      have read := splitFrom_keeps first [] []
      simp only [List.append_nil] at read
      rw [List.intercalate_singleton, split, read, splitFrom_end, List.nil_append]
    | cons next texts =>
      have later := ih (by simp) fun t ht => whole t (List.mem_cons_of_mem _ ht)
      rw [List.intercalate_cons_cons, split, List.append_assoc, splitFrom_keeps first]
      simp only [List.nil_append, List.cons_append, splitFrom, step_comma, bind, Except.bind]
      simp only [split] at later
      rw [later]
      rfl

/-! ### Texts that a lexer of its own would keep -/

theorem Scan.run_text {s s' : Scan} {current last cs : List Char}
    (h : s.run current cs = .ok ([], s', last)) (before : List Char) :
    s.run (before ++ current) cs = .ok ([], s', before ++ last) := by
  induction cs generalizing s current with
  | nil =>
    simp only [run, Except.ok.injEq, Prod.mk.injEq, true_and] at h ⊢
    exact ⟨h.1, by rw [h.2]⟩
  | cons c cs ih =>
    simp only [run] at h ⊢
    obtain ⟨⟨next, piece⟩, stepped, h⟩ := bind_ok h
    rw [stepped]
    cases piece with
    | text t =>
      simp only [bind, Except.bind, List.append_assoc]
      exact ih h
    | cut =>
      obtain ⟨⟨tokens, rest⟩, _, h⟩ := bind_ok h
      simp [pure, Except.pure] at h

/-- A character that is no backslash ends every escape. -/
theorem Scan.escaped_step {s s' : Scan} {c : Char} {piece : Piece} (plain : c ≠ '\\')
    (h : s.step c = .ok (s', piece)) : s'.escaped = false := by
  unfold step at h
  split at h
  · cases h; rfl
  · rename_i unescaped
    have off : s.escaped = false := by simpa using unescaped
    simp only [beq_eq_false_iff_ne.mpr plain, Bool.false_eq_true, if_false] at h
    repeat' first
      | (cases h; exact off)
      | cases h
      | split at h

theorem Scan.run_snoc {s s' : Scan} {current last cs : List Char} {tokens : List (List Char)}
    {c : Char} (plain : c ≠ '\\') (h : s.run current (cs ++ [c]) = .ok (tokens, s', last)) :
    s'.escaped = false := by
  rw [run_append] at h
  obtain ⟨⟨_, before, current⟩, _, h⟩ := bind_ok h
  obtain ⟨⟨_, after, rest⟩, ran, h⟩ := bind_ok h
  simp only [pure, Except.pure, Except.ok.injEq, Prod.mk.injEq] at h
  rw [← h.2.1]
  simp only [run] at ran
  obtain ⟨⟨next, piece⟩, stepped, ran⟩ := bind_ok ran
  have ended := escaped_step plain stepped
  cases piece with
  | text t =>
    simp only [Except.ok.injEq, Prod.mk.injEq] at ran
    rw [← ran.2.1]
    exact ended
  | cut =>
    simp only [bind, Except.bind, pure, Except.pure, Except.ok.injEq, Prod.mk.injEq] at ran
    rw [← ran.2.1]
    exact ended

/-- Behind a tag that is closed, only an escape can be open. -/
theorem Scan.finish_inv {s : Scan} {rest : List Char} (h : s.finish = .ok rest) :
    s = { escaped := s.escaped } ∧ rest = if s.escaped then ['\\'] else [] := by
  obtain ⟨quote, brackets, braces, escaped⟩ := s
  unfold finish at h
  split at h
  · cases h
  · split at h
    · cases h
    · split at h
      · cases h
      · rename_i unquoted noBracket noBrace
        simp only [Nat.not_lt, Nat.le_zero] at noBracket noBrace unquoted
        subst noBracket noBrace unquoted
        exact ⟨rfl, (Except.ok.inj h).symm⟩

theorem Scan.finish_ok {s : Scan} {rest : List Char} (closed : s.escaped = false)
    (h : s.finish = .ok rest) : s = {} ∧ rest = [] := by
  obtain ⟨state, text⟩ := finish_inv h
  rw [closed] at state text
  exact ⟨state, text⟩

/-- A text that is its own only token stays whole in any tag, if it ends in no escape. -/
theorem keeps_of_isVerbatim {cs : List Char} {c : Char} (plain : c ≠ '\\')
    (h : isVerbatim (cs ++ [c]) = true) : ({} : Scan).Keeps (cs ++ [c]) {} := by
  unfold isVerbatim at h
  split at h
  · rename_i token only
    rw [split, splitFrom_eq_run] at only
    obtain ⟨⟨tokens, s, last⟩, ran, only⟩ := bind_ok only
    obtain ⟨rest, finished, only⟩ := bind_ok only
    obtain ⟨rfl, rfl⟩ := Scan.finish_ok (Scan.run_snoc plain ran) finished
    have tokenEq : token = cs ++ [c] := by simpa using h
    have whole := pure_ok only
    obtain ⟨rfl, lastEq⟩ : tokens = [] ∧ last = token := by
      cases tokens with
      | nil => simpa using whole.symm
      | cons t ts => simp at whole
    intro current
    have moved := Scan.run_text ran current
    rwa [List.append_nil, lastEq, tokenEq] at moved
  · cases h

end TagSchema.Tag
