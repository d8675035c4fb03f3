import TagSchema.Proofs.Tag.Scan
import TagSchema.Proofs.Text.Trim

/-!
# Written parameters

A written parameter stays whole in its tag, and reading it gives the parameter back:
`keeps_writeWord` and `words_join`.
-/

namespace TagSchema.Tag

open TagSchema.Text (isBlank Bare)

/-- A character that needs no quotes. -/
structure Plain (c : Char) : Prop where
  blank : isBlank c = false
  quote : isQuote c = false
  mark : c ∉ ['\\', ',', '[', ']', '\x7b', '\x7d']

theorem mustQuote_eq_false_iff {param : List Char} :
    mustQuote param = false ↔ param ≠ [] ∧ ∀ c ∈ param, Plain c := by
  simp only [mustQuote, Bool.or_eq_false_iff, List.isEmpty_eq_false_iff, List.any_eq_false,
    Bool.or_eq_true, not_or, Bool.not_eq_true, decide_eq_true_eq]
  exact and_congr_right fun _ => forall₂_congr fun c _ =>
    ⟨fun h => ⟨h.1.1, h.1.2, h.2⟩, fun h => ⟨⟨h.blank, h.quote⟩, h.mark⟩⟩

theorem writeWord_cases (param : List Char) :
    writeWord param = quote param ∨
      writeWord param = param ∧ param ≠ [] ∧ ∀ c ∈ param, Plain c := by
  unfold writeWord
  cases quoted : mustQuote param with
  | true => exact .inl rfl
  | false => exact .inr ⟨rfl, mustQuote_eq_false_iff.mp quoted⟩

/-- A character is escaped as a pair, or it stands for itself inside single quotes. -/
theorem escapeChar_cases (c : Char) :
    (∃ d, escapeChar c = ['\\', d]) ∨ escapeChar c = [c] ∧ c ≠ '\\' ∧ c ≠ '\'' := by
  unfold escapeChar
  split
  · exact .inl ⟨_, rfl⟩
  split
  · exact .inl ⟨_, rfl⟩
  split
  · exact .inl ⟨_, rfl⟩
  split
  · exact .inl ⟨_, rfl⟩
  · rename_i slash apostrophe _ _
    exact .inr ⟨rfl, by simpa using slash, by simpa using apostrophe⟩

/-! ### What the lexer keeps -/

theorem step_ordinary {c : Char} (quote : isQuote c = false)
    (mark : c ∉ ['\\', ',', '[', ']', '\x7b', '\x7d']) :
    ({} : Scan).step c = .ok ({}, .text [c]) := by
  simp only [isQuote, Bool.or_eq_false_iff, beq_eq_false_iff_ne, ne_eq] at quote
  simp only [List.mem_cons, List.not_mem_nil, or_false, not_or] at mark
  simp [Scan.step, Scan.nested, quote, mark]

theorem Plain.step {c : Char} (h : Plain c) : ({} : Scan).step c = .ok ({}, .text [c]) :=
  step_ordinary h.quote h.mark

theorem isQuote_of_isNameChar {c : Char} (h : isNameChar c = true) : isQuote c = false := by
  rw [Bool.eq_false_iff]
  intro quote
  simp only [isQuote, Bool.or_eq_true, beq_iff_eq] at quote
  rcases quote with rfl | rfl <;> simp [isNameChar] at h

theorem not_mark_of_isNameChar {c : Char} (h : isNameChar c = true) :
    c ∉ ['\\', ',', '[', ']', '\x7b', '\x7d'] := by
  intro mark
  simp only [List.mem_cons, List.not_mem_nil, or_false] at mark
  rcases mark with rfl | rfl | rfl | rfl | rfl | rfl <;> simp [isNameChar] at h

theorem keeps_name {name : List Char} (h : ∀ c ∈ name, isNameChar c = true) :
    ({} : Scan).Keeps name {} :=
  Scan.keeps_of_forall fun c hc =>
    step_ordinary (isQuote_of_isNameChar (h c hc)) (not_mark_of_isNameChar (h c hc))

/-- Inside single quotes. -/
abbrev Scan.quoted : Scan := { quote := some '\'' }

theorem keeps_escapeChar (c : Char) : Scan.quoted.Keeps (escapeChar c) Scan.quoted := by
  rcases escapeChar_cases c with ⟨d, pair⟩ | ⟨single, slash, apostrophe⟩
  · rw [pair]
    intro current
    simp [Scan.run, Scan.step, bind, Except.bind]
  · rw [single]
    exact Scan.keeps_of_step (by simp [Scan.step, slash, apostrophe])

theorem keeps_escape (param : List Char) :
    Scan.quoted.Keeps (param.flatMap escapeChar) Scan.quoted := by
  induction param with
  | nil => exact Scan.keeps_nil _
  | cons c cs ih =>
    rw [List.flatMap_cons]
    exact Scan.keeps_append (keeps_escapeChar c) ih

theorem keeps_quote (param : List Char) : ({} : Scan).Keeps (quote param) {} := by
  have opened : ({} : Scan).step '\'' = .ok (Scan.quoted, .text ['\'']) := rfl
  have closed : Scan.quoted.step '\'' = .ok ({}, .text ['\'']) := rfl
  exact Scan.keeps_append (Scan.keeps_cons opened (keeps_escape param)) (Scan.keeps_of_step closed)

theorem keeps_writeWord (param : List Char) : ({} : Scan).Keeps (writeWord param) {} := by
  rcases writeWord_cases param with written | ⟨written, _, plain⟩ <;> rw [written]
  · exact keeps_quote param
  · exact Scan.keeps_of_forall fun c hc => (plain c hc).step

theorem keeps_join_words (params : List (List Char)) :
    ({} : Scan).Keeps ([' '].intercalate (params.map writeWord)) {} := by
  have space : ({} : Scan).Keeps [' '] {} := Scan.keeps_of_step rfl
  induction params with
  | nil => exact Scan.keeps_nil _
  | cons param params ih =>
    cases params with
    | nil => simpa using keeps_writeWord param
    | cons next params =>
      rw [List.map_cons, List.map_cons, List.intercalate_cons_cons]
      exact Scan.keeps_append (Scan.keeps_append (keeps_writeWord param) space) ih

/-! ### What is between quotes -/

theorem closedBy_escapeChar (c : Char) (cs : List Char) :
    closedBy '\'' (escapeChar c ++ cs) = (closedBy '\'' cs).map (escapeChar c ++ ·) := by
  rcases escapeChar_cases c with ⟨d, pair⟩ | ⟨single, slash, apostrophe⟩
  · rw [pair]
    rfl
  · rw [single, List.singleton_append, closedBy]
    · simp [apostrophe]
    · exact fun same => absurd same slash
    · exact fun _ _ same => absurd same slash

theorem closedBy_escape (param cs : List Char) :
    closedBy '\'' (param.flatMap escapeChar ++ cs) =
      (closedBy '\'' cs).map (param.flatMap escapeChar ++ ·) := by
  induction param with
  | nil => simp
  | cons c param ih =>
    rw [List.flatMap_cons, List.append_assoc, closedBy_escapeChar, ih, Option.map_map]
    simp [Function.comp_def]

theorem betweenQuotes_quote (param : List Char) :
    betweenQuotes (quote param) = some (param.flatMap escapeChar) := by
  have apostrophe : isQuote '\'' = true := rfl
  simp [betweenQuotes, quote, apostrophe, closedBy_escape, closedBy]

/-- A quoted literal with more text behind it is no single literal. -/
theorem betweenQuotes_quote_append (param : List Char) {c : Char} {cs : List Char} :
    betweenQuotes (quote param ++ c :: cs) = none := by
  have apostrophe : isQuote '\'' = true := rfl
  simp [betweenQuotes, quote, apostrophe, closedBy_escape, closedBy]

theorem betweenQuotes_of_head {cs : List Char} (h : ∀ c ∈ cs.head?, isQuote c = false) :
    betweenQuotes cs = none := by
  cases cs with
  | nil => rfl
  | cons c cs => simp [betweenQuotes, h c rfl]

theorem decodeWord_writeWord (param : List Char) : decodeWord (writeWord param) = param := by
  unfold decodeWord
  rcases writeWord_cases param with written | ⟨written, _, plain⟩ <;> rw [written]
  · rw [betweenQuotes_quote]
    exact unescape_escape param
  · rw [betweenQuotes_of_head fun c hc => (plain c (List.mem_of_mem_head? hc)).quote]

/-! ### Words -/

theorem wordsFrom_plain {word : List Char} (plain : ∀ c ∈ word, Plain c)
    (current rest : List Char) :
    wordsFrom none current (word ++ rest) = wordsFrom none (current ++ word) rest := by
  induction word generalizing current with
  | nil => simp
  | cons c word ih =>
    have first := plain c List.mem_cons_self
    have slash : c ≠ '\\' := fun same => first.mark (by simp [same])
    rw [List.cons_append, wordsFrom]
    · simp only [first.quote, first.blank, Bool.false_eq_true, if_false]
      rw [ih fun d hd => plain d (List.mem_cons_of_mem _ hd), List.append_assoc,
        List.singleton_append]
    · exact fun same => absurd same slash
    · exact fun _ _ same => absurd same slash

theorem wordsFrom_escapeChar (c : Char) (current rest : List Char) :
    wordsFrom (some '\'') current (escapeChar c ++ rest) =
      wordsFrom (some '\'') (current ++ escapeChar c) rest := by
  rcases escapeChar_cases c with ⟨d, pair⟩ | ⟨single, slash, apostrophe⟩
  · rw [pair]
    rfl
  · rw [single, List.singleton_append, wordsFrom]
    · simp [apostrophe]
    · exact fun same => absurd same slash
    · exact fun _ _ same => absurd same slash

theorem wordsFrom_escape (param current rest : List Char) :
    wordsFrom (some '\'') current (param.flatMap escapeChar ++ rest) =
      wordsFrom (some '\'') (current ++ param.flatMap escapeChar) rest := by
  induction param generalizing current with
  | nil => simp
  | cons c param ih =>
    rw [List.flatMap_cons, List.append_assoc, wordsFrom_escapeChar, ih, List.append_assoc]

theorem wordsFrom_quote (param current rest : List Char) :
    wordsFrom none current (quote param ++ rest) =
      wordsFrom none (current ++ quote param) rest := by
  have opened (cs : List Char) :
      wordsFrom none current ('\'' :: cs) = wordsFrom (some '\'') (current ++ ['\'']) cs := by
    rw [wordsFrom] <;> simp [isQuote]
  have closed (before cs : List Char) :
      wordsFrom (some '\'') before ('\'' :: cs) = wordsFrom none (before ++ ['\'']) cs := by
    rw [wordsFrom] <;> simp
  simp only [quote, List.cons_append, List.append_assoc, List.nil_append]
  rw [opened, wordsFrom_escape, closed]
  simp

theorem wordsFrom_writeWord (param current rest : List Char) :
    wordsFrom none current (writeWord param ++ rest) =
      wordsFrom none (current ++ writeWord param) rest := by
  rcases writeWord_cases param with written | ⟨written, _, plain⟩ <;> rw [written]
  · exact wordsFrom_quote param current rest
  · exact wordsFrom_plain plain current rest

theorem writeWord_ne_nil (param : List Char) : writeWord param ≠ [] := by
  rcases writeWord_cases param with written | ⟨written, some, _⟩ <;> rw [written]
  · simp [quote]
  · exact some

theorem pushWord_writeWord (param : List Char) (words : List (List Char)) :
    pushWord (writeWord param) words = param :: words := by
  simp [pushWord, writeWord_ne_nil, decodeWord_writeWord]

/-- Words written with spaces between are read back one by one. -/
theorem words_join (params : List (List Char)) :
    words ([' '].intercalate (params.map writeWord)) = params := by
  have space (current cs : List Char) :
      wordsFrom none current (' ' :: cs) = pushWord current (wordsFrom none [] cs) := by
    rw [wordsFrom] <;> simp [isQuote, isBlank]
  unfold words
  induction params with
  | nil => rfl
  | cons param params ih =>
    cases params with
    | nil =>
      have read := wordsFrom_writeWord param [] []
      simp only [List.append_nil, List.nil_append] at read
      rw [List.map_singleton, List.intercalate_singleton, read, wordsFrom, pushWord_writeWord]
    | cons next params =>
      rw [List.map_cons, List.map_cons, List.intercalate_cons_cons, List.append_assoc,
        wordsFrom_writeWord, List.singleton_append, space, List.nil_append, pushWord_writeWord]
      exact congrArg (param :: ·) ih

end TagSchema.Tag
