import TagSchema.Proofs.Tag.Param

/-!
# Tags and rule lists

Reading gives well-formed rule lists only, and writing is a section of it: `wellFormed_of_parse` and
`parse_write_of_wellFormed`.
-/

namespace TagSchema

open TagSchema.Text (allBlank)

/-- What a rule of a tag always satisfies. -/
structure Rule.WellFormed (r : Rule) : Prop where
  named : r.name ≠ ""
  nameChars : ∀ c ∈ r.name.toList, c.isAlphanum ∨ c = '_'
  params : ∀ k, r.kind? = some k → k.takesParam = true → r.params ≠ []
  regex : r.name = "regex" → r.params.length ≤ 1
  filled : r.params ≠ [] → ∃ p ∈ r.params, allBlank p.toList = false

namespace Tag

open TagSchema.Text (isBlank Bare trimChars)

theorem isNameChar_iff {c : Char} : isNameChar c = true ↔ c.isAlphanum ∨ c = '_' := by
  simp [isNameChar]

theorem code_of_isNameChar {c : Char} (h : isNameChar c = true) :
    48 ≤ c.toNat ∧ c.toNat < 0x80 := by
  unfold isNameChar Char.isAlphanum Char.isAlpha Char.isUpper Char.isLower Char.isDigit at h
  simp only [Bool.or_eq_true, Bool.and_eq_true, decide_eq_true_eq, beq_iff_eq, ge_iff_le,
    UInt32.le_iff_toNat_le] at h
  rcases h with h | rfl
  · simp at h
    omega
  · decide

theorem isBlank_of_isNameChar {c : Char} (h : isNameChar c = true) : isBlank c = false := by
  rw [Bool.eq_false_iff]
  intro blank
  have name := code_of_isNameChar h
  have code := Text.code_of_isBlank blank
  omega

/-! ### Where a rule is cut -/

theorem splitEquals_of_not_mem {token : List Char} (h : '=' ∉ token) :
    splitEquals token = (token, none) := by
  have rest : token.dropWhile (· != '=') = [] := by
    rw [List.dropWhile_eq_nil_iff]
    intro c member
    exact bne_iff_ne.mpr (ne_of_mem_of_not_mem member h)
  rw [splitEquals, rest]

theorem splitEquals_append {name : List Char} (h : '=' ∉ name) (body : List Char) :
    splitEquals (name ++ '=' :: body) = (name, some body) := by
  have other : ∀ c ∈ name, (c != '=') = true :=
    fun c member => bne_iff_ne.mpr (ne_of_mem_of_not_mem member h)
  rw [splitEquals, List.dropWhile_append_of_pos other, List.takeWhile_append_of_pos other]
  simp

theorem not_mem_of_isNameChar {name : List Char} (h : ∀ c ∈ name, isNameChar c = true) :
    '=' ∉ name :=
  fun member => absurd (h _ member) (by decide)

/-! ### Written parameter lists -/

/-- The text behind the `=` of a rule that has parameters. -/
def writeParams : List String → List Char
  | [p] => writeLone p.toList
  | ps => [' '].intercalate (ps.map (writeWord ·.toList))

theorem writeRuleChars_eq {r : Rule} (some : r.params ≠ []) :
    writeRuleChars r = r.name.toList ++ '=' :: writeParams r.params := by
  unfold writeRuleChars writeParams
  split
  · rename_i none
    exact absurd none some
  · rename_i p lone
    rw [lone]
  · rename_i noParam noLone
    split
    · rename_i p lone
      exact absurd lone (noLone p)
    · rfl

theorem writeLone_cases (param : List Char) :
    writeLone param = writeWord param ∨
      writeLone param = param ∧ isJsonShaped param = true ∧ isVerbatim param = true := by
  unfold writeLone
  split
  · rename_i shaped
    exact .inr ⟨rfl, by simpa using shaped⟩
  · exact .inl rfl

theorem isJsonShaped_cases {text : List Char} (h : isJsonShaped text = true) :
    text.head? = some '[' ∧ text.getLast? = some ']' ∨
      text.head? = some '\x7b' ∧ text.getLast? = some '\x7d' := by
  simpa [isJsonShaped] using h

theorem isJsonShaped_of_head {text : List Char}
    (h : ∀ c ∈ text.head?, c ≠ '[' ∧ c ≠ '\x7b') : isJsonShaped text = false := by
  rw [Bool.eq_false_iff]
  intro shaped
  rcases isJsonShaped_cases shaped with ⟨head, _⟩ | ⟨head, _⟩
  · exact (h _ head).1 rfl
  · exact (h _ head).2 rfl

theorem head_writeWord (param : List Char) :
    ∀ c ∈ (writeWord param).head?, isBlank c = false ∧ c ≠ '[' ∧ c ≠ '\x7b' := by
  intro c hc
  rcases writeWord_cases param with written | ⟨written, _, plain⟩ <;> rw [written] at hc
  · obtain rfl : c = '\'' := by simpa [quote] using hc.symm
    decide
  · have plain := plain c (List.mem_of_mem_head? hc)
    exact ⟨plain.blank, fun same => plain.mark (by simp [same]),
      fun same => plain.mark (by simp [same])⟩

theorem last_writeWord (param : List Char) :
    ∀ c ∈ (writeWord param).getLast?, isBlank c = false := by
  intro c hc
  rcases writeWord_cases param with written | ⟨written, _, plain⟩ <;> rw [written] at hc
  · rw [quote, List.getLast?_concat] at hc
    obtain rfl : '\'' = c := Option.some.inj hc
    decide
  · exact (plain c (List.mem_of_getLast? hc)).blank

theorem join_words_cons (param : List Char) (params : List (List Char)) :
    [' '].intercalate ((param :: params).map writeWord) =
      writeWord param ++
        if params = [] then [] else ' ' :: [' '].intercalate (params.map writeWord) := by
  cases params with
  | nil => simp
  | cons next params =>
    rw [List.map_cons, List.map_cons, List.intercalate_cons_cons, List.append_assoc]
    simp

theorem head_join_words (params : List (List Char)) :
    ∀ c ∈ ([' '].intercalate (params.map writeWord)).head?,
      isBlank c = false ∧ c ≠ '[' ∧ c ≠ '\x7b' := by
  intro c hc
  cases params with
  | nil => simp at hc
  | cons param params =>
    rw [join_words_cons, List.head?_append_of_ne_nil _ (writeWord_ne_nil param)] at hc
    exact head_writeWord param c hc

theorem join_words_ne_nil {params : List (List Char)} (some : params ≠ []) :
    [' '].intercalate (params.map writeWord) ≠ [] := by
  obtain ⟨param, params, rfl⟩ := List.exists_cons_of_ne_nil some
  rw [join_words_cons]
  exact List.append_ne_nil_of_left_ne_nil (writeWord_ne_nil param) _

theorem last_join_words (params : List (List Char)) :
    ∀ c ∈ ([' '].intercalate (params.map writeWord)).getLast?, isBlank c = false := by
  induction params with
  | nil => simp
  | cons param params ih =>
    intro c hc
    rw [join_words_cons] at hc
    split at hc
    · rw [List.append_nil] at hc
      exact last_writeWord param c hc
    · rename_i more
      rw [List.getLast?_append_of_ne_nil _ (List.cons_ne_nil _ _),
        List.getLast?_cons_of_ne_nil (join_words_ne_nil more)] at hc
      exact ih c hc

/-- A rule has one parameter, of any spelling, or several words. -/
theorem writeParams_cases {ps : List String} (some : ps ≠ []) :
    (∃ p, ps = [p] ∧ writeParams ps = p.toList ∧ isJsonShaped p.toList = true ∧
        isVerbatim p.toList = true) ∨
      writeParams ps = [' '].intercalate ((ps.map String.toList).map writeWord) := by
  unfold writeParams
  split
  · rename_i p
    rcases writeLone_cases p.toList with written | ⟨written, shaped⟩
    · exact .inr (by simp [written])
    · exact .inl ⟨p, rfl, written, shaped⟩
  · exact .inr (by simp [Function.comp_def])

theorem keeps_of_isJsonShaped {text : List Char} (shaped : isJsonShaped text = true)
    (verbatim : isVerbatim text = true) : ({} : Scan).Keeps text {} := by
  rcases isJsonShaped_cases shaped with ⟨_, last⟩ | ⟨_, last⟩ <;>
  · obtain ⟨before, rfl⟩ := List.getLast?_eq_some_iff.mp last
    exact keeps_of_isVerbatim (by decide) verbatim

theorem keeps_writeParams {ps : List String} (some : ps ≠ []) :
    ({} : Scan).Keeps (writeParams ps) {} := by
  rcases writeParams_cases some with ⟨p, _, written, shaped, verbatim⟩ | written <;> rw [written]
  · exact keeps_of_isJsonShaped shaped verbatim
  · exact keeps_join_words _

theorem bare_of_isJsonShaped {text : List Char} (shaped : isJsonShaped text = true) :
    Bare text := by
  rcases isJsonShaped_cases shaped with ⟨head, last⟩ | ⟨head, last⟩ <;>
  · simp only [Bare, head, last, Option.mem_some_iff, forall_eq']
    decide

theorem bare_writeParams {ps : List String} (some : ps ≠ []) : Bare (writeParams ps) := by
  rcases writeParams_cases some with ⟨p, _, written, shaped, _⟩ | written <;> rw [written]
  · exact bare_of_isJsonShaped shaped
  · exact ⟨fun c hc => (head_join_words _ c hc).1, last_join_words _⟩

theorem writeParams_ne_nil {ps : List String} (some : ps ≠ []) : writeParams ps ≠ [] := by
  rcases writeParams_cases some with ⟨p, _, written, shaped, _⟩ | written <;> rw [written]
  · rintro none
    rw [none] at shaped
    exact absurd shaped (by decide)
  · exact join_words_ne_nil (by simpa using some)

theorem params_writeWord (name : List Char) (param : List Char) :
    params name (writeWord param) = [param] := by
  have shaped := isJsonShaped_of_head fun c hc => (head_writeWord param c hc).2
  unfold params
  rw [shaped]
  rcases writeWord_cases param with written | ⟨written, _, plain⟩ <;> rw [written]
  · rw [betweenQuotes_quote]
    simp [unescape_escape]
  · have solid : param.any isBlank = false := by
      rw [List.any_eq_false]
      intro c hc
      simp [(plain c hc).blank]
    rw [betweenQuotes_of_head fun c hc => (plain c (List.mem_of_mem_head? hc)).quote, solid]
    simp

theorem betweenQuotes_words (param next : List Char) (params : List (List Char)) :
    betweenQuotes ([' '].intercalate ((param :: next :: params).map writeWord)) = none := by
  rw [join_words_cons]
  simp only [reduceCtorEq, if_false]
  rcases writeWord_cases param with written | ⟨written, _, plain⟩
  · rw [written, betweenQuotes_quote_append]
  · refine betweenQuotes_of_head fun c hc => ?_
    rw [List.head?_append_of_ne_nil _ (writeWord_ne_nil param), written] at hc
    exact (plain c (List.mem_of_mem_head? hc)).quote

/-- Several words are cut at their spaces, except in a regular expression. -/
theorem params_words {name : List Char} (other : name ≠ "regex".toList) (param next : List Char)
    (ps : List (List Char)) :
    params name ([' '].intercalate ((param :: next :: ps).map writeWord)) =
      param :: next :: ps := by
  have shaped := isJsonShaped_of_head fun c hc => (head_join_words (param :: next :: ps) c hc).2
  have spaced : ([' '].intercalate ((param :: next :: ps).map writeWord)).any isBlank = true := by
    rw [join_words_cons]
    simp [isBlank]
  unfold params
  rw [shaped, betweenQuotes_words, spaced]
  simp only [Bool.false_eq_true, if_false, bne_iff_ne.mpr other, Bool.and_self, if_true]
  exact words_join (param :: next :: ps)

theorem params_writeParams {name : List Char} {ps : List String} (some : ps ≠ [])
    (whole : name = "regex".toList → ps.length ≤ 1) :
    params name (writeParams ps) = ps.map String.toList := by
  rcases writeParams_cases some with ⟨p, rfl, written, shaped, _⟩ | written <;> rw [written]
  · rw [params, shaped, if_pos rfl, List.map_singleton]
  · match ps, some with
    | [p], _ => simpa using params_writeWord name p.toList
    | p :: q :: ps, _ =>
      refine params_words (fun regex => ?_) _ _ _
      simpa using whole regex

/-! ### Rules -/

theorem keeps_writeRuleChars {r : Rule} (h : r.WellFormed) :
    ({} : Scan).Keeps (writeRuleChars r) {} := by
  have name := keeps_name fun c hc => isNameChar_iff.mpr (h.nameChars c hc)
  by_cases none : r.params = []
  · rw [writeRuleChars, none]
    exact name
  · rw [writeRuleChars_eq none]
    exact Scan.keeps_append name (Scan.keeps_cons rfl (keeps_writeParams none))

theorem parseParams_none {r : Rule} (h : r.WellFormed) (empty : r.params = []) :
    parseParams r.name.toList none = .ok [] := by
  have needless : (Rule.Kind.ofName? r.name).any (·.takesParam) = false := by
    rw [Option.any_eq_false]
    intro k kind
    rw [Bool.eq_false_iff]
    exact fun takes => h.params k kind takes empty
  simp [parseParams, needless]

theorem parseParams_some {r : Rule} (h : r.WellFormed) (some : r.params ≠ []) :
    parseParams r.name.toList (writeParams r.params) = .ok r.params := by
  have whole : r.name.toList = "regex".toList → r.params.length ≤ 1 :=
    fun same => h.regex (String.toList_inj.mp same)
  have read := params_writeParams some whole
  obtain ⟨c, cs, body⟩ := List.exists_cons_of_ne_nil (writeParams_ne_nil some)
  have kept := Text.trimChars_of_bare (bare_writeParams some)
  rw [body] at kept read ⊢
  simp only [parseParams, Option.map_some, kept, read, List.map_map]
  simp [Function.comp_def]

theorem parseToken_writeRuleChars {r : Rule} (h : r.WellFormed) :
    parseToken (writeRuleChars r) = .ok r := by
  have chars : ∀ c ∈ r.name.toList, isNameChar c = true :=
    fun c hc => isNameChar_iff.mpr (h.nameChars c hc)
  have named : r.name.toList.isEmpty = false := by
    rw [List.isEmpty_eq_false_iff]
    exact fun empty => h.named (String.toList_eq_nil_iff.mp empty)
  have kept : trimChars r.name.toList = r.name.toList :=
    Text.trimChars_of_bare (Text.bare_of_no_blank fun c hc => isBlank_of_isNameChar (chars c hc))
  have allChars : r.name.toList.all isNameChar = true := List.all_eq_true.mpr chars
  have filled : (!r.params.isEmpty && r.params.all (allBlank ·.toList)) = false := by
    rw [Bool.and_eq_false_imp]
    intro some
    obtain ⟨p, member, solid⟩ := h.filled (by simpa using some)
    rw [List.all_eq_false]
    exact ⟨p, member, by simp [solid]⟩
  have read : ∃ body, splitEquals (writeRuleChars r) = (r.name.toList, body) ∧
      parseParams r.name.toList body = .ok r.params := by
    by_cases empty : r.params = []
    · refine ⟨none, ?_, by rw [parseParams_none h empty, empty]⟩
      rw [writeRuleChars, empty]
      exact splitEquals_of_not_mem (not_mem_of_isNameChar chars)
    · refine ⟨some (writeParams r.params), ?_, parseParams_some h empty⟩
      rw [writeRuleChars_eq empty, splitEquals_append (not_mem_of_isNameChar chars)]
  obtain ⟨body, cut, read⟩ := read
  simp only [parseToken, cut, kept, named, allChars, read, bind, Except.bind, pure, Except.pure,
    filled, Bool.not_true, Bool.false_eq_true, if_false, String.ofList_toList]

/-! ### Rule lists -/

theorem writeRuleChars_head {r : Rule} (h : r.WellFormed) :
    ∃ c ∈ writeRuleChars r, isBlank c = false := by
  obtain ⟨c, cs, name⟩ := List.exists_cons_of_ne_nil
    fun empty => h.named (String.toList_eq_nil_iff.mp empty)
  have char : isNameChar c = true := isNameChar_iff.mpr (h.nameChars c (by simp [name]))
  refine ⟨c, ?_, isBlank_of_isNameChar char⟩
  by_cases empty : r.params = []
  · rw [writeRuleChars, empty, name]
    exact List.mem_cons_self
  · rw [writeRuleChars_eq empty, name]
    exact List.mem_cons_self

theorem allBlank_writeChars {r : Rule} {rs : List Rule} (h : r.WellFormed) :
    allBlank (writeChars (r :: rs)) = false := by
  obtain ⟨c, member, solid⟩ := writeRuleChars_head h
  refine Text.allBlank_eq_false_iff.mpr ⟨c, ?_, solid⟩
  unfold writeChars
  cases rs with
  | nil => simpa using member
  | cons next rs =>
    rw [List.map_cons, List.map_cons, List.intercalate_cons_cons]
    exact List.mem_append_left _ (List.mem_append_left _ member)

theorem parse_write_of_wellFormed {rs : List Rule} (h : ∀ r ∈ rs, r.WellFormed) :
    parse (write rs) = .ok rs := by
  rw [parse, write, String.toList_ofList, parseChars]
  cases rs with
  | nil => rfl
  | cons r rs =>
    have whole : ∀ text ∈ (r :: rs).map writeRuleChars, ({} : Scan).Keeps text {} := by
      intro text member
      obtain ⟨written, present, rfl⟩ := List.mem_map.mp member
      exact keeps_writeRuleChars (h written present)
    have cut : split (writeChars (r :: rs)) = .ok ((r :: rs).map writeRuleChars) :=
      split_join (by simp) whole
    have read := mapM_ok_of_map fun written present => parseToken_writeRuleChars (h written present)
    simp only [allBlank_writeChars (h r List.mem_cons_self), cut, bind, Except.bind,
      Bool.false_eq_true, if_false]
    exact read

/-! ### What a tag gives -/

theorem wordsFrom_ne_nil (quote : Option Char) {current : List Char} (started : current ≠ [])
    (cs : List Char) : wordsFrom quote current cs ≠ [] := by
  induction quote, current, cs using wordsFrom.induct with
  | case1 quote current => simp [wordsFrom, pushWord, started]
  | case2 quote current => simp [wordsFrom, pushWord]
  | case3 quote current c cs ih =>
    rw [wordsFrom]
    exact ih (by simp)
  | case4 current c cs noPair noEnd q ih =>
    rw [wordsFrom]
    · exact ih (by simp)
    all_goals assumption
  | case5 current c cs noPair noEnd quote ih =>
    rw [wordsFrom]
    · simp only [quote, if_true]
      exact ih (by simp)
    all_goals assumption
  | case6 current c cs noPair noEnd quote blank ih =>
    rw [wordsFrom]
    · simp [quote, blank, pushWord, started]
    all_goals assumption
  | case7 current c cs noPair noEnd quote blank ih =>
    rw [wordsFrom]
    · simp only [quote, blank, Bool.false_eq_true, if_false]
      exact ih (by simp)
    all_goals assumption

theorem words_ne_nil {body : List Char} (some : body ≠ [])
    (solid : ∀ c ∈ body.head?, isBlank c = false) : words body ≠ [] := by
  obtain ⟨c, cs, rfl⟩ := List.exists_cons_of_ne_nil some
  have first := solid c rfl
  by_cases slash : c = '\\'
  · subst slash
    cases cs with
    | nil => simp [words, wordsFrom, pushWord]
    | cons d ds =>
      rw [words, wordsFrom]
      exact wordsFrom_ne_nil none (by simp) ds
  · rw [words, wordsFrom]
    · simp only [first, Bool.false_eq_true, if_false]
      split
      · exact wordsFrom_ne_nil _ (by simp) cs
      · exact wordsFrom_ne_nil _ (by simp) cs
    · exact fun same => absurd same slash
    · exact fun _ _ same => absurd same slash

theorem params_ne_nil (name : List Char) {body : List Char} (some : body ≠ []) (bare : Bare body) :
    params name body ≠ [] := by
  unfold params
  split
  · simp
  · split
    · simp
    · split
      · exact words_ne_nil some bare.1
      · simp

theorem params_regex_length (body : List Char) : (params "regex".toList body).length = 1 := by
  unfold params
  split
  · rfl
  · split <;> simp

theorem parseParams_spec {name : List Char} {body : Option (List Char)} {ps : List String}
    (h : parseParams name body = .ok ps) :
    (∀ k, Rule.Kind.ofName? (String.ofList name) = some k → k.takesParam = true → ps ≠ []) ∧
      (name = "regex".toList → ps.length ≤ 1) := by
  unfold parseParams at h
  split at h
  · split at h
    · cases h
    · rename_i needless
      obtain rfl := Except.ok.inj h
      refine ⟨fun k kind takes => ?_, fun _ => Nat.zero_le _⟩
      exact absurd (by simp [kind, takes]) needless
  · cases h
  · rename_i body some trimmed
    obtain ⟨raw, _, rfl⟩ := Option.map_eq_some_iff.mp trimmed
    obtain rfl := Except.ok.inj h
    refine ⟨fun _ _ _ => ?_, ?_⟩
    · simpa using params_ne_nil name some (Text.trimChars_bare raw)
    · rintro rfl
      exact Nat.le_of_eq (by rw [List.length_map, params_regex_length])

theorem wellFormed_of_parseToken {token : List Char} {r : Rule} (h : parseToken token = .ok r) :
    r.WellFormed := by
  simp only [parseToken] at h
  split at h
  · cases h
  rename_i named
  split at h
  · cases h
  rename_i chars
  obtain ⟨ps, read, h⟩ := bind_ok h
  split at h
  · cases h
  rename_i filled
  obtain rfl := pure_ok h
  obtain ⟨needed, whole⟩ := parseParams_spec read
  have allChars : ∀ c ∈ trimChars (splitEquals token).1, isNameChar c = true := by
    simpa using chars
  refine ⟨?_, ?_, needed, ?_, ?_⟩
  · simpa using named
  · intro c hc
    rw [String.toList_ofList] at hc
    exact isNameChar_iff.mp (allChars c hc)
  · intro regex
    exact whole (by rw [← regex, String.toList_ofList])
  · intro some
    simpa [some] using filled

theorem wellFormed_of_parse {tag : String} {rs : List Rule} (h : parse tag = .ok rs) :
    ∀ r ∈ rs, r.WellFormed := by
  intro r member
  simp only [parse, parseChars] at h
  split at h
  · obtain rfl := pure_ok h
    cases member
  · obtain ⟨tokens, _, h⟩ := bind_ok h
    obtain ⟨token, _, read⟩ := (mem_mapM_ok h).mp member
    exact wellFormed_of_parseToken read

/-- Reading a tag gives well-formed rules only, each list of those is read back from what is
written for it, and so writing a tag's rules anew keeps its meaning. -/
theorem parse_write_roundTrip :
    (∀ tag rs, parse tag = .ok rs → ∀ r ∈ rs, r.WellFormed) ∧
      (∀ rs : List Rule, (∀ r ∈ rs, r.WellFormed) → parse (write rs) = .ok rs) ∧
      ∀ tag rs, parse tag = .ok rs → parse (write rs) = parse tag :=
  ⟨fun _ _ h => wellFormed_of_parse h, fun _ h => parse_write_of_wellFormed h,
    fun _ _ h => (parse_write_of_wellFormed (wellFormed_of_parse h)).trans h.symm⟩

theorem parse_write_quotes_and_brackets :
    let rules : List Rule :=
      [⟨"enum", ["it's", "", "a,b]", "\t"]⟩, ⟨"default", ["[\"x\", 1]"]⟩, ⟨"includes", ["[\"]"]⟩,
        ⟨"regex", ["^\\d{1,3} $"]⟩]
    (∀ r ∈ rules, r.WellFormed) ∧ parse (write rules) = .ok rules := by
  intro rules
  have wellFormed : ∀ r ∈ rules, r.WellFormed := by
    intro r member
    simp only [rules, List.mem_cons, List.not_mem_nil, or_false] at member
    rcases member with rfl | rfl | rfl | rfl <;>
      refine ⟨by decide, fun c hc => isNameChar_iff.mp (List.all_eq_true.mp (by decide) c hc),
        fun _ _ _ => List.cons_ne_nil _ _, by decide, fun _ => ⟨_, List.mem_cons_self, by decide⟩⟩
  exact ⟨wellFormed, parse_write_roundTrip.2.1 rules wellFormed⟩

end Tag

end TagSchema
