import TagSchema.Go.Name
import TagSchema.Proofs.Go.Quoted
import TagSchema.Proofs.Text.Fields

/-!
# Code around string literals

What a text says outside its string literals, and which packages that refers to. A quoted text ends
where its literal ends, whatever it holds: `afterLiteral_quoteChars`.
-/

namespace TagSchema.Go

open TagSchema.Text (isAlphanumeric fields)

/-! ### String literals -/

/-- The text behind the closing quote of a literal whose opening quote has been read. -/
def afterLiteral (cs : List Char) : Option (List Char) :=
  match cs with
  | [] => none
  | c :: rest =>
    if c == '"' then some rest
    else if c == '\n' then none
    else if c == '\\' then
      match h : unescape rest with
      | none => none
      | some (_, after) =>
        have := unescape_length h
        afterLiteral after
    else afterLiteral rest
termination_by cs.length

theorem afterLiteral_length {cs after : List Char} (h : afterLiteral cs = some after) :
    after.length ≤ cs.length := by
  induction cs using afterLiteral.induct with
  | case1 => simp [afterLiteral] at h
  | case2 c rest quote =>
    rw [afterLiteral, if_pos quote] at h
    obtain rfl := Option.some.inj h
    exact Nat.le_succ _
  | case3 c rest noQuote newline =>
    rw [afterLiteral, if_neg noQuote, if_pos newline] at h
    cases h
  | case4 c rest noQuote noNewline escape bad =>
    rw [afterLiteral, if_neg noQuote, if_neg noNewline, if_pos escape] at h
    split at h
    · cases h
    · simp_all
  | case5 c rest noQuote noNewline escape value next read shorter ih =>
    rw [afterLiteral, if_neg noQuote, if_neg noNewline, if_pos escape] at h
    split at h
    · cases h
    · rename_i again
      rw [read] at again
      obtain ⟨_, rfl⟩ := Prod.mk.inj (Option.some.inj again)
      exact Nat.le_succ_of_le (Nat.le_trans (ih h) shorter)
  | case6 c rest noQuote noNewline noEscape ih =>
    rw [afterLiteral, if_neg noQuote, if_neg noNewline, if_neg noEscape] at h
    exact Nat.le_succ_of_le (ih h)

/-- The text outside of string literals, and outside of comments if these do not count either. -/
def outside (comments : Bool) (cs : List Char) : Option (List Char) :=
  match cs with
  | [] => some []
  | c :: rest =>
    if c == '"' then
      match h : afterLiteral rest with
      | none => none
      | some after =>
        have := afterLiteral_length h
        outside comments after
    else if comments && "//".toList.isPrefixOf (c :: rest) then
      outside comments (rest.dropWhile (· != '\n'))
    else (outside comments rest).map (c :: ·)
termination_by cs.length
decreasing_by
  · exact Nat.lt_succ_of_le this
  · exact Nat.lt_succ_of_le (List.dropWhile_suffix _).length_le
  · exact Nat.lt_succ_self _

/-- The text behind a line comment. -/
theorem outside_comment {cs : List Char} (line : '\n' ∉ cs) (rest : List Char) :
    outside true ("//".toList ++ cs ++ '\n' :: rest) =
      (outside true rest).map ('\n' :: ·) := by
  have cut : ("/".toList ++ cs ++ '\n' :: rest).dropWhile (· != '\n') = '\n' :: rest := by
    rw [List.dropWhile_append_of_pos]
    · rw [List.dropWhile_cons_of_neg (by decide)]
    · simp only [List.mem_append, bne_iff_ne]
      rintro c (slash | inside) rfl
      · exact absurd slash (by decide)
      · exact line inside
  show outside true ('/' :: ("/".toList ++ cs ++ '\n' :: rest)) = _
  rw [outside, if_neg (by decide), if_pos (by rfl), cut, outside, if_neg (by decide),
    if_neg (by exact Bool.false_ne_true)]

/-! ### Quoted text -/

theorem afterLiteral_escape {cs rest : List Char} (value : Char)
    (h : unescape cs = some (value, rest)) : afterLiteral ('\\' :: cs) = afterLiteral rest := by
  rw [afterLiteral, if_neg (by decide), if_neg (by decide), if_pos (by decide)]
  split
  · rename_i bad
    rw [h] at bad
    cases bad
  · rename_i again
    rw [h] at again
    rw [(Prod.mk.inj (Option.some.inj again)).2]

/-- A character of a quoted text never ends the literal. -/
theorem afterLiteral_quoteChar (c : Char) (rest : List Char) :
    afterLiteral (quoteChar c ++ rest) = afterLiteral rest := by
  rcases quoteChar_cases c with ⟨d, ds, escaped, -, -, read⟩ | ⟨plain, control, quote, slash⟩
  · rw [escaped]
    exact afterLiteral_escape c (read rest)
  · have newline : c ≠ '\n' := by
      rintro rfl
      cases control
    rw [plain, List.singleton_append, afterLiteral, if_neg (by simpa using quote),
      if_neg (by simpa using newline), if_neg (by simpa using slash)]

theorem afterLiteral_quoteChars (cs rest : List Char) :
    afterLiteral (cs.flatMap quoteChar ++ '"' :: rest) = some rest := by
  induction cs with
  | nil => rw [List.flatMap_nil, List.nil_append, afterLiteral, if_pos (by decide)]
  | cons c cs ih => rw [List.flatMap_cons, List.append_assoc, afterLiteral_quoteChar, ih]

/-! ### Displayed code -/

/-- A text that shows a code, whatever text comes behind. -/
def Displays (text code : List Char) : Prop :=
  ∀ comments tail, outside comments (text ++ tail) = (outside comments tail).map (code ++ ·)

theorem Displays.outside {text code : List Char} (h : Displays text code) (comments : Bool) :
    outside comments text = some code := by
  have whole := h comments []
  rw [List.append_nil, Go.outside] at whole
  rw [whole, Option.map_some, List.append_nil]

theorem displays_nil : Displays [] [] := fun comments tail => by
  rw [List.nil_append]
  exact Option.map_id'.symm

theorem Displays.append {text code text' code' : List Char} (first : Displays text code)
    (later : Displays text' code') : Displays (text ++ text') (code ++ code') := by
  intro comments tail
  rw [List.append_assoc, first, later, Option.map_map]
  exact congrArg (Option.map · _) (funext fun _ => (List.append_assoc _ _ _).symm)

/-- Neither a quote nor a slash, which may begin a comment. -/
def isQuiet (c : Char) : Bool := c != '"' && c != '/'

theorem displays_char {c : Char} (h : isQuiet c = true) : Displays [c] [c] := by
  intro comments tail
  simp only [isQuiet, Bool.and_eq_true, bne_iff_ne] at h
  have noComment : "//".toList.isPrefixOf (c :: tail) = false := by
    show ('/' == c && _) = false
    rw [beq_false_of_ne h.2.symm, Bool.false_and]
  rw [List.singleton_append, Go.outside, if_neg (by simpa using h.1), noComment, Bool.and_false,
    if_neg Bool.false_ne_true]
  rfl

theorem displays_quiet {cs : List Char} (h : ∀ c ∈ cs, isQuiet c = true) : Displays cs cs := by
  induction cs with
  | nil => exact displays_nil
  | cons c cs ih =>
    rw [List.forall_mem_cons] at h
    exact (displays_char h.1).append (ih h.2)

theorem displays_quote (s : String) : Displays (quote s).toList [] := by
  intro comments tail
  rw [quote, String.toList_ofList, quoteChars, List.append_assoc]
  show Go.outside comments ('"' :: (s.toList.flatMap quoteChar ++ '"' :: tail)) = _
  rw [Go.outside, if_pos (by decide)]
  split
  · rename_i bad
    rw [afterLiteral_quoteChars] at bad
    cases bad
  · rename_i after read
    rw [afterLiteral_quoteChars] at read
    obtain rfl := Option.some.inj read
    exact Option.map_id'.symm

end TagSchema.Go
