import Mathlib.Data.List.Chain
import TagSchema.Coerce.Complex
import TagSchema.Proofs.Number.Shortest
import TagSchema.Proofs.Text.Trim

/-!
# Complex literals

`parseComplex_literal`: two texts that are read as doubles, the second one with a sign, make a
complex literal of their values. No sign inside a numeral is mistaken for the beginning of the
imaginary part, because in a numeral a sign is first or belongs to an exponent (`Numerical`).
-/

namespace TagSchema.Coerce

open TagSchema.Number

/-! ### Signs in numerals -/

def IsSign (c : Char) : Prop := c = '+' ∨ c = '-'

def IsMark (c : Char) : Prop := c = 'e' ∨ c = 'E'

/-- Whether `after` can stand behind `before`: only an exponent has a sign inside. -/
def Follows (before after : Char) : Prop := IsSign after → IsMark before

/-- The text of a numeral as far as it matters to what surrounds it. -/
structure Numerical (cs : List Char) : Prop where
  filled : cs ≠ []
  signs : cs.IsChain Follows
  last : ∀ c ∈ cs.getLast?, ¬ IsMark c
  clean : ∀ c ∈ cs, Text.isBlank c = false ∧ c ≠ '('

theorem not_isSign_of_isDigit {c : Char} (digit : c.isDigit = true) : ¬ IsSign c := by
  rintro (rfl | rfl) <;> cases digit

theorem not_isMark_of_isDigit {c : Char} (digit : c.isDigit = true) : ¬ IsMark c := by
  rintro (rfl | rfl) <;> cases digit

theorem clean_of_isNumeralChar {c : Char} (h : isNumeralChar c = true) :
    Text.isBlank c = false ∧ c ≠ '(' := by
  refine ⟨isBlank_of_isNumeralChar h, ?_⟩
  rintro rfl
  cases h

theorem isChain_cons {c : Char} {cs : List Char} (unsigned : ∀ d ∈ cs, ¬ IsSign d) :
    (c :: cs).IsChain Follows := by
  induction cs generalizing c with
  | nil => exact .singleton c
  | cons d cs ih =>
    have ⟨first, rest⟩ := List.forall_mem_cons.mp unsigned
    exact .cons_cons (fun sign => (first sign).elim) (ih rest)

theorem isChain_of_unsigned {cs : List Char} (unsigned : ∀ c ∈ cs, ¬ IsSign c) :
    cs.IsChain Follows := by
  cases cs with
  | nil => exact .nil
  | cons c cs => exact isChain_cons fun d member => unsigned d (List.mem_cons_of_mem c member)

theorem isBlank_of_toLower {c : Char} (solid : Text.isBlank c.toLower = false) :
    Text.isBlank c = false := by
  by_contra blank
  have code := Text.code_of_isBlank (Bool.not_eq_false _ ▸ blank)
  have same : c.toLower = c := by
    unfold Char.toLower
    rw [dif_neg]
    rintro ⟨low, high⟩
    have low : 65 ≤ c.toNat := UInt32.le_iff_toNat_le.mp low
    have high : c.toNat ≤ 90 := UInt32.le_iff_toNat_le.mp high
    omega
  rw [same] at solid
  exact blank solid

/-- The names of infinity and of what is no number have neither signs nor an `e`. -/
theorem numerical_of_name {cs : List Char} {name : String}
    (same : cs.map Char.toLower = name.toList) (named : name ∈ ["nan", "inf", "infinity"]) :
    Numerical cs ∧ ∀ c ∈ cs, ¬ IsSign c := by
  have letters : (["nan", "inf", "infinity"].all fun name => !name.toList.isEmpty &&
      name.toList.all fun c => Text.isBlank c = false ∧ c ∉ ['+', '-', 'e', '(']) = true := by
    decide
  obtain ⟨filled, plain⟩ := Bool.and_eq_true_iff.mp (List.all_eq_true.mp letters name named)
  have lower {c : Char} (member : c ∈ cs) :=
    of_decide_eq_true (List.all_eq_true.mp plain c.toLower (same ▸ List.mem_map_of_mem member))
  have unsigned : ∀ c ∈ cs, ¬ IsSign c := by
    rintro c member (rfl | rfl)
    · exact (lower member).2 (by decide)
    · exact (lower member).2 (by decide)
  refine ⟨⟨?_, isChain_of_unsigned unsigned, ?_, ?_⟩, unsigned⟩
  · rintro rfl
    rw [← same] at filled
    cases filled
  · rintro c last (rfl | rfl)
    · exact (lower (List.mem_of_getLast? last)).2 (by decide)
    · exact (lower (List.mem_of_getLast? last)).2 (by decide)
  · intro c member
    refine ⟨isBlank_of_toLower (lower member).1, ?_⟩
    rintro rfl
    exact (lower member).2 (by decide)

theorem signs_of_exponent {cs : List Char} {e : Int} (scaled : Exponent cs e) :
    cs.IsChain Follows ∧ (∀ c ∈ cs.head?, ¬ IsSign c) ∧ ∀ c ∈ cs.getLast?, ¬ IsMark c := by
  cases scaled with
  | none => exact ⟨.nil, nofun, nofun⟩
  | @marked mark negative ds rest isMark filled digits signed =>
    have unsigned : ∀ c ∈ ds, ¬ IsSign c := fun c member => not_isSign_of_isDigit (digits c member)
    have head : ∀ c ∈ (mark :: rest).head?, ¬ IsSign c := by
      rintro c ⟨⟩
      rcases isMark with rfl | rfl <;> (rintro (same | same) <;> cases same)
    obtain ⟨d, ds, rfl⟩ := List.exists_cons_of_ne_nil filled
    have last : ∀ c ∈ (d :: ds).getLast?, ¬ IsMark c :=
      fun c member => not_isMark_of_isDigit (digits c (List.mem_of_getLast? member))
    cases signed with
    | bare => exact ⟨isChain_cons unsigned, head, by simpa using last⟩
    | plus | minus =>
      exact ⟨.cons_cons (fun _ => isMark) (isChain_cons unsigned), head, by simpa using last⟩

theorem numerical_of_readMagnitude {cs : List Char} {m : Nat × Int}
    (h : readMagnitude cs = some m) : Numerical cs ∧ ∀ c ∈ cs.head?, ¬ IsSign c := by
  have numeral := isNumeralChar_of_readMagnitude h
  obtain ⟨whole, fraction, mantissa, exponent, e, filled, digits, pointed, scaled, rfl⟩ :=
    mantissa_of_read h
  obtain ⟨signs, head, last⟩ := signs_of_exponent scaled
  have plain : ∀ c ∈ mantissa, c.isDigit = true ∨ c = '.' := by
    intro c member
    cases pointed with
    | plain => exact .inl (digits c (List.mem_append_left _ member))
    | pointed =>
      rw [List.mem_append, List.mem_cons, or_left_comm, ← List.mem_append] at member
      exact member.symm.imp_left (digits c)
  have unsigned : ∀ c ∈ mantissa, ¬ IsSign c := by
    intro c member
    rcases plain c member with digit | rfl
    · exact not_isSign_of_isDigit digit
    · rintro (same | same) <;> cases same
  have unmarked : ∀ c ∈ mantissa, ¬ IsMark c := by
    intro c member
    rcases plain c member with digit | rfl
    · exact not_isMark_of_isDigit digit
    · rintro (same | same) <;> cases same
  refine ⟨⟨?_, ?_, ?_, fun c member => clean_of_isNumeralChar (numeral c member)⟩, ?_⟩
  · obtain ⟨c, member⟩ := List.exists_mem_of_ne_nil _ filled
    exact List.ne_nil_of_mem (List.mem_append_left exponent (mem_of_mantissa pointed member))
  · exact List.isChain_append.mpr ⟨isChain_of_unsigned unsigned, signs,
      fun _ _ c member sign => (head c member sign).elim⟩
  · intro c member
    rw [Option.mem_def, List.getLast?_append, Option.or_eq_some_iff] at member
    rcases member with inside | ⟨_, before⟩
    · exact last c inside
    · exact unmarked c (List.mem_of_getLast? before)
  · intro c member
    rw [Option.mem_def, List.head?_append, Option.or_eq_some_iff] at member
    rcases member with inside | ⟨_, after⟩
    · exact unsigned c (List.mem_of_mem_head? inside)
    · exact head c after

theorem numerical_of_readUnsigned {negative : Bool} {cs : List Char} {n : Numeral}
    (h : readUnsigned negative cs = some n) : Numerical cs ∧ ∀ c ∈ cs.head?, ¬ IsSign c := by
  have name {name : String} (same : cs.map Char.toLower = name.toList)
      (named : name ∈ ["nan", "inf", "infinity"]) :
      Numerical cs ∧ ∀ c ∈ cs.head?, ¬ IsSign c := by
    obtain ⟨numerical, unsigned⟩ := numerical_of_name same named
    exact ⟨numerical, fun c head => unsigned c (List.mem_of_mem_head? head)⟩
  simp only [readUnsigned] at h
  split at h
  · rename_i nan
    exact name nan (by simp)
  · split at h
    · rename_i infinite
      rcases (Bool.or_eq_true _ _).mp infinite with short | long
      · exact name (of_decide_eq_true short) (by simp)
      · exact name (of_decide_eq_true long) (by simp)
    · obtain ⟨m, magnitude, _⟩ := Option.map_eq_some_iff.mp h
      exact numerical_of_readMagnitude magnitude

theorem numerical_of_read? {cs : List Char} {n : Numeral} (h : Numeral.read? cs = some n) :
    Numerical cs := by
  have signed {sign : Char} {cs : List Char} (isSign : IsSign sign)
      (unsigned : Numerical cs ∧ ∀ c ∈ cs.head?, ¬ IsSign c) : Numerical (sign :: cs) := by
    obtain ⟨⟨filled, signs, last, clean⟩, head⟩ := unsigned
    obtain ⟨c, cs, rfl⟩ := List.exists_cons_of_ne_nil filled
    refine ⟨List.cons_ne_nil _ _, .cons_cons (fun sign => (head c rfl sign).elim) signs, ?_, ?_⟩
    · simpa using last
    · refine List.forall_mem_cons.mpr ⟨?_, clean⟩
      rcases isSign with rfl | rfl <;> decide
  unfold Numeral.read? at h
  split at h
  · exact signed (.inr rfl) (numerical_of_readUnsigned h)
  · exact signed (.inl rfl) (numerical_of_readUnsigned h)
  · exact (numerical_of_readUnsigned h).1

/-! ### The two parts -/

theorem isBoundary_iff {c d : Char} {cs : List Char} :
    isBoundary (c :: d :: cs) = true ↔ ¬ Follows d c := by
  simp [isBoundary, Follows, IsSign, IsMark]

/-- The cut is made at the sign before which no `e` stands, and not sooner. -/
theorem cutReversed_append {im re : List Char} {sign d : Char} (isSign : IsSign sign)
    (signs : (im ++ [sign]).IsChain fun c d => Follows d c) (unmarked : ¬ IsMark d) :
    cutReversed (im ++ sign :: d :: re) = some (im ++ [sign], d :: re) := by
  induction im with
  | nil =>
    have boundary : isBoundary (sign :: d :: re) = true :=
      isBoundary_iff.mpr fun follows => unmarked (follows isSign)
    rw [List.nil_append, cutReversed, if_pos boundary]
    rfl
  | cons c im ih =>
    have inside : isBoundary (c :: (im ++ sign :: d :: re)) = false := by
      rw [Bool.eq_false_iff, ne_eq]
      cases im with
      | nil => exact fun boundary => isBoundary_iff.mp boundary (List.isChain_cons_cons.mp signs).1
      | cons b im =>
        exact fun boundary => isBoundary_iff.mp boundary (List.isChain_cons_cons.mp signs).1
    rw [List.cons_append, cutReversed, inside, if_neg (by simp), ih signs.tail]
    rfl

theorem splitParts_append {re im : List Char} {sign : Char} (isSign : IsSign sign)
    (real : Numerical re) (imaginary : Numerical (sign :: im)) :
    splitParts (re ++ sign :: im) = (re, sign :: im) := by
  have backward : (im.reverse ++ [sign]).IsChain fun c d => Follows d c := by
    rw [← List.reverse_cons, List.isChain_reverse]
    exact imaginary.signs
  obtain ⟨cs, d, rfl⟩ := (List.eq_nil_or_concat' re).resolve_left real.filled
  have reversed : (cs ++ [d] ++ sign :: im).reverse = im.reverse ++ sign :: d :: cs.reverse := by
    simp
  have cut : cutReversed (im.reverse ++ sign :: d :: cs.reverse) =
      some (im.reverse ++ [sign], d :: cs.reverse) :=
    cutReversed_append isSign backward (real.last d (by simp))
  rw [splitParts, reversed, cut]
  simp

/-! ### Literals -/

/-- A literal, or a literal in parentheses with blanks on either side. -/
inductive Enclosed (literal : String) : String → Prop
  | bare : Enclosed literal literal
  | parens {before after : String} (blank : Text.allBlank before.toList = true)
      (blank' : Text.allBlank after.toList = true) :
      Enclosed literal ("(" ++ before ++ literal ++ after ++ ")")

theorem trimChars_blanks {before cs after : List Char} (blank : Text.allBlank before = true)
    (blank' : Text.allBlank after = true) (solid : Text.Bare cs) :
    Text.trimChars (before ++ cs ++ after) = cs := by
  rw [Text.trimChars_append_blank _ blank', Text.trimChars_blank_append _ blank,
    Text.trimChars_of_bare solid]

/-- Neither blanks nor parentheses around a literal matter. -/
theorem withoutParens_of_enclosed {literal text before after : String}
    (solid : Text.Bare literal.toList) (noParen : '(' ∉ literal.toList.head?)
    (enclosed : Enclosed literal text) (blank : Text.allBlank before.toList = true)
    (blank' : Text.allBlank after.toList = true) :
    withoutParens (Text.trimChars (before ++ text ++ after).toList) = literal.toList := by
  rw [String.toList_append, String.toList_append]
  cases enclosed with
  | bare =>
    rw [trimChars_blanks blank blank' solid]
    unfold withoutParens
    split
    · rename_i text
      exact (noParen (by rw [text]; rfl)).elim
    · rfl
  | @parens left right inner inner' =>
    have text : ("(" ++ left ++ literal ++ right ++ ")").toList =
        '(' :: (left.toList ++ literal.toList ++ right.toList ++ [')']) := by simp
    have bare : Text.Bare ("(" ++ left ++ literal ++ right ++ ")").toList := by
      rw [text]
      refine ⟨?_, ?_⟩
      · rintro c ⟨⟩
        rfl
      · rw [← List.cons_append, List.getLast?_concat]
        rintro c ⟨⟩
        rfl
    have closed : (left.toList ++ literal.toList ++ right.toList ++ [')']).getLast? = some ')' := by
      simp
    rw [trimChars_blanks blank blank' bare, text, withoutParens, closed, List.dropLast_concat]
    exact trimChars_blanks inner inner' solid

/-- A sign alone is one unit to the imaginary part, but no numeral. -/
theorem readImaginary?_eq {cs : List Char} {y : Binary64} (read : readDouble? cs = some y) :
    readImaginary? cs = some y := by
  have numeral (other : List Char) (none : readDouble? other = none) : cs ≠ other := by
    rintro rfl
    rw [none] at read
    cases read
  have filled := numeral [] (by decide)
  have plus := numeral ['+'] (by decide)
  have minus := numeral ['-'] (by decide)
  simp [readImaginary?, filled, plus, minus, read]

theorem parseComplex_of_parts {text : String} {re im : List Char} {sign unit : Char}
    {x y : Binary64} (isSign : IsSign sign) (isUnit : unit = 'i' ∨ unit = 'j')
    (parts : withoutParens (Text.trimChars text.toList) = re ++ sign :: im ++ [unit])
    (real : readDouble? re = some x) (imaginary : readDouble? (sign :: im) = some y) :
    parseComplex text = .ok ⟨x, y⟩ := by
  obtain ⟨n, numeral, rfl⟩ := Option.map_eq_some_iff.mp real
  obtain ⟨k, numeral', rfl⟩ := Option.map_eq_some_iff.mp imaginary
  have first := numerical_of_read? numeral
  have second := numerical_of_read? numeral'
  have marked : (unit == 'i' || unit == 'j') = true := by
    rcases isUnit with rfl | rfl <;> rfl
  have read := readImaginary?_eq imaginary
  have filled : re.isEmpty = false := by simpa using first.filled
  simp only [parseComplex, parts, List.getLast?_concat, List.dropLast_concat, marked, if_true,
    splitParts_append isSign first second, filled, real, read]
  rfl

/-- A literal of two parts has the values of the parts. -/
theorem parseComplex_enclosed {a b text before after : String} {sign unit : Char}
    {x y : Binary64} (real : Binary.read? a = some x) (imaginary : Binary.read? b = some y)
    (begins : b.toList.head? = some sign) (isSign : IsSign sign) (isUnit : unit = 'i' ∨ unit = 'j')
    (enclosed : Enclosed (a ++ b ++ String.singleton unit) text)
    (blank : Text.allBlank before.toList = true) (blank' : Text.allBlank after.toList = true) :
    parseComplex (before ++ text ++ after) = .ok ⟨x, y⟩ := by
  obtain ⟨n, numeral, _⟩ := Option.map_eq_some_iff.mp real
  obtain ⟨im, spelled⟩ := List.head?_eq_some_iff.mp begins
  have first := numerical_of_read? numeral
  have shape : (a ++ b ++ String.singleton unit).toList = a.toList ++ sign :: im ++ [unit] := by
    rw [String.toList_append, String.toList_append, spelled, String.toList_singleton]
  obtain ⟨c, cs, letters⟩ := List.exists_cons_of_ne_nil first.filled
  have clean := first.clean c (by rw [letters]; exact List.mem_cons_self)
  have second : readDouble? (sign :: im) = some y := by
    rw [← spelled]
    exact imaginary
  refine parseComplex_of_parts isSign isUnit ?_ real second
  rw [← shape]
  refine withoutParens_of_enclosed ?_ ?_ enclosed blank blank'
  · rw [shape, letters]
    refine ⟨?_, ?_⟩
    · rintro c ⟨⟩
      exact clean.1
    · rw [List.getLast?_concat]
      rintro c ⟨⟩
      rcases isUnit with rfl | rfl <;> decide
  · rw [shape, letters]
    intro same
    exact clean.2 (Option.some.inj same)

theorem parseComplex_text (c : Complex128) (re : c.re.isFinite = true) (im : c.im.isFinite = true) :
    parseComplex c.text = .ok c := by
  obtain ⟨ds, text, readBack⟩ := Binary.exists_digits im
  generalize spelled : (if c.im.isNegative then "" else "+") ++ c.im.text = b
  obtain ⟨sign, begins, isSign, signed⟩ : ∃ sign, b.toList.head? = some sign ∧ IsSign sign ∧
      SignedDigits ds c.im.isNegative b.toList := by
    rw [← spelled, String.toList_append, text]
    cases c.im.isNegative with
    | true => exact ⟨'-', rfl, .inr rfl, .minus⟩
    | false => exact ⟨'+', rfl, .inl rfl, .plus⟩
  have enclosed : Enclosed (c.re.text ++ b ++ String.singleton 'i') c.text := by
    have same : c.text = "(" ++ "" ++ (c.re.text ++ b ++ String.singleton 'i') ++ "" ++ ")" := by
      rw [← spelled, Complex.text]
      apply String.toList_inj.mp
      simp [String.toList_append]
    rw [same]
    exact .parens rfl rfl
  have parsed : parseComplex ("" ++ c.text ++ "") = .ok ⟨c.re, c.im⟩ :=
    parseComplex_enclosed (Binary.read?_text re) (readBack b signed) begins isSign (.inl rfl)
      enclosed rfl rfl
  simpa using parsed

/-- Two parts make a literal of their values, and what is printed for two finite parts is such a
literal. -/
theorem parseComplex_literal :
    (∀ {a b text before after : String} {sign unit : Char} {x y : Binary64},
      Binary.read? a = some x → Binary.read? b = some y → b.toList.head? = some sign →
      sign = '+' ∨ sign = '-' → unit = 'i' ∨ unit = 'j' →
      Enclosed (a ++ b ++ String.singleton unit) text → Text.allBlank before.toList = true →
      Text.allBlank after.toList = true → parseComplex (before ++ text ++ after) = .ok ⟨x, y⟩) ∧
    ∀ c : Complex128, c.re.isFinite = true → c.im.isFinite = true → parseComplex c.text = .ok c :=
  ⟨parseComplex_enclosed, parseComplex_text⟩

theorem parseComplex_literal_exponent :
    parseComplex " (1e+5-infinityj )" = .ok ⟨Binary.ofNat 100000, Binary.infinity true⟩ ∧
      parseComplex (Complex.text ⟨Binary.zero true, Binary.ofInt (-3)⟩) =
        .ok ⟨Binary.zero true, Binary.ofInt (-3)⟩ := by
  have literal : " (1e+5-infinityj )" =
      " " ++ ("(" ++ "" ++ ("1e+5" ++ "-infinity" ++ String.singleton 'j') ++ " " ++ ")") ++
        "" := by
    decide
  refine ⟨?_, parseComplex_literal.2 _ (by decide) (by decide)⟩
  rw [literal]
  exact parseComplex_literal.1 (by decide +kernel) (by decide +kernel) (by decide) (.inr rfl)
    (.inr rfl) (.parens (by decide) (by decide)) (by decide) (by decide)

end TagSchema.Coerce
