import TagSchema.Proofs.Go.Outside
import TagSchema.Proofs.Text.Fields
import TagSchema.Go.Expr

/-!
# Code in expressions

A code is a text with nested brackets, and a package is referred to where a path begins with its
name. `Shows` follows both through a text that is put together from words, literals and brackets;
`Expr.shows` does so for the arguments of calls.
-/

namespace TagSchema.Go

open TagSchema.Text

variable {allowed : Char → Bool}

/-! ### Nested brackets -/

def brackets : List (Char × Char) := [('(', ')'), ('[', ']'), ('\x7b', '\x7d')]

/-- Characters that are allowed, between brackets that are nested. -/
inductive IsCode (allowed : Char → Bool) : List Char → Prop where
  | nil : IsCode allowed []
  | char {c : Char} {cs : List Char} (ok : allowed c = true) (rest : IsCode allowed cs) :
      IsCode allowed (c :: cs)
  | group {opening closing : Char} {cs ds : List Char} (pair : (opening, closing) ∈ brackets)
      (inner : IsCode allowed cs) (rest : IsCode allowed ds) :
      IsCode allowed (opening :: (cs ++ closing :: ds))

theorem IsCode.append {cs ds : List Char} (first : IsCode allowed cs) (later : IsCode allowed ds) :
    IsCode allowed (cs ++ ds) := by
  induction first with
  | nil => exact later
  | char ok _ ih => exact .char ok ih
  | group pair inner _ _ ih =>
    rw [List.cons_append, List.append_assoc, List.cons_append]
    exact .group pair inner ih

theorem isCode_of_allowed {cs : List Char} (h : ∀ c ∈ cs, allowed c = true) :
    IsCode allowed cs := by
  induction cs with
  | nil => exact .nil
  | cons c cs ih =>
    rw [List.forall_mem_cons] at h
    exact .char h.1 (ih h.2)

theorem IsCode.mono {wider : Char → Bool} {cs : List Char}
    (wide : ∀ c, allowed c = true → wider c = true) (h : IsCode allowed cs) : IsCode wider cs := by
  induction h with
  | nil => exact .nil
  | char ok _ ih => exact .char (wide _ ok) ih
  | group pair _ _ inner rest => exact .group pair inner rest

theorem IsCode.forall_mem (good : Char → Prop) {cs : List Char}
    (chars : ∀ c, allowed c = true → good c) (pairs : ∀ b ∈ brackets, good b.1 ∧ good b.2)
    (h : IsCode allowed cs) : ∀ c ∈ cs, good c := by
  induction h with
  | nil => simp
  | char ok _ ih => exact List.forall_mem_cons.mpr ⟨chars _ ok, ih⟩
  | group pair _ _ inner rest =>
    have ends := pairs _ pair
    exact List.forall_mem_cons.mpr ⟨ends.1, List.forall_mem_append.mpr
      ⟨inner, List.forall_mem_cons.mpr ⟨ends.2, rest⟩⟩⟩

/-! ### References -/

def isPathChar (c : Char) : Bool := continuesName c || c == '.'

/-- The names in a code, each together with what it selects. -/
def paths (cs : List Char) : List (List Char) :=
  fields ' ' (cs.map fun c => if isPathChar c then c else ' ')

/-- Whether a code selects something from a package. -/
def refersTo (package : String) (cs : List Char) : Bool :=
  (paths cs).any ((package.toList ++ ['.']).isPrefixOf ·)

variable {package : String}

theorem refersTo_nil (package : String) : refersTo package [] = false := by
  rw [refersTo, paths, List.map_nil, fields, List.any_cons, List.any_nil, Bool.or_false]
  cases package.toList <;> rfl

theorem refersTo_break {c : Char} (ends : isPathChar c = false) (cs ds : List Char) :
    refersTo package (cs ++ c :: ds) = (refersTo package cs || refersTo package ds) := by
  rw [refersTo, paths, List.map_append, List.map_cons, ends, if_neg Bool.false_ne_true,
    fields_append, List.any_append]
  rfl

theorem refersTo_breaks {sep : List Char} (some : sep ≠ [])
    (ends : ∀ c ∈ sep, isPathChar c = false) (cs ds : List Char) :
    refersTo package (cs ++ sep ++ ds) = (refersTo package cs || refersTo package ds) := by
  induction sep generalizing cs with
  | nil => exact (some rfl).elim
  | cons c sep ih =>
    rw [List.forall_mem_cons] at ends
    rw [List.append_assoc, List.cons_append, refersTo_break ends.1]
    by_cases last : sep = []
    · rw [last, List.nil_append]
    · have rest := ih last ends.2 []
      rw [List.nil_append, refersTo_nil, Bool.false_or] at rest
      rw [rest]

theorem mem_of_refersTo {cs : List Char} (h : refersTo package cs = true) :
    ∀ c ∈ package.toList ++ ['.'], c ∈ cs := by
  obtain ⟨path, member, front⟩ := List.any_eq_true.mp h
  intro c present
  have inPath : c ∈ path := (List.isPrefixOf_iff_prefix.mp front).subset present
  obtain ⟨d, original, same⟩ := List.mem_map.mp (mem_of_mem_fields member inPath)
  split at same
  · exact same ▸ original
  · exact (not_mem_fields member (same ▸ inPath)).elim

theorem refersTo_path {cs : List Char} (path : ∀ c ∈ cs, isPathChar c = true) :
    refersTo package cs = (package.toList ++ ['.']).isPrefixOf cs := by
  have blank : isPathChar ' ' = false := by decide
  have noBlank : ' ' ∉ cs := by
    intro member
    rw [path _ member] at blank
    cases blank
  have same : cs.map (fun c => if isPathChar c then c else ' ') = cs :=
    (List.map_congr_left fun c member => if_pos (path c member)).trans (List.map_id cs)
  rw [refersTo, paths, same, fields_of_not_mem noBlank, List.any_cons, List.any_nil, Bool.or_false]

/-- A name with a selection refers to the package of that name. -/
theorem refersTo_select {name : String} {rest : List Char} (noPoint : '.' ∉ package.toList)
    (simple : ∀ c ∈ name.toList, continuesName c = true) (path : ∀ c ∈ rest, isPathChar c = true) :
    refersTo package (name.toList ++ '.' :: rest) = true ↔ name = package := by
  have point : isPathChar '.' = true ∧ continuesName '.' = false := by decide
  have noPoint' : '.' ∉ name.toList := by
    intro member
    rw [simple _ member] at point
    cases point.2
  have whole : ∀ c ∈ name.toList ++ '.' :: rest, isPathChar c = true := by
    rw [List.forall_mem_append, List.forall_mem_cons]
    refine ⟨fun c member => ?_, point.1, path⟩
    rw [isPathChar, simple c member, Bool.true_or]
  rw [refersTo_path whole, List.isPrefixOf_iff_prefix]
  constructor
  · rintro ⟨tail, same⟩
    -- Neither name has a point, so that both end at the first one.
    have cut := congrArg (fields '.') same
    rw [List.append_assoc, List.singleton_append, fields_append, fields_append,
      fields_of_not_mem noPoint, fields_of_not_mem noPoint'] at cut
    exact String.toList_inj.mp (List.cons.inj cut).1.symm
  · rintro rfl
    exact ⟨rest, by simp⟩

/-! ### Shown code -/

/-- Whatever its literals hold, the text shows a code that refers to what the words refer to. -/
def Shows (allowed : Char → Bool) (text : String) (words : List String) : Prop :=
  ∃ code, IsCode allowed code ∧ Displays text.toList code ∧
    ∀ package, refersTo package code = words.any (refersTo package ·.toList)

section Shows

variable {a b c left right : String} {us vs ws : List String}

theorem Shows.mono {wider : Char → Bool} (wide : ∀ c, allowed c = true → wider c = true)
    (h : Shows allowed a ws) : Shows wider a ws := by
  obtain ⟨code, nested, shown, refers⟩ := h
  exact ⟨code, nested.mono wide, shown, refers⟩

theorem Shows.of_toList (h : Shows allowed a ws) (same : b.toList = a.toList) :
    Shows allowed b ws := by
  rwa [String.toList_inj.mp same]

theorem shows_empty : Shows allowed "" [] :=
  ⟨[], .nil, displays_nil, fun package => refersTo_nil package⟩

theorem shows_quote (s : String) : Shows allowed (quote s) [] :=
  ⟨[], .nil, displays_quote s, fun package => refersTo_nil package⟩

theorem isQuiet_of_isCode (quiet : ∀ c, allowed c = true → isQuiet c = true) {cs : List Char}
    (h : IsCode allowed cs) : ∀ c ∈ cs, isQuiet c = true :=
  h.forall_mem _ quiet (by decide)

theorem shows_word (quiet : ∀ c, allowed c = true → isQuiet c = true)
    (h : IsCode allowed a.toList) : Shows allowed a [a] := by
  refine ⟨a.toList, h, displays_quiet (isQuiet_of_isCode quiet h), fun package => ?_⟩
  rw [List.any_cons, List.any_nil, Bool.or_false]

/-- Allowed characters that belong to no path. -/
def separates (allowed : Char → Bool) (sep : String) : Bool :=
  !sep.toList.isEmpty && sep.toList.all fun c => allowed c && isQuiet c && !isPathChar c

/-- Words on both sides of a separator stay apart. -/
theorem Shows.sep (first : Shows allowed a ws) (sep : String) (ok : separates allowed sep = true)
    (later : Shows allowed b vs) : Shows allowed (a ++ sep ++ b) (ws ++ vs) := by
  obtain ⟨code, nested, shown, refers⟩ := first
  obtain ⟨code', nested', shown', refers'⟩ := later
  simp only [separates, Bool.and_eq_true, List.all_eq_true, Bool.not_eq_true',
    List.isEmpty_eq_false_iff] at ok
  obtain ⟨filled, ok⟩ := ok
  refine ⟨code ++ sep.toList ++ code', ?_, ?_, fun package => ?_⟩
  · exact (nested.append (isCode_of_allowed fun c member => (ok c member).1.1)).append nested'
  · rw [String.toList_append, String.toList_append]
    exact (shown.append (displays_quiet fun c member => (ok c member).1.2)).append shown'
  · rw [refersTo_breaks filled fun c member => (ok c member).2, refers, refers', List.any_append]

/-- Brackets keep words apart, too. -/
theorem Shows.group (pair : ∃ p ∈ brackets, left.toList = [p.1] ∧ right.toList = [p.2])
    (before : Shows allowed a ws) (inner : Shows allowed b vs) (after : Shows allowed c us) :
    Shows allowed (a ++ left ++ b ++ right ++ c) (ws ++ vs ++ us) := by
  obtain ⟨⟨opening, closing⟩, pair, open', close'⟩ := pair
  obtain ⟨code, nested, shown, refers⟩ := before
  obtain ⟨code', nested', shown', refers'⟩ := inner
  obtain ⟨code'', nested'', shown'', refers''⟩ := after
  have quiet : ∀ p ∈ brackets, isQuiet p.1 = true ∧ isQuiet p.2 = true := by decide
  have ends : ∀ p ∈ brackets, isPathChar p.1 = false ∧ isPathChar p.2 = false := by
    decide
  refine ⟨code ++ opening :: (code' ++ closing :: code''), ?_, ?_, fun package => ?_⟩
  · exact nested.append (.group pair nested' nested'')
  · have whole := (((shown.append (displays_char (quiet _ pair).1)).append shown').append
      (displays_char (quiet _ pair).2)).append shown''
    simpa [String.toList_append, open', close'] using whole
  · rw [refersTo_break (ends _ pair).1, refersTo_break (ends _ pair).2, refers, refers', refers'',
      List.any_append, List.any_append, Bool.or_assoc]

theorem Shows.round (before : Shows allowed a ws) (inner : Shows allowed b vs)
    (after : Shows allowed c us) : Shows allowed (a ++ "(" ++ b ++ ")" ++ c) (ws ++ vs ++ us) :=
  .group ⟨('(', ')'), by decide⟩ before inner after

theorem Shows.square (before : Shows allowed a ws) (inner : Shows allowed b vs)
    (after : Shows allowed c us) : Shows allowed (a ++ "[" ++ b ++ "]" ++ c) (ws ++ vs ++ us) :=
  .group ⟨('[', ']'), by decide⟩ before inner after

theorem Shows.curly (before : Shows allowed a ws) (inner : Shows allowed b vs)
    (after : Shows allowed c us) :
    Shows allowed (a ++ "\x7b" ++ b ++ "\x7d" ++ c) (ws ++ vs ++ us) :=
  .group ⟨('\x7b', '\x7d'), by decide⟩ before inner after

end Shows

/-! ### Arguments -/

def isCodeChar (c : Char) : Bool := isAlphanumeric c || "_.*+-,: ".toList.contains c

theorem isQuiet_of_isCodeChar {c : Char} (h : isCodeChar c = true) : isQuiet c = true := by
  have noisy : isCodeChar '"' = false ∧ isCodeChar '/' = false := by decide
  rw [isQuiet, Bool.and_eq_true, bne_iff_ne, bne_iff_ne]
  constructor
  · rintro rfl
    rw [h] at noisy
    cases noisy.1
  · rintro rfl
    rw [h] at noisy
    cases noisy.2

/-- Code that can stand alone. -/
def IsWord (w : String) : Prop := IsCode isCodeChar w.toList

theorem isWord_of_all {w : String} (h : w.toList.all isCodeChar = true) : IsWord w :=
  isCode_of_allowed (List.all_eq_true.mp h)

theorem isCodeChar_of_continuesName {c : Char} (h : continuesName c = true) :
    isCodeChar c = true := by
  rcases Bool.or_eq_true_iff.mp h with h | h
  · rw [isCodeChar, h, Bool.true_or]
  · rw [beq_iff_eq.mp h]
    decide

theorem isCodeChar_of_isPathChar {c : Char} (h : isPathChar c = true) : isCodeChar c = true := by
  rcases Bool.or_eq_true_iff.mp h with h | h
  · exact isCodeChar_of_continuesName h
  · rw [beq_iff_eq.mp h]
    decide

theorem IsWord.shows {w : String} (h : IsWord w) : Shows isCodeChar w [w] :=
  shows_word (fun _ => isQuiet_of_isCodeChar) h

namespace Expr

mutual

/-- The words outside of literals. -/
def words : Expr → List String
  | text _ => []
  | word s => [s]
  | call function args => function :: wordsAll args
  | slice elementType items => elementType :: wordsAll items
  | map valueType entries => "map" :: "string" :: valueType :: wordsEntries entries

def wordsAll : List Expr → List String
  | [] => []
  | e :: es => e.words ++ wordsAll es

def wordsEntries : List (String × Expr) → List String
  | [] => []
  | (_, e) :: es => e.words ++ wordsEntries es

end

theorem wordsAll_append (es fs : List Expr) : wordsAll (es ++ fs) = wordsAll es ++ wordsAll fs := by
  induction es with
  | nil => rfl
  | cons e es ih => rw [List.cons_append, wordsAll, wordsAll, ih, List.append_assoc]

theorem shows_commas {part : String} {parts ws vs : List String} (first : Shows isCodeChar part ws)
    (none : parts = [] → vs = []) (later : Shows isCodeChar (commas parts) vs) :
    Shows isCodeChar (commas (part :: parts)) (ws ++ vs) := by
  cases parts with
  | nil =>
    rw [none rfl, List.append_nil, commas, String.intercalate_singleton]
    exact first
  | cons next parts =>
    rw [commas, String.intercalate_cons_cons]
    exact first.sep ", " (by decide) later

mutual

theorem shows (e : Expr) (ok : ∀ w ∈ e.words, IsWord w) : Shows isCodeChar e.render e.words := by
  cases e with
  | text s => exact shows_quote s
  | word s =>
    exact (ok s List.mem_cons_self).shows
  | call function args =>
    rw [words, List.forall_mem_cons] at ok
    have whole := ok.1.shows.round (showsAll args ok.2) shows_empty
    simpa [render, words, String.append_assoc] using whole
  | slice elementType items =>
    rw [words, List.forall_mem_cons] at ok
    have filled := ok.1.shows.curly (showsAll items ok.2) shows_empty
    have whole := shows_empty.square shows_empty filled
    simpa [render, words, String.append_assoc] using whole
  | map valueType entries =>
    rw [words, List.forall_mem_cons, List.forall_mem_cons, List.forall_mem_cons] at ok
    have whole := ok.1.shows.square ok.2.1.shows
      (ok.2.2.1.shows.curly (showsEntries entries ok.2.2.2) shows_empty)
    simpa [render, words, String.append_assoc] using whole

theorem showsAll (es : List Expr) (ok : ∀ w ∈ wordsAll es, IsWord w) :
    Shows isCodeChar (commas (renderAll es)) (wordsAll es) := by
  cases es with
  | nil => exact shows_empty
  | cons e es =>
    rw [wordsAll, List.forall_mem_append] at ok
    refine shows_commas (shows e ok.1) (fun none => ?_) (showsAll es ok.2)
    cases es with
    | nil => rfl
    | cons => cases none

theorem showsEntries (es : List (String × Expr)) (ok : ∀ w ∈ wordsEntries es, IsWord w) :
    Shows isCodeChar (commas (renderEntries es)) (wordsEntries es) := by
  match es with
  | [] => exact shows_empty
  | (k, e) :: es =>
    rw [wordsEntries, List.forall_mem_append] at ok
    have entry := (shows_quote k).sep ": " (by decide) (shows e ok.1)
    refine shows_commas entry (fun none => ?_) (showsEntries es ok.2)
    cases es with
    | nil => rfl
    | cons => cases none

end

end Expr

end TagSchema.Go
