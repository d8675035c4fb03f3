import TagSchema.Go.Name
import TagSchema.Proofs.Text.Case
import TagSchema.Proofs.Text.Fields

/-!
# Names of receivers

A receiver is a name unless some word of the type's name begins with a capital I with a dot, whose
small form ends with a mark: `isIdentifier_receiverName_iff`.
-/

namespace TagSchema.Go

open TagSchema.Text

theorem continuesName_of_isAlphabetic {c : Char} (h : isAlphabetic c = true) :
    continuesName c = true := by
  rw [continuesName, isAlphanumeric, h]
  rfl

theorem startsName_of_isAlphabetic {c : Char} (h : isAlphabetic c = true) :
    startsName c = true := by
  rw [startsName, h]
  rfl

theorem continuesName_of_startsName {c : Char} (h : startsName c = true) :
    continuesName c = true := by
  rcases Bool.or_eq_true_iff.mp h with h | h
  · exact continuesName_of_isAlphabetic h
  · rw [continuesName, h, Bool.or_true]

/-! ### Identifiers -/

theorem isSimpleIdentifier_iff {cs : List Char} : isSimpleIdentifier cs = true ↔
    (∃ c ∈ cs.head?, startsName c = true) ∧ (∀ c ∈ cs, continuesName c = true) ∧
      isKeyword (String.ofList cs) = false := by
  cases cs with
  | nil => simp [isSimpleIdentifier]
  | cons c cs =>
    simp only [isSimpleIdentifier, Bool.and_eq_true, List.all_eq_true, Bool.not_eq_true',
      List.head?_cons, Option.mem_some, exists_eq_left', List.forall_mem_cons, and_assoc]
    exact and_congr_right fun start => by simp [continuesName_of_startsName start]

theorem isIdentifier_of_isSimple {text : String} (h : isSimpleIdentifier text.toList = true) :
    isIdentifier text = true := by
  have noPoint : '.' ∉ text.toList := fun member =>
    absurd ((isSimpleIdentifier_iff.mp h).2.1 _ member) (by decide)
  simp [isIdentifier, fields_of_not_mem noPoint, h]

theorem continuesName_of_isIdentifier {text : String} (h : isIdentifier text = true) :
    ∀ c ∈ text.toList, c = '.' ∨ continuesName c = true := by
  intro c member
  rw [isIdentifier, Bool.and_eq_true, List.all_eq_true] at h
  have whole : ['.'].intercalate (fields '.' text.toList) = text.toList :=
    intercalate_fields text.toList
  rw [← whole] at member
  have parts := h.2
  generalize fields '.' text.toList = fs at member parts
  induction fs with
  | nil => cases member
  | cons f fs ih =>
    rw [List.forall_mem_cons] at parts
    have first := (isSimpleIdentifier_iff.mp parts.1).2.1
    cases fs with
    | nil => exact .inr (first c (by simpa using member))
    | cons g fs =>
      rw [List.intercalate_cons_cons, List.append_assoc, List.mem_append, List.mem_append] at member
      rcases member with member | member | member
      · exact .inr (first c member)
      · exact .inl (List.mem_singleton.mp member)
      · exact ih member parts.2

/-! ### Initials -/

/-- The capitals that follow a small letter or a digit. -/
def wordCapitals : List Char → List Char
  | c :: d :: cs =>
    (if isUppercase d && (isLowercase c || c.isDigit) then [d] else []) ++ wordCapitals (d :: cs)
  | _ => []

/-- The letters that a name's words begin with, as they are written. -/
def wordStarts (name : List Char) : List Char :=
  match name with
  | c :: d :: _ =>
    if !isAlphabetic c then [] else c :: (if isUppercase d then [] else wordCapitals name)
  | [c] => if isAlphabetic c then [c] else []
  | [] => []

theorem wordInitials_eq (name : List Char) :
    wordInitials name = (wordCapitals name).flatMap lowerChar := by
  induction name with
  | nil => rfl
  | cons c name ih =>
    cases name with
    | nil => rfl
    | cons d name =>
      rw [wordInitials, wordCapitals, ih, List.flatMap_append]
      split <;> simp

theorem initials_eq (name : List Char) : initials name = (wordStarts name).flatMap lowerChar := by
  match name with
  | [] => rfl
  | [c] =>
    rw [initials, wordStarts]
    split <;> simp
  | c :: d :: cs =>
    rw [initials, wordStarts]
    split
    · rfl
    · rw [List.flatMap_cons, wordInitials_eq]
      split <;> rfl

theorem isAlphabetic_of_mem_wordCapitals {name : List Char} {c : Char}
    (h : c ∈ wordCapitals name) : isAlphabetic c = true := by
  induction name with
  | nil => cases h
  | cons d name ih =>
    cases name with
    | nil => cases h
    | cons e name =>
      rw [wordCapitals, List.mem_append] at h
      rcases h with h | h
      · split at h
        · rename_i capital
          rw [List.mem_singleton.mp h]
          exact isAlphabetic_of_isUppercase (Bool.and_eq_true_iff.mp capital).1
        · cases h
      · exact ih h

theorem isAlphabetic_of_mem_wordStarts {name : List Char} {c : Char} (h : c ∈ wordStarts name) :
    isAlphabetic c = true := by
  unfold wordStarts at h
  split at h
  · split at h
    · cases h
    · rename_i letter
      rcases List.mem_cons.mp h with rfl | h
      · simpa using letter
      · split at h
        · cases h
        · exact isAlphabetic_of_mem_wordCapitals h
  · split at h
    · rename_i letter
      rwa [List.mem_singleton.mp h]
    · cases h
  · cases h

/-! ### Receivers -/

theorem isAlphabetic_of_mem_initials {name : List Char} (plain : '\u0130' ∉ wordStarts name)
    {c : Char} (h : c ∈ initials name) : isAlphabetic c = true := by
  rw [initials_eq] at h
  obtain ⟨d, start, member⟩ := List.mem_flatMap.mp h
  exact isAlphabetic_lowerChar (isAlphabetic_of_mem_wordStarts start)
    (fun same => plain (same ▸ start)) member

theorem mark_mem_initials {name : List Char} (h : '\u0130' ∈ wordStarts name) :
    '\u0307' ∈ initials name := by
  rw [initials_eq]
  exact List.mem_flatMap.mpr ⟨_, h, by decide⟩

/-- Whether a word of the type's name begins with a capital I with a dot. -/
def HasDottedInitial (typeName : String) : Prop := '\u0130' ∈ wordStarts (baseChars typeName.toList)

instance (typeName : String) : Decidable (HasDottedInitial typeName) :=
  inferInstanceAs (Decidable (_ ∈ _))

/-- The letters of a receiver, and the mark of a small I with a dot. -/
theorem mem_receiverName {typeName : String} {c : Char} (h : c ∈ (receiverName typeName).toList) :
    isAlphabetic c = true ∨ c = '\u0307' := by
  unfold receiverName at h
  dsimp only at h
  split at h
  · have fallback : "x".toList.all isAlphabetic = true := by decide
    exact .inl (List.all_eq_true.mp fallback c h)
  · rw [String.toList_ofList, initials_eq] at h
    obtain ⟨d, start, member⟩ := List.mem_flatMap.mp h
    by_cases dotted : d = '\u0130'
    · have small : ((lowerChar '\u0130').all fun c => isAlphabetic c || c == '\u0307') = true := by
        decide
      simpa using List.all_eq_true.mp small c (dotted ▸ member)
    · exact .inl (isAlphabetic_lowerChar (isAlphabetic_of_mem_wordStarts start) dotted member)

theorem isSimple_receiverName {typeName : String} (plain : ¬ HasDottedInitial typeName) :
    isSimpleIdentifier (receiverName typeName).toList = true := by
  unfold receiverName
  dsimp only
  split
  · decide
  · rename_i named
    rw [Bool.or_eq_true, not_or, Bool.not_eq_true, Bool.not_eq_true] at named
    have letters := fun c => isAlphabetic_of_mem_initials (c := c) plain
    rw [String.toList_ofList, isSimpleIdentifier_iff]
    refine ⟨?_, fun c member => continuesName_of_isAlphabetic (letters c member), named.2⟩
    cases found : initials (baseChars typeName.toList) with
    | nil =>
      rw [found] at named
      exact absurd named.1 (by decide)
    | cons c cs =>
      exact ⟨c, rfl, startsName_of_isAlphabetic (letters c (found ▸ List.mem_cons_self))⟩

/-- The mark of the small form stays in the receiver: no keyword has it. -/
theorem mark_mem_receiverName {typeName : String} (h : HasDottedInitial typeName) :
    '\u0307' ∈ (receiverName typeName).toList := by
  have mark := mark_mem_initials h
  have noKeyword : ∀ word ∈ keywords, '\u0307' ∉ word.toList := by decide
  unfold receiverName
  dsimp only
  rw [if_neg, String.toList_ofList]
  · exact mark
  · rw [Bool.or_eq_true, not_or]
    constructor
    · rw [String.isEmpty_iff]
      intro empty
      rw [← String.toList_eq_nil_iff, String.toList_ofList] at empty
      rw [empty] at mark
      cases mark
    · intro keyword
      refine noKeyword _ (List.contains_iff_mem.mp keyword) ?_
      rwa [String.toList_ofList]

theorem isIdentifier_receiverName_iff {typeName : String} :
    isIdentifier (receiverName typeName) = true ↔ ¬ HasDottedInitial typeName := by
  refine ⟨fun h dotted => ?_, fun plain => isIdentifier_of_isSimple (isSimple_receiverName plain)⟩
  have mark := continuesName_of_isIdentifier h _ (mark_mem_receiverName dotted)
  revert mark
  decide

end TagSchema.Go
