import Mathlib.Data.List.Basic
import TagSchema.Text.Camel

/-!
# Letters of a camel form

`letters_camel`: in ASCII the camel form of a name has the letters and digits of the name.
-/

namespace TagSchema.Text

variable {c : Char} {cs : List Char} {s : String}

def isSeparator (c : Char) : Bool := c == ' ' || c == '-' || c == '_'

/-! ### ASCII -/

def Ascii (cs : List Char) : Prop := ∀ c ∈ cs, c.toNat < 0x80

theorem ascii_cases {p : Char → Bool} (all : (List.range 0x80).all fun n => p (Char.ofNat n))
    (low : c.toNat < 0x80) : p c = true := by
  have here := List.all_eq_true.mp all c.toNat (List.mem_range.mpr low)
  rwa [Char.ofNat_toNat] at here

theorem ascii_letters (low : c.toNat < 0x80) : joins c = false ∧ c ≠ 'Σ' ∧
    c.toLower.toLower = c.toLower ∧ c.toUpper.toLower = c.toLower ∧
    isSeparator c.toLower = isSeparator c := by
  have all := ascii_cases (p := fun c => !joins c && c != 'Σ' &&
    c.toLower.toLower == c.toLower && c.toUpper.toLower == c.toLower &&
    isSeparator c.toLower == isSeparator c) (by decide +kernel) low
  simpa [and_assoc] using all

theorem clusters_ascii (ascii : Ascii cs) : clusters cs = cs.map ([·]) := by
  induction cs with
  | nil => rfl
  | cons c cs ih =>
    rw [clusters, ih fun d member => ascii d (List.mem_cons_of_mem _ member)]
    cases cs with
    | nil => rfl
    | cons d ds =>
      have apart := (ascii_letters (ascii d (by simp))).1
      simp [apart]

theorem lowerFrom_ascii (before : List Char) (ascii : Ascii cs) :
    lowerFrom before cs = cs.map Char.toLower := by
  induction cs generalizing before with
  | nil => rfl
  | cons c cs ih =>
    have low := ascii c List.mem_cons_self
    have other := (ascii_letters low).2.1
    rw [lowerFrom, ih _ fun d member => ascii d (List.mem_cons_of_mem _ member)]
    simp [other, lowerChar, low]

theorem toUpper_ascii (ascii : Ascii cs) :
    (toUpper (String.ofList cs)).toList = cs.map Char.toUpper := by
  rw [toUpper, String.toList_ofList, String.toList_ofList, List.map_eq_flatMap]
  refine List.flatMap_congr fun c member => ?_
  rw [upperChar, if_pos (ascii c member)]

/-! ### Words -/

theorem letterKind_single : letterKind [c] = .separator ↔ isSeparator c = true := by
  have same : ([c] == [' '] || [c] == ['-'] || [c] == ['_']) = isSeparator c := by
    simp [isSeparator]
  rw [letterKind, same]
  split
  · rename_i separator
    exact iff_of_true rfl separator
  · rename_i other
    refine iff_of_false ?_ other
    repeat' split
    all_goals nofun

/-- Words leave out the separators and nothing else. -/
theorem flatten_cutWords (gs : List (List Char)) :
    (cutWords gs).flatten = gs.filter fun g => letterKind g ≠ .separator := by
  induction gs with
  | nil => rfl
  | cons g gs ih =>
    rw [cutWords]
    split
    · rename_i separator
      rw [List.filter_cons_of_neg (by simpa using separator), ← ih]
      rfl
    · rename_i other
      rw [List.filter_cons_of_pos (by simpa using other), ← ih]
      split
      · rfl
      · cases cutWords gs <;> rfl

theorem flatten_words (ascii : Ascii cs) :
    (words cs).flatten = (cs.filter (!isSeparator ·)).map ([·]) := by
  rw [words, List.flatten_filter_not_isEmpty, flatten_cutWords, clusters_ascii ascii,
    List.filter_map]
  congr 2
  funext c
  rw [Function.comp_apply, decide_not, ← Bool.decide_coe (isSeparator c)]
  simp only [letterKind_single]

/-! ### Letters -/

/-- The characters of a name without its separators, in small letters. -/
def letters (s : String) : List Char := (s.toList.map Char.toLower).filter (!isSeparator ·)

theorem lowerWord_ascii {w : List (List Char)} (ascii : Ascii w.flatten) :
    (lowerWord w).toList = w.flatten.map Char.toLower := by
  rw [lowerWord, toLower, String.toList_ofList, String.toList_ofList, lowerFrom_ascii [] ascii]

theorem map_toLower_toLower (ascii : Ascii cs) :
    (cs.map Char.toLower).map Char.toLower = cs.map Char.toLower := by
  rw [List.map_map]
  exact List.map_congr_left fun c member => (ascii_letters (ascii c member)).2.2.1

theorem capitalWord_ascii {w : List (List Char)} (ascii : Ascii w.flatten) :
    (capitalWord w).toList.map Char.toLower = w.flatten.map Char.toLower := by
  cases w with
  | nil => rfl
  | cons g gs =>
    have ⟨first, rest⟩ := List.forall_mem_append.mp ascii
    have capitals : (g.map Char.toUpper).map Char.toLower = g.map Char.toLower := by
      rw [List.map_map]
      exact List.map_congr_left fun c member => (ascii_letters (first c member)).2.2.2.1
    rw [capitalWord, String.toList_append, List.map_append, toUpper_ascii first, capitals,
      lowerWord_ascii rest, map_toLower_toLower rest]
    exact List.map_append.symm

theorem join_capitalWord_ascii {ws : List (List (List Char))} (ascii : Ascii ws.flatten.flatten) :
    (String.join (ws.map capitalWord)).toList.map Char.toLower =
      ws.flatten.flatten.map Char.toLower := by
  induction ws with
  | nil => rfl
  | cons w ws ih =>
    rw [List.flatten_cons, List.flatten_append] at ascii ⊢
    have ⟨first, rest⟩ := List.forall_mem_append.mp ascii
    rw [List.map_cons, String.join_cons, String.toList_append, List.map_append, List.map_append,
      capitalWord_ascii first, ih rest]

/-- In ASCII the words of a name are run together with other capitals, and nothing else changes. -/
theorem letters_camel (ascii : Ascii s.toList) : letters (camel s) = letters s := by
  have whole : (words s.toList).flatten.flatten = s.toList.filter (!isSeparator ·) := by
    rw [flatten_words ascii, ← List.flatMap_def, List.flatMap_singleton']
  have low : Ascii (words s.toList).flatten.flatten := by
    rw [whole]
    exact fun c member => ascii c (List.mem_of_mem_filter member)
  have spelled : (camel s).toList.map Char.toLower =
      (words s.toList).flatten.flatten.map Char.toLower := by
    rw [camel]
    generalize words s.toList = ws at low
    cases ws with
    | nil => rfl
    | cons w ws =>
      rw [List.flatten_cons, List.flatten_append] at low ⊢
      have ⟨first, rest⟩ := List.forall_mem_append.mp low
      rw [String.toList_append, List.map_append, List.map_append, lowerWord_ascii first,
        map_toLower_toLower first, join_capitalWord_ascii rest]
  rw [letters, spelled, whole, letters, List.filter_map, List.filter_map, List.filter_filter]
  refine congrArg _ (List.filter_congr fun c member => ?_)
  simp [(ascii_letters (ascii c member)).2.2.2.2]

end TagSchema.Text
