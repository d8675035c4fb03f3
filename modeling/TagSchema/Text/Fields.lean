/-!
# Separated fields

Text cut at every separator. `fields_length` counts the fields.
-/

namespace TagSchema.Text

/-- The pieces between separators; one more than there are separators. -/
def fields (sep : Char) : List Char → List (List Char)
  | [] => [[]]
  | c :: cs =>
    if c == sep then [] :: fields sep cs
    else match fields sep cs with
      | f :: fs => (c :: f) :: fs
      | [] => [[c]]

theorem fields_ne_nil (sep : Char) (cs : List Char) : fields sep cs ≠ [] := by
  cases cs with
  | nil => simp [fields]
  | cons c cs =>
    unfold fields
    split
    · simp
    · split <;> simp

theorem fields_length (sep : Char) (cs : List Char) :
    (fields sep cs).length = cs.count sep + 1 := by
  induction cs with
  | nil => rfl
  | cons c cs ih =>
    by_cases h : c = sep
    · simp [fields, h, ih]
    · have hne := fields_ne_nil sep cs
      cases hf : fields sep cs with
      | nil => exact absurd hf hne
      | cons f fs => simp [fields, h, hf, ← ih]

/-- The text before and after the first occurrence of `mark`. -/
def cutAt (mark : List Char) : List Char → Option (List Char × List Char)
  | [] => if mark.isEmpty then some ([], []) else none
  | c :: cs =>
    if mark.isPrefixOf (c :: cs) then some ([], (c :: cs).drop mark.length)
    else (cutAt mark cs).map fun (a, b) => (c :: a, b)

end TagSchema.Text
