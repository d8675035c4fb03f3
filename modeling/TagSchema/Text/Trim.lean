import TagSchema.Text.Property

/-!
# Surrounding white space

`trim` removes blanks at both ends.
-/

namespace TagSchema.Text

def trimStart (cs : List Char) : List Char := cs.dropWhile isBlank

def trimEnd (cs : List Char) : List Char := (cs.reverse.dropWhile isBlank).reverse

def trimChars (cs : List Char) : List Char := trimEnd (trimStart cs)

def trim (s : String) : String := String.ofList (trimChars s.toList)

/-- Whether every character is a blank. -/
def allBlank (cs : List Char) : Bool := cs.all isBlank

@[simp] theorem toList_trim (s : String) : (trim s).toList = trimChars s.toList := by
  simp [trim]

theorem trimStart_append_blank {bs : List Char} (cs : List Char) (h : allBlank bs = true) :
    trimStart (bs ++ cs) = trimStart cs := by
  induction bs with
  | nil => rfl
  | cons b bs ih =>
    simp only [allBlank, List.all_cons, Bool.and_eq_true] at h
    simp only [List.cons_append, trimStart, List.dropWhile_cons, h.1, if_true]
    exact ih h.2

theorem trimEnd_append_blank {bs : List Char} (cs : List Char) (h : allBlank bs = true) :
    trimEnd (cs ++ bs) = trimEnd cs := by
  have hr : allBlank bs.reverse = true := by simpa [allBlank] using h
  have := trimStart_append_blank cs.reverse hr
  simp only [trimStart] at this
  simp [trimEnd, this]

end TagSchema.Text
