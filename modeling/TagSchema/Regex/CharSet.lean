import TagSchema.Text.Case
import TagSchema.Text.Script

/-!
# Character sets

What one position of a pattern accepts: ranges, Unicode categories, properties and scripts, and
their Boolean combinations. `folded` closes a set under case variants.
-/

namespace TagSchema.Regex

inductive CharSet where
  | range (lo hi : Char)
  | categories (ks : List Text.Category)
  | property (p : Text.Property)
  | script (s : Text.Script)
  | nothing
  | anything
  | union (a b : CharSet)
  | inter (a b : CharSet)
  | diff (a b : CharSet)
  | symmDiff (a b : CharSet)
  | compl (a : CharSet)
  | folded (a : CharSet)
  deriving DecidableEq, Repr

namespace CharSet

def has : CharSet → Char → Bool
  | .range lo hi, c => lo ≤ c && c ≤ hi
  | .categories ks, c => Text.hasCategory ks c
  | .property p, c => p.has c
  | .script s, c => s.has c
  | .nothing, _ => false
  | .anything, _ => true
  | .union a b, c => a.has c || b.has c
  | .inter a b, c => a.has c && b.has c
  | .diff a b, c => a.has c && !b.has c
  | .symmDiff a b, c => a.has c != b.has c
  | .compl a, c => !a.has c
  | .folded a, c => (Text.caseVariants c).any a.has

def single (c : Char) : CharSet := .range c c

/-- The characters of the list. -/
def oneOf : List Char → CharSet
  | [] => .nothing
  | [c] => single c
  | c :: cs => .union (single c) (oneOf cs)

/-- The characters of the ranges. -/
def ranges : List (Char × Char) → CharSet
  | [] => .nothing
  | [r] => .range r.1 r.2
  | r :: rs => .union (.range r.1 r.2) (ranges rs)

@[simp] theorem has_single (c d : Char) : (single c).has d = (c == d) := by
  rw [Bool.eq_iff_iff]
  simp only [single, has, Bool.and_eq_true, decide_eq_true_eq, beq_iff_eq]
  exact ⟨fun ⟨a, b⟩ => Char.le_antisymm a b, fun h => h ▸ ⟨Char.le_refl c, Char.le_refl c⟩⟩

theorem has_oneOf {cs : List Char} {d : Char} : (oneOf cs).has d = true ↔ d ∈ cs := by
  induction cs with
  | nil => simp [oneOf, has]
  | cons c cs ih =>
    cases cs with
    | nil => simp only [oneOf, has_single, List.mem_singleton, beq_iff_eq, eq_comm (a := c)]
    | cons c' cs => simp only [oneOf, has, Bool.or_eq_true, ih, has_single, List.mem_cons,
        beq_iff_eq, eq_comm (a := c)]

def digit : CharSet := .range '0' '9'
def upper : CharSet := .range 'A' 'Z'
def lower : CharSet := .range 'a' 'z'
def letter : CharSet := .union upper lower
def letterOrDigit : CharSet := .union letter digit
def hexDigit : CharSet := ranges [('0', '9'), ('a', 'f'), ('A', 'F')]
def space : CharSet := .property .whiteSpace
def nonSpace : CharSet := .compl space

/-- Everything but a line feed. -/
def dot : CharSet := .compl (single '\n')

end CharSet

end TagSchema.Regex
