import TagSchema.Text.CaseTables
import TagSchema.Text.Property

/-!
# Case mappings

Full lowercase and uppercase mappings of text. A capital sigma that ends a word becomes the final
form; every other character is mapped on its own.
-/

namespace TagSchema.Text

/-- Where the first shift that covers `c` moves it; `c` itself if none does. -/
def Shift.apply (rows : List Shift) (c : Char) : Char :=
  match rows.find? (·.run.has c.toNat) with
  | some s => Char.ofNat ((c.toNat : Int) + s.distance).toNat
  | none => c

def lowerChar (c : Char) : List Char :=
  if c.toNat < 0x80 then [c.toLower]
  else if c == '\u0130' then ['i', '\u0307']
  else [Shift.apply lowerShifts c]

def upperChar (c : Char) : List Char :=
  if c.toNat < 0x80 then [c.toUpper]
  else match upperExpansions.lookup c.toNat with
    | some cs => cs.map Char.ofNat
    | none => [Shift.apply upperShifts c]

/-- The simple case folding: characters that differ by case alone fold to one character. -/
def foldChar (c : Char) : Char :=
  if c.toNat < 0x80 then c.toLower else Shift.apply foldShifts c

/-- The characters that a shift of `rows` moves to `c`. -/
def Shift.sources (rows : List Shift) (c : Char) : List Char :=
  rows.filterMap fun s =>
    let n := (c.toNat : Int) - s.distance
    if 0 ≤ n && s.run.has n.toNat then some (Char.ofNat n.toNat) else none

/-- Every character that folds as `c` does. -/
def caseVariants (c : Char) : List Char :=
  let folded := foldChar c
  folded :: Shift.sources foldShifts folded

/-- Whether the first character that is not case-ignorable is cased. -/
def casedNext (cs : List Char) : Bool :=
  match cs.dropWhile isCaseIgnorable with
  | c :: _ => isCased c
  | [] => false

/-- `before` holds the characters already passed, the nearest first. -/
def lowerFrom (before : List Char) : List Char → List Char
  | [] => []
  | c :: cs =>
    let mapped :=
      if c == 'Σ' then [if casedNext before && !casedNext cs then 'ς' else 'σ'] else lowerChar c
    mapped ++ lowerFrom (c :: before) cs

def toLower (s : String) : String := String.ofList (lowerFrom [] s.toList)

def toUpper (s : String) : String := String.ofList (s.toList.flatMap upperChar)

end TagSchema.Text
