import TagSchema.Text.Category.Letters
import TagSchema.Text.Category.Marks
import TagSchema.Text.Category.Signs

/-!
# General categories

Every code point has exactly one general category; the unassigned ones are those that no table
lists.

All tables of characters here are those of Unicode 15.0. Version 15.1 assigns 622 ideographs
(0x2EBF0 to 0x2EE5D) and five signs that describe ideographs (0x2FFC to 0x2FFF and 0x31EF); they
count as unassigned, and so as no letters and not printable.
-/

namespace TagSchema.Text

inductive Category where
  | lu | ll | lt | lm | lo
  | mn | mc | me
  | nd | nl | no
  | pc | pd | ps | pe | pi | pf | po
  | sm | sc | sk | so
  | zs | zl | zp
  | cc | cf | cs | co
  deriving DecidableEq, Repr

namespace Category

def runs : Category → List Run
  | lu => uppercaseLetters
  | ll => lowercaseLetters
  | lt => titlecaseLetters
  | lm => modifierLetters
  | lo => otherLetters
  | mn => nonspacingMarks
  | mc => spacingMarks
  | me => enclosingMarks
  | nd => decimalNumbers
  | nl => letterNumbers
  | no => otherNumbers
  | pc => connectorPunctuation
  | pd => dashPunctuation
  | ps => openPunctuation
  | pe => closePunctuation
  | pi => initialPunctuation
  | pf => finalPunctuation
  | po => otherPunctuation
  | sm => mathSymbols
  | sc => currencySymbols
  | sk => modifierSymbols
  | so => otherSymbols
  | zs => spaceSeparators
  | zl => lineSeparators
  | zp => paragraphSeparators
  | cc => controls
  | cf => formats
  | cs => surrogates
  | co => privateUse

def has (k : Category) (c : Char) : Bool := Run.contains k.runs c.toNat

def letters : List Category := [ll, lu, lo, lm, lt]
def casedLetters : List Category := [lu, ll, lt]
def marks : List Category := [mn, mc, me]
def numbers : List Category := [nd, nl, no]
def punctuation : List Category := [pc, pd, ps, pe, pi, pf, po]
def symbols : List Category := [sm, sc, sk, so]
def separators : List Category := [zs, zl, zp]

/-- Every category of an assigned code point. -/
def assigned : List Category :=
  letters ++ marks ++ numbers ++ punctuation ++ symbols ++ separators ++ [cc, cf, cs, co]

end Category

/-- Whether `c` has one of the categories. -/
def hasCategory (ks : List Category) (c : Char) : Bool := ks.any (·.has c)

end TagSchema.Text
