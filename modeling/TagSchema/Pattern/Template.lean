import TagSchema.Number.Integer
import TagSchema.Pattern.Identifier
import TagSchema.Pattern.Iso
import TagSchema.Pattern.Source

/-!
# Parameterized patterns

A template gives a pattern for every choice of its parameters, unless the pattern's counts are out
of order or the engine's limit does not admit it.
-/

namespace TagSchema.Pattern

open Regex

inductive Template where
  | time (precision : Option Int)
  | datetime (precision : Option Int) (offset isLocal : Bool)
  | mac (delimiter : String)
  | stringLength (min : Nat) (max : Int)
  deriving DecidableEq, Repr

/-- Six octets in digits of one case. -/
def octets (digits : CharSet) (delimiter : List Char) : Regex :=
  let octet := times 2 (chars digits)
  whole (times 5 (octet ++ literal delimiter) ++ octet)

/-- The delimiter in use; an empty one stands for a colon. -/
def delimiterOr (delimiter : String) : List Char :=
  if delimiter.isEmpty then [':'] else delimiter.toList

def mac (delimiter : String) : Regex :=
  octets (.ranges [('0', '9'), ('A', 'F')]) (delimiterOr delimiter) |||
    octets (.ranges [('0', '9'), ('a', 'f')]) (delimiterOr delimiter)

/-- A text of at least `min` characters and, if `max` is positive, of at most `max`. -/
def stringLength (min : Nat) (max : Int) : Regex :=
  whole (rep (chars .anything) min (if max ≤ 0 then none else some max.toNat))

namespace Template

def regex : Template → Regex
  | time p => Pattern.time p
  | datetime p offset isLocal => Pattern.datetime p offset isLocal
  | mac delimiter => Pattern.mac delimiter
  | stringLength min max => Pattern.stringLength min max

/-- The counts that the pattern names are in order, and each fits 32 bits. -/
def countsInOrder : Template → Bool
  | time precision | datetime precision _ _ => precision.all (·.toNat < Nat.pow 2 32)
  | mac _ => true
  | stringLength min max =>
    min < Nat.pow 2 32 && (max ≤ 0 || (max < Nat.pow 2 32 && (min : Int) ≤ max))

def build (t : Template) (limit : Limit := .standard) : Except Fault Regex :=
  if !t.countsInOrder then .error .malformed
  else if limit.admits t.regex then .ok t.regex
  else .error .tooBig

/-- The alternatives of the pattern as source text, without their anchors. -/
def bodies : Template → List (List String)
  | time p => [timeSource p]
  | datetime p offset isLocal => [datetimeSource p offset isLocal]
  | mac delimiter =>
    let d := delimiterOr delimiter
    [macSource "[0-9A-F]" d, macSource "[0-9a-f]" d]
  | stringLength min max => [stringLengthSource min max]

/-- The pattern as source text. -/
def source (t : Template) : String :=
  "|".intercalate (t.bodies.map fun body => "^" ++ String.join body ++ "$")

end Template

/-- UUIDs of one version from 1 to 8; any other number stands for every version. -/
def uuidOfVersion (version : Nat) : Regex :=
  if 1 ≤ version && version ≤ 8 then
    whole (uuidText (char (Char.ofNat ('0'.toNat + version))))
  else uuid

end TagSchema.Pattern
