import TagSchema.Number.Digits
import TagSchema.Number.Integer
import TagSchema.Text.Fields

/-!
# IP addresses

Dotted quads without leading zeros, and the text forms of IPv6: eight groups, of which one `::` may
leave out one or more zeros and a dotted quad may stand for the last two.
-/

namespace TagSchema.Network

open TagSchema.Number (readNat)
open TagSchema.Text (fields cutAt)

inductive Address where
  | v4 (octets : List Nat)
  | v6 (groups : List Nat)
  deriving DecidableEq, Repr

/-- Up to three digits without a leading zero, at most 255. -/
def readOctet (cs : List Char) : Option Nat := do
  if 3 < cs.length || (1 < cs.length && cs.head? == some '0') then none
  let n ← readNat 10 cs
  if n ≤ 255 then some n else none

def readQuad (cs : List Char) : Option (List Nat) := do
  let octets ← (fields '.' cs).mapM readOctet
  if octets.length = 4 then some octets else none

/-- One to four hexadecimal digits. -/
def readGroup (cs : List Char) : Option Nat := if 4 < cs.length then none else readNat 16 cs

/-- A dotted quad as two groups. -/
def quadGroups : List Nat → List Nat
  | [a, b, c, d] => [a * 256 + b, c * 256 + d]
  | _ => []

/-- Groups with a colon between; the last may be a dotted quad if `quad` allows it. -/
def readGroups (quad : Bool) (cs : List Char) : Option (List Nat) :=
  if cs.isEmpty then some []
  else
    let parts := fields ':' cs
    let last := parts.getLast?.getD []
    match parts.dropLast.mapM readGroup, readGroup last, readQuad last with
    | some front, some g, _ => some (front ++ [g])
    | some front, none, some octets => if quad then some (front ++ quadGroups octets) else none
    | _, _, _ => none

def readV6 (cs : List Char) : Option (List Nat) :=
  match cutAt [':', ':'] cs with
  | some (front, back) => do
    let front ← readGroups false front
    let back ← readGroups true back
    if front.length + back.length ≤ 7 then
      some (front ++ List.replicate (8 - (front.length + back.length)) 0 ++ back)
    else none
  | none => do
    let groups ← readGroups true cs
    if groups.length = 8 then some groups else none

def Address.parse? (cs : List Char) : Option Address :=
  ((readQuad cs).map .v4) <|> ((readV6 cs).map .v6)

/-- The length of the run of zeros at the head. -/
def zeroRun (groups : List Nat) : Nat := (groups.takeWhile (· == 0)).length

/-- Where the longest run of at least two zeros begins, and its length; the first of equals. -/
def longestZeros (groups : List Nat) : Option (Nat × Nat) :=
  (List.range groups.length).foldl
    (fun best i =>
      let n := zeroRun (groups.drop i)
      if (best.map (·.2)).getD 1 < n then some (i, n) else best)
    none

def groupText (groups : List Nat) : String :=
  ":".intercalate (groups.map fun g => String.ofList (Nat.toDigits 16 g))

/-- Canonical text, an IPv6 address without brackets. -/
def Address.text : Address → String
  | v4 octets => ".".intercalate (octets.map fun (n : Nat) => Number.integerText n)
  | v6 groups =>
    match longestZeros groups with
    | some (i, n) => groupText (groups.take i) ++ "::" ++ groupText (groups.drop (i + n))
    | none => groupText groups

end TagSchema.Network
