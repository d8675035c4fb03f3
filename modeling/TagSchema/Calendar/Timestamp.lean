import TagSchema.Number.Digits

/-!
# Dates and RFC 3339 timestamps

Days of the Gregorian calendar, extended to all years. A timestamp is a local date and time with
its offset from UTC. Second 60 is a leap second and may close any minute.
-/

namespace TagSchema.Calendar

open TagSchema.Number (digits readNat)

def isLeapYear (y : Nat) : Bool := y % 4 == 0 && (y % 100 != 0 || y % 400 == 0)

def daysInMonth (y m : Nat) : Nat :=
  match m with
  | 1 | 3 | 5 | 7 | 8 | 10 | 12 => 31
  | 4 | 6 | 9 | 11 => 30
  | 2 => if isLeapYear y then 29 else 28
  | _ => 0

structure Date where
  year : Nat
  month : Nat
  day : Nat
  deriving DecidableEq, Repr

/-- Names a day of the calendar. -/
def Date.isValid (d : Date) : Bool := 1 ≤ d.day && d.day ≤ daysInMonth d.year d.month

theorem Date.month_of_isValid {d : Date} (h : d.isValid = true) : 1 ≤ d.month ∧ d.month ≤ 12 := by
  simp only [isValid, Bool.and_eq_true, decide_eq_true_eq] at h
  have hpos : 0 < daysInMonth d.year d.month := by omega
  unfold daysInMonth at hpos
  split at hpos <;> omega

structure Timestamp where
  date : Date
  hour : Nat
  minute : Nat
  second : Nat
  nanosecond : Nat
  /-- Minutes east of UTC. -/
  offset : Int
  deriving DecidableEq, Repr

namespace Timestamp

/-- Exactly `n` ASCII digits at the head of the text. -/
def readField (n : Nat) (cs : List Char) : Option (Nat × List Char) :=
  let ds := cs.take n
  if ds.length = n && ds.all Char.isDigit then (readNat 10 ds).map fun v => (v, cs.drop n) else none

def readChar (accepted : List Char) : List Char → Option (List Char)
  | c :: cs => if accepted.contains c then some cs else none
  | [] => none

/-- Digits after a point, as nanoseconds; from the tenth digit on they are dropped. -/
def readFraction : List Char → Option (Nat × List Char)
  | '.' :: cs => do
    let kept := (cs.takeWhile Char.isDigit).take 9
    let n ← readNat 10 kept
    return (n * Nat.pow 10 (9 - kept.length), cs.dropWhile Char.isDigit)
  | cs => some (0, cs)

/-- `Z`, or a sign and hours and minutes, in minutes; the sign may be the minus sign U+2212. -/
def readOffset : List Char → Option (Int × List Char)
  | [] => none
  | c :: cs =>
    if c == 'Z' || c == 'z' then some (0, cs)
    else do
      let negative := c == '-' || c == '\u2212'
      if !negative && c != '+' then none
      let (hours, cs) ← readField 2 cs
      let cs ← readChar [':'] cs
      let (minutes, cs) ← readField 2 cs
      if 59 < minutes || 23 < hours then none
      let total := hours * 60 + minutes
      return (if negative then -(total : Int) else total, cs)

def isValid (t : Timestamp) : Bool :=
  t.date.isValid && t.hour ≤ 23 && t.minute ≤ 59 && t.second ≤ 60

def parseChars? (cs : List Char) : Option Timestamp := do
  let (year, cs) ← readField 4 cs
  let cs ← readChar ['-'] cs
  let (month, cs) ← readField 2 cs
  let cs ← readChar ['-'] cs
  let (day, cs) ← readField 2 cs
  let cs ← readChar ['T', 't', ' '] cs
  let (hour, cs) ← readField 2 cs
  let cs ← readChar [':'] cs
  let (minute, cs) ← readField 2 cs
  let cs ← readChar [':'] cs
  let (second, cs) ← readField 2 cs
  let (nanosecond, cs) ← readFraction cs
  let (offset, cs) ← readOffset cs
  let t : Timestamp := { date := ⟨year, month, day⟩, hour, minute, second, nanosecond, offset }
  if cs.isEmpty && t.isValid then some t else none

def parse? (s : String) : Option Timestamp := parseChars? s.toList

/-- `n` with zeros in front up to `width` digits. -/
def padded (width n : Nat) : List Char :=
  let ds := digits n
  List.replicate (width - ds.length) '0' ++ ds

/-- No digits, or as many groups of three as the fraction needs. -/
def fractionText (n : Nat) : List Char :=
  if n = 0 then []
  else if n % 1000000 = 0 then '.' :: padded 3 (n / 1000000)
  else if n % 1000 = 0 then '.' :: padded 6 (n / 1000)
  else '.' :: padded 9 n

def offsetText (o : Int) : List Char :=
  if o = 0 then ['Z']
  else (if o < 0 then '-' else '+') :: padded 2 (o.natAbs / 60) ++ ':' :: padded 2 (o.natAbs % 60)

def text (t : Timestamp) : String :=
  String.ofList (padded 4 t.date.year ++ '-' :: padded 2 t.date.month ++
    '-' :: padded 2 t.date.day ++ 'T' :: padded 2 t.hour ++ ':' :: padded 2 t.minute ++
    ':' :: padded 2 t.second ++ fractionText t.nanosecond ++ offsetText t.offset)

end Timestamp

end TagSchema.Calendar
