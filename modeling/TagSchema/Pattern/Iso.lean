import TagSchema.Regex.Basic

/-!
# Patterns of ISO 8601 dates, times and durations
-/

namespace TagSchema.Pattern

open Regex

def digit : Regex := chars .digit
def digits (n : Nat) : Regex := times n digit

/-- Years that 4 divides and 100 does not. -/
def ordinaryLeapYear : Regex :=
  digits 2 ++ anyOf [
    chars (.oneOf ['2', '4', '6', '8']) ++ chars (.oneOf ['0', '4', '8']),
    chars (.oneOf ['1', '3', '5', '7', '9']) ++ chars (.oneOf ['2', '6']),
    char '0' ++ chars (.oneOf ['4', '8'])]

/-- Years that 400 divides. -/
def centuryLeapYear : Regex :=
  ((chars (.oneOf ['0', '2', '4', '6', '8']) ++ chars (.oneOf ['0', '4', '8'])) |||
    (chars (.oneOf ['1', '3', '5', '7', '9']) ++ chars (.oneOf ['2', '6']))) ++ text "00"

/-- Days `01` to `28`. -/
def dayTo28 : Regex :=
  anyOf [char '0' ++ chars (.range '1' '9'), char '1' ++ digit, char '2' ++ chars (.range '0' '8')]

/-- Days `01` to the one whose first digit is 3 and whose last is one of `last`. -/
def dayTo (last : CharSet) : Regex :=
  anyOf [char '0' ++ chars (.range '1' '9'), chars (.range '1' '2') ++ digit,
    char '3' ++ chars last]

/-- A month and day that every year has. -/
def monthDay : Regex :=
  anyOf [
    ((char '0' ++ chars (.oneOf ['1', '3', '5', '7', '8'])) |||
      (char '1' ++ chars (.oneOf ['0', '2']))) ++ char '-' ++ dayTo (.range '0' '1'),
    ((char '0' ++ chars (.oneOf ['4', '6', '9'])) ||| text "11") ++ char '-' ++ dayTo (.single '0'),
    text "02-" ++ dayTo28]

def dateText : Regex :=
  anyOf [
    ordinaryLeapYear ++ text "-02-29",
    centuryLeapYear ++ text "-02-29",
    digits 4 ++ char '-' ++ monthDay]

def hourMinute : Regex :=
  ((chars (.range '0' '1') ++ digit) ||| (char '2' ++ chars (.range '0' '3'))) ++ char ':' ++
    chars (.range '0' '5') ++ digit

def colonSecond : Regex := char ':' ++ chars (.range '0' '5') ++ digit

/-- No precision admits a time with or without seconds and any fraction; a negative one ends at the
minute, zero at the second, and a positive one has exactly that many fraction digits. -/
def timeText : Option Int → Regex
  | none => hourMinute ++ optional (colonSecond ++ optional (char '.' ++ plus digit))
  | some p =>
    if p < 0 then hourMinute
    else if p = 0 then hourMinute ++ colonSecond
    else hourMinute ++ colonSecond ++ char '.' ++ times p.toNat digit

def offsetText : Regex := chars (.oneOf ['+', '-']) ++ digits 2 ++ char ':' ++ digits 2

/-- What may follow the time: `Z`, nothing if `isLocal`, and an offset if `offset`. -/
def zoneText (offset isLocal : Bool) : Regex :=
  anyOf ([char 'Z'] ++ (if isLocal then [.empty] else []) ++ (if offset then [offsetText] else []))

def datetimeText (precision : Option Int) (offset isLocal : Bool) : Regex :=
  dateText ++ char 'T' ++ (timeText precision ++ zoneText offset isLocal)

def date : Regex := whole dateText
def time (precision : Option Int) : Regex := whole (timeText precision)

def datetime (precision : Option Int) (offset isLocal : Bool) : Regex :=
  whole (datetimeText precision offset isLocal)

def pointOrComma : Regex := chars (.oneOf ['.', ','])

/-- Digits and a unit, or nothing. -/
def component (unit : Char) : Regex := optional (plus digit ++ char unit)

def duration : Regex :=
  whole (char 'P' ++
    ((plus digit ++ char 'W') |||
      (component 'Y' ++ component 'M' ++ component 'D' ++
        optional (char 'T' ++ component 'H' ++ component 'M' ++
          optional (plus digit ++ optional (pointOrComma ++ plus digit) ++ char 'S')))))

def signed : Regex := optional (chars (.oneOf ['-', '+']))

/-- Digits with an optional sign and fraction, and a unit, or nothing. -/
def signedComponent (unit : Char) : Regex :=
  optional (signed ++ plus digit ++ optional (pointOrComma ++ plus digit) ++ char unit)

def extendedDuration : Regex :=
  whole (signed ++ char 'P' ++ signedComponent 'Y' ++ signedComponent 'M' ++ signedComponent 'W' ++
    signedComponent 'D' ++
    optional (char 'T' ++ signedComponent 'H' ++ signedComponent 'M' ++ signedComponent 'S'))

end TagSchema.Pattern
