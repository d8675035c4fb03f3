import TagSchema.Calendar.Timestamp
import TagSchema.Predicate.Format

/-!
# ISO 8601 dates, times and durations
-/

namespace TagSchema.Predicate

/-- Three numbers with dashes between them that name a day of the calendar. -/
def namesDay (cs : List Char) : Bool :=
  match Text.fields '-' cs with
  | [y, m, d] =>
    match Number.readNat 10 y, Number.readNat 10 m, Number.readNat 10 d with
    | some y, some m, some d => (Calendar.Date.mk y m d).isValid
    | _, _, _ => false
  | _ => false

def isoDate (v : Value) : Bool :=
  v.string?.any fun s => Pattern.date.isMatch s && namesDay s.toList

/-- An RFC 3339 timestamp. -/
def isoDatetime (v : Value) : Bool := v.string?.any fun s => (Calendar.Timestamp.parse? s).isSome

def isoDatetimeWith (precision : Option Int) (offset isLocal : Bool)
    (limit : Regex.Limit := .standard) (v : Value) : Bool :=
  matchesTemplate (.datetime precision offset isLocal) limit v

def isoTime (v : Value) : Bool := matchesPattern v (Pattern.time none)

def isoTimeWith (precision : Option Int) (limit : Regex.Limit := .standard) (v : Value) : Bool :=
  matchesTemplate (.time precision) limit v

/-- A duration with at least one component, and one after its `T` if it has that. -/
def isoDuration (v : Value) : Bool :=
  v.string?.any fun s =>
    s != "P" && s.toList.getLast? != some 'T' && Pattern.duration.isMatch s

/-- A timestamp, or the text of one. -/
def timeValue (v : Value) : Bool :=
  match v.indirect with
  | some (.time _) => true
  | some w => isoDatetime w
  | none => false

end TagSchema.Predicate
