import TagSchema.Number.Integer
import TagSchema.Regex.Reader

/-!
# Pattern sources

The patterns as text, each a row of pieces.
-/

namespace TagSchema.Pattern

def octetSource : List String :=
  ["(?:25[0-5]|2[0-4][0-9]|", "1[0-9][0-9]|[1-9][0-9]|", "[0-9])"]

def quadSource : List String := ["(?:"] ++ octetSource ++ ["\\.)\x7b3\x7d"] ++ octetSource

def hextetSource : List String := ["[0-9a-fA-F]\x7b1,4\x7d"]

/-- Groups with a colon after each, as often as `count` says. -/
def groupsSource (count : String) : List String := ["(?:"] ++ hextetSource ++ [":)", count]

/-- Groups with a colon before each. -/
def laterGroupsSource (count : String) : List String := ["(?::"] ++ hextetSource ++ [")", count]

def ipv6Source : List String :=
  ["(?:"] ++ groupsSource "\x7b7\x7d" ++ hextetSource ++
    ["|"] ++ groupsSource "\x7b1,7\x7d" ++ [":"] ++
    ["|"] ++ groupsSource "\x7b1,6\x7d" ++ [":"] ++ hextetSource ++
    ["|"] ++ groupsSource "\x7b1,5\x7d" ++ laterGroupsSource "\x7b1,2\x7d" ++
    ["|"] ++ groupsSource "\x7b1,4\x7d" ++ laterGroupsSource "\x7b1,3\x7d" ++
    ["|"] ++ groupsSource "\x7b1,3\x7d" ++ laterGroupsSource "\x7b1,4\x7d" ++
    ["|"] ++ groupsSource "\x7b1,2\x7d" ++ laterGroupsSource "\x7b1,5\x7d" ++
    ["|"] ++ hextetSource ++ [":"] ++ laterGroupsSource "\x7b1,6\x7d" ++
    ["|:(?:"] ++ laterGroupsSource "\x7b1,7\x7d" ++ ["|:)"] ++
    ["|"] ++ groupsSource "\x7b6\x7d" ++ quadSource ++
    ["|::(?:[fF]\x7b4\x7d(?::0\x7b1,4\x7d)?:)?"] ++ quadSource ++
    ["|"] ++ groupsSource "\x7b1,5\x7d" ++ [":"] ++ quadSource ++ [")"]

def uuidSource (version : String) : List String :=
  ["[0-9a-fA-F]\x7b8\x7d-", "[0-9a-fA-F]\x7b4\x7d-", version, "[0-9a-fA-F]\x7b3\x7d-",
    "[89abAB][0-9a-fA-F]\x7b3\x7d-", "[0-9a-fA-F]\x7b12\x7d"]

def anyUuidSource : List String :=
  ["(?:"] ++ uuidSource "[1-8]" ++ ["|00000000-0000-", "0000-0000-000000000000)"]

/-- Any number outside 1 to 8 stands for every version. -/
def uuidOfVersionSource (version : Nat) : List String :=
  if 1 ≤ version && version ≤ 8 then uuidSource (Number.integerText version) else anyUuidSource

def dateSource : List String :=
  ["(?:[0-9]\x7b2\x7d(?:[2468][048]|", "[13579][26]|0[48])-02-29",
    "|(?:[02468][048]|[13579][26])", "00-02-29",
    "|[0-9]\x7b4\x7d-(?:(?:0[13578]|1[02])-", "(?:0[1-9]|[12][0-9]|3[01])",
    "|(?:0[469]|11)-(?:0[1-9]|", "[12][0-9]|30)",
    "|02-(?:0[1-9]|1[0-9]|2[0-8])))"]

def hourMinuteSource : List String := ["(?:[01][0-9]|2[0-3]):", "[0-5][0-9]"]

def timeSource : Option Int → List String
  | none => hourMinuteSource ++ ["(?::[0-5][0-9](?:\\.[0-9]+)?)?"]
  | some p =>
    if p < 0 then hourMinuteSource
    else if p = 0 then hourMinuteSource ++ [":[0-5][0-9]"]
    else hourMinuteSource ++ [":[0-5][0-9]", "\\.[0-9]\x7b", Number.integerText p, "\x7d"]

/-- The alternatives of what may follow the time. -/
def zoneSource (offset isLocal : Bool) : List String :=
  ["Z"] ++ (if isLocal then ["|"] else []) ++
    (if offset then ["|[+-][0-9]\x7b2\x7d:[0-9]\x7b2\x7d"] else [])

def datetimeSource (precision : Option Int) (offset isLocal : Bool) : List String :=
  dateSource ++ ["T(?:"] ++ timeSource precision ++ ["(?:"] ++ zoneSource offset isLocal ++ ["))"]

/-- A backslash before every character that means something in a pattern. -/
def escapeSource (cs : List Char) : String :=
  String.ofList (cs.flatMap fun c => if Regex.isMeta c then ['\\', c] else [c])

/-- Six octets with the delimiter between them. -/
def macSource (digits : String) (delimiter : List Char) : List String :=
  ["(?:", digits, "\x7b2\x7d", escapeSource delimiter, ")", "\x7b5\x7d", digits, "\x7b2\x7d"]

/-- A `max` that is not positive stands for none. -/
def stringLengthSource (min : Nat) (max : Int) : List String :=
  ["[\\s\\S]", "\x7b", Number.integerText min, ",",
    if max ≤ 0 then "" else Number.integerText max, "\x7d"]

/-- A component of a duration with a sign and a fraction. -/
def componentSource (unit : String) : List String := ["(?:[-+]?[0-9]+(?:[.,][0-9]+)?", unit, ")?"]

/-- A host name's label of at most 63 characters. -/
def labelSource : List String := ["[a-zA-Z0-9](?:[a-zA-Z0-9-]", "\x7b0,61\x7d[a-zA-Z0-9])?"]

/-- The source of each pattern of the catalog, in order. -/
def sources : List (String × List String) := [
  ("Email", ["^[A-Za-z0-9_'+\\-]+", "(?:\\.[A-Za-z0-9_'+\\-]+)*", "@(?:[A-Za-z0-9](?:",
    "[A-Za-z0-9\\-]*[A-Za-z0-9]", ")?\\.)+[A-Za-z]\x7b2,\x7d$"]),
  ("HTML5Email", ["^[a-zA-Z0-9.!#$%&'*+/=?^_\x60\x7b|\x7d~-]+@"] ++ labelSource ++ ["(?:\\."] ++
    labelSource ++ [")*$"]),
  ("RFC5322Email", ["^(?:[^<>()\\[\\]\\\\.,;:\\s@\"]+", "(?:\\.[^<>()\\[\\]\\\\.,;:\\s@\"]+)*",
    "|\".+\")@(?:\\[[0-9]\x7b1,3\x7d\\.", "[0-9]\x7b1,3\x7d\\.[0-9]\x7b1,3\x7d\\.",
    "[0-9]\x7b1,3\x7d\\]|", "(?:[a-zA-Z\\-0-9]+\\.)+", "[a-zA-Z]\x7b2,\x7d)$"]),
  ("UnicodeEmail", ["^[^\\s@\"]\x7b1,64\x7d@", "[^\\s@]\x7b1,255\x7d$"]),
  ("URL", ["^[a-zA-Z][a-zA-Z0-9+.\\-]*", "://[^\\s/?#]+", "(?:[/?#][^\\s]*)?$"]),
  ("HTTPURL", ["^https?://(?:[^\\s:@/]+", "(?::[^\\s@/]*)?@)?", "(?:[a-zA-Z0-9]",
    "(?:[a-zA-Z0-9-]*[a-zA-Z0-9])?", "(?:\\.[a-zA-Z0-9]", "(?:[a-zA-Z0-9-]*[a-zA-Z0-9])?)*",
    "|\\[[0-9a-fA-F:.]+\\])", "(?::[0-9]\x7b1,5\x7d)?", "(?:[/?#][^\\s]*)?$"]),
  ("Hostname", ["^"] ++ labelSource ++ ["(?:\\."] ++ labelSource ++ [")*\\.?$"]),
  ("Domain", ["^(?:[A-Za-z0-9]", "(?:[A-Za-z0-9-]\x7b0,61\x7d", "[A-Za-z0-9])?\\.)+",
    "[A-Za-z]\x7b2,\x7d$"]),
  ("IPv4", ["^"] ++ quadSource ++ ["$"]),
  ("IPv6", ["^"] ++ ipv6Source ++ ["$"]),
  ("CIDRv4", ["^"] ++ quadSource ++ ["/(?:3[0-2]|[12]?[0-9])$"]),
  ("CIDRv6", ["^"] ++ ipv6Source ++ ["/(?:12[0-8]|1[01][0-9]|", "[1-9]?[0-9])$"]),
  ("IP", ["^(?:"] ++ quadSource ++ ["|"] ++ ipv6Source ++ [")$"]),
  ("UUID", ["^"] ++ anyUuidSource ++ ["$"]),
  ("UUID4", ["^"] ++ uuidSource "4" ++ ["$"]),
  ("UUID6", ["^"] ++ uuidSource "6" ++ ["$"]),
  ("UUID7", ["^"] ++ uuidSource "7" ++ ["$"]),
  ("GUID", ["^[0-9a-fA-F]\x7b8\x7d-", "[0-9a-fA-F]\x7b4\x7d-", "[0-9a-fA-F]\x7b4\x7d-",
    "[0-9a-fA-F]\x7b4\x7d-", "[0-9a-fA-F]\x7b12\x7d$"]),
  ("CUID", ["^[cC][^\\s-]\x7b8,\x7d$"]),
  ("CUID2", ["^[0-9a-z]+$"]),
  ("ULID", ["^[0-9A-HJKMNP-TV-Z", "a-hjkmnp-tv-z]\x7b26\x7d$"]),
  ("XID", ["^[0-9a-vA-V]\x7b20\x7d$"]),
  ("KSUID", ["^[A-Za-z0-9]\x7b27\x7d$"]),
  ("NanoID", ["^[a-zA-Z0-9_-]\x7b21\x7d$"]),
  ("Base64", ["^(?:[0-9a-zA-Z+/]\x7b4\x7d)*", "(?:[0-9a-zA-Z+/]\x7b2\x7d==|",
    "[0-9a-zA-Z+/]\x7b3\x7d=)?$"]),
  ("Base64URL", ["^[A-Za-z0-9_-]*$"]),
  ("Hex", ["^[0-9a-fA-F]*$"]),
  ("MD5Hex", ["^[0-9a-fA-F]\x7b32\x7d$"]),
  ("SHA1Hex", ["^[0-9a-fA-F]\x7b40\x7d$"]),
  ("SHA256Hex", ["^[0-9a-fA-F]\x7b64\x7d$"]),
  ("SHA384Hex", ["^[0-9a-fA-F]\x7b96\x7d$"]),
  ("SHA512Hex", ["^[0-9a-fA-F]\x7b128\x7d$"]),
  ("E164", ["^\\+[0-9]\x7b6,14\x7d[0-9]$"]),
  ("Emoji", ["^(?:\\p\x7bExtended_Pictographic\x7d", "|\\p\x7bEmoji_Component\x7d)+$"]),
  ("Date", ["^"] ++ dateSource ++ ["$"]),
  ("DefaultTime", ["^"] ++ timeSource none ++ ["$"]),
  ("DefaultDatetime", ["^"] ++ datetimeSource none false false ++ ["$"]),
  ("Duration", ["^P(?:[0-9]+W|", "(?:[0-9]+Y)?(?:[0-9]+M)?", "(?:[0-9]+D)?(?:T(?:[0-9]+H)?",
    "(?:[0-9]+M)?(?:[0-9]+", "(?:[.,][0-9]+)?S)?)?)$"]),
  ("ExtendedDuration", ["^[-+]?P"] ++ componentSource "Y" ++ componentSource "M" ++
    componentSource "W" ++ componentSource "D" ++ ["(?:T"] ++ componentSource "H" ++
    componentSource "M" ++ componentSource "S" ++ [")?$"]),
  ("String", ["^[\\s\\S]*$"]),
  ("Integer", ["^-?[0-9]+$"]),
  ("Bigint", ["^-?[0-9]+n?$"]),
  ("Number", ["^-?[0-9]+(?:\\.[0-9]+)?$"]),
  ("Boolean", ["^(?i:true|false)$"]),
  ("Null", ["^(?i:null)$"]),
  ("Undefined", ["^(?i:undefined)$"]),
  ("Lowercase", ["^[^A-Z]*$"]),
  ("Uppercase", ["^[^a-z]*$"]),
  ("JSONString", ["^\\s*(?:\\\x7b[\\s\\S]*\\\x7d|", "\\[[\\s\\S]*\\]|\"(?:[^\"\\\\]|\\\\.)*\"",
    "|-?(?:0|[1-9][0-9]*)", "(?:\\.[0-9]+)?(?:[eE][+-]?[0-9]+)?", "|true|false|null)\\s*$"])]

def sourceByName? (name : String) : Option String := (sources.lookup name).map String.join

end TagSchema.Pattern
