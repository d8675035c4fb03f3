import TagSchema.Pattern.Identifier
import TagSchema.Pattern.Iso
import TagSchema.Pattern.Network
import TagSchema.Pattern.Primitive
import TagSchema.Pattern.Web

/-!
# The pattern catalog

Every named pattern, in order.
-/

namespace TagSchema.Pattern

def catalog : List (String × Regex) := [
  ("Email", email), ("HTML5Email", html5Email), ("RFC5322Email", rfc5322Email),
  ("UnicodeEmail", unicodeEmail), ("URL", url), ("HTTPURL", httpUrl), ("Hostname", hostname),
  ("Domain", domain), ("IPv4", ipv4), ("IPv6", ipv6), ("CIDRv4", cidrV4), ("CIDRv6", cidrV6),
  ("IP", ip), ("UUID", uuid), ("UUID4", uuid4), ("UUID6", uuid6), ("UUID7", uuid7), ("GUID", guid),
  ("CUID", cuid), ("CUID2", cuid2), ("ULID", ulid), ("XID", xid), ("KSUID", ksuid),
  ("NanoID", nanoId), ("Base64", base64), ("Base64URL", base64Url), ("Hex", hex),
  ("MD5Hex", md5Hex), ("SHA1Hex", sha1Hex), ("SHA256Hex", sha256Hex), ("SHA384Hex", sha384Hex),
  ("SHA512Hex", sha512Hex), ("E164", e164), ("Emoji", emoji), ("Date", date),
  ("DefaultTime", time none), ("DefaultDatetime", datetime none false false),
  ("Duration", duration), ("ExtendedDuration", extendedDuration), ("String", string),
  ("Integer", integer), ("Bigint", bigint), ("Number", number), ("Boolean", boolean),
  ("Null", null), ("Undefined", undefined), ("Lowercase", lowercase), ("Uppercase", uppercase),
  ("JSONString", jsonString)]

def names : List String := catalog.map (·.1)

def byName? (name : String) : Option Regex := catalog.lookup name

end TagSchema.Pattern
