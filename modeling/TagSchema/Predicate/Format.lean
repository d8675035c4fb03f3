import TagSchema.Network.Address
import TagSchema.Pattern.Catalog
import TagSchema.Pattern.Template
import TagSchema.Predicate.Text

/-!
# Formats

Strings that match a catalog pattern, and the formats that a pattern alone does not decide.
-/

namespace TagSchema.Predicate

def email (v : Value) : Bool := matchesPattern v Pattern.email
def url (v : Value) : Bool := matchesPattern v Pattern.url
def uuid (v : Value) : Bool := matchesPattern v Pattern.uuid
def guid (v : Value) : Bool := matchesPattern v Pattern.guid
def cuid (v : Value) : Bool := matchesPattern v Pattern.cuid
def cuid2 (v : Value) : Bool := matchesPattern v Pattern.cuid2
def nanoId (v : Value) : Bool := matchesPattern v Pattern.nanoId
def ulid (v : Value) : Bool := matchesPattern v Pattern.ulid
def xid (v : Value) : Bool := matchesPattern v Pattern.xid
def ksuid (v : Value) : Bool := matchesPattern v Pattern.ksuid
def ipv4 (v : Value) : Bool := matchesPattern v Pattern.ipv4
def ipv6 (v : Value) : Bool := matchesPattern v Pattern.ipv6
def base64 (v : Value) : Bool := matchesPattern v Pattern.base64
def base64Url (v : Value) : Bool := matchesPattern v Pattern.base64Url
def hex (v : Value) : Bool := matchesPattern v Pattern.hex
def md5Hex (v : Value) : Bool := matchesPattern v Pattern.md5Hex
def sha1Hex (v : Value) : Bool := matchesPattern v Pattern.sha1Hex
def sha256Hex (v : Value) : Bool := matchesPattern v Pattern.sha256Hex
def sha384Hex (v : Value) : Bool := matchesPattern v Pattern.sha384Hex
def sha512Hex (v : Value) : Bool := matchesPattern v Pattern.sha512Hex
def e164 (v : Value) : Bool := matchesPattern v Pattern.e164
def emoji (v : Value) : Bool := matchesPattern v Pattern.emoji

/-- The longest host name, in bytes. -/
def maxHostname : Nat := 253

def hostname (v : Value) : Bool :=
  v.string?.any fun s => s.utf8ByteSize ≤ maxHostname && Pattern.hostname.isMatch s

def uuidVersion (version : Nat) (v : Value) : Bool :=
  matchesPattern v (Pattern.uuidOfVersion version)

/-- A decimal number up to 255; zeros may stand in front. -/
def readPrefixLength (cs : List Char) : Option Nat :=
  (Number.readNat 10 cs).filter (· ≤ 255)

/-- An address and a prefix length that fits its family. -/
def isCidr (version : Nat) (cs : List Char) : Bool :=
  match Text.fields '/' cs with
  | [address, bits] =>
    match Network.Address.parse? address, readPrefixLength bits with
    | some (.v4 _), some n => (version == 0 || version == 4) && n ≤ 32
    | some (.v6 _), some n => (version == 0 || version == 6) && n ≤ 128
    | _, _ => false
  | _ => false

/-- A block of IP version 4 or 6, or of either if `version` is 0. -/
def cidr (version : Nat) (v : Value) : Bool := withText v (isCidr version)

def cidrV4 (v : Value) : Bool := cidr 4 v
def cidrV6 (v : Value) : Bool := cidr 6 v

/-- Matches a template, if its parameters give a pattern. -/
def matchesTemplate (t : Pattern.Template) (limit : Regex.Limit) (v : Value) : Bool :=
  match t.build limit with
  | .ok r => matchesPattern v r
  | .error _ => false

def mac (delimiter : String) (limit : Regex.Limit := .standard) (v : Value) : Bool :=
  matchesTemplate (.mac delimiter) limit v

end TagSchema.Predicate
