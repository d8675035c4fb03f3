/-!
# The rule vocabulary

A `Kind` is a reserved rule name. Its constructors carry the tag spelling; `all` lists them in
documentation order and `ofName?_name` says that a spelling names one kind only.
-/

namespace TagSchema

inductive Rule.Kind where
  | required | nilable | min | max | length | size | gt | gte | lt | lte | multipleOf | positive
  | negative | nonPositive | nonNegative | trim | lowercase | uppercase | includes | startsWith
  | endsWith | regex | email | url | hostname | uuid | guid | cuid | cuid2 | nanoid | ulid | xid
  | ksuid | ipv4 | ipv6 | cidrv4 | cidrv6 | base64 | base64url | hex | md5hex | sha1hex
  | sha256hex | sha384hex | sha512hex | e164 | emoji | time | enum | default | prefault | refine
  | check
  deriving DecidableEq, Repr

namespace Rule.Kind

/-- The tag spelling. -/
def name : Kind → String
  | .required => "required"
  | .nilable => "nilable"
  | .min => "min"
  | .max => "max"
  | .length => "length"
  | .size => "size"
  | .gt => "gt"
  | .gte => "gte"
  | .lt => "lt"
  | .lte => "lte"
  | .multipleOf => "multipleOf"
  | .positive => "positive"
  | .negative => "negative"
  | .nonPositive => "nonPositive"
  | .nonNegative => "nonNegative"
  | .trim => "trim"
  | .lowercase => "lowercase"
  | .uppercase => "uppercase"
  | .includes => "includes"
  | .startsWith => "startsWith"
  | .endsWith => "endsWith"
  | .regex => "regex"
  | .email => "email"
  | .url => "url"
  | .hostname => "hostname"
  | .uuid => "uuid"
  | .guid => "guid"
  | .cuid => "cuid"
  | .cuid2 => "cuid2"
  | .nanoid => "nanoid"
  | .ulid => "ulid"
  | .xid => "xid"
  | .ksuid => "ksuid"
  | .ipv4 => "ipv4"
  | .ipv6 => "ipv6"
  | .cidrv4 => "cidrv4"
  | .cidrv6 => "cidrv6"
  | .base64 => "base64"
  | .base64url => "base64url"
  | .hex => "hex"
  | .md5hex => "md5hex"
  | .sha1hex => "sha1hex"
  | .sha256hex => "sha256hex"
  | .sha384hex => "sha384hex"
  | .sha512hex => "sha512hex"
  | .e164 => "e164"
  | .emoji => "emoji"
  | .time => "time"
  | .enum => "enum"
  | .default => "default"
  | .prefault => "prefault"
  | .refine => "refine"
  | .check => "check"

/-- Every kind, in documentation order. -/
def all : List Kind := [
  .required, .nilable, .min, .max, .length, .size, .gt, .gte, .lt, .lte, .multipleOf, .positive,
  .negative, .nonPositive, .nonNegative, .trim, .lowercase, .uppercase, .includes, .startsWith,
  .endsWith, .regex, .email, .url, .hostname, .uuid, .guid, .cuid, .cuid2, .nanoid, .ulid, .xid,
  .ksuid, .ipv4, .ipv6, .cidrv4, .cidrv6, .base64, .base64url, .hex, .md5hex, .sha1hex,
  .sha256hex, .sha384hex, .sha512hex, .e164, .emoji, .time, .enum, .default, .prefault, .refine,
  .check]

def ofName? (s : String) : Option Kind := all.find? (·.name == s)

theorem ofName?_name (k : Kind) : ofName? k.name = some k := by cases k <;> decide

theorem name_of_ofName? {s : String} {k : Kind} (h : ofName? s = some k) : k.name = s := by
  simpa using List.find?_some h

/-- The schema method a rule of this kind calls; `none` when it calls none. -/
def method : Kind → Option String
  | .required | .time => none
  | .nilable => some "Nilable"
  | .min => some "Min"
  | .max => some "Max"
  | .length => some "Length"
  | .size => some "Size"
  | .gt => some "Gt"
  | .gte => some "Gte"
  | .lt => some "Lt"
  | .lte => some "Lte"
  | .multipleOf => some "MultipleOf"
  | .positive => some "Positive"
  | .negative => some "Negative"
  | .nonPositive => some "NonPositive"
  | .nonNegative => some "NonNegative"
  | .trim => some "Trim"
  | .lowercase => some "ToLowerCase"
  | .uppercase => some "ToUpperCase"
  | .includes => some "Includes"
  | .startsWith => some "StartsWith"
  | .endsWith => some "EndsWith"
  | .regex => some "Regex"
  | .email => some "Email"
  | .url => some "URL"
  | .hostname => some "Hostname"
  | .uuid => some "UUID"
  | .guid => some "GUID"
  | .cuid => some "CUID"
  | .cuid2 => some "CUID2"
  | .nanoid => some "NanoID"
  | .ulid => some "ULID"
  | .xid => some "XID"
  | .ksuid => some "KSUID"
  | .ipv4 => some "IPv4"
  | .ipv6 => some "IPv6"
  | .cidrv4 => some "CIDRv4"
  | .cidrv6 => some "CIDRv6"
  | .base64 => some "Base64"
  | .base64url => some "Base64URL"
  | .hex => some "Hex"
  | .md5hex => some "MD5Hex"
  | .sha1hex => some "SHA1Hex"
  | .sha256hex => some "SHA256Hex"
  | .sha384hex => some "SHA384Hex"
  | .sha512hex => some "SHA512Hex"
  | .e164 => some "E164"
  | .emoji => some "Emoji"
  | .enum => some "Enum"
  | .default => some "Default"
  | .prefault => some "Prefault"
  | .refine => some "Refine"
  | .check => some "Check"

/-- Whether a rule of this kind must carry a parameter. -/
def takesParam : Kind → Bool
  | .min | .max | .length | .size | .gt | .gte | .lt | .lte | .multipleOf | .includes
  | .startsWith | .endsWith | .regex | .enum | .default | .prefault | .refine | .check => true
  | _ => false

/-- A check of text against a named pattern. -/
def isFormat : Kind → Bool
  | .email | .url | .hostname | .uuid | .guid | .cuid | .cuid2 | .nanoid | .ulid | .xid | .ksuid
  | .ipv4 | .ipv6 | .cidrv4 | .cidrv6 | .base64 | .base64url | .hex | .md5hex | .sha1hex
  | .sha256hex | .sha384hex | .sha512hex | .e164 | .emoji => true
  | _ => false

/-- The parameter is a bound on a number. -/
def isNumericBound : Kind → Bool
  | .gt | .gte | .lt | .lte | .multipleOf => true
  | _ => false

/-- The parameter is a size or a length. -/
def isSizeBound : Kind → Bool
  | .min | .max | .length | .size => true
  | _ => false

end Rule.Kind

end TagSchema
