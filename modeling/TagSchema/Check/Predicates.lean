import TagSchema.Predicate.Iso
import TagSchema.Predicate.Numeric
import TagSchema.Rule.Kind

/-!
# Predicates of rule kinds

The check that a rule without a parameter makes.
-/

namespace TagSchema

def Rule.Kind.predicate? : Rule.Kind → Option (Value → Bool)
  | .positive => some Predicate.positive
  | .negative => some Predicate.negative
  | .nonPositive => some Predicate.nonPositive
  | .nonNegative => some Predicate.nonNegative
  | .lowercase => some Predicate.lowercase
  | .uppercase => some Predicate.uppercase
  | .email => some Predicate.email
  | .url => some Predicate.url
  | .hostname => some Predicate.hostname
  | .uuid => some Predicate.uuid
  | .guid => some Predicate.guid
  | .cuid => some Predicate.cuid
  | .cuid2 => some Predicate.cuid2
  | .nanoid => some Predicate.nanoId
  | .ulid => some Predicate.ulid
  | .xid => some Predicate.xid
  | .ksuid => some Predicate.ksuid
  | .ipv4 => some Predicate.ipv4
  | .ipv6 => some Predicate.ipv6
  | .cidrv4 => some Predicate.cidrV4
  | .cidrv6 => some Predicate.cidrV6
  | .base64 => some Predicate.base64
  | .base64url => some Predicate.base64Url
  | .hex => some Predicate.hex
  | .md5hex => some Predicate.md5Hex
  | .sha1hex => some Predicate.sha1Hex
  | .sha256hex => some Predicate.sha256Hex
  | .sha384hex => some Predicate.sha384Hex
  | .sha512hex => some Predicate.sha512Hex
  | .e164 => some Predicate.e164
  | .emoji => some Predicate.emoji
  | .time => some Predicate.timeValue
  | .required | .nilable | .min | .max | .length | .size | .gt | .gte | .lt | .lte | .multipleOf
  | .trim | .includes | .startsWith | .endsWith | .regex | .enum | .default | .prefault | .refine
  | .check => none

end TagSchema
