import TagSchema.Coerce.Scalar
import TagSchema.Json.Reader
import TagSchema.Network.Url
import TagSchema.Predicate.Format
import TagSchema.Text.Base64

/-!
# Structured text

JSON documents, entries of maps, MIME types, the headers of web tokens, and URLs held against
patterns.
-/

namespace TagSchema.Predicate

/-- Text, or a value with a text, that holds a JSON document. -/
def json (v : Value) : Bool :=
  match Coerce.toText v with
  | .ok s => (Json.parse? s).isSome
  | .error _ => false

/-- The first entry with that key satisfies `p`; every key must be a string. -/
def property (key : String) (p : Value → Bool) (v : Value) : Bool :=
  match v.indirect with
  | some (.map entries) =>
    entries.all (·.1.string?.isSome) &&
      ((entries.find? (·.1.string? == some key)).any fun e => p e.2)
  | _ => false

/-- A type and a subtype; if `allowed` names any, one of them. -/
def mime (allowed : List String) (v : Value) : Bool :=
  v.string?.any fun s =>
    (match Text.fields '/' s.toList with
      | [a, b] => !a.isEmpty && !b.isEmpty
      | _ => false) && (allowed.isEmpty || allowed.contains s)

/-- The members of a token's header, its first segment. -/
def tokenHeader (segment : List Char) : Option Json := do
  let bytes ← Text.decodeBase64Url ((segment.reverse.dropWhile (· == '=')).reverse)
  let text ← Text.ofUtf8? bytes
  let header ← Json.parse? text
  match header with
  | .object _ => some header
  | _ => none

/-- The header names an algorithm other than `none`, the required one if there is one, and no type
but `JWT`. -/
def headerIsValid (algorithm : Option String) (header : Json) : Bool :=
  match (header.get? "alg").bind Json.string? with
  | none => false
  | some alg =>
    alg.toList.map Char.toLower != "none".toList && algorithm.all (· == alg) &&
      match header.get? "typ" with
      | none => true
      | some t => t.string? == some "JWT"

/-- Three segments with a valid header; signatures are not checked. -/
def jwt (algorithm : Option String) (v : Value) : Bool :=
  withText v fun cs =>
    match Text.fields '.' cs with
    | [header, _, _] => (tokenHeader header).any (headerIsValid algorithm)
    | _ => false

/-- A URL whose scheme and host match the patterns that are given. -/
def urlWith (protocol hostname : Option Regex) (v : Value) : Bool :=
  v.string?.any fun s =>
    Pattern.url.isMatch s &&
      match Network.Url.parse? s.toList with
      | none => false
      | some u =>
        protocol.all (·.isMatch u.scheme) && hostname.all fun r => u.host.any r.isMatch

end TagSchema.Predicate
