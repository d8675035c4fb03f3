import TagSchema.Network.Address
import TagSchema.Text.Case
import TagSchema.Text.Utf8

/-!
# URLs with an authority

The scheme and host of an absolute URL. The host of a special scheme is a domain or an address; that
of any other scheme is opaque text.
-/

namespace TagSchema.Network

open TagSchema.Number (digitValue readDigits)
open TagSchema.Text (fields)

structure Url where
  scheme : String
  host : Option String
  deriving DecidableEq, Repr

def isSpecialScheme (scheme : String) : Bool :=
  ["http", "https", "ws", "wss", "ftp", "file"].contains scheme

/-! ### Hosts -/

/-- One number of an IPv4 address: `0x` begins hexadecimal digits and `0` octal ones. Numbers past
32 bits have no value. -/
def hostNumber (cs : List Char) : Option (Option Nat) :=
  let (base, ds) := match cs with
    | '0' :: 'x' :: ds => (16, ds)
    | '0' :: 'X' :: ds => (16, ds)
    | '0' :: d :: ds => (8, d :: ds)
    | ds => (10, ds)
  if cs.isEmpty then none
  else if ds.isEmpty then some (some 0)
  else (readDigits base 0 ds).map fun n => if n < Nat.pow 2 32 then some n else none

/-- The last field that is not empty, a final empty one apart. -/
def lastField (cs : List Char) : Option (List Char) :=
  match (fields '.' cs).reverse with
  | [] :: last :: _ => some last
  | [] :: [] => none
  | last :: _ => some last
  | [] => none

def endsInNumber (cs : List Char) : Bool :=
  match lastField cs with
  | some last => (!last.isEmpty && last.all Char.isDigit) || (hostNumber last).isSome
  | none => false

/-- The four octets of an IPv4 host of up to four numbers, the last filling what remains. -/
def readIpv4Host (cs : List Char) : Option (List Nat) := do
  let parts := fields '.' cs
  let parts := if parts.getLast? == some [] then parts.dropLast else parts
  if 4 < parts.length then none
  let numbers ← parts.mapM fun p => (hostNumber p).join
  let last ← numbers.getLast?
  let front := numbers.dropLast
  if Nat.pow 256 (4 - front.length) ≤ last || front.any (255 < ·) then none
  let rest := (List.range (4 - front.length)).reverse.map fun i => last / Nat.pow 256 i % 256
  return front ++ rest

/-- Bytes with the percent escapes among them decoded. -/
def percentDecode : List UInt8 → List UInt8
  | 0x25 :: a :: b :: rest =>
    match digitValue 16 (Char.ofNat a.toNat), digitValue 16 (Char.ofNat b.toNat) with
    | some x, some y => (x * 16 + y).toUInt8 :: percentDecode rest
    | _, _ => 0x25 :: percentDecode (a :: b :: rest)
  | b :: rest => b :: percentDecode rest
  | [] => []
termination_by bs => bs.length

def forbiddenInHost : List Char := "\x00\t\n\r #/:<>?@[\\]^|".toList

def isForbiddenInDomain (c : Char) : Bool :=
  c ≤ ' ' || c == '\x7f' || c == '%' || forbiddenInHost.contains c

/-! ### Punycode -/

def adaptBias (delta points : Nat) (first : Bool) : Nat :=
  let d := if first then delta / 700 else delta / 2
  let d := d + d / points
  let rec shrink : Nat → Nat → Nat → Nat
    | 0, k, d => k + 36 * d / (d + 38)
    | fuel + 1, k, d => if 455 < d then shrink fuel (k + 36) (d / 35) else k + 36 * d / (d + 38)
  shrink 64 0 d

def threshold (bias k : Nat) : Nat := min 26 (max 1 (k - bias))

def punycodeDigit (n : Nat) : Char :=
  if n < 26 then Char.ofNat ('a'.toNat + n) else Char.ofNat ('0'.toNat + n - 26)

/-- A generalized variable-length integer. -/
def encodeInteger (bias : Nat) : Nat → Nat → Nat → List Char
  | 0, _, _ => []
  | fuel + 1, k, q =>
    let t := threshold bias k
    if q < t then [punycodeDigit q]
    else punycodeDigit (t + (q - t) % (36 - t)) ::
      encodeInteger bias fuel (k + 36) ((q - t) / (36 - t))

structure Encoder where
  delta : Nat
  bias : Nat
  handled : Nat
  output : List Char

/-- Encodes the occurrences of the code point `n` in `cs`. -/
def encodePoint (basic n : Nat) (e : Encoder) (cs : List Nat) : Encoder :=
  cs.foldl
    (fun e c =>
      if c < n then { e with delta := e.delta + 1 }
      else if c = n then
        { delta := 0, handled := e.handled + 1,
          bias := adaptBias e.delta (e.handled + 1) (e.handled == basic),
          output := e.output ++ encodeInteger e.bias 64 36 e.delta }
      else e)
    e

def encodePoints (basic : Nat) (cs : List Nat) : Nat → Nat → Encoder → List Char
  | 0, _, e => e.output
  | fuel + 1, n, e =>
    match (cs.filter (n ≤ ·)).min? with
    | none => e.output
    | some m =>
      let e := { e with delta := e.delta + (m - n) * (e.handled + 1) }
      let e := encodePoint basic m e cs
      encodePoints basic cs fuel (m + 1) { e with delta := e.delta + 1 }

/-- A label in ASCII; one with other characters is marked and written in Punycode. -/
def asciiLabel (cs : List Char) : List Char :=
  if cs.all (·.toNat < 0x80) then cs
  else
    let basic := cs.filter (·.toNat < 0x80)
    let head := if basic.isEmpty then [] else basic ++ ['-']
    "xn--".toList ++ head ++
      encodePoints basic.length (cs.map Char.toNat) (cs.length + 1) 0x80 ⟨0, 72, basic.length, []⟩

/-- A domain in ASCII and lower case; none has a forbidden or an invisible character. -/
def asciiDomain (s : String) : Option (List Char) :=
  let lowered := (Text.toLower s).toList.map fun c =>
    if c == '\u3002' || c == '\uff0e' || c == '\uff61' then '.' else c
  let bad (c : Char) : Bool :=
    if c.toNat < 0x80 then isForbiddenInDomain c else !Text.isPrintable c
  if lowered.any bad then none
  else some (['.'].intercalate ((fields '.' lowered).map asciiLabel))

/-- An address between brackets. -/
def readBracketed (cs : List Char) : Option String :=
  match cs with
  | '[' :: rest =>
    if rest.getLast? == some ']' then
      (readV6 rest.dropLast).map fun g => "[" ++ (Address.v6 g).text ++ "]"
    else none
  | _ => none

def readSpecialHost (cs : List Char) : Option String :=
  if cs.head? == some '[' then readBracketed cs
  else do
    let bytes := percentDecode (String.ofList cs).toUTF8.toList
    let domain ← asciiDomain (Text.ofUtf8Lossy bytes)
    if domain.isEmpty then none
    else if endsInNumber domain then (readIpv4Host domain).map fun o => (Address.v4 o).text
    else some (String.ofList domain)

def upperHexByte (b : UInt8) : List Char :=
  let digit (n : Nat) : Char := ((Nat.toDigits 16 n).headD '0').toUpper
  ['%', digit (b.toNat / 16), digit (b.toNat % 16)]

/-- Control characters and everything beyond ASCII as percent escapes. -/
def percentEncode (cs : List Char) : List Char :=
  cs.flatMap fun c =>
    if c.toNat < 0x20 || 0x7E < c.toNat then (String.singleton c).toUTF8.toList.flatMap upperHexByte
    else [c]

def readOpaqueHost (cs : List Char) : Option String :=
  if cs.head? == some '[' then readBracketed cs
  else if cs.any forbiddenInHost.contains then none
  else some (String.ofList (percentEncode cs))

/-! ### Authorities -/

def endsAuthority (special : Bool) (c : Char) : Bool :=
  c == '/' || c == '?' || c == '#' || (special && c == '\\')

/-- The text after the last `@` of the authority; it may not be empty. -/
def dropUserInfo (special : Bool) (cs : List Char) : Option (List Char) :=
  let authority := cs.takeWhile fun c => !endsAuthority special c
  if authority.contains '@' then
    let after := (authority.reverse.takeWhile (· != '@')).reverse
    if authority.head? == some '@' && authority.length = after.length + 1 && after.isEmpty &&
        authority.length < cs.length then none
    else some (cs.drop (authority.length - after.length))
  else some cs

/-- The host text, up to a colon outside brackets, and what follows it. -/
def takeHost (special : Bool) : Bool → List Char → List Char × List Char
  | _, [] => ([], [])
  | inside, c :: cs =>
    if (c == ':' && !inside) || endsAuthority special c then ([], c :: cs)
    else
      let inside := if c == '[' then true else if c == ']' then false else inside
      let (host, rest) := takeHost special inside cs
      (c :: host, rest)

/-- Digits up to 65535, or nothing. -/
def isPort (cs : List Char) : Bool :=
  let ds := cs.takeWhile fun c => !endsAuthority true c
  ds.all Char.isDigit && (readDigits 10 0 ds).any (· ≤ 65535)

def isDriveLetter : List Char → Bool
  | [a, b] => a.isAlpha && (b == ':' || b == '|')
  | _ => false

/-- The host of a `file` URL; the local host and a drive letter leave it out. -/
def readFileHost (cs : List Char) : Option (Option String) :=
  let host := cs.takeWhile fun c => !endsAuthority true c
  if host.isEmpty || isDriveLetter host then some none
  else (readSpecialHost host).map fun h => if h == "localhost" then none else some h

/-- The host of an authority with an optional port; only an opaque host may be empty, and then there
is none. -/
def readAuthority (special : Bool) (cs : List Char) : Option (Option String) := do
  let cs ← dropUserInfo special cs
  let (host, rest) := takeHost special false cs
  if host.isEmpty && (special || rest.head? == some ':') then none
  let h ← if special then readSpecialHost host else readOpaqueHost host
  let portIsValid := match rest with
    | ':' :: port => isPort port
    | _ => true
  if portIsValid then some (if h.isEmpty then none else some h) else none

/-- An absolute URL with two slashes after its scheme. -/
def Url.parse? (text : List Char) : Option Url := do
  let isEdge (c : Char) : Bool := c ≤ ' '
  let cs := (((text.dropWhile isEdge).reverse).dropWhile isEdge).reverse
  let scheme := (cs.takeWhile (· != ':')).map Char.toLower
  let rest := cs.drop (scheme.length + 1)
  let name := String.ofList scheme
  let special := isSpecialScheme name
  let isSlash (c : Char) : Bool := c == '/' || (special && c == '\\')
  match rest with
  | a :: b :: after =>
    if !isSlash a || !isSlash b then none
    else if name == "file" then (readFileHost after).map fun h => ⟨name, h⟩
    else
      let after := if special then after.dropWhile isSlash else after
      (readAuthority special after).map fun h => ⟨name, h⟩
  | _ => none

end TagSchema.Network
