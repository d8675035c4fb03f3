import TagSchema.Json.Numeral

/-!
# Reading JSON

`parse?` reads a whole document. Nesting of `maxDepth` levels or more is refused.
-/

namespace TagSchema.Json

open TagSchema.Number (digitValue)

def isSpace (c : Char) : Bool := c == ' ' || c == '\n' || c == '\t' || c == '\r'

def skipSpace (cs : List Char) : List Char := cs.dropWhile isSpace

/-- A code unit written as four hexadecimal digits. -/
def readUnit : List Char → Option (Nat × List Char)
  | a :: b :: c :: d :: r => do
    let a ← digitValue 16 a
    let b ← digitValue 16 b
    let c ← digitValue 16 c
    let d ← digitValue 16 d
    return (((a * 16 + b) * 16 + c) * 16 + d, r)
  | _ => none

def isHighSurrogate (n : Nat) : Bool := 0xD800 ≤ n && n < 0xDC00

def isLowSurrogate (n : Nat) : Bool := 0xDC00 ≤ n && n < 0xE000

/-- The character after a backslash and `u`; surrogates come in pairs only. -/
def readUnicode (cs : List Char) : Option (Char × List Char) := do
  let (hi, rest) ← readUnit cs
  if isLowSurrogate hi then none
  if !isHighSurrogate hi then return (Char.ofNat hi, rest)
  match rest with
  | '\\' :: 'u' :: rest =>
    let (lo, rest) ← readUnit rest
    if !isLowSurrogate lo then none
    return (Char.ofNat (0x10000 + (hi - 0xD800) * 0x400 + (lo - 0xDC00)), rest)
  | _ => none

def simpleEscape : Char → Option Char
  | '"' => some '"'
  | '\\' => some '\\'
  | '/' => some '/'
  | 'b' => some '\x08'
  | 'f' => some '\x0c'
  | 'n' => some '\n'
  | 'r' => some '\r'
  | 't' => some '\t'
  | _ => none

/-- The characters up to the closing quote, in reverse before `acc`. -/
def readStringBody : Nat → List Char → List Char → Option (String × List Char)
  | 0, _, _ => none
  | n + 1, acc, cs =>
    match cs with
    | [] => none
    | '"' :: rest => some (String.ofList acc.reverse, rest)
    | '\\' :: 'u' :: rest => do
      let (c, rest) ← readUnicode rest
      readStringBody n (c :: acc) rest
    | '\\' :: e :: rest => do
      let c ← simpleEscape e
      readStringBody n (c :: acc) rest
    | c :: rest => if c < ' ' || c == '\\' then none else readStringBody n (c :: acc) rest

def readString (cs : List Char) : Option (String × List Char) :=
  readStringBody (cs.length + 1) [] cs

def maxDepth : Nat := 128

/-- Drops `word` from the head of the text. -/
def expect (word : List Char) (value : Json) (cs : List Char) : Option (Json × List Char) :=
  if word.isPrefixOf cs then some (value, cs.drop word.length) else none

mutual

/-- A value at the head of the text, with `depth` levels of nesting left. -/
def readValue : Nat → Nat → List Char → Option (Json × List Char)
  | 0, _, _ => none
  | fuel + 1, depth, cs =>
    match skipSpace cs with
    | [] => none
    | '"' :: rest => (readString rest).map fun (s, rest) => (.string s, rest)
    | '[' :: rest =>
      if depth ≤ 1 then none
      else match skipSpace rest with
        | ']' :: rest => some (.array [], rest)
        | rest => (readItems fuel (depth - 1) rest).map fun (items, rest) => (.array items, rest)
    | '{' :: rest =>
      if depth ≤ 1 then none
      else match skipSpace rest with
        | '}' :: rest => some (.object [], rest)
        | rest => (readMembers fuel (depth - 1) rest).map fun (ms, rest) => (ofMembers ms, rest)
    | c :: rest =>
      if c == '-' || c.isDigit then
        (readNumeral (c :: rest)).map fun (n, rest) => (.number n, rest)
      else if c == 't' then expect "rue".toList (.bool true) rest
      else if c == 'f' then expect "alse".toList (.bool false) rest
      else if c == 'n' then expect "ull".toList .null rest
      else none

/-- Values up to the closing bracket. -/
def readItems : Nat → Nat → List Char → Option (List Json × List Char)
  | 0, _, _ => none
  | fuel + 1, depth, cs => do
    let (item, rest) ← readValue fuel depth cs
    match skipSpace rest with
    | ',' :: rest =>
      let (items, rest) ← readItems fuel depth rest
      return (item :: items, rest)
    | ']' :: rest => return ([item], rest)
    | _ => none

/-- Members up to the closing brace. -/
def readMembers : Nat → Nat → List Char → Option (List (String × Json) × List Char)
  | 0, _, _ => none
  | fuel + 1, depth, cs => do
    match skipSpace cs with
    | '"' :: rest =>
      let (key, rest) ← readString rest
      match skipSpace rest with
      | ':' :: rest =>
        let (value, rest) ← readValue fuel depth rest
        match skipSpace rest with
        | ',' :: rest =>
          let (members, rest) ← readMembers fuel depth rest
          return ((key, value) :: members, rest)
        | '}' :: rest => return ([(key, value)], rest)
        | _ => none
      | _ => none
    | _ => none

end

def parseChars? (cs : List Char) : Option Json := do
  let (value, rest) ← readValue (cs.length + 1) maxDepth cs
  if (skipSpace rest).isEmpty then some value else none

def parse? (text : String) : Option Json := parseChars? text.toList

end TagSchema.Json
