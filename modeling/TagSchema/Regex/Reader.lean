import TagSchema.Number.Digits
import TagSchema.Regex.ClassName
import TagSchema.Regex.Limit

/-!
# Pattern source

`read` reads the source of a pattern. Groups, flags, counted repetition, nested classes with set
operations, Unicode classes and word boundaries are known; look-around and references to groups are
not, and make the source malformed.
-/

namespace TagSchema.Regex

open TagSchema.Number (digitValue readDigits)

structure Flags where
  ignoreCase : Bool := false
  multiLine : Bool := false
  dotAll : Bool := false
  swapGreed : Bool := false
  unicode : Bool := true
  crlf : Bool := false
  ignoreSpace : Bool := false
  deriving DecidableEq, Repr

mutual

/-- Drops white space and comments. -/
def skipBlanks : List Char → List Char
  | [] => []
  | c :: cs =>
    if Text.isBlank c then skipBlanks cs else if c == '#' then skipComment cs else c :: cs

/-- Drops the rest of a comment and what follows it. -/
def skipComment : List Char → List Char
  | [] => []
  | c :: cs => if c == '\n' then skipBlanks cs else skipComment cs

end

namespace Flags

/-- Drops what the flags make insignificant. -/
def skip (f : Flags) (cs : List Char) : List Char := if f.ignoreSpace then skipBlanks cs else cs

def fold (f : Flags) (s : CharSet) : CharSet := if f.ignoreCase then .folded s else s

/-- A set is allowed if, outside Unicode mode, it holds ASCII characters only. -/
def allow (f : Flags) (s : CharSet) : Option CharSet :=
  if f.unicode || (List.range 128).all fun i => !s.has (Char.ofNat (128 + i)) then some s else none

def allowChar (f : Flags) (c : Char) : Option Char :=
  if f.unicode || c.toNat < 0x80 then some c else none

def set? (f : Flags) (c : Char) (value : Bool) : Option Flags :=
  match c with
  | 'i' => some { f with ignoreCase := value }
  | 'm' => some { f with multiLine := value }
  | 's' => some { f with dotAll := value }
  | 'U' => some { f with swapGreed := value }
  | 'u' => some { f with unicode := value }
  | 'R' => some { f with crlf := value }
  | 'x' => some { f with ignoreSpace := value }
  | _ => none

end Flags

/-! ### Escapes -/

/-- What a backslash and the text after it stand for. -/
inductive Escape where
  | char (c : Char)
  | set (s : CharSet)
  | anchor (a : Anchor)

def isMeta (c : Char) : Bool := "\\.+*?()|[]\x7b\x7d^$#&-~".toList.contains c

/-- A character that stands for itself after a backslash. -/
def isEscapable (c : Char) : Bool :=
  isMeta c || (c.toNat < 0x80 && !c.isAlphanum && c != '<' && c != '>')

/-- The character with the given hexadecimal code point. -/
def hexChar? (ds : List Char) : Option Char := do
  let n ← if ds.isEmpty then none else readDigits 16 0 ds
  if h : n.isValidChar then some (Char.ofNatAux n h) else none

/-- Exactly `n` digits, or digits in braces. -/
def readHex (f : Flags) (n : Nat) (cs : List Char) : Option (Char × List Char) :=
  match f.skip cs with
  | '\x7b' :: rest =>
    let body := rest.takeWhile (· != '\x7d')
    match rest.drop body.length with
    | _ :: rest => (hexChar? (if f.ignoreSpace then skipBlanks body else body)).map (·, f.skip rest)
    | [] => none
  | cs =>
    let ds := cs.take n
    if ds.length = n then (hexChar? ds).map (·, f.skip (cs.drop n)) else none

/-- A one-letter class name, or a name in braces. -/
def readUnicodeClass (f : Flags) (negated : Bool) (cs : List Char) :
    Option (CharSet × List Char) := do
  if !f.unicode then none
  let (s, rest) ← match f.skip cs with
    | '\x7b' :: rest =>
      let body := rest.takeWhile (· != '\x7d')
      match rest.drop body.length with
      | _ :: rest => (unicodeClass? body).map (·, rest)
      | [] => none
    | '\\' :: _ => none
    | c :: rest => (named? (looseName [c])).map (·, f.skip rest)
    | [] => none
  let s := f.fold s
  return (if negated then .compl s else s, rest)

def boundaryNames (ascii : Bool) : List (String × Anchor) := [
  ("start", .wordStart ascii), ("end", .wordEnd ascii), ("start-half", .wordStartHalf ascii),
  ("end-half", .wordEndHalf ascii)]

/-- A plain word boundary, or the kind that a name in braces selects. -/
def readBoundary (f : Flags) (cs : List Char) : Option (Anchor × List Char) :=
  let ascii := !f.unicode
  let isNameChar (c : Char) : Bool := c.isAlpha || c == '-'
  match cs with
  | '\x7b' :: rest =>
    let body := f.skip rest
    match body with
    | [] => none
    | c :: _ =>
      if !isNameChar c then some (.wordBoundary ascii, cs)
      else
        let name := body.takeWhile isNameChar
        match f.skip (body.drop name.length) with
        | '\x7d' :: rest => ((boundaryNames ascii).lookup (String.ofList name)).map (·, rest)
        | _ => none
  | _ => some (.wordBoundary ascii, cs)

/-- The escape whose backslash has been read. -/
def readEscape (f : Flags) : List Char → Option (Escape × List Char)
  | [] => none
  | c :: cs =>
    let ascii := !f.unicode
    match c with
    | 'x' => (readHex f 2 cs).map fun (c, r) => (.char c, r)
    | 'u' => (readHex f 4 cs).map fun (c, r) => (.char c, r)
    | 'U' => (readHex f 8 cs).map fun (c, r) => (.char c, r)
    | 'p' => (readUnicodeClass f false cs).map fun (s, r) => (.set s, r)
    | 'P' => (readUnicodeClass f true cs).map fun (s, r) => (.set s, r)
    | 'a' => some (.char '\x07', cs)
    | 'f' => some (.char '\x0c', cs)
    | 't' => some (.char '\t', cs)
    | 'n' => some (.char '\n', cs)
    | 'r' => some (.char '\r', cs)
    | 'v' => some (.char '\x0b', cs)
    | 'A' => some (.anchor .textStart, cs)
    | 'z' => some (.anchor .textEnd, cs)
    | 'b' => (readBoundary f cs).map fun (a, r) => (.anchor a, r)
    | 'B' => some (.anchor (.notWordBoundary ascii), cs)
    | '<' => some (.anchor (.wordStart ascii), cs)
    | '>' => some (.anchor (.wordEnd ascii), cs)
    | _ =>
      match perlClass? f.unicode c with
      | some s => some (.set s, cs)
      | none => if isEscapable c then some (.char c, cs) else none

/-! ### Classes -/

inductive SetOp where
  | inter | diff | symmDiff
  deriving DecidableEq, Repr

def SetOp.apply : SetOp → CharSet → CharSet → CharSet
  | inter, a, b => .inter a b
  | diff, a, b => .diff a b
  | symmDiff, a, b => .symmDiff a b

/-- A set operation at the head of the text. -/
def readSetOp : List Char → Option (SetOp × List Char)
  | '&' :: '&' :: cs => some (.inter, cs)
  | '-' :: '-' :: cs => some (.diff, cs)
  | '~' :: '~' :: cs => some (.symmDiff, cs)
  | _ => none

/-- The finished operand `right` joined to the one before it. -/
def closeOp (f : Flags) (left : Option (CharSet × SetOp)) (right : CharSet) : CharSet :=
  match left with
  | some (a, op) => op.apply (f.fold a) (f.fold right)
  | none => right

/-- An ASCII class such as `[:alpha:]`, whose first bracket has been read. -/
def readAsciiClass (f : Flags) (cs : List Char) : Option (CharSet × List Char) := do
  let rest ← match cs with
    | ':' :: rest => some rest
    | _ => none
  let (negated, rest) := match rest with
    | '^' :: rest => (true, rest)
    | rest => (false, rest)
  let name := rest.takeWhile (· != ':')
  match rest.drop name.length with
  | ':' :: ']' :: rest =>
    let s ← asciiNames.lookup (String.ofList name)
    let s := f.fold s
    return (if negated then .compl s else s, rest)
  | _ => none

/-- A character, or an escape that is a character or a set. -/
def readClassItem (f : Flags) : List Char → Option (Escape × List Char)
  | [] => none
  | '\\' :: cs => readEscape f cs
  | c :: cs => some (.char c, cs)

/-- Whether a hyphen at the head of the text stands between the ends of a range. -/
def startsRange (f : Flags) : List Char → Bool
  | '-' :: cs =>
    match f.skip cs with
    | ']' :: _ | '-' :: _ => false
    | _ => true
  | _ => false

/-- One item of a class, or the range that it begins. -/
def readClassRange (f : Flags) (cs : List Char) : Option (CharSet × List Char) := do
  let (item, rest) ← readClassItem f cs
  let rest := f.skip rest
  if startsRange f rest then
    match item, f.skip (rest.drop 1) with
    | .char lo, rest => do
      let (item, rest) ← readClassItem f rest
      match item with
      | .char hi =>
        let lo ← f.allowChar lo
        let hi ← f.allowChar hi
        if hi < lo then none else return (.range lo hi, rest)
      | _ => none
    | _, _ => none
  else match item with
    | .char c => (f.allowChar c).map fun c => (.single c, rest)
    | .set s => return (s, rest)
    | .anchor _ => none

/-- What a class begins with: negation, then hyphens or a bracket that stand for themselves. -/
def openClass (f : Flags) (cs : List Char) : Option (Bool × CharSet × List Char) :=
  let cs := f.skip cs
  let (negated, cs) := match cs with
    | '^' :: rest => (true, f.skip rest)
    | _ => (false, cs)
  let hyphens := cs.takeWhile (· == '-')
  match hyphens, cs with
  | [], ']' :: rest => some (negated, .single ']', f.skip rest)
  | [], [] => none
  | [], cs => some (negated, .nothing, cs)
  | _, cs => some (negated, .single '-', f.skip (cs.drop hyphens.length))

/-- A class up to its closing bracket: `left` awaits its second operand, `acc` has been read. -/
def readClass (f : Flags) : Nat → Bool → Option (CharSet × SetOp) → CharSet → List Char →
    Option (CharSet × List Char)
  | 0, _, _, _, _ => none
  | fuel + 1, negated, left, acc, cs =>
    match f.skip cs with
    | [] => none
    | ']' :: rest =>
      let s := f.fold (closeOp f left acc)
      some (if negated then .compl s else s, rest)
    | '[' :: rest =>
      match readAsciiClass f rest with
      | some (s, rest) => readClass f fuel negated left (.union acc s) rest
      | none => do
        let (inner, first, rest) ← openClass f rest
        let (s, rest) ← readClass f fuel inner none first rest
        readClass f fuel negated left (.union acc s) rest
    | cs =>
      match readSetOp cs with
      | some (op, rest) => readClass f fuel negated (some (closeOp f left acc, op)) .nothing rest
      | none => do
        let (s, rest) ← readClassRange f cs
        readClass f fuel negated left (.union acc s) rest

/-! ### Repetition -/

def dropBlanks (cs : List Char) : List Char := cs.dropWhile Text.isBlank

/-- A decimal number below `2 ^ 32`; white space may stand around it. -/
def readCount (f : Flags) (cs : List Char) : Option (Nat × List Char) := do
  let cs := dropBlanks cs
  let ds := cs.takeWhile Char.isDigit
  let n ← if ds.isEmpty then none else readDigits 10 0 ds
  if n < Nat.pow 2 32 then return (n, f.skip (dropBlanks (f.skip (cs.drop ds.length)))) else none

/-- The bounds of a counted repetition whose brace has been read. -/
def readBounds (f : Flags) (cs : List Char) : Option (Nat × Option Nat × List Char) := do
  let (least, rest) ← readCount f (f.skip cs)
  match rest with
  | '\x7d' :: rest => return (least, some least, rest)
  | ',' :: rest =>
    match f.skip rest with
    | '\x7d' :: rest => return (least, none, rest)
    | rest =>
      let (most, rest) ← readCount f rest
      match rest with
      | '\x7d' :: rest => if most < least then none else return (least, some most, rest)
      | _ => none
  | _ => none

/-- Drops the mark of a lazy repetition, which matches the same texts. -/
def dropLazy : List Char → List Char
  | '?' :: cs => cs
  | cs => cs

/-! ### Groups -/

structure GroupHead where
  flags : Flags
  name : Option String
  /-- Flags that hold from here on, without a group of their own. -/
  isDirective : Bool

/-- Flags up to a colon or a closing parenthesis; none may occur twice. -/
def readFlags : Nat → Flags → Bool → List Char → List Char → Option (Flags × Bool × List Char)
  | 0, _, _, _, _ => none
  | fuel + 1, f, value, seen, cs =>
    match cs with
    | [] => none
    | ':' :: rest => if seen.head? == some '-' then none else some (f, false, rest)
    | ')' :: rest => if seen.isEmpty || seen.head? == some '-' then none else some (f, true, rest)
    | c :: rest =>
      if seen.contains c then none
      else if c == '-' then readFlags fuel f false (c :: seen) rest
      else do
        let f ← f.set? c value
        readFlags fuel f value (c :: seen) rest

def isGroupNameChar (first : Bool) (c : Char) : Bool :=
  if first then c == '_' || Text.isAlphabetic c
  else c == '_' || c == '.' || c == '[' || c == ']' || Text.isAlphanumeric c

/-- A group name up to its closing angle bracket. -/
def readGroupName (cs : List Char) : Option (String × List Char) :=
  let name := cs.takeWhile (· != '>')
  match name, cs.drop name.length with
  | c :: rest, _ :: after =>
    if isGroupNameChar true c && rest.all (isGroupNameChar false) then
      some (String.ofList (c :: rest), after)
    else none
  | _, _ => none

/-- The head of a group whose parenthesis has been read. -/
def readGroupHead (f : Flags) (cs : List Char) : Option (GroupHead × List Char) :=
  match f.skip cs with
  | '?' :: '=' :: _ | '?' :: '!' :: _ | '?' :: '<' :: '=' :: _ | '?' :: '<' :: '!' :: _ => none
  | '?' :: 'P' :: '<' :: rest | '?' :: '<' :: rest =>
    (readGroupName rest).map fun (name, rest) => (⟨f, some name, false⟩, rest)
  | '?' :: rest =>
    (readFlags (rest.length + 1) f true [] rest).map fun (f, directive, rest) =>
      (⟨f, none, directive⟩, rest)
  | rest => some (⟨f, none, false⟩, rest)

/-- Items in reverse as one pattern; `none` marks a flag directive. -/
def concatenate (items : List (Option Regex)) : Regex :=
  match items.filterMap id with
  | [] => .empty
  | r :: rs => rs.foldl (fun after before => .cat before after) r

def lineAnchor (f : Flags) (atStart : Bool) : Anchor :=
  match f.multiLine, atStart with
  | true, true => .lineStart f.crlf
  | true, false => .lineEnd f.crlf
  | false, true => .textStart
  | false, false => .textEnd

def dotSet (f : Flags) : CharSet :=
  if f.dotAll then .anything
  else if f.crlf then .compl (.oneOf ['\r', '\n'])
  else .dot

def charSet (f : Flags) (c : Char) : Option CharSet :=
  (f.allowChar c).map fun c => f.fold (.single c)

/-- A single character, class, anchor or escape at the head of the text. -/
def readAtom (f : Flags) : List Char → Option (Regex × List Char)
  | [] => none
  | '\\' :: cs => do
    let (e, rest) ← readEscape f cs
    match e with
    | .char c => return (.set (← charSet f c), rest)
    | .set s => return (.set (← f.allow s), rest)
    | .anchor a => return (.anchor a, rest)
  | '[' :: cs => do
    let (negated, first, rest) ← openClass f cs
    let (s, rest) ← readClass f (rest.length + 1) negated none first rest
    return (.set (← f.allow s), rest)
  | '.' :: cs => (f.allow (dotSet f)).map fun s => (.set s, cs)
  | '^' :: cs => some (.anchor (lineAnchor f true), cs)
  | '$' :: cs => some (.anchor (lineAnchor f false), cs)
  | c :: cs => (charSet f c).map fun s => (.set s, cs)

/-- The last item repeated. -/
def repeatLast (items : List (Option Regex)) (least : Nat) (most : Option Nat) :
    Option (List (Option Regex)) :=
  match items with
  | some r :: rest => some (some (.rep r least most) :: rest)
  | _ => none

structure Cursor where
  flags : Flags
  names : List String
  rest : List Char

/-- Alternatives up to a closing parenthesis or the end, inside at most `depth` more groups. -/
def readAlternatives : Nat → Nat → Cursor → List Regex → List (Option Regex) →
    Option (Regex × Cursor)
  | 0, _, _, _, _ => none
  | fuel + 1, depth, cur, done, items =>
    let f := cur.flags
    let finished := anyOf ((concatenate items :: done).reverse)
    let repeated (least : Nat) (most : Option Nat) (rest : List Char) := do
      let items ← repeatLast items least most
      readAlternatives fuel depth { cur with rest := dropLazy rest } done items
    match f.skip cur.rest with
    | [] => some (finished, { cur with rest := [] })
    | ')' :: rest => some (finished, { cur with rest := ')' :: rest })
    | '|' :: rest =>
      readAlternatives fuel depth { cur with rest } (concatenate items :: done) []
    | '*' :: rest => repeated 0 none rest
    | '+' :: rest => repeated 1 none rest
    | '?' :: rest => repeated 0 (some 1) rest
    | '\x7b' :: rest => do
      let _ ← repeatLast items 0 none
      let (least, most, rest) ← readBounds f rest
      repeated least most (f.skip rest)
    | '(' :: rest => do
      let (head, rest) ← readGroupHead f rest
      if head.isDirective then
        readAlternatives fuel depth { cur with flags := head.flags, rest } done (none :: items)
      else
        if depth = 0 || head.name.any cur.names.contains then none
        let names := head.name.toList ++ cur.names
        let (r, inner) ← readAlternatives fuel (depth - 1) ⟨head.flags, names, rest⟩ [] []
        match inner.rest with
        | ')' :: rest => readAlternatives fuel depth ⟨f, inner.names, rest⟩ done (some r :: items)
        | _ => none
    | cs => do
      let (r, rest) ← readAtom f cs
      readAlternatives fuel depth { cur with rest } done (some r :: items)

/-! ### Whole sources -/

inductive Fault where
  | malformed | tooBig
  deriving DecidableEq, Repr

def Fault.message : Fault → String
  | malformed => "regex parse error:"
  | tooBig => s!"Compiled regex exceeds size limit of {sizeLimit} bytes."

/-- The deepest nesting of groups admitted. -/
def maxGroups : Nat := 250

/-- The pattern that the source stands for, of whatever size. -/
def parse? (cs : List Char) : Option Regex :=
  match readAlternatives (2 * cs.length + 1) maxGroups ⟨{}, [], cs⟩ [] [] with
  | some (r, ⟨_, _, []⟩) => some r
  | _ => none

/-- The pattern that the source stands for, if the engine admits it. -/
def readChars (cs : List Char) (limit : Limit := .standard) : Except Fault Regex :=
  match parse? cs with
  | some r => if limit.admits r then .ok r else .error .tooBig
  | none => .error .malformed

def read (source : String) (limit : Limit := .standard) : Except Fault Regex :=
  readChars source.toList limit

end TagSchema.Regex
