import TagSchema.Go.Quoted
import TagSchema.Toml.Basic

/-!
# Reading configuration documents

A document is a list of lines: headers, and keys with their values. Numbers and dates are refused,
since nothing here takes one, and so are tables in arrays.
-/

namespace TagSchema.Toml

open TagSchema.Go (readCode readCode_length scalar?)

namespace Reader

abbrev Step (α : Type) := List Char → Option (α × List Char)

def isSpace (c : Char) : Bool := c == ' ' || c == '\t'

def skipSpace (cs : List Char) : List Char := cs.dropWhile isSpace

/-- Control characters other than the tab stand nowhere but in line breaks. -/
def isText (c : Char) : Bool := c == '\t' || (' ' ≤ c && c != '\x7f')

/-- The text behind a line break. -/
def lineBreak? : List Char → Option (List Char)
  | '\n' :: cs => some cs
  | '\r' :: '\n' :: cs => some cs
  | _ => none

/-- The text behind a comment, or all of it. -/
def skipComment : List Char → List Char
  | '#' :: cs => cs.dropWhile isText
  | cs => cs

/-- The text behind blank space and a comment that end their line. -/
def endLine? (cs : List Char) : Option (List Char) :=
  match skipComment (skipSpace cs) with
  | [] => some []
  | rest => lineBreak? rest

/-- The text behind blank space, comments and line breaks; `fuel` bounds the number of lines. -/
def skipLines : Nat → List Char → List Char
  | 0, cs => cs
  | fuel + 1, cs =>
    let rest := skipComment (skipSpace cs)
    match lineBreak? rest with
    | some after => skipLines fuel after
    | none => rest

def skipBlank (cs : List Char) : List Char := skipLines cs.length cs

/-! ### Strings -/

def letterEscapes : List (Char × Char) :=
  [('b', '\x08'), ('t', '\t'), ('n', '\n'), ('f', '\x0c'), ('r', '\r'), ('e', '\x1b'), ('"', '"'),
    ('\\', '\\')]

/-- The character that an escape stands for, and the text behind it. -/
def unescape : Step Char
  | [] => none
  | c :: cs =>
    match letterEscapes.lookup c with
    | some value => some (value, cs)
    | none =>
      if c == 'x' then readCode 16 2 0x100 cs
      else if c == 'u' then readCode 16 4 0x110000 cs
      else if c == 'U' then readCode 16 8 0x110000 cs
      else none

/-- A backslash at the end of a line hides the line break and all blank space behind it. -/
def joinLines? (cs : List Char) : Option (List Char) :=
  (lineBreak? (skipSpace cs)).map fun rest =>
    rest.dropWhile fun c => isSpace c || c == '\n' || c == '\r'

/-- The characters up to a double quote; `fuel` bounds their number. -/
def basic : Nat → Step (List Char)
  | 0, _ => none
  | fuel + 1, cs => do
    match cs with
    | [] => none
    | '"' :: rest => return ([], rest)
    | '\\' :: rest =>
      let (c, rest) ← unescape rest
      let (body, rest) ← basic fuel rest
      return (c :: body, rest)
    | c :: rest =>
      if !isText c then none
      let (body, rest) ← basic fuel rest
      return (c :: body, rest)

/-- The characters up to an apostrophe. -/
def verbatim (cs : List Char) : Option (List Char × List Char) :=
  let body := cs.takeWhile fun c => isText c && c != '\''
  match cs.drop body.length with
  | '\'' :: rest => some (body, rest)
  | _ => none

/-- Three quotes end a string of several lines; up to two more in front of them belong to it. -/
def ending? (quote : Char) (cs : List Char) : Option (List Char × List Char) :=
  let n := (cs.takeWhile (· == quote)).length
  if n < 3 then none
  else
    let kept := min (n - 3) 2
    some (List.replicate kept quote, cs.drop (kept + 3))

/-- The characters up to three quotes; `fuel` bounds their number. -/
def longText (quote : Char) : Nat → Step (List Char)
  | 0, _ => none
  | fuel + 1, cs =>
    match ending? quote cs with
    | some found => some found
    | none => do
      match cs with
      | [] => none
      | c :: rest =>
        if c == '\\' && quote == '"' then
          match joinLines? rest with
          | some rest => longText quote fuel rest
          | none =>
            let (c, rest) ← unescape rest
            let (body, rest) ← longText quote fuel rest
            return (c :: body, rest)
        else
          if !isText c && (lineBreak? cs).isNone then none
          let (body, rest) ← longText quote fuel (if c == '\r' then rest.drop 1 else rest)
          return (if c == '\r' then '\r' :: '\n' :: body else c :: body, rest)

/-- A line break right behind the opening quotes does not count. -/
def longBody (cs : List Char) : List Char := (lineBreak? cs).getD cs

/-- A string on one line. -/
def shortString : Step String
  | '"' :: cs => (basic cs.length cs).map fun (body, rest) => (String.ofList body, rest)
  | '\'' :: cs => (verbatim cs).map fun (body, rest) => (String.ofList body, rest)
  | _ => none

def string : Step String
  | '"' :: '"' :: '"' :: cs =>
    (longText '"' cs.length (longBody cs)).map fun (body, rest) => (String.ofList body, rest)
  | '\'' :: '\'' :: '\'' :: cs =>
    (longText '\'' cs.length (longBody cs)).map fun (body, rest) => (String.ofList body, rest)
  | cs => shortString cs

/-! ### Keys and values -/

def isBare (c : Char) : Bool := c.isAlphanum || c == '_' || c == '-'

def simpleKey (cs : List Char) : Option (String × List Char) :=
  let bare := cs.takeWhile isBare
  if bare.isEmpty then shortString cs else some (String.ofList bare, cs.drop bare.length)

/-- Keys with points between, and the text behind blank space after them; `fuel` bounds their
number. -/
def dottedKeys : Nat → Step (List String)
  | 0, _ => none
  | fuel + 1, cs => do
    let (key, rest) ← simpleKey (skipSpace cs)
    match skipSpace rest with
    | '.' :: rest =>
      let (keys, rest) ← dottedKeys fuel rest
      return (key :: keys, rest)
    | rest => return ([key], rest)

/-- Dotted keys, and the text behind the mark after them. -/
def keysBefore (mark : Char) (cs : List Char) : Option (List String × List Char) := do
  let (keys, rest) ← dottedKeys cs.length cs
  match rest with
  | c :: rest => if c == mark then some (keys, rest) else none
  | [] => none

mutual

/-- A value; `fuel` bounds the nesting. -/
def value (fuel : Nat) (cs : List Char) : Option (Toml × List Char) :=
  match fuel with
  | 0 => none
  | fuel + 1 =>
    match cs with
    | 't' :: 'r' :: 'u' :: 'e' :: rest => some (.bool true, rest)
    | 'f' :: 'a' :: 'l' :: 's' :: 'e' :: rest => some (.bool false, rest)
    | '[' :: rest => (items fuel rest).map fun (xs, rest) => (.array xs, rest)
    | '\x7b' :: rest => (members fuel [] rest).map fun (ms, rest) => (.table .braced ms, rest)
    | cs => (string cs).map fun (s, rest) => (.string s, rest)

/-- The items of an array up to its closing bracket. -/
def items (fuel : Nat) (cs : List Char) : Option (List Toml × List Char) :=
  match fuel with
  | 0 => none
  | fuel + 1 =>
    match skipBlank cs with
    | ']' :: rest => some ([], rest)
    | cs => do
      let (x, rest) ← value fuel cs
      match skipBlank rest with
      | ',' :: rest =>
        let (xs, rest) ← items fuel rest
        return (x :: xs, rest)
      | ']' :: rest => return ([x], rest)
      | _ => none

/-- The members of a table up to its closing brace, behind those already read. -/
def members (fuel : Nat) (before : Members) (cs : List Char) : Option (Members × List Char) :=
  match fuel with
  | 0 => none
  | fuel + 1 =>
    match skipBlank cs with
    | '\x7d' :: rest => some (before, rest)
    | cs => do
      let (keys, rest) ← keysBefore '=' cs
      let (v, rest) ← value fuel (skipSpace rest)
      let ms ← bind keys v before
      match skipBlank rest with
      | ',' :: rest => members fuel ms rest
      | '\x7d' :: rest => return (ms, rest)
      | _ => none

end

/-! ### Documents -/

/-- The lines of a document; `header` names the table that they belong to, and `fuel` bounds their
number. -/
def lines : Nat → List String → Members → List Char → Option Members
  | 0, _, _, _ => none
  | fuel + 1, header, ms, cs => do
    match skipBlank cs with
    | [] => return ms
    | '[' :: rest =>
      let (keys, rest) ← keysBefore ']' rest
      lines fuel keys (← openTable keys ms) (← endLine? rest)
    | cs =>
      let (keys, rest) ← keysBefore '=' cs
      let (v, rest) ← value (2 * rest.length + 2) (skipSpace rest)
      lines fuel header (← bindIn header keys v ms) (← endLine? rest)

/-- A byte order mark in front does not count. -/
def dropMark : List Char → List Char
  | '\ufeff' :: cs => cs
  | cs => cs

end Reader

/-- The table of a document. -/
def parse? (text : String) : Option Members :=
  let cs := Reader.dropMark text.toList
  Reader.lines (cs.length + 1) [] [] cs

end TagSchema.Toml
