import TagSchema.Go.Name
import TagSchema.Go.Quoted
import TagSchema.Go.Token
import TagSchema.Go.TypeExpr
import TagSchema.Text.Keyed

/-!
# Reading Go source

Only declarations of packages, imports and types are read; everything else at the top level is
passed over, bracket by bracket. A declaration ends at a semicolon or at the first line break that
could end it.
-/

namespace TagSchema.Go.Reader

abbrev Tokens := List Token

def closer? (t : Token) : Option String :=
  if t.isMark "(" then some ")"
  else if t.isMark "[" then some "]"
  else if t.isMark "\x7b" then some "\x7d"
  else none

def isCloser (t : Token) : Bool := t.isMark ")" || t.isMark "]" || t.isMark "\x7d"

/-- The tokens in front of the bracket that closes all of `pending`, the innermost first, and the
tokens behind it. -/
def splitGroup (pending : List String) : Tokens → Option (Tokens × Tokens)
  | [] => none
  | t :: ts =>
    match closer? t, pending with
    | some c, _ => (splitGroup (c :: pending) ts).map fun (inner, rest) => (t :: inner, rest)
    | none, [] => none
    | none, p :: outer =>
      if !isCloser t then (splitGroup pending ts).map fun (inner, rest) => (t :: inner, rest)
      else if !t.isMark p then none
      else if outer.isEmpty then some ([], ts)
      else (splitGroup outer ts).map fun (inner, rest) => (t :: inner, rest)

/-- The tokens of the group that begins with `t`, and those behind it. -/
def group? (t : Token) (ts : Tokens) : Option (Tokens × Tokens) := do splitGroup [← closer? t] ts

/-- Cut at every comma outside brackets; `depth` counts the open ones. -/
def splitCommas (depth : Nat) : Tokens → List Tokens
  | [] => [[]]
  | t :: ts =>
    if depth = 0 && t.isMark "," then [] :: splitCommas depth ts
    else
      let depth := if (closer? t).isSome then depth + 1 else if isCloser t then depth - 1 else depth
      match splitCommas depth ts with
      | item :: items => (t :: item) :: items
      | [] => [[t]]

/-- The tokens that `rest` leaves of `ts`. -/
def consumed (ts rest : Tokens) : Tokens := ts.take (ts.length - rest.length)

/-- What stands where a type is expected although a comment comes first. -/
def commented (t : Token) (type : TypeExpr) : TypeExpr :=
  match t.comments with
  | c :: _ => .verbatim (String.ofList c.text)
  | [] => type

def firstOf (ts : Tokens) (type : TypeExpr) : TypeExpr :=
  match ts with
  | t :: _ => commented t type
  | [] => type

/-- Whether a type can begin with the token. -/
def startsType (t : Token) : Bool :=
  t.kind == .word || t.isMark "*" || t.isMark "[" || t.isMark "(" || t.isMark "<-"

/-- Whether the declaration is over before these tokens. -/
def atEnd : Tokens → Bool
  | [] => true
  | t :: _ => t.onNewLine || t.isMark ";"

/-- Whether the field declaration is over or only its tag is left. -/
def atTag : Tokens → Bool
  | [] => true
  | t :: ts => atEnd (t :: ts) || t.kind == .text

/-- The tag of a field declaration, and the tokens behind it. -/
def takeTag : Tokens → Option String × Tokens
  | [] => (none, [])
  | t :: ts => if t.kind == .text && !t.onNewLine then (unquote t.text, ts) else (none, t :: ts)

/-- The names in front of a type, with commas between. -/
def takeNames : Tokens → List String × Tokens
  | t :: c :: ts =>
    if t.kind == .word && c.isMark "," then
      let (names, rest) := takeNames ts
      (t.text :: names, rest)
    else if t.kind == .word then ([t.text], c :: ts) else ([], t :: c :: ts)
  | [t] => if t.kind == .word then ([t.text], []) else ([], [t])
  | [] => ([], [])

/-- Whether a declaration that starts with a lone word embeds the type of that name. -/
def embeds (ts : Tokens) : Bool :=
  atTag ts || match ts with
    | t :: rest =>
      t.isMark "." || (t.isMark "[" && match group? t rest with
        | some ([], _) | none => false
        | some (_, after) => atTag after)
    | [] => true

/-- A name's package and last word, and the tokens behind them. -/
def splitQualifier (first : Token) (ts : Tokens) : Option String × String × Tokens :=
  match ts with
  | dot :: second :: rest =>
    if dot.isMark "." && !dot.onNewLine && second.kind == .word then
      (some first.text, second.text, rest)
    else (none, first.text, ts)
  | _ => (none, first.text, ts)

mutual

/-- A type, and the tokens behind it; `fuel` bounds the nesting. -/
def type (fuel : Nat) (ts : Tokens) : Option (TypeExpr × Tokens) :=
  match fuel, ts with
  | 0, _ | _, [] => none
  | fuel + 1, t :: rest =>
    if t.isMark "*" then do
      let (target, after) ← type fuel rest
      return (.pointer (firstOf rest target), after)
    else if t.isMark "(" then do
      let (inner, after) ← group? t rest
      let (type, _) ← type fuel inner
      return (firstOf inner type, after)
    else if t.isMark "[" then do
      let (length, after) ← group? t rest
      let (element, after) ← type fuel after
      let type := if length.isEmpty then .slice element else .array (Token.source length) element
      return (type, after)
    else if t.isMark "<-" then channel fuel ts
    else if t.kind == .word then
      if t.text = "map" then do
        let open_ :: rest := rest | none
        let (key, after) ← group? open_ rest
        let (key, _) ← type fuel key
        let (value, after) ← type fuel after
        return (.map key value, after)
      else if t.text = "struct" then do
        let open_ :: inner := rest | none
        let (inner, after) ← group? open_ inner
        return (.struct (← members fuel inner) (Token.source (consumed ts after)), after)
      else if t.text = "interface" then do
        let open_ :: inner := rest | none
        let (_, after) ← group? open_ inner
        return (.interface (Token.source (consumed ts after)), after)
      else if t.text = "func" then do
        let open_ :: inner := rest | none
        let (_, after) ← group? open_ inner
        let after ← result fuel after
        return (.verbatim (Token.source (consumed ts after)), after)
      else if t.text = "chan" then channel fuel ts
      else if isKeyword t.text then none
      else name fuel t rest
    else none

/-- A channel type: `chan` with an arrow before or behind it, and the type of its elements. -/
def channel (fuel : Nat) (ts : Tokens) : Option (TypeExpr × Tokens) :=
  match fuel with
  | 0 => none
  | fuel + 1 => do
    let rest ← match ts with
      | a :: c :: rest =>
        if a.isMark "<-" && c.isWord "chan" then some rest
        else if a.isWord "chan" && c.isMark "<-" then some rest
        else if a.isWord "chan" then some (c :: rest)
        else none
      | _ => none
    let (_, after) ← type fuel rest
    return (.verbatim (Token.source (consumed ts after)), after)

/-- The result of a function type, if it has one. -/
def result (fuel : Nat) (ts : Tokens) : Option Tokens :=
  match fuel, ts with
  | 0, _ => none
  | _, [] => some []
  | fuel + 1, t :: rest =>
    if t.onNewLine || !startsType t then some (t :: rest)
    else if t.isMark "(" then (group? t rest).map (·.2)
    else (type fuel (t :: rest)).map (·.2)

/-- A type name behind its first word, with its arguments. -/
def name (fuel : Nat) (first : Token) (ts : Tokens) : Option (TypeExpr × Tokens) :=
  match fuel with
  | 0 => none
  | fuel + 1 =>
    let (package, name, rest) := splitQualifier first ts
    match rest with
    | t :: after =>
      if t.isMark "[" && !t.onNewLine then do
        let (inner, after) ← group? t after
        let items := (splitCommas 0 inner).filter (!·.isEmpty)
        return (.named package name (← arguments fuel items), after)
      else some (.named package name [], rest)
    | [] => some (.named package name [], [])

/-- Type arguments; one that is more than a type stands as it is written. -/
def arguments (fuel : Nat) (items : List Tokens) : Option (List TypeExpr) :=
  match fuel, items with
  | _, [] => some []
  | 0, _ => none
  | fuel + 1, item :: items => do
    let argument := match type fuel item with
      | some (t, []) => t
      | _ => .verbatim (Token.source item)
    return argument :: (← arguments fuel items)

/-- The declarations of a struct type. -/
def members (fuel : Nat) (ts : Tokens) : Option (List (Member TypeExpr)) :=
  match fuel, ts with
  | _, [] => some []
  | 0, _ => none
  | fuel + 1, t :: rest =>
    if t.isMark ";" then members fuel rest
    else do
      let (names, after) := takeNames (t :: rest)
      let (names, typed) := if t.isMark "*" then ([], rest)
        else if names.length = 1 && embeds after then ([], t :: rest)
        else (names, after)
      let (type, after) ← type fuel typed
      let (tag, after) := takeTag after
      if !atEnd after then none
      return ⟨names, type, tag⟩ :: (← members fuel after)

end

/-- A type, and the tokens behind it. -/
def type? (ts : Tokens) : Option (TypeExpr × Tokens) := type (3 * ts.length + 3) ts

/-! ### Declarations -/

def isDirective (c : Comment) : Bool :=
  "//".toList.isPrefixOf c.text && (Text.cutAt "go:generate".toList c.text).isSome &&
    (Text.cutAt "gozodgen".toList c.text).isSome

/-- Whether the directive is among comments that stand on adjacent rows up to `row`, the nearest
first. -/
def hasDirective (row : Nat) : List Comment → Bool
  | [] => false
  | c :: cs => c.lastRow + 1 == row && (isDirective c || hasDirective c.firstRow cs)

/-- Whether the comments right above the token ask for a schema. -/
def asksForSchema (t : Token) : Bool := hasDirective t.row t.comments.reverse

/-- Whether bracketed tokens behind a declared name are its type parameters, not an array length. -/
def areParams (inner after : Tokens) : Bool :=
  match inner with
  | n :: c :: _ =>
    n.kind == .word && (c.kind == .word || c.isMark "," || c.isMark "~" || c.isMark "[") &&
      !after.isEmpty
  | _ => false

/-- The names in a list of type parameters, each before its constraint. -/
def paramNames (inner : Tokens) : List String :=
  (splitCommas 0 inner).filterMap fun item =>
    match item with
    | t :: _ => if t.kind == .word then some t.text else none
    | [] => none

/-- The declaration of one type, and the tokens behind it. -/
def typeSpec (optedIn : Bool) (ts : Tokens) : Option (TypeDecl × Tokens) := do
  let t :: rest := ts | none
  if t.kind ≠ .word then none
  let (typeParams, rest) := match rest with
    | b :: more =>
      if b.isMark "[" then
        match group? b more with
        | some (inner, after) =>
          if areParams inner after then (paramNames inner, after) else ([], rest)
        | none => ([], rest)
      else ([], rest)
    | [] => ([], rest)
  let (isAlias, rest) := match rest with
    | e :: more => if e.isMark "=" then (true, more) else (false, rest)
    | [] => (false, rest)
  let (type, rest) ← type? rest
  if !atEnd rest then none
  let optedIn := optedIn || asksForSchema t
  return ({ name := t.text, typeParams, type, isAlias, optedIn }, rest)

/-- The declarations of a group; `fuel` bounds their number. -/
def typeSpecs (optedIn : Bool) : Nat → Tokens → Option (List TypeDecl)
  | _, [] => some []
  | 0, _ => none
  | fuel + 1, t :: rest =>
    if t.isMark ";" then typeSpecs optedIn fuel rest
    else do
      let (decl, rest) ← typeSpec optedIn (t :: rest)
      return decl :: (← typeSpecs optedIn fuel rest)

/-- The last element of an import path. -/
def lastElement (path : String) : String :=
  String.ofList ((Text.fields '/' path.toList).getLast?.getD [])

/-- The imports among the tokens of an import declaration, from name to path; `given` is the name in
front of them. Blank and dot imports bring no name. -/
def importSpecs (given : Option String) : Tokens → List (String × String)
  | [] => []
  | t :: ts =>
    if t.kind == .text then
      match unquote t.text with
      | some path =>
        let name := given.getD (lastElement path)
        if name = "_" || name = "." then importSpecs none ts
        else (name, path) :: importSpecs none ts
      | none => importSpecs none ts
    else importSpecs (if t.kind == .word || t.isMark "." then some t.text else none) ts

/-- The tokens of an import declaration: a group, or what comes before its end. -/
def importTokens (ts : Tokens) : Option (Tokens × Tokens) :=
  match ts with
  | [] => none
  | t :: rest =>
    if t.isMark "(" then group? t rest
    else
      let inner := t :: rest.takeWhile fun u => !(u.onNewLine || u.isMark ";")
      some (inner, ts.drop inner.length)

/-- What the top level declares. -/
inductive Item where
  | package (name : String)
  | imports (specs : List (String × String))
  | types (decls : List TypeDecl)
  | fault

/-- The name behind the word `package`, or the comment before that name. -/
def packageName (t : Token) : String :=
  match t.comments with
  | c :: _ => String.ofList c.text
  | [] => t.text

/-- What begins with a token at the top level, and the tokens behind it. -/
def item (t : Token) (ts : Tokens) : Option Item × Tokens :=
  let fault := (some .fault, ts)
  if t.kind == .fault || isCloser t then fault
  else if t.isWord "package" then
    match ts with
    | n :: rest => if n.kind == .word then (some (.package (packageName n)), rest) else fault
    | [] => fault
  else if t.isWord "import" then
    match importTokens ts with
    | some (inner, rest) => (some (.imports (importSpecs none inner)), rest)
    | none => fault
  else if t.isWord "type" then
    let optedIn := asksForSchema t
    match ts with
    | [] => fault
    | b :: rest =>
      if b.isMark "(" then
        match group? b rest with
        | some (inner, after) =>
          match typeSpecs optedIn (inner.length + 1) inner with
          | some decls => (some (.types decls), after)
          | none => fault
        | none => fault
      else match typeSpec optedIn ts with
        | some (decl, after) => (some (.types [decl]), after)
        | none => fault
  else if (closer? t).isSome then
    match group? t ts with
    | some (inner, after) => (if inner.any (·.kind == .fault) then some .fault else none, after)
    | none => fault
  else (none, ts)

/-- The declarations at the top level; `fuel` bounds their number. -/
def items : Nat → Tokens → List Item
  | 0, _ | _, [] => []
  | fuel + 1, t :: ts =>
    let (found, rest) := item t ts
    found.toList ++ items fuel rest

def packageOf (is : List Item) : Option String :=
  (is.filterMap fun i => match i with
    | .package name => some name
    | _ => none).getLast?

def importsOf (is : List Item) : List (String × String) :=
  Keyed.ofList (is.flatMap fun i => match i with
    | .imports specs => specs
    | _ => [])

def typesOf (is : List Item) : List TypeDecl :=
  is.flatMap fun i => match i with
    | .types decls => decls
    | _ => []

def hasFault (is : List Item) : Bool :=
  is.any fun i => match i with
    | .fault => true
    | _ => false

/-- The file of a source text; one without a package clause is none. -/
def file? (path source : String) : Option SourceFile := do
  let tokens := Token.scan source
  let is := items tokens.length tokens
  return {
    path, package := ← packageOf is, imports := importsOf is, decls := typesOf is
    hasErrors := hasFault is }

end TagSchema.Go.Reader
