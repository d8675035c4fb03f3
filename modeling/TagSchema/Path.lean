import TagSchema.Text.Fields

/-!
# Paths

A path is text cut at slashes. Empty parts and single points do not count, except a point in front.
-/

namespace TagSchema.Path

open TagSchema.Text (fields)

inductive Component where
  | root
  | current
  | parent
  | name (s : String)
  deriving DecidableEq, Repr

def isAbsolute (p : String) : Bool := p.toList.head? == some '/'

/-- The text between slashes. -/
def parts (p : String) : List String := (fields '/' p.toList).map String.ofList

def isInert (part : String) : Bool := part = "" || part = "."

def componentOf (part : String) : Component :=
  if part = ".." then .parent else .name part

/-- The components of the parts behind the first. -/
def laterComponents (parts : List String) : List Component :=
  (parts.filter (!isInert ·)).map componentOf

def components (p : String) : List Component :=
  match parts p with
  | [] => []
  | first :: rest =>
    (if isAbsolute p then [.root]
      else if first = "" then []
      else if first = "." then [.current]
      else [componentOf first]) ++ laterComponents rest

def Component.rank : Component → Nat
  | root => 0
  | current => 1
  | parent => 2
  | name _ => 3

def Component.compare : Component → Component → Ordering
  | .name a, .name b => Ord.compare a b
  | a, b => Ord.compare a.rank b.rank

def compareComponents : List Component → List Component → Ordering
  | [], [] => .eq
  | [], _ :: _ => .lt
  | _ :: _, [] => .gt
  | a :: as, b :: bs => (a.compare b).then (compareComponents as bs)

/-- Paths compare by their components. -/
def compare (a b : String) : Ordering := compareComponents (components a) (components b)

/-- Whether two texts are the same path. -/
def same (a b : String) : Bool := compare a b == .eq

/-- The last component, if it is a name. -/
def fileName? (p : String) : Option String :=
  match (components p).getLast? with
  | some (.name s) => some s
  | _ => none

/-- Drops inert parts at the end; the first part stays. -/
def dropInert (first : String) (rest : List String) : List String :=
  first :: (rest.reverse.dropWhile isInert).reverse

/-- The path without its last component; the root and the empty path have none. -/
def parent? (p : String) : Option String :=
  match parts p with
  | [] => none
  | first :: rest =>
    match (rest.reverse.dropWhile isInert) with
    | _ :: before =>
      match dropInert first before.reverse with
      | [""] => some (if isAbsolute p then "/" else "")
      | kept => some ("/".intercalate kept)
    | [] => if first = "" then none else some ""

/-- The name without its last extension; a point in front begins no extension. -/
def stem (name : String) : String :=
  match (fields '.' name.toList).reverse with
  | _ :: first :: before =>
    if before.isEmpty && first.isEmpty then name
    else String.ofList (['.'].intercalate (first :: before).reverse)
  | _ => name

def join (base name : String) : String :=
  if isAbsolute name then name
  else if base = "" || base.endsWith "/" then base ++ name
  else base ++ "/" ++ name

/-- The path with its last component replaced, or lengthened if that is no name. -/
def withFileName (p name : String) : String :=
  match fileName? p with
  | some _ => join ((parent? p).getD "") name
  | none => join p name

/-- Inserts a path in order; `replace` says which of two spellings of one path stays. -/
def insert (replace : Bool) (p : String) : List String → List String
  | [] => [p]
  | q :: qs =>
    match compare p q with
    | .lt => p :: q :: qs
    | .eq => (if replace then p else q) :: qs
    | .gt => q :: insert replace p qs

/-- In order, each path once in its first spelling. -/
def sortedFirst (ps : List String) : List String := ps.foldl (fun acc p => insert false p acc) []

/-- In order, each path once in its last spelling. -/
def sortedLast (ps : List String) : List String := ps.foldl (fun acc p => insert true p acc) []

end TagSchema.Path
