import TagSchema.Text.Case

/-!
# Words of a name

A name falls into words at separators, where a capital follows a small letter, before the last of
several capitals that a small letter follows, and between letters and digits.
-/

namespace TagSchema.Text

/-- Whether the character joins the one before it. -/
def joins (c : Char) : Bool := extendsGrapheme c || Category.mc.has c

/-- Characters together with the marks behind them. -/
def clusters : List Char → List (List Char)
  | [] => []
  | c :: cs =>
    match clusters cs with
    | (d :: ds) :: rest => if joins d then (c :: d :: ds) :: rest else [c] :: (d :: ds) :: rest
    | rest => [c] :: rest

inductive LetterKind where
  | capital | small | digit | separator | other
  deriving DecidableEq, Repr

def letterKind (cluster : List Char) : LetterKind :=
  let s := String.ofList cluster
  if cluster == [' '] || cluster == ['-'] || cluster == ['_'] then .separator
  else if cluster.all Char.isDigit then .digit
  else if toUpper s == toLower s then .other
  else if s == toUpper s then .capital
  else if s == toLower s then .small
  else .other

/-- Whether a word ends behind a cluster of kind `k` when those of kinds `next` follow. -/
def endsWord (k : LetterKind) (next : List LetterKind) : Bool :=
  match k, next with
  | .small, .capital :: _ => true
  | .capital, .capital :: .small :: _ => true
  | .small, .digit :: _ | .capital, .digit :: _ => true
  | .digit, .small :: _ | .digit, .capital :: _ => true
  | _, _ => false

/-- The words, each a list of clusters; separators may leave empty ones. -/
def cutWords : List (List Char) → List (List (List Char))
  | [] => [[]]
  | g :: gs =>
    let words := cutWords gs
    if letterKind g = .separator then [] :: words
    else if endsWord (letterKind g) (gs.map letterKind) then [g] :: words
    else match words with
      | w :: ws => (g :: w) :: ws
      | [] => [[g]]

def words (cs : List Char) : List (List (List Char)) :=
  (cutWords (clusters cs)).filter (!·.isEmpty)

def lowerWord (w : List (List Char)) : String := toLower (String.ofList w.flatten)

/-- The first cluster in capitals, the others small. -/
def capitalWord : List (List Char) → String
  | [] => ""
  | g :: gs => toUpper (String.ofList g) ++ lowerWord gs

/-- The words run together, all but the first with a capital. -/
def camel (s : String) : String :=
  match words s.toList with
  | [] => ""
  | w :: ws => lowerWord w ++ String.join (ws.map capitalWord)

end TagSchema.Text
