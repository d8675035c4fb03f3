import TagSchema.Go.Quoted

/-!
# Go expressions

The expressions that stand as arguments of schema calls. Text occurs as a quoted literal only.
-/

namespace TagSchema.Go

inductive Expr where
  /-- An interpreted string literal. -/
  | text (s : String)
  /-- A number or a name. -/
  | word (s : String)
  | call (function : String) (args : List Expr)
  | slice (elementType : String) (items : List Expr)
  /-- A map with string keys. -/
  | map (valueType : String) (entries : List (String × Expr))
  deriving Repr, Inhabited

namespace Expr

def commas (parts : List String) : String := ", ".intercalate parts

mutual

def render : Expr → String
  | text s => quote s
  | word s => s
  | call function args => function ++ "(" ++ commas (renderAll args) ++ ")"
  | slice elementType items => "[]" ++ elementType ++ "\x7b" ++ commas (renderAll items) ++ "\x7d"
  | map valueType entries =>
    "map[string]" ++ valueType ++ "\x7b" ++ commas (renderEntries entries) ++ "\x7d"

def renderAll : List Expr → List String
  | [] => []
  | e :: es => e.render :: renderAll es

def renderEntries : List (String × Expr) → List String
  | [] => []
  | (k, e) :: es => (quote k ++ ": " ++ e.render) :: renderEntries es

end

end Expr

end TagSchema.Go
