/-!
# Type expressions

A type as it is written. `text` gives the normal spelling, with no blanks but one behind each comma.
A source file declares types.
-/

namespace TagSchema.Go

/-- A declaration in a struct type; an embedded one has no names. -/
structure Member (τ : Type) where
  names : List String
  type : τ
  /-- The struct tag, decoded. -/
  tag : Option String
  deriving Repr

def Member.isEmbedded {τ : Type} (m : Member τ) : Bool := m.names.isEmpty

inductive TypeExpr where
  | named (package : Option String) (name : String) (args : List TypeExpr)
  | pointer (target : TypeExpr)
  | slice (element : TypeExpr)
  /-- The length stands as it is written. -/
  | array (length : String) (element : TypeExpr)
  | map (key value : TypeExpr)
  | struct (members : List (Member TypeExpr)) (source : String)
  | interface (source : String)
  /-- Functions, channels and all else, as written. -/
  | verbatim (source : String)
  deriving Repr, Inhabited

namespace TypeExpr

def isPointer : TypeExpr → Bool
  | pointer _ => true
  | _ => false

def isStruct : TypeExpr → Bool
  | struct .. => true
  | _ => false

mutual

def text : TypeExpr → String
  | named package name args =>
    (package.map (· ++ ".")).getD "" ++ name ++
      if args.isEmpty then "" else "[" ++ ", ".intercalate (texts args) ++ "]"
  | pointer t => "*" ++ t.text
  | slice t => "[]" ++ t.text
  | array length t => "[" ++ length ++ "]" ++ t.text
  | map k v => "map[" ++ k.text ++ "]" ++ v.text
  | struct _ source | interface source | verbatim source => source

def texts : List TypeExpr → List String
  | [] => []
  | t :: ts => t.text :: texts ts

end

end TypeExpr

structure TypeDecl where
  name : String
  typeParams : List String
  type : TypeExpr
  isAlias : Bool
  /-- Whether a comment right above asks for a schema. -/
  optedIn : Bool
  deriving Repr, Inhabited

structure SourceFile where
  path : String
  package : String
  /-- From name to path, in order of name. -/
  imports : List (String × String)
  decls : List TypeDecl
  /-- Whether some part is not well formed. -/
  hasErrors : Bool
  deriving Repr, Inhabited

end TagSchema.Go
