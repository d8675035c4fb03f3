import TagSchema.Json.Basic
import TagSchema.Value.Basic

/-!
# Values of JSON documents

An integer becomes a signed value, or an unsigned one where it is too large to be signed; object
keys become strings.
-/

namespace TagSchema.Value

def ofInteger (n : Int) : Value :=
  if n < Nat.pow 2 63 then .int (Int64.ofInt n) else .uint (UInt64.ofInt n)

mutual

def ofJson : Json → Value
  | .null => .nil
  | .bool b => .bool b
  | .number (.integer n) => ofInteger n
  | .number (.float x) => .float64 x
  | .string s => .string s
  | .array items => .array (ofItems items)
  | .object members => .map (ofMembers members)

def ofItems : List Json → List Value
  | [] => []
  | j :: js => ofJson j :: ofItems js

def ofMembers : List (String × Json) → List (Value × Value)
  | [] => []
  | (k, j) :: ms => (.string k, ofJson j) :: ofMembers ms

end

end TagSchema.Value
