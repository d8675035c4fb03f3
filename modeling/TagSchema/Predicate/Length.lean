import TagSchema.Value.Basic

/-!
# Length

Strings count characters, and bytes, arrays and maps their elements. A value without a size
satisfies no bound.
-/

namespace TagSchema.Predicate

def maxLength (v : Value) (n : Nat) : Bool := v.size.any (· ≤ n)

def minLength (v : Value) (n : Nat) : Bool := v.size.any (n ≤ ·)

def exactLength (v : Value) (n : Nat) : Bool := v.size == some n

end TagSchema.Predicate
