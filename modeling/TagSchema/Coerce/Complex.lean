import TagSchema.Coerce.Scalar

/-!
# Conversion to complex numbers

A complex literal is a real part, an imaginary part with `i` or `j` at its end, or both, with or
without parentheses. The imaginary part begins at the last sign that belongs to no exponent.
-/

namespace TagSchema.Coerce

open TagSchema.Number

/-- Whether the sign at the head of `cs`, read backward, belongs to no exponent. -/
def isBoundary : List Char → Bool
  | c :: d :: _ => (c == '+' || c == '-') && !(d == 'e' || d == 'E')
  | _ => false

/-- Cuts reversed text behind its first boundary: the part with the sign, and the part before. -/
def cutReversed : List Char → Option (List Char × List Char)
  | [] => none
  | c :: cs =>
    if isBoundary (c :: cs) then some ([c], cs)
    else (cutReversed cs).map fun (im, re) => (c :: im, re)

/-- The real and the imaginary part of a literal without its last letter. -/
def splitParts (body : List Char) : List Char × List Char :=
  match cutReversed body.reverse with
  | some (im, re) => (re.reverse, im.reverse)
  | none => ([], body)

/-- The text between parentheses that enclose it, trimmed. -/
def withoutParens (cs : List Char) : List Char :=
  match cs with
  | '(' :: rest => if rest.getLast? == some ')' then Text.trimChars rest.dropLast else cs
  | _ => cs

def readDouble? (cs : List Char) : Option Binary64 := (Numeral.read? cs).map Binary.ofNumeral

def readImaginary? (cs : List Char) : Option Binary64 :=
  if cs.isEmpty || cs == ['+'] then some (Binary.ofNat 1)
  else if cs == ['-'] then some (Binary.ofInt (-1))
  else readDouble? cs

def parseComplex (input : String) : Except Error Complex128 :=
  let s := withoutParens (Text.trimChars input.toList)
  let invalid := Error.invalidFormat .string input .complex128
  match s.getLast? with
  | none => .error (.emptyInput .string .complex128)
  | some last =>
    if last == 'i' || last == 'j' then
      let (re, im) := splitParts s.dropLast
      let real := if re.isEmpty then some (Binary.zero false) else readDouble? re
      match real, readImaginary? im with
      | some re, some im => .ok ⟨re, im⟩
      | _, _ => .error invalid
    else match readDouble? s with
      | some re => .ok ⟨re, Binary.zero false⟩
      | none => .error invalid

/-- A real number has a zero imaginary part. -/
def toComplexFor (target : Target) : Value → Except Error Complex128
  | .nil | .nilPointer => .error (.nilPointer target)
  | .pointer v => toComplexFor target v
  | .complex128 c => .ok c
  | .complex64 c => .ok c.widen
  | .string s => parseComplex s
  | .int n => .ok ⟨Binary.ofInt n.toInt, Binary.zero false⟩
  | .uint n => .ok ⟨Binary.ofNat n.toNat, Binary.zero false⟩
  | .bigInt n => .ok ⟨Binary.ofInt n.toInt, Binary.zero false⟩
  | .float64 x => .ok ⟨x, Binary.zero false⟩
  | .float32 x => .ok ⟨x.convert, Binary.zero false⟩
  | v => .error (.unsupported v.kind target)

def toComplex128 (v : Value) : Except Error Complex128 := toComplexFor .complex128 v

def toComplex64 (v : Value) : Except Error Complex64 := do
  let c ← toComplexFor .complex64 v
  match [c.re, c.im].find? exceedsSingle with
  | some part => throw (.overflow v.indirectKind part.canonicalText .complex64)
  | none => return ⟨c.re.convert, c.im.convert⟩

end TagSchema.Coerce
