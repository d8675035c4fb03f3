/-!
# UTF-8

Bytes to text. A sequence that is cut short or ill-formed is replaced, each longest valid beginning
of a character by one replacement character.
-/

namespace TagSchema.Text

/-- The permitted second bytes and the number of continuation bytes after a leading byte. -/
def leadClass (b : UInt8) : Option (Nat × UInt8 × UInt8) :=
  if 0xC2 ≤ b && b ≤ 0xDF then some (1, 0x80, 0xBF)
  else if b == 0xE0 then some (2, 0xA0, 0xBF)
  else if b == 0xED then some (2, 0x80, 0x9F)
  else if 0xE1 ≤ b && b ≤ 0xEF then some (2, 0x80, 0xBF)
  else if b == 0xF0 then some (3, 0x90, 0xBF)
  else if 0xF1 ≤ b && b ≤ 0xF3 then some (3, 0x80, 0xBF)
  else if b == 0xF4 then some (3, 0x80, 0x8F)
  else none

/-- Up to `n` continuation bytes, the first of them between `lo` and `hi`. -/
def takeContinuation (lo hi : UInt8) : Nat → List UInt8 → List UInt8
  | 0, _ => []
  | n + 1, b :: bs => if lo ≤ b && b ≤ hi then b :: takeContinuation 0x80 0xBF n bs else []
  | _ + 1, [] => []

/-- A decoded character, or the length of the ill-formed sequence at the head of the bytes. -/
def decodeHead : List UInt8 → Option (Except Nat (Char × Nat))
  | [] => none
  | b :: bs =>
    if b < 0x80 then some (.ok (Char.ofNat b.toNat, 1))
    else match leadClass b with
      | none => some (.error 1)
      | some (n, lo, hi) =>
        let tail := takeContinuation lo hi n bs
        if tail.length = n then
          let top := b.toNat % Nat.pow 2 (6 - n)
          some (.ok (Char.ofNat (tail.foldl (fun acc t => acc * 64 + t.toNat % 64) top), n + 1))
        else some (.error (tail.length + 1))

/-- The characters of at most `fuel` sequences; `none` marks an ill-formed one. -/
def decodeAll : Nat → List UInt8 → List (Option Char)
  | 0, _ => []
  | fuel + 1, bs =>
    match decodeHead bs with
    | none => []
    | some (.ok (c, n)) => some c :: decodeAll fuel (bs.drop n)
    | some (.error n) => none :: decodeAll fuel (bs.drop n)

/-- The text, if every sequence is well-formed. -/
def ofUtf8? (bytes : List UInt8) : Option String :=
  ((decodeAll bytes.length bytes).mapM id).map String.ofList

/-- The text with U+FFFD for every ill-formed sequence. -/
def ofUtf8Lossy (bytes : List UInt8) : String :=
  String.ofList ((decodeAll bytes.length bytes).map (·.getD '\ufffd'))

end TagSchema.Text
