import TagSchema.Emit.Expression
import TagSchema.Proofs.Coerce.Text
import TagSchema.Proofs.Except
import TagSchema.Proofs.Go.Code
import TagSchema.Proofs.Number.Text

/-!
# Words of literals

Apart from quoted text, a literal holds only words that neither open a literal or a comment nor
refer to a package; a time is the one exception: `mentions_of_valueExpr`.
-/

namespace TagSchema.Emit

open TagSchema.Go (Expr IsWord refersTo)
open TagSchema.Number

/-! ### Conversions -/

theorem coerced_ok {α : Type} {x : Except Coerce.Error α} {a : α} (h : coerced x = .ok a) :
    x = .ok a :=
  mapError_eq_ok_iff.mp h

/-- An integer primitive is written in one of the integer types of at most 64 bits. -/
theorem scalar_integer {k : Primitive} (h : k.isInteger = true) :
    ∃ t : Coerce.IntegerType, scalar k = integerExpr t ∧ -2 ^ 63 ≤ t.range.lo ∧
      t.range.hi < 2 ^ 64 := by
  cases k with
  | int | int64 => exact ⟨.i64, rfl, by decide, by decide⟩
  | int8 => exact ⟨.i8, rfl, by decide, by decide⟩
  | int16 => exact ⟨.i16, rfl, by decide, by decide⟩
  | int32 => exact ⟨.i32, rfl, by decide, by decide⟩
  | uint | uint64 | uintptr => exact ⟨.u64, rfl, by decide, by decide⟩
  | uint8 => exact ⟨.u8, rfl, by decide, by decide⟩
  | uint16 => exact ⟨.u16, rfl, by decide, by decide⟩
  | uint32 => exact ⟨.u32, rfl, by decide, by decide⟩
  | _ => cases h

theorem finiteText_ok {l : Layout} {x : Binary l} {text : String}
    (h : finiteText x = .ok text) : x.isFinite = true := by
  unfold finiteText at h
  split at h
  · assumption
  · cases h

/-- A literal with a fraction is that of a finite number. -/
theorem scalar_float {k : Primitive} (float : k.isFloat = true) {s : String} {x : Expr}
    (filled : Text.trim s ≠ "") (h : scalar k (.string s) = .ok x) :
    ∃ y : Binary64, Binary.read? (Text.trim s) = some y ∧ y.isFinite = true := by
  unfold scalar at h
  cases k with
  | float32 =>
    obtain ⟨y, converted, h⟩ := bind_ok h
    obtain ⟨text, finite, _⟩ := bind_ok h
    obtain ⟨z, read, rfl⟩ := Coerce.toSingle_text filled (coerced_ok converted)
    exact ⟨z, read, Coerce.isFinite_of_convert (finiteText_ok finite)⟩
  | float64 =>
    obtain ⟨y, converted, h⟩ := bind_ok h
    obtain ⟨text, finite, _⟩ := bind_ok h
    exact ⟨y, Coerce.toDouble_text filled (coerced_ok converted), finiteText_ok finite⟩
  | _ => cases float

/-! ### Plain words -/

/-- The packages that a file may import besides the schema library. -/
def packages : List String := ["time", regexPackage]

/-- A word that refers to none of the packages. -/
def IsPlain (w : String) : Prop :=
  IsWord w ∧ ∀ package ∈ packages, refersTo package w.toList = false

theorem isCodeChar_of_isNumeralChar {c : Char} (h : isNumeralChar c = true) :
    Go.isCodeChar c = true := by
  rcases Bool.or_eq_true_iff.mp h with digit | mark
  · have low : c.toNat < 0x80 := Nat.lt_of_le_of_lt (val_of_isDigit digit) (by decide)
    rw [Go.isCodeChar, Text.isAlphanumeric, Text.isNumeric, if_pos low, digit, Bool.or_true,
      Bool.true_or]
  · have known : ['.', 'e', 'E', '+', '-'].all Go.isCodeChar = true := by decide
    exact List.all_eq_true.mp known c (List.contains_iff_mem.mp mark)

theorem isPlain_of_numeral {w : String} (h : ∀ c ∈ w.toList, isNumeralChar c = true) :
    IsPlain w := by
  refine ⟨Go.isCode_of_allowed fun c member => isCodeChar_of_isNumeralChar (h c member), ?_⟩
  intro package member
  have letters : ∀ package ∈ packages, package.toList.all isNumeralChar = false := by decide
  by_contra refers
  rw [Bool.not_eq_false] at refers
  have inside := Go.mem_of_refersTo refers
  have numeral : package.toList.all isNumeralChar = true :=
    List.all_eq_true.mpr fun c part => h c (inside c (List.mem_append_left _ part))
  rw [letters package member] at numeral
  cases numeral

theorem isPlain_of_checked {w : String}
    (h : (w.toList.all Go.isCodeChar && packages.all fun p => !refersTo p w.toList) = true) :
    IsPlain w := by
  simp only [Bool.and_eq_true, List.all_eq_true, Bool.not_eq_true'] at h
  exact ⟨Go.isCode_of_allowed h.1, h.2⟩

/-- Nothing but plain words outside of quotes. -/
def PlainWords (e : Expr) : Prop := ∀ w ∈ e.words, IsPlain w

theorem plainWords_text (s : String) : PlainWords (.text s) := nofun

theorem plainWords_word {w : String} (h : IsPlain w) : PlainWords (.word w) := by
  intro v member
  rw [List.mem_singleton.mp member]
  exact h

theorem plain_wordsAll {es : List Expr} (h : ∀ e ∈ es, PlainWords e) :
    ∀ w ∈ Expr.wordsAll es, IsPlain w := by
  induction es with
  | nil => exact nofun
  | cons e es ih =>
    rw [List.forall_mem_cons] at h
    exact List.forall_mem_append.mpr ⟨h.1, ih h.2⟩

theorem plain_wordsEntries {es : List (String × Expr)} (h : ∀ e ∈ es, PlainWords e.2) :
    ∀ w ∈ Expr.wordsEntries es, IsPlain w := by
  induction es with
  | nil => exact nofun
  | cons e es ih =>
    rw [List.forall_mem_cons] at h
    exact List.forall_mem_append.mpr ⟨h.1, ih h.2⟩

theorem plainWords_slice {type : String} {items : List Expr} (element : IsPlain type)
    (h : ∀ e ∈ items, PlainWords e) : PlainWords (.slice type items) :=
  List.forall_mem_cons.mpr ⟨element, plain_wordsAll h⟩

theorem plainWords_map {type : String} {entries : List (String × Expr)} (value : IsPlain type)
    (h : ∀ e ∈ entries, PlainWords e.2) : PlainWords (.map type entries) :=
  List.forall_mem_cons.mpr ⟨isPlain_of_checked (by decide),
    List.forall_mem_cons.mpr ⟨isPlain_of_checked (by decide),
      List.forall_mem_cons.mpr ⟨value, plain_wordsEntries h⟩⟩⟩

/-! ### Values of primitive types -/

theorem plainWords_integer (n : Int) : PlainWords (.word (integerText n)) :=
  plainWords_word (isPlain_of_numeral (isNumeralChar_of_integerText n))

theorem plainWords_truth (b : Bool) : PlainWords (.word (truthText b)) := by
  apply plainWords_word
  cases b <;> exact isPlain_of_checked (by decide)

theorem isPlain_of_finiteText {l : Layout} {x : Binary l} {text : String}
    (h : finiteText x = .ok text) : IsPlain text := by
  have finite := finiteText_ok h
  unfold finiteText at h
  rw [if_pos finite] at h
  obtain rfl := Except.ok.inj h
  apply isPlain_of_numeral
  unfold numberText
  split
  · exact Binary.isNumeralChar_of_textWith finite _ Decimal.isNumeralChar_of_positional
  · exact Binary.isNumeralChar_of_textWith finite _ Decimal.isNumeralChar_of_scientific

theorem plainWords_of_integerExpr {t : Coerce.IntegerType} {v : Value} {e : Expr}
    (h : integerExpr t v = .ok e) : PlainWords e := by
  obtain ⟨n, _, h⟩ := bind_ok h
  rw [pure_ok h]
  exact plainWords_integer n

theorem plainWords_of_complexExpr {l : Layout} {c : Complex l} {e : Expr}
    (h : complexExpr c = .ok e) : PlainWords e := by
  obtain ⟨re, written, h⟩ := bind_ok h
  obtain ⟨im, written', h⟩ := bind_ok h
  rw [pure_ok h]
  refine List.forall_mem_cons.mpr ⟨isPlain_of_checked (by decide), plain_wordsAll ?_⟩
  simp [plainWords_word, isPlain_of_finiteText written, isPlain_of_finiteText written']

theorem plainWords_of_scalar {k : Primitive} {v : Value} {e : Expr} (h : scalar k v = .ok e) :
    PlainWords e := by
  unfold scalar at h
  cases k with
  | string =>
    obtain ⟨s, _, h⟩ := bind_ok h
    rw [pure_ok h]
    exact plainWords_text s
  | bool =>
    obtain ⟨b, _, h⟩ := bind_ok h
    rw [pure_ok h]
    exact plainWords_truth b
  | float32 | float64 =>
    obtain ⟨x, _, h⟩ := bind_ok h
    obtain ⟨text, written, h⟩ := bind_ok h
    rw [pure_ok h]
    exact plainWords_word (isPlain_of_finiteText written)
  | complex64 | complex128 =>
    obtain ⟨c, _, h⟩ := bind_ok h
    exact plainWords_of_complexExpr h
  | _ => exact plainWords_of_integerExpr h

/-- A bound with a fraction keeps its spelling, which is that of a finite number or blank. -/
theorem plainWords_of_boundExpr {k : Primitive} {param : String} {e : Expr}
    (h : boundExpr k param = .ok e) : PlainWords e := by
  unfold boundExpr at h
  split at h
  · exact plainWords_of_scalar h
  · split at h
    · rename_i float
      obtain ⟨x, written, h⟩ := bind_ok h
      rw [pure_ok h]
      apply plainWords_word
      apply isPlain_of_numeral
      by_cases blank : Text.trim param = ""
      · rw [blank]
        exact nofun
      · obtain ⟨y, read, finite⟩ := scalar_float float blank written
        exact isNumeralChar_of_readBinary read finite
    · cases h

/-! ### Values of any type -/

theorem plainWords_of_plainExpr? {v : Value} {e : Expr} (h : plainExpr? v = some e) :
    PlainWords e := by
  have pointed {l : Layout} {x : Binary l} (finite : x.isFinite = true) :
      PlainWords (.word x.pointedText) :=
    plainWords_word (isPlain_of_numeral
      (Binary.isNumeralChar_of_textWith finite _ Decimal.isNumeralChar_of_pointed))
  unfold plainExpr? at h
  split at h
  · rw [← Option.some.inj h]
    exact plainWords_word (isPlain_of_checked (by decide))
  · rw [← Option.some.inj h]
    exact plainWords_word (isPlain_of_checked (by decide))
  · rw [← Option.some.inj h]
    exact plainWords_truth _
  · rw [← Option.some.inj h]
    exact plainWords_integer _
  · rw [← Option.some.inj h]
    exact plainWords_integer _
  · rw [← Option.some.inj h]
    exact plainWords_integer _
  · split at h
    · rename_i finite
      rw [← Option.some.inj h]
      exact pointed finite
    · cases h
  · split at h
    · rename_i finite
      rw [← Option.some.inj h]
      exact pointed finite
    · cases h
  · rw [← Option.some.inj h]
    exact plainWords_text _
  · cases h

mutual

theorem plainWords_of_anyExpr? {v : Value} {e : Expr} (h : anyExpr? v = some e) :
    PlainWords e := by
  have any : IsPlain "any" := isPlain_of_checked (by decide)
  have narrowed (same : anyExpr? v = plainExpr? (Coerce.toLiteral v)) : PlainWords e :=
    plainWords_of_plainExpr? (same.symm.trans h)
  cases v with
  | array items =>
    obtain ⟨es, read, h⟩ := Option.bind_eq_some_iff.mp h
    rw [← Option.some.inj h]
    exact plainWords_slice any (plainWords_of_anyExprs? read)
  | map entries =>
    obtain ⟨es, read, h⟩ := Option.bind_eq_some_iff.mp h
    rw [← Option.some.inj h]
    exact plainWords_map any
      fun e member => plainWords_of_anyEntries? read e (Keyed.mem_ofList member)
  | _ => exact narrowed rfl

theorem plainWords_of_anyExprs? {vs : List Value} {es : List Expr} (h : anyExprs? vs = some es) :
    ∀ e ∈ es, PlainWords e := by
  cases vs with
  | nil =>
    rw [← Option.some.inj h]
    exact nofun
  | cons v vs =>
    obtain ⟨e, first, h⟩ := Option.bind_eq_some_iff.mp h
    obtain ⟨es, later, h⟩ := Option.bind_eq_some_iff.mp h
    rw [← Option.some.inj h]
    exact List.forall_mem_cons.mpr ⟨plainWords_of_anyExpr? first, plainWords_of_anyExprs? later⟩

theorem plainWords_of_anyEntries? {entries : List (Value × Value)} {es : List (String × Expr)}
    (h : anyEntries? entries = some es) : ∀ e ∈ es, PlainWords e.2 := by
  match entries with
  | [] =>
    rw [← Option.some.inj h]
    exact nofun
  | (k, v) :: entries =>
    obtain ⟨key, _, h⟩ := Option.bind_eq_some_iff.mp h
    obtain ⟨e, first, h⟩ := Option.bind_eq_some_iff.mp h
    obtain ⟨es, later, h⟩ := Option.bind_eq_some_iff.mp h
    rw [← Option.some.inj h]
    exact List.forall_mem_cons.mpr ⟨plainWords_of_anyExpr? first, plainWords_of_anyEntries? later⟩

end

/-! ### References of words -/

/-- Words of code that refer to those of the packages for which `mention` holds. -/
structure Mentions (ws : List String) (mention : String → Bool) : Prop where
  code : ∀ w ∈ ws, IsWord w
  refers : ∀ package ∈ packages, ws.any (refersTo package ·.toList) = mention package

theorem Mentions.append {vs ws : List String} {first later : String → Bool}
    (front : Mentions vs first) (back : Mentions ws later) :
    Mentions (vs ++ ws) fun package => first package || later package where
  code := List.forall_mem_append.mpr ⟨front.code, back.code⟩
  refers package member := by
    rw [List.any_append, front.refers package member, back.refers package member]

theorem mentions_plain {ws : List String} (h : ∀ w ∈ ws, IsPlain w) :
    Mentions ws fun _ => false where
  code w member := (h w member).1
  refers package known := by
    rw [List.any_eq_false]
    intro w member
    rw [(h w member).2 package known]
    exact Bool.false_ne_true

theorem mentions_word {w : String} (code : IsWord w) :
    Mentions [w] fun package => refersTo package w.toList where
  code v member := List.mem_singleton.mp member ▸ code
  refers package _ := by rw [List.any_cons, List.any_nil, Bool.or_false]

theorem Mentions.congr {ws : List String} {mention mention' : String → Bool}
    (h : Mentions ws mention) (same : ∀ package ∈ packages, mention package = mention' package) :
    Mentions ws mention' where
  code := h.code
  refers package known := (h.refers package known).trans (same package known)

/-- The names from the package of times. -/
def timeNames : List String := ["time.Date", "time.FixedZone", "time.UTC"]

theorem mentions_timeName {w : String} (h : w ∈ timeNames) : Mentions [w] (· == "time") := by
  have known : ∀ w ∈ timeNames, w.toList.all Go.isCodeChar = true ∧
      ∀ package ∈ packages, refersTo package w.toList = (package == "time") := by
    decide
  exact (mentions_word (Go.isWord_of_all (known w h).1)).congr (known w h).2

theorem mentions_timeCall {name : String} (h : name ∈ timeNames) {args : List Expr}
    {mention : String → Bool} (plain : Mentions (Expr.wordsAll args) mention)
    (own : ∀ package ∈ packages, mention package = true → package = "time") :
    Mentions (Expr.call name args).words (· == "time") := by
  refine ((mentions_timeName h).append plain).congr fun package known => ?_
  cases met : mention package with
  | false => exact Bool.or_false _
  | true => rw [own package known met, Bool.or_true, BEq.rfl]

theorem mentions_of_timeExpr? {text : String} {e : Expr} (h : timeExpr? text = some e) :
    Mentions e.words (· == "time") := by
  obtain ⟨t, _, rfl⟩ := Option.map_eq_some_iff.mp h
  dsimp only
  have numbers (ns : List Int) : Mentions (Expr.wordsAll (ns.map fun n => .word (integerText n)))
      fun _ => false :=
    mentions_plain (plain_wordsAll (by simp [plainWords_integer]))
  generalize zoned : (if t.offset = 0 then Expr.word "time.UTC" else
    .call "time.FixedZone" [.text "", .word (integerText (t.offset * 60))]) = zone
  have place : Mentions (Expr.wordsAll [zone]) (· == "time") := by
    rw [Expr.wordsAll, Expr.wordsAll, List.append_nil, ← zoned]
    split
    · exact mentions_timeName (by decide)
    · exact mentions_timeCall (by decide) (numbers [t.offset * 60]) nofun
  have args := (numbers [t.date.year, t.date.month, t.date.day, t.hour, t.minute,
    (if 59 < t.second then 59 else t.second : Nat),
    (if 59 < t.second then 1000000000 + t.nanosecond else t.nanosecond : Nat)]).append place
  rw [← Expr.wordsAll_append] at args
  exact mentions_timeCall (by decide) args (by simp)

/-! ### Parameters -/

theorem isPlain_goName (k : Primitive) : IsPlain k.goName := by
  apply isPlain_of_checked
  cases k <;> decide

/-- Elements have literals only where their type is spelled by one name. -/
theorem plain_of_elementExpr? {shape : Shape} {expr : Value → Except Fault Expr}
    (h : elementExpr? shape = some expr) :
    IsPlain shape.goType ∧ ∀ v e, expr v = .ok e → PlainWords e := by
  unfold elementExpr? at h
  split at h
  · rw [← Option.some.inj h]
    exact ⟨isPlain_goName _, fun v e => plainWords_of_scalar⟩
  · rw [← Option.some.inj h]
    exact ⟨isPlain_of_checked (by decide),
      fun v e read => plainWords_of_anyExpr? (elim_eq_ok_iff.mp read)⟩
  · cases h

theorem plainWords_of_enumExprs {r : Rule} {leaf : Shape} {es : List Expr}
    (h : enumExprs r leaf = .ok es) : ∀ e ∈ es, PlainWords e := by
  unfold enumExprs at h
  split at h
  · cases h
  · rename_i expr element
    intro e member
    obtain ⟨p, _, written⟩ := (mem_mapM_ok h).mp member
    exact (plain_of_elementExpr? element).2 _ e (mapError_eq_ok_iff.mp written)

/-- Only a literal of a time refers to a package. -/
theorem mentions_of_valueExpr {r : Rule} {f : Field} {e : Expr} (h : valueExpr r f = .ok e) :
    Mentions e.words fun package => f.shape.pointee == .time && package == "time" := by
  unfold valueExpr at h
  dsimp only at h
  by_cases time : f.shape.pointee = .time
  · rw [time] at h ⊢
    exact mentions_of_timeExpr? (elim_eq_ok_iff.mp (mapError_eq_ok_iff.mp h))
  · rw [beq_false_of_ne time]
    refine mentions_plain ?_
    split at h
    · exact plainWords_of_scalar (mapError_eq_ok_iff.mp h)
    · rename_i same
      exact (time same).elim
    · exact plainWords_of_anyExpr? (elim_eq_ok_iff.mp h)
    · split at h
      · cases h
      · cases h
      · rename_i element
        obtain ⟨items, written, h⟩ := bind_ok h
        rw [pure_ok h]
        have ⟨type, values⟩ := plain_of_elementExpr? element
        refine plainWords_slice type fun e member => ?_
        obtain ⟨v, _, written⟩ := (mem_mapM_ok (mapError_eq_ok_iff.mp written)).mp member
        exact values v e written
    · split at h
      · cases h
      · split at h
        · rename_i element
          obtain ⟨pairs, written, h⟩ := bind_ok h
          rw [pure_ok h]
          have ⟨type, values⟩ := plain_of_elementExpr? element
          refine plainWords_map type fun e member => ?_
          obtain ⟨⟨k, v⟩, _, written⟩ := (mem_mapM_ok written).mp (Keyed.mem_ofList member)
          dsimp only at written
          split at written
          · obtain ⟨x, written, result⟩ := bind_ok written
            rw [pure_ok result]
            exact values v x (mapError_eq_ok_iff.mp written)
          · cases written
        · cases h
        · cases h
    · cases h
    · cases h

end TagSchema.Emit
