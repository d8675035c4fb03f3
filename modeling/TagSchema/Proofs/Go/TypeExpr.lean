import TagSchema.Go.TypeExpr
import TagSchema.Proofs.Go.Code
import TagSchema.Proofs.Go.Name
import TagSchema.Proofs.Text.Trim

/-!
# Spellings of types

What the text of a type begins and ends with, and the name that it has before its arguments:
`baseName_named`.
-/

namespace TagSchema.Go

open TagSchema.Text (isBlank trimStart)

variable {own : String} {cs ds : List Char}

theorem isBlank_of_isPathChar {c : Char} (h : isPathChar c = true) : isBlank c = false := by
  have none : ∀ n ∈ Text.blankCodes, isPathChar (Char.ofNat n) = false := by decide +kernel
  cases blank : isBlank c with
  | false => rfl
  | true =>
    have other := none _ (Text.mem_blankCodes blank)
    rw [Char.ofNat_toNat, h] at other
    cases other

theorem isPathChar_of_simple {name : String} (simple : isSimpleIdentifier name.toList = true) :
    ∀ c ∈ name.toList, isPathChar c = true ∧ c ≠ '.' := by
  intro c member
  have continues := (isSimpleIdentifier_iff.mp simple).2.1 c member
  refine ⟨by rw [isPathChar, continues, Bool.true_or], ?_⟩
  rintro rfl
  exact absurd continues (by decide)

theorem baseChars_append (path : ∀ c ∈ cs, isPathChar c = true)
    (args : ds = [] ∨ ∃ rest, ds = '[' :: rest) : baseChars (cs ++ ds) = cs := by
  have none : ds.takeWhile (· != '[') = [] := by
    rcases args with rfl | ⟨rest, rfl⟩ <;> rfl
  rw [baseChars, List.takeWhile_append_of_pos, none, List.append_nil,
    Text.trimChars_of_bare (Text.bare_of_no_blank fun c member =>
      isBlank_of_isPathChar (path c member))]
  intro c member
  rw [bne_iff_ne]
  rintro rfl
  exact absurd (path _ member) (by decide)

namespace TypeExpr

theorem toList_pointer (t : TypeExpr) : (pointer t).text.toList = '*' :: t.text.toList := by
  simp [text]

theorem toList_slice (t : TypeExpr) : (slice t).text.toList = '[' :: ']' :: t.text.toList := by
  simp [text]

theorem toList_array (length : String) (t : TypeExpr) :
    (array length t).text.toList = '[' :: (length.toList ++ ']' :: t.text.toList) := by
  simp [text]

theorem toList_map (key value : TypeExpr) : (map key value).text.toList =
    "map".toList ++ '[' :: (key.text.toList ++ ']' :: value.text.toList) := by
  simp [text]

/-- The text of a named type before its arguments. -/
def path (package : Option String) (name : String) : String :=
  (package.map (· ++ ".")).getD "" ++ name

theorem text_named (package : Option String) (name : String) (args : List TypeExpr) :
    ∃ ds, (named package name args).text.toList = (path package name).toList ++ ds ∧
      (ds = [] ∨ ∃ inner, ds = '[' :: (inner ++ [']'])) := by
  rw [text, String.toList_append]
  refine ⟨_, rfl, ?_⟩
  split
  · exact .inl rfl
  · exact .inr ⟨(", ".intercalate (texts args)).toList, by simp⟩

/-- Up to blanks, the text begins neither like a pointer, slice or array nor with the name `own`. -/
def IsForeign (own : String) (cs : List Char) : Prop :=
  ∀ start ∈ ["*", "[", own], ¬ start.toList <+: trimStart cs

theorem IsForeign.of_prefix (foreign : IsForeign own cs) (h : trimStart ds <+: trimStart cs) :
    IsForeign own ds := fun start member first => foreign start member (first.trans h)

/-- Up to the first type that is neither a pointer nor a slice or array: names are names, lengths
have no closing bracket, and what is kept as written is foreign. -/
def IsWellSpelled (own : String) : TypeExpr → Prop
  | named package name _ =>
    (∀ p ∈ package, isSimpleIdentifier p.toList = true) ∧ isSimpleIdentifier name.toList = true
  | pointer t | slice t => t.IsWellSpelled own
  | array length t => ']' ∉ length.toList ∧ t.IsWellSpelled own
  | map _ _ => True
  | struct _ source | interface source | verbatim source => IsForeign own source.toList

/-- The slices and arrays between a type and the name `own`, if only those and pointers lead
there. -/
def layers? (own : String) : TypeExpr → Option Nat
  | named none name _ => if name = own then some 0 else none
  | pointer t => t.layers? own
  | slice t | array _ t => (t.layers? own).map (· + 1)
  | _ => none

variable {package : Option String} {name : String}

theorem isPathChar_path (names : ∀ p ∈ package, isSimpleIdentifier p.toList = true)
    (simple : isSimpleIdentifier name.toList = true) :
    ∀ c ∈ (path package name).toList, isPathChar c = true := by
  intro c member
  rw [path, String.toList_append, List.mem_append] at member
  rcases member with member | member
  · cases package with
    | none => cases member
    | some p =>
      rw [Option.map_some, Option.getD_some, String.toList_append, List.mem_append] at member
      rcases member with member | member
      · exact (isPathChar_of_simple (names p rfl) c member).1
      · rw [List.mem_singleton.mp member]
        decide
  · exact (isPathChar_of_simple simple c member).1

theorem path_ne_nil (simple : isSimpleIdentifier name.toList = true) :
    (path package name).toList ≠ [] := by
  intro empty
  rw [path, String.toList_append, List.append_eq_nil_iff] at empty
  rw [empty.2] at simple
  cases simple

/-- Only a name without a package is the name of a record. -/
theorem path_eq_iff (simple : isSimpleIdentifier own.toList = true) :
    path package name = own ↔ package = none ∧ name = own := by
  cases package with
  | none => simp [path]
  | some p =>
    refine iff_of_false ?_ (by simp)
    rintro rfl
    exact (isPathChar_of_simple simple '.' (by simp [path])).2 rfl

theorem bare_named (names : ∀ p ∈ package, isSimpleIdentifier p.toList = true)
    (simple : isSimpleIdentifier name.toList = true) (args : List TypeExpr) :
    Text.Bare (named package name args).text.toList := by
  obtain ⟨ds, whole, behind⟩ := text_named package name args
  have path := isPathChar_path names simple
  rw [whole]
  constructor
  · intro c first
    rw [List.head?_append_of_ne_nil _ (path_ne_nil simple)] at first
    exact isBlank_of_isPathChar (path c (List.mem_of_mem_head? first))
  · intro c last
    rcases behind with rfl | ⟨inner, rfl⟩
    · rw [List.append_nil] at last
      exact isBlank_of_isPathChar (path c (List.mem_of_getLast? last))
    · rw [← List.cons_append, ← List.append_assoc, List.getLast?_concat] at last
      obtain rfl := Option.some.inj last
      decide

theorem baseName_named (simple : isSimpleIdentifier name.toList = true) (args : List TypeExpr) :
    baseName (named none name args).text = name := by
  obtain ⟨ds, whole, behind⟩ := text_named none name args
  have bare : path none name = name := String.empty_append
  rw [bare] at whole
  rw [baseName, whole, baseChars_append (fun c member => (isPathChar_of_simple simple c member).1)
    (behind.imp_right fun ⟨inner, same⟩ => ⟨_, same⟩), String.ofList_toList]

end TypeExpr

end TagSchema.Go
