import TagSchema.Proofs.Emit.Expression
import TagSchema.Proofs.Emit.Literal
import TagSchema.Proofs.Go.Name

/-!
# Code of schema expressions

However a parameter is spelled, it stays within its literal: what stands outside the string literals
of a field's schema is names, numbers and nested brackets.
-/

namespace TagSchema

/-- The structs that a shape spells. -/
def Shape.structs : Shape → List String
  | .pointer s | .slice s => s.structs
  | .map k v => k.structs ++ v.structs
  | .struct name => [name]
  | _ => []

namespace Emit

open TagSchema.Go (Expr IsWord IsCode Shows shows_empty isCodeChar refersTo)

variable {s : Settings} {r : Record} {f : Field} {rule : Rule} {k : Rule.Kind}

/-! ### Arguments of rules -/

/-- Whether the arguments of a rule refer to a package. -/
def argsMention (f : Field) (rule : Rule) (k : Rule.Kind) (package : String) : Bool :=
  match k with
  | .regex => package == regexPackage
  | .default | .prefault => f.shape.pointee == .time && package == "time"
  | .refine | .check => refersTo package rule.joined.toList
  | _ => false

theorem isWord_of_isIdentifier {text : String} (h : Go.isIdentifier text = true) :
    IsWord text := by
  refine Go.isCode_of_allowed fun c member => ?_
  rcases Go.continuesName_of_isIdentifier h c member with rfl | name
  · decide
  · exact Go.isCodeChar_of_continuesName name

theorem plainWords_of_sizeArg {e : Expr} (h : sizeArg rule = .ok e) : PlainWords e := by
  unfold sizeArg checkedParam sizeExpr at h
  exact plainWords_of_integerExpr (mapError_eq_ok_iff.mp h)

theorem plainWords_of_limitArg {has : Families} {e : Expr} (h : limitArg rule f has = .ok e) :
    PlainWords e := by
  unfold limitArg at h
  split at h
  · obtain ⟨_, _, h⟩ := bind_ok h
    exact plainWords_of_sizeArg h
  · exact plainWords_of_sizeArg h
  · exact plainWords_of_sizeArg h
  · exact plainWords_of_boundExpr (mapError_eq_ok_iff.mp h)
  · cases h

theorem plainWords_of_orderArg {e : Expr} (h : orderArg rule f = .ok e) : PlainWords e := by
  unfold orderArg at h
  split at h
  · exact plainWords_of_boundExpr (mapError_eq_ok_iff.mp h)
  · cases h

theorem mentions_of_regexArg {e : Expr} (h : regexArg rule = .ok e) :
    Mentions (Expr.wordsAll [e]) (· == regexPackage) := by
  unfold regexArg at h
  generalize Regex.read rule.joined = pattern at h
  cases pattern with
  | ok _ =>
    rw [← Except.ok.inj h]
    have known : (regexPackage ++ ".MustCompile").toList.all isCodeChar = true ∧
        ∀ package ∈ packages, refersTo package (regexPackage ++ ".MustCompile").toList =
          (package == regexPackage) := by
      decide
    exact (mentions_word (Go.isWord_of_all known.1)).congr known.2
  | error _ => cases h

theorem mentions_of_functionArg {e : Expr} (h : functionArg rule = .ok e) :
    Mentions (Expr.wordsAll [e]) (refersTo · rule.joined.toList) := by
  unfold functionArg at h
  split at h
  · rename_i identifier
    rw [← Except.ok.inj h]
    exact mentions_word (isWord_of_isIdentifier identifier)
  · cases h

theorem mentions_plainArgs {args : List Expr} (h : ∀ e ∈ args, PlainWords e) :
    Mentions (Expr.wordsAll args) fun _ => false :=
  mentions_plain (plain_wordsAll h)

theorem mentions_of_ruleArgs {has : Families} {args : List Expr}
    (h : ruleArgs f has rule k = .ok (some args)) :
    Mentions (Expr.wordsAll args) (argsMention f rule k) := by
  have single {e : Expr} (plain : PlainWords e) : Mentions (Expr.wordsAll [e]) fun _ => false :=
    mentions_plainArgs (List.forall_mem_singleton.mpr plain)
  have empty : Mentions (Expr.wordsAll []) fun _ => false :=
    mentions_plainArgs (List.forall_mem_nil _)
  cases k with
  | required | enum | time => cases h
  | nilable =>
    obtain rfl := Option.some.inj (pure_ok h)
    exact empty
  | min | max =>
    obtain ⟨e, written, h⟩ := bind_ok h
    obtain rfl := Option.some.inj (pure_ok h)
    exact single (plainWords_of_limitArg written)
  | gt | gte | lt | lte | multipleOf =>
    obtain ⟨e, written, h⟩ := bind_ok h
    obtain rfl := Option.some.inj (pure_ok h)
    exact single (plainWords_of_orderArg written)
  | length | size =>
    obtain ⟨_, _, h⟩ := bind_ok h
    obtain ⟨e, written, h⟩ := bind_ok h
    obtain rfl := Option.some.inj (pure_ok h)
    exact single (plainWords_of_sizeArg written)
  | includes | startsWith | endsWith =>
    obtain ⟨_, _, h⟩ := bind_ok h
    obtain rfl := Option.some.inj (pure_ok h)
    exact single (plainWords_text _)
  | regex =>
    obtain ⟨_, _, h⟩ := bind_ok h
    obtain ⟨e, written, h⟩ := bind_ok h
    obtain rfl := Option.some.inj (pure_ok h)
    exact mentions_of_regexArg written
  | default | prefault =>
    obtain ⟨e, written, h⟩ := bind_ok h
    obtain rfl := Option.some.inj (pure_ok h)
    have words := mentions_of_valueExpr written
    rwa [← List.append_nil e.words] at words
  | refine | check =>
    obtain ⟨e, written, h⟩ := bind_ok h
    obtain rfl := Option.some.inj (pure_ok h)
    exact mentions_of_functionArg written
  | uuid =>
    simp only [ruleArgs] at h
    split at h
    · cases h
    · obtain ⟨_, _, h⟩ := bind_ok h
      obtain rfl := Option.some.inj (pure_ok h)
      exact empty
  | _ =>
    obtain ⟨_, _, h⟩ := bind_ok h
    obtain rfl := Option.some.inj (pure_ok h)
    exact empty

/-! ### Calls and bases -/

def Call.words (c : Call) : List String := ("." ++ c.method) :: Expr.wordsAll c.args

theorem shows_calls {calls : List Call} (ok : ∀ w ∈ calls.flatMap Call.words, IsWord w) :
    Shows isCodeChar (String.join (calls.map Call.render)) (calls.flatMap Call.words) := by
  induction calls with
  | nil => exact shows_empty
  | cons c calls ih =>
    rw [List.flatMap_cons, List.forall_mem_append, Call.words, List.forall_mem_cons] at ok
    have whole := ok.1.1.shows.round (Expr.showsAll c.args ok.1.2) (ih ok.2)
    simpa [Call.render, Call.words, String.append_assoc] using whole

/-- A name of the schema library. -/
def select (schema name : String) : String := schema ++ "." ++ name

namespace Base

/-- The words outside of literals. -/
def words (schema : String) : Base → List String
  | primitive k => [select schema k.constructorName]
  | uuid => [select schema "UUID"]
  | time => [select schema "Time"]
  | any => [select schema "Any"]
  | enum values => select schema "Enum" :: Expr.wordsAll values
  | slice element => select schema "Slice" :: element.words schema
  | map key value => select schema "Map" :: (key.words schema ++ value.words schema)
  | struct name => [select schema "FromStruct", name]
  | lazy typeName =>
    [select schema "Lazy", "func", select schema "Type", "any", "return",
      select schema "FromStruct", typeName]

theorem shows_construct {schema name arguments rest : String} {ws us : List String}
    (function : IsWord (select schema name)) (args : Shows isCodeChar arguments ws)
    (after : Shows isCodeChar rest us) :
    Shows isCodeChar (construct schema name arguments ++ rest)
      (select schema name :: (ws ++ us)) := by
  have whole := function.shows.round args after
  simpa [construct, select, String.append_assoc] using whole

theorem shows_fromStruct {schema name rest : String} {us : List String}
    (function : IsWord (select schema "FromStruct")) (type : IsWord name)
    (after : Shows isCodeChar rest us) :
    Shows isCodeChar (fromStruct schema name ++ rest)
      (select schema "FromStruct" :: name :: us) := by
  refine (function.shows.square type.shows (shows_empty.round shows_empty after)).of_toList ?_
  simp [fromStruct, select]

theorem shows_render {schema rest : String} {us : List String} (b : Base)
    (ok : ∀ w ∈ b.words schema, IsWord w) (after : Shows isCodeChar rest us) :
    Shows isCodeChar (b.render schema ++ rest) (b.words schema ++ us) := by
  -- The rest is any text: calls follow a base, and nothing follows one inside of brackets.
  induction b generalizing rest us with
  | primitive k => exact shows_construct (ok _ List.mem_cons_self) shows_empty after
  | uuid | time | any => exact shows_construct (ok _ List.mem_cons_self) shows_empty after
  | enum values =>
    rw [words, List.forall_mem_cons] at ok
    exact shows_construct ok.1 (Expr.showsAll values ok.2) after
  | slice element ih =>
    rw [words, List.forall_mem_cons] at ok
    have inner := ih ok.2 shows_empty
    rw [String.append_empty, List.append_nil] at inner
    exact shows_construct ok.1 inner after
  | map key value first second =>
    rw [words, List.forall_mem_cons, List.forall_mem_append] at ok
    have front := first ok.2.1 shows_empty
    have back := second ok.2.2 shows_empty
    rw [String.append_empty, List.append_nil] at front back
    exact shows_construct ok.1 (front.sep ", " (by decide) back) after
  | struct name =>
    rw [words, List.forall_mem_cons] at ok
    exact shows_fromStruct ok.1 (ok.2 _ List.mem_cons_self) after
  | lazy typeName =>
    rw [words, List.forall_mem_cons, List.forall_mem_cons, List.forall_mem_cons,
      List.forall_mem_cons, List.forall_mem_cons, List.forall_mem_cons] at ok
    obtain ⟨outer, function, result, any, back, inner, type⟩ := ok
    have blank : Go.separates isCodeChar " " = true := by decide
    have struct := shows_fromStruct inner (type _ List.mem_cons_self) shows_empty
    have body := (shows_empty.sep _ blank back.shows).sep _ blank
      (struct.sep _ blank shows_empty)
    have result := (shows_empty.sep _ blank result.shows).square any.shows
      ((shows_empty.sep _ blank shows_empty).curly body shows_empty)
    have closure : Shows isCodeChar ("func() " ++ schema ++ ".Type[any] \x7b return " ++
        fromStruct schema typeName ++ " \x7d") _ :=
      (function.shows.round shows_empty result).of_toList (by simp [select])
    exact shows_construct outer closure after

end Base

def Expression.words (schema : String) (e : Expression) : List String :=
  e.base.words schema ++ e.calls.flatMap Call.words

theorem Expression.shows_render {schema : String} (e : Expression)
    (ok : ∀ w ∈ e.words schema, IsWord w) :
    Shows isCodeChar (e.render schema) (e.words schema) := by
  rw [words, List.forall_mem_append] at ok
  exact e.base.shows_render ok.1 (shows_calls ok.2)

/-! ### Fields -/

/-- The names that a record gives to its schema, and the library's own name, are code. -/
structure SpelledInCode (s : Settings) (r : Record) (f : Field) : Prop where
  schemaAlias : IsWord s.schemaAlias
  name : IsWord r.name
  typeParams : ∀ p ∈ r.typeParams, IsWord p
  structs : ∀ name ∈ f.shape.structs, IsWord name

theorem isWord_select {schema name : String} (library : IsWord schema)
    (path : name.toList.all Go.isPathChar = true) : IsWord (select schema name) := by
  have point : isCodeChar '.' = true := by decide
  have name : IsCode isCodeChar name.toList := Go.isCode_of_allowed fun c member =>
    Go.isCodeChar_of_isPathChar (List.all_eq_true.mp path c member)
  have whole := library.append (.char point name)
  rwa [IsWord, select, String.toList_append, String.toList_append, List.append_assoc]

theorem isCode_commas {allowed : Char → Bool} {parts : List String}
    (comma : IsCode allowed ", ".toList) (ok : ∀ p ∈ parts, IsCode allowed p.toList) :
    IsCode allowed (", ".intercalate parts).toList := by
  induction parts with
  | nil => exact .nil
  | cons p parts ih =>
    rw [List.forall_mem_cons] at ok
    cases parts with
    | nil =>
      rw [String.intercalate_singleton]
      exact ok.1
    | cons q parts =>
      rw [String.intercalate_cons_cons, String.toList_append, String.toList_append]
      exact (ok.1.append comma).append (ih ok.2)

theorem isPath_constructorName (k : Primitive) :
    k.constructorName.toList.all Go.isPathChar = true := by
  cases k <;> decide

theorem isCode_typeName {allowed : Char → Bool} (comma : IsCode allowed ", ".toList)
    (name : IsCode allowed r.name.toList) (params : ∀ p ∈ r.typeParams, IsCode allowed p.toList) :
    IsCode allowed r.typeName.toList := by
  unfold Record.typeName
  split
  · exact name
  · have group : IsCode allowed ('[' :: ((", ".intercalate r.typeParams).toList ++ ']' :: [])) :=
      .group (by decide) (isCode_commas comma params) .nil
    have whole := name.append group
    simpa [String.toList_append] using whole

theorem isWord_typeName (name : IsWord r.name) (params : ∀ p ∈ r.typeParams, IsWord p) :
    IsWord r.typeName :=
  isCode_typeName (Go.isWord_of_all (by decide)) name params

namespace Base

/-- The literals of the base are plain, and its types are among these. -/
def Spells (types : List String) : Base → Prop
  | enum values => ∀ e ∈ values, PlainWords e
  | slice element => element.Spells types
  | map key value => key.Spells types ∧ value.Spells types
  | struct name | lazy name => name ∈ types
  | _ => True

variable {types : List String}

theorem spells_ofShape {shape : Shape} (own : r.typeName ∈ types)
    (structs : ∀ name ∈ shape.structs, name ∈ types) : (ofShape r shape).Spells types := by
  induction shape with
  | primitive k => trivial
  | time | any => trivial
  | pointer shape ih => exact ih structs
  | slice shape ih => exact ih structs
  | map k v first second =>
    rw [Shape.structs, List.forall_mem_append] at structs
    exact ⟨first structs.1, second structs.2⟩
  | struct name =>
    unfold ofShape ofStruct
    split
    · exact own
    · exact structs name List.mem_cons_self

theorem spells_withLeaf {leaf : Base} {shape : Shape} (ok : leaf.Spells types) :
    (withLeaf leaf shape).Spells types := by
  induction shape with
  | pointer shape ih => exact ih
  | slice shape ih => exact ih
  | _ => exact ok

theorem spells_slices {b : Base} {n : Nat} (ok : b.Spells types) :
    (slices n b).Spells types := by
  induction n with
  | zero => exact ok
  | succ n ih => exact ih

theorem spells_ofField {leaf : Option Base} (own : r.typeName ∈ types)
    (structs : ∀ name ∈ f.shape.structs, name ∈ types) (ok : ∀ b ∈ leaf, b.Spells types) :
    (ofField r f leaf).Spells types := by
  unfold ofField
  split
  · exact spells_slices own
  · split
    · exact spells_withLeaf (ok _ rfl)
    · exact spells_ofShape own structs

theorem isWord_of_mem_words {schema : String} (library : IsWord schema)
    (code : ∀ type ∈ types, IsWord type) {b : Base} (ok : b.Spells types) :
    ∀ w ∈ b.words schema, IsWord w := by
  have own (name : String) (path : name.toList.all Go.isPathChar = true) :
      IsWord (select schema name) := isWord_select library path
  induction b with
  | primitive k =>
    rw [words, List.forall_mem_singleton]
    exact own _ (isPath_constructorName k)
  | uuid | time | any =>
    rw [words, List.forall_mem_singleton]
    exact own _ (by decide)
  | enum values =>
    rw [words, List.forall_mem_cons]
    exact ⟨own _ (by decide), fun w member => (plain_wordsAll ok w member).1⟩
  | slice element ih =>
    rw [words, List.forall_mem_cons]
    exact ⟨own _ (by decide), ih ok⟩
  | map key value first second =>
    rw [words, List.forall_mem_cons, List.forall_mem_append]
    exact ⟨own _ (by decide), first ok.1, second ok.2⟩
  | struct name =>
    rw [words, List.forall_mem_cons, List.forall_mem_singleton]
    exact ⟨own _ (by decide), code name ok⟩
  | lazy typeName =>
    simp only [words, List.forall_mem_cons]
    exact ⟨own _ (by decide), Go.isWord_of_all (by decide),
      own _ (by decide), Go.isWord_of_all (by decide),
      Go.isWord_of_all (by decide), own _ (by decide), code typeName ok, nofun⟩

end Base

theorem spells_of_leafBase? {types : List String} {leaf : Shape}
    {rules : List (Rule × Rule.Kind)} {base : Option Base} (h : leafBase? leaf rules = .ok base) :
    ∀ b ∈ base, b.Spells types := by
  unfold leafBase? at h
  split at h
  · obtain ⟨values, written, h⟩ := bind_ok h
    rw [pure_ok h]
    rintro b ⟨⟩
    exact plainWords_of_enumExprs written
  · split at h
    · rw [← Except.ok.inj h]
      rintro b ⟨⟩
      trivial
    · split at h
      · rw [← Except.ok.inj h]
        rintro b ⟨⟩
        trivial
      · rw [← Except.ok.inj h]
        exact nofun

theorem spells_base {r : Record} {e : Expression} (h : Expression.ofField r f = .ok e) :
    e.base.Spells (r.typeName :: f.shape.structs) := by
  obtain ⟨known, leaf, calls, _, based, _, base, _⟩ := ofField_ok h
  rw [base]
  exact Base.spells_ofField List.mem_cons_self (fun name => List.mem_cons_of_mem _)
    (spells_of_leafBase? based)

theorem isPlain_method (k : Rule.Kind) : IsPlain ("." ++ k.method.getD "") := by
  apply isPlain_of_checked
  cases k <;> decide

theorem mentions_call {has : Families} {args : List Expr}
    (h : ruleArgs f has rule k = .ok (some args)) :
    Mentions (Call.ofKind k args).words (argsMention f rule k) := by
  have method : Mentions ["." ++ k.method.getD ""] fun _ => false :=
    mentions_plain (List.forall_mem_singleton.mpr (isPlain_method k))
  exact (method.append (mentions_of_ruleArgs h)).congr fun _ _ => Bool.false_or _

theorem mentions_optionalCall : Mentions optionalCall.words fun _ => false :=
  mentions_plain (List.forall_mem_singleton.mpr (isPlain_of_checked (by decide)))

/-- Each call is that of a rule, apart from the one that may come last, and each rule that has
arguments makes its call. -/
theorem calls_of_ofField {r : Record} {e : Expression} (h : Expression.ofField r f = .ok e) :
    ∃ has, (∀ rule ∈ f.rules, ∀ k, rule.kind? = some k → ∃ args,
        ruleArgs f has rule k = .ok args ∧ ∀ xs ∈ args, Call.ofKind k xs ∈ e.calls) ∧
      ∀ c ∈ e.calls, c = optionalCall ∨ ∃ rule ∈ f.rules, ∃ k args, rule.kind? = some k ∧
        ruleArgs f has rule k = .ok (some args) ∧ c = Call.ofKind k args := by
  obtain ⟨known, leaf, calls, read, _, called, _, chain⟩ := ofField_ok h
  refine ⟨Families.ofField f leaf, ?_, ?_⟩
  · intro rule member k kind
    have listed := (mem_kinds read).mpr ⟨member, kind⟩
    obtain ⟨call, _, rendered⟩ := ok_of_mapM_ok called listed
    obtain ⟨args, written, rfl⟩ := ruleCall_ok rendered
    refine ⟨args, written, fun xs present => ?_⟩
    obtain rfl := Option.mem_def.mp present
    rw [chain, List.mem_append]
    exact .inl ((mem_calls called).mpr ⟨(rule, k), listed, rendered⟩)
  · intro c present
    rw [chain, List.mem_append] at present
    rcases present with present | present
    · obtain ⟨⟨rule, k⟩, listed, rendered⟩ := (mem_calls called).mp present
      have ⟨member, kind⟩ := (mem_kinds read).mp listed
      obtain ⟨args, written, same⟩ := ruleCall_ok rendered
      obtain ⟨args, rfl, rfl⟩ := Option.map_eq_some_iff.mp same.symm
      exact .inr ⟨rule, member, k, args, kind, written, rfl⟩
    · split at present
      · exact .inl (List.mem_singleton.mp present)
      · cases present

theorem isWord_of_mem_calls {r : Record} {e : Expression} (h : Expression.ofField r f = .ok e) :
    ∀ w ∈ e.calls.flatMap Call.words, IsWord w := by
  obtain ⟨has, _, origin⟩ := calls_of_ofField h
  intro w member
  obtain ⟨c, present, inside⟩ := List.mem_flatMap.mp member
  rcases origin c present with rfl | ⟨rule, _, k, args, _, written, rfl⟩
  · exact mentions_optionalCall.code w inside
  · exact (mentions_call written).code w inside

/-- The schema of a field holds no text of its parameters outside of literals: what is left there is
code, in which no literal and no comment begins. -/
theorem fieldText_code {text : String} (spelled : SpelledInCode s r f)
    (h : fieldText s r f = .ok text) :
    ∃ code, Go.outside false text.toList = some code ∧ IsCode isCodeChar code ∧
      ∀ c ∈ ['\n', '"', '\x27', Go.rawDelimiter, ';', '/'], c ∉ code := by
  obtain ⟨e, written, h⟩ := bind_ok h
  obtain rfl := pure_ok h
  have types : ∀ type ∈ r.typeName :: f.shape.structs, IsWord type :=
    List.forall_mem_cons.mpr
      ⟨isWord_typeName spelled.name spelled.typeParams, spelled.structs⟩
  have base := Base.isWord_of_mem_words spelled.schemaAlias types (spells_base written)
  obtain ⟨code, nested, shown, _⟩ := e.shows_render
    (List.forall_mem_append.mpr ⟨base, isWord_of_mem_calls written⟩)
  refine ⟨code, shown.outside false, nested, ?_⟩
  have strange : (['\n', '"', '\x27', Go.rawDelimiter, ';', '/'].all fun c =>
      !isCodeChar c && Go.brackets.all fun b => b.1 != c && b.2 != c) = true := by
    decide
  intro c member inside
  have other := List.all_eq_true.mp strange c member
  simp only [Bool.and_eq_true, Bool.not_eq_true', List.all_eq_true, bne_iff_ne] at other
  refine nested.forall_mem (· ≠ c) ?_ other.2 c inside rfl
  rintro d allowed rfl
  rw [other.1] at allowed
  cases allowed

def notice : Record where
  name := "Notice"
  typeParams := ["K", "V"]
  package := "desk"
  file := "notice.go"
  optedIn := false
  imports := []
  fields := []

/-- The default value would close its literal, begin a new statement and end with a comment. -/
def forged : Field :=
  .ofRules "Text" "text" "*string" (.pointer (.primitive .string)) ""
    [⟨"default", ["\"); panic(`x`)\n// \\"]⟩, ⟨"refine", ["checks.Text"]⟩]

theorem spelledInCode_forged : SpelledInCode .standard notice forged where
  schemaAlias := Go.isWord_of_all (by decide)
  name := Go.isWord_of_all (by decide)
  typeParams p member := Go.isWord_of_all (by revert p; decide)
  structs := nofun

theorem fieldText_forged : fieldText .standard notice forged =
    .ok ("schema.String().Default(\"\\\"); panic(`x`)\\n// \\\\\")" ++
      ".Refine(checks.Text).Optional()") :=
  toOption_eq_some_iff.mp (by decide +kernel)

theorem fieldText_code_forged : ∃ code,
    Go.outside false ("schema.String().Default(\"\\\"); panic(`x`)\\n// \\\\\")" ++
      ".Refine(checks.Text).Optional()").toList = some code ∧ IsCode isCodeChar code ∧
        ∀ c ∈ ['\n', '"', '\x27', Go.rawDelimiter, ';', '/'], c ∉ code :=
  fieldText_code spelledInCode_forged fieldText_forged

end Emit

end TagSchema
