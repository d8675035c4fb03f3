import TagSchema.Emit.File
import TagSchema.Proofs.Emit.Code

/-!
# References of generated methods

Which packages a record's method refers to outside of literals and comments: those that some field's
base spells in a type, and those that the arguments of some field's rules name.
-/

namespace TagSchema.Emit

open TagSchema.Go (Expr IsWord Shows shows_empty shows_quote isCodeChar refersTo)

variable {s : Settings} {r : Record} {f : Field} {e : Expression} {schema package : String}

/-! ### Expressions -/

/-- Whether a type that the base spells refers to a package. -/
def Base.mentions (package : String) : Base → Bool
  | slice element => element.mentions package
  | map key value => key.mentions package || value.mentions package
  | struct name | lazy name => refersTo package name.toList
  | _ => false

/-- A name that is none of a package. -/
structure IsApart (schema : String) : Prop where
  simple : ∀ c ∈ schema.toList, Go.continuesName c = true
  apart : schema ∉ packages

theorem refersTo_selected {name : String} (simple : ∀ c ∈ schema.toList, Go.continuesName c = true)
    (path : name.toList.all Go.isPathChar = true) (noPoint : '.' ∉ package.toList) :
    refersTo package (select schema name).toList = true ↔ schema = package := by
  have text : (select schema name).toList = schema.toList ++ '.' :: name.toList := by
    simp [select]
  rw [text]
  exact Go.refersTo_select noPoint simple (List.all_eq_true.mp path)

theorem isPlain_selected {name : String} (library : IsApart schema)
    (path : name.toList.all Go.isPathChar = true) : IsPlain (select schema name) := by
  have word : IsWord schema := Go.isCode_of_allowed fun c member =>
    Go.isCodeChar_of_continuesName (library.simple c member)
  refine ⟨isWord_select word path, fun package member => ?_⟩
  have noPoint : ∀ package ∈ packages, '.' ∉ package.toList := by decide
  by_contra refers
  rw [Bool.not_eq_false,
    refersTo_selected library.simple path (noPoint package member)] at refers
  exact library.apart (refers ▸ member)

theorem Base.mentions_words {types : List String} (library : IsApart schema)
    (code : ∀ type ∈ types, IsWord type) {b : Base} (ok : b.Spells types) :
    Mentions (b.words schema) (b.mentions ·) := by
  have own (name : String) (path : name.toList.all Go.isPathChar = true) :
      IsPlain (select schema name) := isPlain_selected library path
  have single {w : String} (plain : IsPlain w) : Mentions [w] fun _ => false :=
    mentions_plain (List.forall_mem_singleton.mpr plain)
  induction b with
  | primitive k => exact single (own _ (isPath_constructorName k))
  | uuid | time | any => exact single (own _ (by decide))
  | enum values =>
    exact mentions_plain
      (List.forall_mem_cons.mpr ⟨own _ (by decide), plain_wordsAll ok⟩)
  | slice element ih =>
    exact ((single (own _ (by decide))).append (ih ok)).congr
      fun _ _ => Bool.false_or _
  | map key value first second =>
    exact ((single (own _ (by decide))).append
      ((first ok.1).append (second ok.2))).congr fun _ _ => Bool.false_or _
  | struct name =>
    exact ((single (own _ (by decide))).append (mentions_word (code name ok))).congr
      fun _ _ => Bool.false_or _
  | lazy typeName =>
    have front : Mentions [select schema "Lazy", "func", select schema "Type", "any", "return",
        select schema "FromStruct"] fun _ => false := by
      apply mentions_plain
      simp only [List.forall_mem_cons]
      exact ⟨own _ (by decide), isPlain_of_checked (by decide),
        own _ (by decide), isPlain_of_checked (by decide),
        isPlain_of_checked (by decide), own _ (by decide), nofun⟩
    exact (front.append (mentions_word (code typeName ok))).congr fun _ _ => Bool.false_or _

/-- Whether the arguments of some rule refer to a package. -/
def rulesMention (f : Field) (package : String) : Bool :=
  f.rules.any fun rule => rule.kind?.any (argsMention f rule · package)

/-- Only rules that make a call mention a package. -/
theorem isSome_of_argsMention {has : Families} {rule : Rule} {k : Rule.Kind}
    {args : Option (List Expr)} (h : ruleArgs f has rule k = .ok args)
    (mention : argsMention f rule k package = true) : args.isSome = true := by
  have other : k ≠ .uuid := by
    rintro rfl
    cases mention
  rw [(args_of_kind h other).1]
  cases k <;> first | rfl | cases mention

theorem mentions_calls (h : Expression.ofField r f = .ok e) :
    Mentions (e.calls.flatMap Call.words) (rulesMention f) := by
  refine ⟨isWord_of_mem_calls h, fun package known => ?_⟩
  obtain ⟨has, called, origin⟩ := calls_of_ofField h
  -- Calls are reordered and some rules make none, so that members are compared and not lists.
  rw [rulesMention, Bool.eq_iff_iff, List.any_eq_true, List.any_eq_true]
  constructor
  · rintro ⟨w, inside, refers⟩
    obtain ⟨c, present, inside⟩ := List.mem_flatMap.mp inside
    have met : c.words.any (refersTo package ·.toList) = true :=
      List.any_eq_true.mpr ⟨w, inside, refers⟩
    rcases origin c present with rfl | ⟨rule, member, k, args, kind, written, rfl⟩
    · rw [mentions_optionalCall.refers package known] at met
      cases met
    · rw [(mentions_call written).refers package known] at met
      exact ⟨rule, member, by rw [kind, Option.any_some, met]⟩
  · rintro ⟨rule, member, mention⟩
    obtain ⟨k, kind, mention⟩ := (Option.any_eq_true _ _).mp mention
    obtain ⟨args, written, listed⟩ := called rule member k kind
    obtain ⟨args, rfl⟩ := Option.isSome_iff_exists.mp (isSome_of_argsMention written mention)
    rw [← (mentions_call written).refers package known] at mention
    obtain ⟨w, inside, refers⟩ := List.any_eq_true.mp mention
    exact ⟨w, List.mem_flatMap.mpr ⟨_, listed args rfl, inside⟩, refers⟩

/-- The packages that a field's schema refers to. -/
theorem mentions_of_ofField (library : IsApart schema) (type : IsWord r.typeName)
    (structs : ∀ name ∈ f.shape.structs, IsWord name) (h : Expression.ofField r f = .ok e) :
    Mentions (e.words schema) fun package => e.base.mentions package || rulesMention f package := by
  have types : ∀ type ∈ r.typeName :: f.shape.structs, IsWord type :=
    List.forall_mem_cons.mpr ⟨type, structs⟩
  exact (Base.mentions_words library types (spells_base h)).append (mentions_calls h)

/-! ### Lines of entries -/

/-- Neither a quote, nor a slash, nor a bracket. -/
def isLoose (c : Char) : Bool := !("\"/()[]\x7b\x7d".toList.contains c)

theorem isLoose_of_isCodeChar {c : Char} (h : isCodeChar c = true) : isLoose c = true := by
  have strange : ("\"/()[]\x7b\x7d".toList.all fun c => !isCodeChar c) = true := by
    decide
  rw [isLoose, Bool.not_eq_true', ← Bool.not_eq_true, List.contains_iff_mem]
  intro member
  have other := List.all_eq_true.mp strange c member
  rw [h] at other
  cases other

theorem isQuiet_of_isLoose {c : Char} (h : isLoose c = true) : Go.isQuiet c = true := by
  rw [isLoose, Bool.not_eq_true', ← Bool.not_eq_true, List.contains_iff_mem] at h
  rw [Go.isQuiet, Bool.and_eq_true, bne_iff_ne, bne_iff_ne]
  constructor
  · rintro rfl
    exact h (by decide)
  · rintro rfl
    exact h (by decide)

/-- The line of an entry, with a gap before its value. -/
def IsLine (e : Layout.Entry) (line : String) : Prop :=
  ∃ n, line = e.1 ++ ":" ++ String.ofList (List.replicate n ' ') ++ e.2 ++ ","

theorem isLine_align (entries : List Layout.Entry) :
    List.Forall₂ IsLine entries (Layout.align entries) := by
  have column (es : List Layout.Entry) : List.Forall₂ IsLine es (Layout.columnLines es) := by
    rw [Layout.columnLines, List.forall₂_map_right_iff, List.forall₂_same]
    exact fun e _ => ⟨_, rfl⟩
  have columns (ess : List (List Layout.Entry)) :
      List.Forall₂ IsLine ess.flatten (ess.flatMap Layout.columnLines) := by
    induction ess with
    | nil => exact .nil
    | cons es ess ih => exact List.rel_append (column es) ih
  have whole := columns (Layout.sections .zero entries)
  rwa [Layout.sections_flatten] at whole

theorem shows_lines {entries : List Layout.Entry} {lines : List String} {wss : List (List String)}
    (lined : List.Forall₂ IsLine entries lines)
    (shown : List.Forall₂ (fun e ws => (∃ key, e.1 = Go.quote key) ∧ Shows isCodeChar e.2 ws)
      entries wss) :
    Shows isLoose (String.join (lines.map fun l => "\t\t" ++ l ++ "\n")) wss.flatten := by
  induction lined generalizing wss with
  | nil =>
    cases shown
    exact shows_empty
  | @cons e line entries lines first _ ih =>
    cases shown with
    | cons value rest =>
      obtain ⟨n, rfl⟩ := first
      obtain ⟨⟨key, quoted⟩, value⟩ := value
      have gap : Go.separates isLoose (":" ++ String.ofList (List.replicate n ' ')) = true := by
        have parts : isLoose ':' = true ∧ isLoose ' ' = true ∧ Go.isPathChar ':' = false ∧
            Go.isPathChar ' ' = false := by decide
        simp [Go.separates, isQuiet_of_isLoose, parts]
      have front : Shows isLoose _ _ :=
        shows_empty.sep "\t\t" (by decide) (shows_quote key)
      have both := front.sep _ gap (value.mono fun _ => isLoose_of_isCodeChar)
      have whole := both.sep ",\n" (by decide) (ih rest)
      rw [List.map_cons, String.join_cons, quoted]
      exact whole.of_toList (by simp)

/-! ### Methods -/

/-- The names of a record are names, and the structs that its fields spell are code. -/
structure IsDeclared (r : Record) : Prop where
  name : Go.isSimpleIdentifier r.name.toList = true
  typeParams : ∀ p ∈ r.typeParams, Go.isSimpleIdentifier p.toList = true
  structs : ∀ f ∈ r.fields, ∀ name ∈ f.shape.structs, IsWord name

theorem isCodeChar_of_isSimple {name : String} (h : Go.isSimpleIdentifier name.toList = true) :
    ∀ c ∈ name.toList, isCodeChar c = true ∧ c ≠ '.' ∧ c ≠ '\n' := by
  have others : Go.continuesName '.' = false ∧ Go.continuesName '\n' = false := by decide
  intro c member
  have letter := (Go.isSimpleIdentifier_iff.mp h).2.1 c member
  refine ⟨Go.isCodeChar_of_continuesName letter, ?_, ?_⟩
  · rintro rfl
    rw [letter] at others
    cases others.1
  · rintro rfl
    rw [letter] at others
    cases others.2

theorem noPoint_typeName (h : IsDeclared r) : '.' ∉ r.typeName.toList := by
  have simple {name : String} (h : Go.isSimpleIdentifier name.toList = true) :
      Go.IsCode (· != '.') name.toList :=
    Go.isCode_of_allowed fun c member => bne_iff_ne.mpr (isCodeChar_of_isSimple h c member).2.1
  have comma : Go.IsCode (· != '.') ", ".toList :=
    Go.isCode_of_allowed (List.all_eq_true.mp (by decide))
  have code := isCode_typeName comma (simple h.name) fun p member => simple (h.typeParams p member)
  intro member
  exact code.forall_mem (· ≠ '.') (fun c other => bne_iff_ne.mp other) (by decide) '.' member rfl

theorem IsDeclared.isWord_typeName (h : IsDeclared r) : IsWord r.typeName := by
  have word {name : String} (h : Go.isSimpleIdentifier name.toList = true) : IsWord name :=
    Go.isCode_of_allowed fun c member => (isCodeChar_of_isSimple h c member).1
  exact Emit.isWord_typeName (word h.name) fun p member => word (h.typeParams p member)

theorem shows_entriesText {entries : List Layout.Entry} {wss : List (List String)}
    (library : IsApart s.schemaAlias)
    (shown : List.Forall₂ (fun e ws => (∃ key, e.1 = Go.quote key) ∧ Shows isCodeChar e.2 ws)
      entries wss) :
    Shows isLoose (entriesText s entries) (select s.schemaAlias "StructSchema" :: wss.flatten) := by
  have function : Shows isLoose (select s.schemaAlias "StructSchema") _ :=
    (isPlain_selected library (by decide)).1.shows.mono fun _ => isLoose_of_isCodeChar
  have lines := shows_lines (isLine_align entries) shown
  unfold entriesText
  dsimp only
  split
  · rename_i none
    rw [List.isEmpty_iff] at none
    subst none
    cases shown
    exact (function.curly shows_empty shows_empty).of_toList (by simp [select])
  · have block := shows_empty.sep "\n" (by decide)
      (lines.sep "\t" (by decide) shows_empty)
    have whole := function.curly block shows_empty
    rw [List.append_nil, List.append_nil] at whole
    exact whole.of_toList (by simp [select])

theorem isLoose_receiver (s : Settings) (r : Record) :
    ∀ c ∈ (receiver s r).toList, isLoose c = true ∧ c ≠ '.' := by
  have mark : isLoose '\u0307' = true ∧ Text.isAlphabetic '.' = false := by decide
  have letter {c : Char} (h : Text.isAlphabetic c = true) : isLoose c = true ∧ c ≠ '.' := by
    refine ⟨isLoose_of_isCodeChar
      (Go.isCodeChar_of_continuesName (Go.continuesName_of_isAlphabetic h)), ?_⟩
    rintro rfl
    rw [h] at mark
    cases mark.2
  intro c member
  unfold receiver at member
  dsimp only at member
  split at member
  · have fallback : "x".toList.all Text.isAlphabetic = true := by decide
    exact letter (List.all_eq_true.mp fallback c member)
  · rcases Go.mem_receiverName member with alphabetic | rfl
    · exact letter alphabetic
    · exact ⟨mark.1, by decide⟩

/-- The words of a record's method apart from those of its fields. -/
def frameWords (s : Settings) (r : Record) : List String :=
  ["func", receiver s r, r.typeName, "Schema", select s.schemaAlias "ZodStruct", r.typeName,
    r.typeName, "return", select s.schemaAlias "Struct", r.typeName,
    select s.schemaAlias "StructSchema"]

/-- The line of comment above a method. -/
def commentText (r : Record) : String :=
  "// Schema returns the gozod schema for " ++ r.name ++ ".\n"

def methodText (s : Settings) (r : Record) (entries : List Layout.Entry) : String :=
  "func (" ++ receiver s r ++ " " ++ r.typeName ++ ") Schema() *" ++ s.schemaAlias ++
    ".ZodStruct[" ++ r.typeName ++ ", " ++ r.typeName ++ "] \x7b\n" ++ "\treturn " ++
      s.schemaAlias ++ ".Struct[" ++ r.typeName ++ "](" ++ entriesText s entries ++ ")\n" ++
        "\x7d\n"

theorem recordText_ok {text : String} (h : recordText s r = .ok text) :
    ∃ entries, recordEntries s r = .ok entries ∧
      text = commentText r ++ methodText s r entries := by
  unfold recordText at h
  obtain ⟨entries, written, h⟩ := bind_ok h
  refine ⟨entries, written, ?_⟩
  rw [pure_ok h]
  unfold commentText methodText
  rw [← String.toList_inj]
  simp only [String.toList_append, List.append_assoc]

theorem shows_method {entries : List Layout.Entry} {wss : List (List String)}
    (library : IsApart s.schemaAlias) (declared : IsDeclared r)
    (shown : List.Forall₂ (fun e ws => (∃ key, e.1 = Go.quote key) ∧ Shows isCodeChar e.2 ws)
      entries wss) :
    Shows isLoose (methodText s r entries) (frameWords s r ++ wss.flatten) := by
  have word {w : String} (h : IsWord w) : Shows isLoose w [w] :=
    h.shows.mono fun _ => isLoose_of_isCodeChar
  have type := word declared.isWord_typeName
  have own (name : String) (path : name.toList.all Go.isPathChar = true) :
      Shows isLoose (select s.schemaAlias name) _ := word (isPlain_selected library path).1
  have receiver := Go.shows_word (fun _ => isQuiet_of_isLoose)
    (Go.isCode_of_allowed fun c member => (isLoose_receiver s r c member).1)
  have keyword (w : String) (known : w.toList.all isCodeChar = true) : Shows isLoose w [w] :=
    word (Go.isWord_of_all known)
  -- The method is put together from the inside, for brackets keep their neighbours apart.
  have blank : Go.separates isLoose " " = true := by decide
  have newline : Go.separates isLoose "\n" = true := by decide
  have parameter := receiver.sep _ blank type
  have types := type.sep ", " (by decide) type
  have result := (shows_empty.sep " *" (by decide)
    (own "ZodStruct" (by decide))).square types shows_empty
  have value := ((keyword "return" (by decide)).sep _ blank
    (own "Struct" (by decide))).square type
      (shows_empty.round (shows_entriesText library shown)
        (shows_empty.sep _ newline shows_empty))
  have body := shows_empty.sep "\n\t" (by decide) value
  have name := shows_empty.sep _ blank (keyword "Schema" (by decide))
  have block := (result.sep _ blank shows_empty).curly body (shows_empty.sep _ newline shows_empty)
  have function := (keyword "func" (by decide)).sep _ blank shows_empty
  have whole := function.round parameter (name.round shows_empty block)
  simp only [List.nil_append, List.append_nil, List.cons_append] at whole
  rw [frameWords]
  simp only [List.nil_append, List.cons_append]
  refine whole.of_toList ?_
  unfold methodText select
  simp only [String.toList_append, List.append_assoc]
  rfl

/-- The entries of a record show the words of its fields' schemas. -/
theorem shows_entries (library : IsApart s.schemaAlias) (type : IsWord r.typeName) {fs : List Field}
    {entries : List Layout.Entry} (structs : ∀ f ∈ fs, ∀ name ∈ f.shape.structs, IsWord name)
    (h : List.Forall₂ (fun f entry => entry.1 = Go.quote f.key ∧ fieldText s r f = .ok entry.2)
      fs entries) :
    ∃ es, fs.mapM (Expression.ofField r) = .ok es ∧
      List.Forall₂ (fun e ws => (∃ key, e.1 = Go.quote key) ∧ Shows isCodeChar e.2 ws) entries
        (es.map (·.words s.schemaAlias)) := by
  induction h with
  | nil => exact ⟨[], rfl, .nil⟩
  | @cons f entry fs entries first _ ih =>
    rw [List.forall_mem_cons] at structs
    obtain ⟨es, read, shown⟩ := ih structs.2
    obtain ⟨e, written, text⟩ := bind_ok first.2
    have words := (mentions_of_ofField library type structs.1 written).code
    refine ⟨e :: es, mapM_cons_eq_ok_iff.mpr ⟨e, es, written, read, rfl⟩,
      .cons ⟨⟨_, first.1⟩, ?_⟩ shown⟩
    rw [pure_ok text]
    exact e.shows_render words

/-- What a record's method says outside of literals and comments refers to what the method's frame
and its fields refer to. -/
theorem outside_recordText {text : String} (library : IsApart s.schemaAlias)
    (declared : IsDeclared r) (h : recordText s r = .ok text) :
    ∃ es code, r.fields.mapM (Expression.ofField r) = .ok es ∧
      Go.outside true text.toList = some code ∧ ∀ package, refersTo package code =
        ((frameWords s r).any (refersTo package ·.toList) ||
          es.any fun e => (e.words s.schemaAlias).any (refersTo package ·.toList)) := by
  obtain ⟨entries, written, rfl⟩ := recordText_ok h
  have paired : List.Forall₂
      (fun f entry => entry.1 = Go.quote f.key ∧ fieldText s r f = .ok entry.2)
      r.fields entries := by
    refine (mapM_eq_ok_iff.mp written).imp fun f entry rendered => ?_
    split at rendered
    · rename_i text found
      rw [← Except.ok.inj rendered]
      exact ⟨rfl, found⟩
    · cases rendered
  obtain ⟨es, read, shown⟩ := shows_entries library declared.isWord_typeName declared.structs paired
  obtain ⟨code, _, displayed, refers⟩ := shows_method library declared shown
  have line : '\n' ∉ (" Schema returns the gozod schema for " ++ r.name ++ ".").toList := by
    simp only [String.toList_append, List.mem_append, not_or]
    exact ⟨⟨by decide, fun inside => (isCodeChar_of_isSimple declared.name _ inside).2.2 rfl⟩,
      by decide⟩
  refine ⟨es, '\n' :: code, read, ?_, fun package => ?_⟩
  · have cut := Go.outside_comment line (methodText s r entries).toList
    rw [displayed.outside, Option.map_some] at cut
    rw [← cut]
    unfold commentText
    simp only [String.toList_append, List.append_assoc]
    rfl
  · have ends : Go.isPathChar '\n' = false := by decide
    have skipped : refersTo package ([] ++ '\n' :: code) = _ := Go.refersTo_break ends [] code
    rw [List.nil_append, Go.refersTo_nil, Bool.false_or] at skipped
    rw [skipped, refers, List.any_append, List.any_flatten, List.any_map]
    rfl

theorem refersTo_of_noPoint {w : String} (h : '.' ∉ w.toList) :
    refersTo package w.toList = false := by
  rw [← Bool.not_eq_true]
  exact fun refers => h (Go.mem_of_refersTo refers '.' (List.mem_append_right _ List.mem_cons_self))

/-- The frame of a method refers to the schema library alone. -/
theorem refersTo_frameWords (library : IsApart s.schemaAlias) (declared : IsDeclared r) :
    (frameWords s r).any (refersTo s.schemaAlias ·.toList) = true ∧
      ∀ package ∈ packages, (frameWords s r).any (refersTo package ·.toList) = false := by
  constructor
  · rw [List.any_eq_true]
    have noPoint : '.' ∉ s.schemaAlias.toList := fun member =>
      absurd (library.simple _ member) (by decide)
    exact ⟨select s.schemaAlias "Struct", by simp [frameWords],
      (refersTo_selected library.simple (by decide) noPoint).mpr rfl⟩
  · intro package known
    have own (name : String) (path : name.toList.all Go.isPathChar = true) :
        refersTo package (select s.schemaAlias name).toList = false :=
      (isPlain_selected library path).2 package known
    have type : refersTo package r.typeName.toList = false :=
      refersTo_of_noPoint (noPoint_typeName declared)
    have receiver : refersTo package (receiver s r).toList = false :=
      refersTo_of_noPoint fun member => (isLoose_receiver s r _ member).2 rfl
    have keyword (w : String) (ok : w.toList.contains '.' = false) :
        refersTo package w.toList = false :=
      refersTo_of_noPoint fun member => by simp [member] at ok
    simp only [frameWords, List.any_cons, List.any_nil, Bool.or_false, type, receiver,
      own "ZodStruct" (by decide), own "Struct" (by decide),
      own "StructSchema" (by decide), keyword "func" (by decide),
      keyword "Schema" (by decide), keyword "return" (by decide)]

/-- Whether the schema of a field refers to a package. -/
def FieldMentions (r : Record) (package : String) (f : Field) : Prop :=
  ∃ e, Expression.ofField r f = .ok e ∧ (e.base.mentions package || rulesMention f package) = true

/-- Whether a method refers to a package outside of literals and comments. -/
def methodRefersTo (package text : String) : Bool :=
  (Go.outside true text.toList).any (refersTo package)

theorem methodRefersTo_iff {text : String} (library : IsApart s.schemaAlias)
    (declared : IsDeclared r) (h : recordText s r = .ok text) :
    methodRefersTo s.schemaAlias text = true ∧ ∀ package ∈ packages,
      (methodRefersTo package text = true ↔ ∃ f ∈ r.fields, FieldMentions r package f) := by
  obtain ⟨es, code, read, outside, refers⟩ := outside_recordText library declared h
  have ⟨own, others⟩ := refersTo_frameWords library declared
  simp only [methodRefersTo, outside, Option.any_some, refers]
  refine ⟨by rw [own, Bool.true_or], fun package known => ?_⟩
  rw [others package known, Bool.false_or, List.any_eq_true]
  have mention {f : Field} (member : f ∈ r.fields) {e : Expression}
      (written : Expression.ofField r f = .ok e) :=
    (mentions_of_ofField library declared.isWord_typeName (declared.structs f member)
      written).refers package known
  constructor
  · rintro ⟨e, member, met⟩
    obtain ⟨f, present, written⟩ := (mem_mapM_ok read).mp member
    exact ⟨f, present, e, written, (mention present written).symm.trans met⟩
  · rintro ⟨f, present, e, written, met⟩
    exact ⟨e, (mem_mapM_ok read).mpr ⟨f, present, written⟩, (mention present written).trans met⟩

end TagSchema.Emit
