import Mathlib.Data.List.Nodup
import TagSchema.Proofs.Emit.Reference
import TagSchema.Proofs.Generate.Local
import TagSchema.Proofs.Go.Quoted
import TagSchema.Proofs.Text.Camel

/-!
# Keys of a schema

`recordText_keys_iff`: the keys of a generated schema are distinct exactly if no name in a JSON tag
is the key of two fields and no two fields without such a name share a key (`KeysApart`). For names
in ASCII it is enough that they differ in more than capitals and separators (`LettersApart`).
-/

namespace TagSchema

open TagSchema.Go (Member SourceFile TypeDecl TypeExpr)

namespace Record

variable {ix : Index} {scope : Scope} {optedIn : Bool} {m n : Member TypeExpr}
  {members : List (Member TypeExpr)} {f : SourceFile} {d : TypeDecl} {r : Record}

/-! ### Selected fields -/

/-- The names in a declaration that are fields of the record. -/
def selected (optedIn : Bool) (m : Member TypeExpr) : List String :=
  if ruleTag? m.tag == some "-" || (ruleTag? m.tag).isNone && !optedIn then []
  else m.names.filter Go.isExported

theorem selected_sublist (optedIn : Bool) (m : Member TypeExpr) :
    (selected optedIn m).Sublist (m.names.filter Go.isExported) := by
  unfold selected
  split
  · exact List.nil_sublist _
  · exact List.Sublist.refl _

theorem keys_fieldsOf {fields : List Field} (h : fieldsOf ix scope optedIn m = .ok fields) :
    fields.map (·.key) = (selected optedIn m).map (keyOf m.tag) := by
  unfold fieldsOf at h
  unfold selected
  dsimp only at h
  split at h
  · rename_i skipped
    rw [if_pos skipped, ← Except.ok.inj h]
    rfl
  · rename_i read
    rw [if_neg read]
    refine map_of_mapM_ok h fun name field made => ?_
    obtain ⟨rules, _, made⟩ := bind_ok made
    rw [pure_ok made]
    rfl

/-- The keys that the fields of a struct have in a record. -/
def keys (optedIn : Bool) (members : List (Member TypeExpr)) : List String :=
  members.flatMap fun m => (selected optedIn m).map (keyOf m.tag)

theorem keys_of_named (optedIn : Bool) (members : List (Member TypeExpr)) :
    keys optedIn (members.filter (!·.isEmbedded)) = keys optedIn members := by
  unfold keys
  induction members with
  | nil => rfl
  | cons m members ih =>
    rw [List.filter_cons, List.flatMap_cons, ← ih]
    split
    · rw [List.flatMap_cons]
    · rename_i embedded
      have nothing : m.names = [] := by simpa [Member.isEmbedded] using embedded
      have none := selected_sublist optedIn m
      rw [nothing, List.filter_nil, List.sublist_nil] at none
      rw [none]
      rfl

/-- A record comes of a struct, and its keys of the fields selected there. -/
theorem keys_ofDecl? (h : ofDecl? ix f d = .ok (some r)) : ∃ members source,
    d.type = .struct members source ∧ r.fields.map (·.key) = keys d.optedIn members := by
  unfold ofDecl? at h
  split at h
  · rename_i members source struct
    split at h
    · cases h
    · obtain ⟨fields, read, h⟩ := bind_ok h
      obtain rfl := Option.some.inj (pure_ok h)
      refine ⟨members, source, struct, ?_⟩
      dsimp only
      rw [List.map_flatten, ← keys_of_named, keys, List.flatMap_def]
      refine congrArg List.flatten (map_of_mapM_ok read fun m some found => ?_)
      exact keys_fieldsOf (mapError_eq_ok_iff.mp found)
  · cases h

/-! ### Distinct keys -/

/-- The exported fields of a struct have different names. -/
def NamesApart (members : List (Member TypeExpr)) : Prop :=
  (members.flatMap fun m => m.names.filter Go.isExported).Nodup

theorem NamesApart.selected (names : NamesApart members) (member : m ∈ members) :
    (selected optedIn m).Nodup :=
  (selected_sublist optedIn m).nodup ((List.nodup_flatMap.mp names).1 m member)

/-- What keeps the keys of a struct apart. -/
structure KeysApart (optedIn : Bool) (members : List (Member TypeExpr)) : Prop where
  /-- A tag that sets the key belongs to one field. -/
  single : ∀ m ∈ members, (jsonName? m.tag).isSome = true → (selected optedIn m).length ≤ 1
  /-- No two tags set the same key. -/
  tagged : members.Pairwise fun m n => selected optedIn m ≠ [] → selected optedIn n ≠ [] →
    (jsonName? m.tag).isSome = true → jsonName? m.tag ≠ jsonName? n.tag
  /-- Fields without such a tag have different keys. -/
  derived : ∀ m ∈ members, ∀ n ∈ members, jsonName? m.tag = none → jsonName? n.tag = none →
    ∀ a ∈ selected optedIn m, ∀ b ∈ selected optedIn n, Text.camel a = Text.camel b → a = b
  /-- No tag sets the key of such a field. -/
  apart : ∀ m ∈ members, ∀ n ∈ members, selected optedIn m ≠ [] → jsonName? n.tag = none →
    ∀ b ∈ selected optedIn n, jsonName? m.tag ≠ some (Text.camel b)

theorem keyOf_tagged {tag : Option String} {key : String} (tagged : jsonName? tag = some key)
    (name : String) : keyOf tag name = key := by
  rw [keyOf, tagged]
  rfl

theorem keyOf_derived {tag : Option String} (untagged : jsonName? tag = none) (name : String) :
    keyOf tag name = Text.camel name := by
  rw [keyOf, untagged]
  rfl

/-- One declaration repeats no key exactly if a tag that sets the key has one field, and otherwise
if the keys derived from its names differ. -/
theorem nodup_keyOf_iff (names : (selected optedIn m).Nodup) :
    ((selected optedIn m).map (keyOf m.tag)).Nodup ↔
      ((jsonName? m.tag).isSome = true → (selected optedIn m).length ≤ 1) ∧
      (jsonName? m.tag = none → ∀ a ∈ selected optedIn m, ∀ b ∈ selected optedIn m,
        Text.camel a = Text.camel b → a = b) := by
  cases tagged : jsonName? m.tag with
  | some key =>
    rw [List.map_congr_left fun name _ => keyOf_tagged tagged name, List.map_const',
      List.nodup_replicate]
    exact ⟨fun single => ⟨fun _ => single, nofun⟩, fun h => h.1 rfl⟩
  | none =>
    rw [List.map_congr_left fun name _ => keyOf_derived tagged name,
      List.nodup_map_iff_inj_on names]
    exact ⟨fun derived => ⟨nofun, fun _ => derived⟩, fun h => h.2 rfl⟩

/-- Two declarations share no key. -/
def Separate (optedIn : Bool) (m n : Member TypeExpr) : Prop :=
  ∀ a ∈ selected optedIn m, ∀ b ∈ selected optedIn n, keyOf m.tag a ≠ keyOf n.tag b

theorem Separate.symm (separate : Separate optedIn m n) : Separate optedIn n m :=
  fun b ofSecond a ofFirst same => separate a ofFirst b ofSecond same.symm

theorem disjoint_iff_separate : ((selected optedIn m).map (keyOf m.tag)).Disjoint
    ((selected optedIn n).map (keyOf n.tag)) ↔ Separate optedIn m n := by
  constructor
  · intro disjoint a ofFirst b ofSecond same
    exact disjoint (List.mem_map_of_mem ofFirst) (same ▸ List.mem_map_of_mem ofSecond)
  · intro separate key ofFirst ofSecond
    obtain ⟨a, first, rfl⟩ := List.mem_map.mp ofFirst
    obtain ⟨b, second, same⟩ := List.mem_map.mp ofSecond
    exact separate a first b second same.symm

theorem nodup_keys_iff_separate : (keys optedIn members).Nodup ↔
    (∀ m ∈ members, ((selected optedIn m).map (keyOf m.tag)).Nodup) ∧
      members.Pairwise (Separate optedIn) := by
  rw [keys, List.nodup_flatMap]
  exact and_congr_right fun _ => List.Pairwise.iff fun _ _ => disjoint_iff_separate

/-- Where keys are kept apart, two declarations with different names share none. -/
theorem KeysApart.separate (apart : KeysApart optedIn members) (first : m ∈ members)
    (second : n ∈ members)
    (tagged : selected optedIn m ≠ [] → selected optedIn n ≠ [] →
      (jsonName? m.tag).isSome = true → jsonName? m.tag ≠ jsonName? n.tag)
    (names : (m.names.filter Go.isExported).Disjoint (n.names.filter Go.isExported)) :
    Separate optedIn m n := by
  intro a ofFirst b ofSecond
  have filled := List.ne_nil_of_mem ofFirst
  have filled' := List.ne_nil_of_mem ofSecond
  cases first' : jsonName? m.tag with
  | some key =>
    rw [keyOf_tagged first']
    cases second' : jsonName? n.tag with
    | some other =>
      rw [keyOf_tagged second']
      rintro rfl
      exact tagged filled filled' (by rw [first']; rfl) (by rw [first', second'])
    | none =>
      rw [keyOf_derived second']
      rintro rfl
      exact apart.apart m first n second filled second' b ofSecond first'
  | none =>
    rw [keyOf_derived first']
    cases second' : jsonName? n.tag with
    | some key =>
      rw [keyOf_tagged second']
      rintro rfl
      exact apart.apart n second m first filled' first' a ofFirst second'
    | none =>
      rw [keyOf_derived second']
      intro same
      obtain rfl := apart.derived m first n second first' second' a ofFirst b ofSecond same
      exact names ((selected_sublist optedIn m).subset ofFirst)
        ((selected_sublist optedIn n).subset ofSecond)

theorem keysApart_of_separate (names : NamesApart members)
    (within : ∀ m ∈ members, ((selected optedIn m).map (keyOf m.tag)).Nodup)
    (between : members.Pairwise (Separate optedIn)) : KeysApart optedIn members := by
  have single (m : Member TypeExpr) (member : m ∈ members) :=
    (nodup_keyOf_iff (names.selected member)).mp (within m member)
  have : Std.Symm (Separate optedIn) := ⟨fun _ _ => Separate.symm⟩
  have differ {m n : Member TypeExpr} (first : m ∈ members) (second : n ∈ members)
      (other : m ≠ n) : Separate optedIn m n := between.forall first second other
  refine ⟨fun m member => (single m member).1, ?_, ?_, ?_⟩
  · refine between.imp fun {m n} separate ofFirst ofSecond tagged same => ?_
    obtain ⟨key, tagged⟩ := Option.isSome_iff_exists.mp tagged
    obtain ⟨a, first⟩ := List.exists_mem_of_ne_nil _ ofFirst
    obtain ⟨b, second⟩ := List.exists_mem_of_ne_nil _ ofSecond
    apply separate a first b second
    rw [keyOf_tagged tagged, keyOf_tagged (same ▸ tagged)]
  · intro m first n second untagged untagged' a ofFirst b ofSecond same
    by_cases one : m = n
    · subst one
      exact (single m first).2 untagged a ofFirst b ofSecond same
    · refine (differ first second one a ofFirst b ofSecond ?_).elim
      rw [keyOf_derived untagged, keyOf_derived untagged', same]
  · intro m first n second filled untagged b ofSecond tagged
    obtain ⟨a, ofFirst⟩ := List.exists_mem_of_ne_nil _ filled
    have other : m ≠ n := by
      rintro rfl
      rw [untagged] at tagged
      cases tagged
    apply differ first second other a ofFirst b ofSecond
    rw [keyOf_tagged tagged, keyOf_derived untagged]

theorem keys_nodup_iff (names : NamesApart members) :
    (keys optedIn members).Nodup ↔ KeysApart optedIn members := by
  rw [nodup_keys_iff_separate]
  constructor
  · intro h
    exact keysApart_of_separate names h.1 h.2
  · intro apart
    constructor
    · intro m member
      exact (nodup_keyOf_iff (names.selected member)).mpr ⟨apart.single m member,
        fun untagged => apart.derived m member m member untagged untagged⟩
    · have across := (List.nodup_flatMap.mp names).2
      exact (apart.tagged.and across).imp_of_mem fun first second both =>
        apart.separate first second both.1 both.2

/-- The names that keys come from, those in JSON tags or else those of the fields, are told apart by
their letters and digits. -/
structure LettersApart (optedIn : Bool) (members : List (Member TypeExpr)) : Prop where
  ascii : ∀ m ∈ members, jsonName? m.tag = none → ∀ name ∈ selected optedIn m,
    Text.Ascii name.toList
  differ : (members.flatMap fun m => (selected optedIn m).map fun name =>
    Text.letters ((jsonName? m.tag).getD name)).Nodup

theorem letters_keyOf {tag : Option String} {name : String}
    (ascii : jsonName? tag = none → Text.Ascii name.toList) :
    Text.letters (keyOf tag name) = Text.letters ((jsonName? tag).getD name) := by
  cases tagged : jsonName? tag with
  | some key => rw [keyOf_tagged tagged, Option.getD_some]
  | none => rw [keyOf_derived tagged, Option.getD_none, Text.letters_camel (ascii tagged)]

theorem LettersApart.nodup_keys (apart : LettersApart optedIn members) :
    (keys optedIn members).Nodup := by
  have same : (keys optedIn members).map Text.letters = members.flatMap fun m =>
      (selected optedIn m).map fun name => Text.letters ((jsonName? m.tag).getD name) := by
    rw [keys, List.map_flatMap]
    refine List.flatMap_congr fun m member => ?_
    rw [List.map_map]
    exact List.map_congr_left fun name chosen =>
      letters_keyOf fun untagged => apart.ascii m member untagged name chosen
  exact .of_map Text.letters (same ▸ apart.differ)

end Record

namespace Emit

variable {s : Settings} {r : Record}

theorem quote_injective {a b : String} (same : Go.quote a = Go.quote b) : a = b := by
  have chars := String.ofList_injective same
  have read := congrArg Go.unquoteChars chars
  rw [Go.unquoteChars_quoteChars, Go.unquoteChars_quoteChars] at read
  exact String.toList_inj.mp (Option.some.inj read)

theorem keys_recordEntries {entries : List Layout.Entry} (h : recordEntries s r = .ok entries) :
    entries.map Prod.fst = (r.fields.map (·.key)).map Go.quote := by
  rw [List.map_map]
  refine map_of_mapM_ok h fun f entry made => ?_
  split at made
  · rw [← Except.ok.inj made]
    rfl
  · cases made

/-- The keys of a generated schema are distinct exactly if those of the struct are kept apart, and
in any case if the names that they come from differ in their letters. -/
theorem recordText_keys_iff {ix : Index} {f : SourceFile} {rs : List Record} {text : String}
    (names : ∀ d ∈ f.decls, ∀ members source, d.type = .struct members source →
      Record.NamesApart members)
    (built : Record.ofFile ix f = .ok rs) (member : r ∈ rs) (written : recordText s r = .ok text) :
    ∃ d ∈ f.decls, ∃ members source entries, d.type = .struct members source ∧
      Record.ofDecl? ix f d = .ok (some r) ∧
      text = commentText r ++ methodText s r entries ∧
      entries.map Prod.fst = (Record.keys d.optedIn members).map Go.quote ∧
      ((entries.map Prod.fst).Nodup ↔ Record.KeysApart d.optedIn members) ∧
      (Record.LettersApart d.optedIn members → (entries.map Prod.fst).Nodup) := by
  obtain ⟨entries, listed, shape⟩ := recordText_ok written
  obtain ⟨results, read, made⟩ := bind_ok built
  rw [pure_ok made, List.mem_filterMap] at member
  obtain ⟨_, found, rfl⟩ := member
  obtain ⟨d, decl, own⟩ := (mem_mapM_ok read).mp found
  obtain ⟨members, source, struct, keys⟩ := Record.keys_ofDecl? own
  have quoted := keys_recordEntries listed
  rw [keys] at quoted
  have apart : (entries.map Prod.fst).Nodup ↔ (Record.keys d.optedIn members).Nodup := by
    rw [quoted, List.nodup_map_iff fun _ _ => quote_injective]
  exact ⟨d, decl, members, source, entries, struct, own, shape, quoted,
    apart.trans (Record.keys_nodup_iff (names d decl members source struct)),
    fun letters => apart.mpr letters.nodup_keys⟩

/-! ### Two names of one user -/

/-- A declaration without a rule tag in a record that asks for all of them. -/
theorem fieldsOf_optedIn {ix : Index} {scope : Scope} {m : Member TypeExpr}
    (untagged : Record.ruleTag? m.tag = none) : Record.fieldsOf ix scope true m =
      .ok ((m.names.filter Go.isExported).map fun name =>
        .ofRules name (Record.keyOf m.tag name) m.type.text (ix.resolve scope m.type) "" []) := by
  unfold Record.fieldsOf
  rw [untagged]
  refine mapM_eq_ok_iff.mpr (List.forall₂_map_right_iff.mpr ?_)
  exact List.forall₂_same.mpr fun name _ => rfl

theorem resolve_primitive {ix : Index} {scope : Scope} {name : String} {args : List TypeExpr}
    {k : Primitive} (free : name ∉ scope.typeParams) (unknown : ix.find? name = none)
    (named : Primitive.ofGoName? name = some k) :
    ix.resolve scope (.named none name args) = .primitive k := by
  rw [Index.resolve, Index.resolveFrom, if_neg (by simpa using free)]
  split
  · rename_i known
    rw [unknown] at known
    cases known
  · rw [named]

def userMembers (tag : Option String) : List (Member TypeExpr) :=
  [⟨["UserID"], .named none "int" [], tag⟩, ⟨["UserId"], .named none "int" [], none⟩]

def userFile (tag : Option String) : SourceFile where
  path := "user.go"
  package := "desk"
  imports := []
  decls := [⟨"User", [], .struct (userMembers tag) "", false, true⟩]
  hasErrors := false

def userRecord (tag : Option String) : Record where
  name := "User"
  typeParams := []
  package := "desk"
  file := "user.go"
  optedIn := true
  imports := []
  fields := [.ofRules "UserID" (Record.keyOf tag "UserID") "int" (.primitive .int) "" [],
    .ofRules "UserId" "userId" "int" (.primitive .int) "" []]

theorem ofFile_user {tag : Option String} (untagged : Record.ruleTag? tag = none) :
    Record.ofFile (.ofFiles [userFile tag]) (userFile tag) = .ok [userRecord tag] := by
  have int : (Index.ofFiles [userFile tag]).resolve (.of [] []) (.named none "int" []) =
      .primitive .int := resolve_primitive List.not_mem_nil rfl rfl
  have read : ((userMembers tag).filter (!·.isEmbedded)).mapM (fun m =>
      (Record.fieldsOf (.ofFiles [userFile tag]) (.of [] []) true m).mapError
        fun e => (⟨"user.go", "User", e.1, e.2⟩ : Record.Fault)) =
      .ok [[.ofRules "UserID" (Record.keyOf tag "UserID") "int" (.primitive .int) "" []],
        [.ofRules "UserId" "userId" "int" (.primitive .int) "" []]] := by
    refine mapM_eq_ok_iff.mpr (.cons ?_ (.cons ?_ .nil))
    · rw [fieldsOf_optedIn untagged, int]
      rfl
    · rw [fieldsOf_optedIn rfl, int]
      rfl
  have made : Record.ofDecl? (.ofFiles [userFile tag]) (userFile tag)
      ⟨"User", [], .struct (userMembers tag) "", false, true⟩ = .ok (some (userRecord tag)) := by
    unfold Record.ofDecl?
    dsimp only
    rw [if_neg (by simp)]
    exact bind_of_ok read
  have decls : (userFile tag).decls.mapM (Record.ofDecl? (.ofFiles [userFile tag]) (userFile tag)) =
      .ok [some (userRecord tag)] := mapM_eq_ok_iff.mpr (.cons made .nil)
  rw [Record.ofFile, decls]
  rfl

theorem namesApart_user (tag : Option String) : ∀ d ∈ (userFile tag).decls, ∀ members source,
    d.type = .struct members source → Record.NamesApart members := by
  intro d decl members source struct
  obtain rfl := List.mem_singleton.mp decl
  cases struct
  exact (by decide : ["UserID", "UserId"].Nodup)

theorem recordText_of_entries {entries : List Layout.Entry} (h : recordEntries s r = .ok entries) :
    recordText s r = .ok (commentText r ++ methodText s r entries) := by
  have written : ∃ text, recordText s r = .ok text := ⟨_, bind_of_ok h⟩
  obtain ⟨text, written⟩ := written
  obtain ⟨others, same, rfl⟩ := recordText_ok written
  rw [h, Except.ok.injEq] at same
  rw [written, same]

theorem recordEntries_named : recordEntries .standard (userRecord (some "json:\"id\"")) =
    .ok [("\"id\"", "schema.Int()"), ("\"userId\"", "schema.Int()")] :=
  toOption_eq_some_iff.mp (by decide +kernel)

theorem recordEntries_unnamed : recordEntries .standard (userRecord none) =
    .ok [("\"userId\"", "schema.Int()"), ("\"userId\"", "schema.Int()")] :=
  toOption_eq_some_iff.mp (by decide +kernel)

/-- With a JSON name for one of them, two fields that share a camel form have different keys. -/
theorem recordText_keys_named : ∃ text entries,
    recordText .standard (userRecord (some "json:\"id\"")) = .ok text ∧
      text = commentText (userRecord (some "json:\"id\"")) ++
        methodText .standard (userRecord (some "json:\"id\"")) entries ∧
      (entries.map Prod.fst).Nodup ∧ Record.KeysApart true (userMembers (some "json:\"id\"")) := by
  have written := recordText_of_entries recordEntries_named
  obtain ⟨d, decl, members, source, entries, struct, _, text, _, distinct, letters⟩ :=
    recordText_keys_iff (namesApart_user _) (ofFile_user (by decide +kernel)) List.mem_cons_self
      written
  obtain rfl := List.mem_singleton.mp decl
  cases struct
  have low : ((userMembers (some "json:\"id\"")).all fun m =>
      (Record.selected true m).all fun name => name.toList.all fun c => c.toNat < 0x80) = true := by
    decide +kernel
  have ascii : ∀ m ∈ userMembers (some "json:\"id\""), Record.jsonName? m.tag = none →
      ∀ name ∈ Record.selected true m, Text.Ascii name.toList := by
    intro m member _ name chosen c within
    have first := List.all_eq_true.mp (List.all_eq_true.mp low m member) name chosen
    exact of_decide_eq_true (List.all_eq_true.mp first c within)
  have apart := letters ⟨ascii, by decide +kernel⟩
  exact ⟨_, entries, written, text, apart, distinct.mp apart⟩

/-- Names that differ in their capitals alone have one key, which stands twice in the schema. -/
theorem recordText_keys_repeated :
    (∀ d ∈ (userFile none).decls, ∀ members source, d.type = .struct members source →
      Record.NamesApart members) ∧
    Record.ofFile (.ofFiles [userFile none]) (userFile none) = .ok [userRecord none] ∧
    ∃ entries, recordText .standard (userRecord none) =
        .ok (commentText (userRecord none) ++ methodText .standard (userRecord none) entries) ∧
      entries.map Prod.fst = ["\"userId\"", "\"userId\""] :=
  ⟨namesApart_user none, ofFile_user rfl, _, recordText_of_entries recordEntries_unnamed, by decide⟩

end Emit

end TagSchema
