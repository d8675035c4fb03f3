import TagSchema.Proofs.Emit.Names
import TagSchema.Proofs.Emit.Reference

/-!
# Imports of generated files

What a file imports follows from the shapes and the rules of its fields, and not from what its
methods say. `importsFit_iff` says for which records the two agree: a type argument or the name of a
function may refer to a package that nothing else calls for.
-/

namespace TagSchema.Emit

open TagSchema.Go (IsWord refersTo)

variable {c : Config} {s : Settings} {rs : List Record} {r : Record} {f : Field} {package : String}

/-! ### References that rules call for -/

/-- A rule for a pattern, or one that sets a time. -/
def CallsFor (package : String) (f : Field) : Prop :=
  package = regexPackage ∧ f.hasRule .regex = true ∨
    package = "time" ∧ f.shape.pointee = .time ∧
      (f.hasRule .default = true ∨ f.hasRule .prefault = true)

/-- Whether a rule names a function of a package. -/
def selectsFunction (package : String) (f : Field) : Bool :=
  f.rules.any fun rule => (rule.kind? == some .refine || rule.kind? == some .check) &&
    refersTo package rule.joined.toList

/-- A reference to a package in a type that the field's base spells, or in a function's name. -/
def FieldSpells (r : Record) (package : String) (f : Field) : Prop :=
  (∃ e, Expression.ofField r f = .ok e ∧ e.base.mentions package = true) ∨
    selectsFunction package f = true

theorem argsMention_iff {rule : Rule} {k : Rule.Kind} : argsMention f rule k package = true ↔
    k = .regex ∧ package = regexPackage ∨
      (k = .default ∨ k = .prefault) ∧ f.shape.pointee = .time ∧ package = "time" ∨
        (k = .refine ∨ k = .check) ∧ refersTo package rule.joined.toList = true := by
  unfold argsMention
  split <;> simp_all

theorem hasRule_iff {k : Rule.Kind} :
    f.hasRule k = true ↔ ∃ rule ∈ f.rules, rule.kind? = some k := by
  rw [Field.hasRule, Rule.hasKind, List.any_eq_true]
  simp only [beq_iff_eq]

theorem rulesMention_iff : rulesMention f package = true ↔
    CallsFor package f ∨ selectsFunction package f = true := by
  simp only [rulesMention, List.any_eq_true, Option.any_eq_true, argsMention_iff, CallsFor,
    selectsFunction, hasRule_iff, Bool.and_eq_true, Bool.or_eq_true, beq_iff_eq]
  constructor
  · rintro ⟨rule, member, k, kind, ⟨rfl, regex⟩ | ⟨rfl | rfl, time, own⟩ | ⟨rfl | rfl, refers⟩⟩
    · exact .inl (.inl ⟨regex, rule, member, kind⟩)
    · exact .inl (.inr ⟨own, time, .inl ⟨rule, member, kind⟩⟩)
    · exact .inl (.inr ⟨own, time, .inr ⟨rule, member, kind⟩⟩)
    · exact .inr ⟨rule, member, .inl kind, refers⟩
    · exact .inr ⟨rule, member, .inr kind, refers⟩
  · rintro ((⟨regex, rule, member, kind⟩ |
      ⟨own, time, ⟨rule, member, kind⟩ | ⟨rule, member, kind⟩⟩) |
      ⟨rule, member, kind | kind, refers⟩)
    · exact ⟨rule, member, _, kind, .inl ⟨rfl, regex⟩⟩
    · exact ⟨rule, member, _, kind, .inr (.inl ⟨.inl rfl, time, own⟩)⟩
    · exact ⟨rule, member, _, kind, .inr (.inl ⟨.inr rfl, time, own⟩)⟩
    · exact ⟨rule, member, _, kind, .inr (.inr ⟨.inl rfl, refers⟩)⟩
    · exact ⟨rule, member, _, kind, .inr (.inr ⟨.inr rfl, refers⟩)⟩

theorem fieldMentions_iff {e : Expression} (h : Expression.ofField r f = .ok e) :
    FieldMentions r package f ↔ CallsFor package f ∨ FieldSpells r package f := by
  have same (e' : Expression) : Expression.ofField r f = .ok e' ↔ e' = e := by
    rw [h, Except.ok.injEq, eq_comm]
  simp only [FieldMentions, FieldSpells, same, exists_eq_left, Bool.or_eq_true, rulesMention_iff]
  constructor
  · rintro (spelled | called | selected)
    · exact .inr (.inl spelled)
    · exact .inl called
    · exact .inr (.inr selected)
  · rintro (called | spelled | selected)
    · exact .inr (.inl called)
    · exact .inl spelled
    · exact .inr (.inr selected)

/-! ### Files -/

/-- What stands in a file before its methods and before the line that uses the package of times. -/
def frontText (s : Settings) (rs : List Record) : String :=
  marker ++ "\n\n" ++ (s.buildConstraint.map (· ++ "\n\n")).getD "" ++ "package " ++
    packageName s rs ++ "\n\n" ++ Import.block (imports s rs)

/-- The file with these methods; `anchored` tells whether it has a line that uses the package of
times. -/
structure IsFile (s : Settings) (rs : List Record) (methods : List String) (anchored : Bool)
    (code : Code) : Prop where
  written : rs.mapM (recordText s) = .ok methods
  imports : code.imports = (imports s rs).map (·.path)
  text : code.text = frontText s rs ++ (if anchored then "\nvar _ time.Time\n" else "") ++
    String.join (methods.map ("\n" ++ ·))

theorem isFile_of_file {code : Code} (h : file s rs = .ok code) :
    ∃ methods, IsFile s rs methods (usesTime rs && !refersToTime rs) code := by
  unfold file at h
  obtain ⟨methods, written, h⟩ := bind_ok h
  obtain rfl := pure_ok h
  exact ⟨methods, written, rfl, rfl⟩

/-- Whether some method of the file refers to a package. -/
def refersToPackage (package : String) (methods : List String) : Bool :=
  methods.any (methodRefersTo package)

theorem refersToPackage_iff {methods : List String} (library : IsApart s.schemaAlias)
    (declared : ∀ r ∈ rs, IsDeclared r) (h : rs.mapM (recordText s) = .ok methods)
    (known : package ∈ packages) : refersToPackage package methods = true ↔
      (∃ r ∈ rs, ∃ f ∈ r.fields, CallsFor package f) ∨
        ∃ r ∈ rs, ∃ f ∈ r.fields, FieldSpells r package f := by
  have field {r : Record} (member : r ∈ rs) {f : Field} (present : f ∈ r.fields) :
      FieldMentions r package f ↔ CallsFor package f ∨ FieldSpells r package f := by
    obtain ⟨text, _, written⟩ := ok_of_mapM_ok h member
    obtain ⟨es, _, read, _⟩ := outside_recordText library (declared r member) written
    obtain ⟨e, _, rendered⟩ := ok_of_mapM_ok read present
    exact fieldMentions_iff rendered
  have method {r : Record} (member : r ∈ rs) {text : String} (written : recordText s r = .ok text) :
      methodRefersTo package text = true ↔ ∃ f ∈ r.fields, FieldMentions r package f :=
    (methodRefersTo_iff library (declared r member) written).2 package known
  rw [refersToPackage, List.any_eq_true]
  constructor
  · rintro ⟨text, listed, refers⟩
    obtain ⟨r, member, written⟩ := (mem_mapM_ok h).mp listed
    obtain ⟨f, present, mention⟩ := (method member written).mp refers
    rcases (field member present).mp mention with called | spelled
    · exact .inl ⟨r, member, f, present, called⟩
    · exact .inr ⟨r, member, f, present, spelled⟩
  · have refers {r : Record} (member : r ∈ rs) {f : Field} (present : f ∈ r.fields)
        (mention : CallsFor package f ∨ FieldSpells r package f) :
        ∃ text ∈ methods, methodRefersTo package text = true := by
      obtain ⟨text, listed, written⟩ := ok_of_mapM_ok h member
      exact ⟨text, listed,
        (method member written).mpr ⟨f, present, (field member present).mpr mention⟩⟩
    rintro (⟨r, member, f, present, called⟩ | ⟨r, member, f, present, spelled⟩)
    · exact refers member present (.inl called)
    · exact refers member present (.inr spelled)

theorem refersToPackage_schemaAlias {methods : List String} (library : IsApart s.schemaAlias)
    (filled : rs ≠ []) (declared : ∀ r ∈ rs, IsDeclared r)
    (h : rs.mapM (recordText s) = .ok methods) :
    refersToPackage s.schemaAlias methods = true := by
  obtain ⟨r, member⟩ := List.exists_mem_of_ne_nil rs filled
  obtain ⟨text, listed, written⟩ := ok_of_mapM_ok h member
  exact List.any_eq_true.mpr
    ⟨text, listed, (methodRefersTo_iff library (declared r member) written).1⟩

/-- What a file imports is what it refers to, and the line that uses the package of times is there
where nothing else does. -/
structure ImportsFit (s : Settings) (rs : List Record) (methods : List String) (anchored : Bool) :
    Prop where
  time : refersToPackage "time" methods = true → Import.plain "time" ∈ imports s rs
  regex : refersToPackage regexPackage methods = true →
    Import.under "regexp" regexPackage ∈ imports s rs
  used : ∀ i ∈ imports s rs, refersToPackage i.name methods = true ∨
    i = Import.plain "time" ∧ anchored = true
  anchor : anchored = true ↔
    Import.plain "time" ∈ imports s rs ∧ refersToPackage "time" methods = false

theorem callsFor_time : (∃ r ∈ rs, ∃ f ∈ r.fields, CallsFor "time" f) ↔ refersToTime rs = true := by
  have other : "time" ≠ regexPackage := by decide
  simp only [CallsFor, other, false_and, false_or, true_and, refersToTime, List.any_eq_true,
    Bool.and_eq_true, Bool.or_eq_true, beq_iff_eq]

theorem callsFor_regex :
    (∃ r ∈ rs, ∃ f ∈ r.fields, CallsFor regexPackage f) ↔ usesRegex rs = true := by
  have other : regexPackage ≠ "time" := by decide
  simp only [CallsFor, other, false_and, or_false, true_and, usesRegex, Record.usesRule,
    List.any_eq_true]

/-- A rule that sets a time stands at a field that mentions it. -/
theorem usesTime_of_refersToTime (h : refersToTime rs = true) : usesTime rs = true := by
  have mentions (shape : Shape) (h : shape.pointee = .time) : shape.mentionsTime = true := by
    induction shape with
    | pointer shape ih => exact ih h
    | time => rfl
    | _ => cases h
  simp only [refersToTime, List.any_eq_true, Bool.and_eq_true, beq_iff_eq] at h
  obtain ⟨r, member, f, present, time, _⟩ := h
  exact List.any_eq_true.mpr ⟨r, member, List.any_eq_true.mpr ⟨f, present, mentions f.shape time⟩⟩

theorem mem_imports_iff {i : Import} : i ∈ imports s rs ↔
    i = Import.under s.schemaPackage s.schemaAlias ∨
      i = Import.under "regexp" regexPackage ∧ usesRegex rs = true ∨
        i = Import.plain "time" ∧ usesTime rs = true := by
  unfold imports
  cases usesRegex rs <;> cases usesTime rs <;> simp

theorem name_regex : (Import.under "regexp" regexPackage).name = regexPackage :=
  Import.name_under _ _

/-- The imports of a known package, whatever the schema library is called. -/
theorem mem_imports_known (library : IsApart s.schemaAlias) (rs : List Record) :
    (Import.plain "time" ∈ imports s rs ↔ usesTime rs = true) ∧
      (Import.under "regexp" regexPackage ∈ imports s rs ↔ usesRegex rs = true) := by
  have apart {i : Import} (known : i.name ∈ packages) :
      i ≠ Import.under s.schemaPackage s.schemaAlias := by
    rintro rfl
    rw [Import.name_under] at known
    exact library.apart known
  have differ : Import.plain "time" ≠ Import.under "regexp" regexPackage := by
    intro same
    have names := congrArg Import.name same
    rw [name_time, name_regex] at names
    revert names
    decide
  have time := apart (i := Import.plain "time") (by rw [name_time]; decide)
  have regex := apart (i := Import.under "regexp" regexPackage) (by rw [name_regex]; decide)
  rw [mem_imports_iff, mem_imports_iff]
  constructor
  · simp [time, differ]
  · simp [regex, differ.symm]

/-- Under a valid configuration that calls the schema library by a name of its own, the imports of a
file of records fit exactly when no type argument and no function's name refers to a package that no
pattern and no literal of a time refers to. -/
theorem importsFit_iff {code : Code} (valid : c.Valid)
    (apart : c.settings.schemaAlias ∉ packages) (filled : rs ≠ [])
    (declared : ∀ r ∈ rs, IsDeclared r) (h : file c.settings rs = .ok code) :
    ∃ methods anchored, IsFile c.settings rs methods anchored code ∧
      (ImportsFit c.settings rs methods anchored ↔
        ((∃ r ∈ rs, ∃ f ∈ r.fields, FieldSpells r "time" f) → refersToTime rs = true) ∧
          ((∃ r ∈ rs, ∃ f ∈ r.fields, FieldSpells r regexPackage f) → usesRegex rs = true)) := by
  obtain ⟨methods, parts⟩ := isFile_of_file h
  refine ⟨methods, _, parts, ?_⟩
  have library : IsApart c.settings.schemaAlias := ⟨(schemaAlias_of_valid valid).2, apart⟩
  have ⟨importsTime, importsRegex⟩ := mem_imports_known library rs
  have time : refersToPackage "time" methods = true ↔ _ :=
    refersToPackage_iff library declared parts.written (by decide)
  have regex : refersToPackage regexPackage methods = true ↔ _ :=
    refersToPackage_iff library declared parts.written (by decide)
  rw [callsFor_time] at time
  rw [callsFor_regex] at regex
  constructor
  · intro fit
    constructor
    · intro spelled
      have refers := time.mpr (.inr spelled)
      have imported := importsTime.mp (fit.time refers)
      by_contra uncalled
      -- The file would have the line, which says that no method refers to the package.
      have anchored := fit.anchor.mp (by rw [imported, Bool.eq_false_iff.mpr uncalled]; rfl)
      rw [refers] at anchored
      cases anchored.2
    · exact fun spelled => importsRegex.mp (fit.regex (regex.mpr (.inr spelled)))
  · rintro ⟨called, called'⟩
    -- What is referred to is now just what rules call for, from which imports and line follow.
    have time : refersToPackage "time" methods = true ↔ refersToTime rs = true :=
      time.trans (or_iff_left_of_imp called)
    have regex : refersToPackage regexPackage methods = true ↔ usesRegex rs = true :=
      regex.trans (or_iff_left_of_imp called')
    refine ⟨fun refers => importsTime.mpr (usesTime_of_refersToTime (time.mp refers)),
      fun refers => importsRegex.mpr (regex.mp refers), fun i member => ?_, ?_⟩
    · rcases mem_imports_iff.mp member with rfl | ⟨rfl, uses⟩ | ⟨rfl, uses⟩
      · rw [Import.name_under]
        exact .inl (refersToPackage_schemaAlias library filled declared parts.written)
      · rw [name_regex]
        exact .inl (regex.mpr uses)
      · rw [name_time]
        cases refers : refersToPackage "time" methods with
        | true => exact .inl rfl
        | false =>
          have uncalled : refersToTime rs = false := by
            rw [← Bool.not_eq_true, ← time, refers]
            exact Bool.false_ne_true
          exact .inr ⟨rfl, by rw [uses, uncalled]; rfl⟩
    · rw [importsTime, Bool.and_eq_true, Bool.not_eq_true', ← Bool.not_eq_true, ← time,
        Bool.not_eq_true]

theorem Base.exists_of_mentions {types : List String} {b : Base} (ok : b.Spells types)
    (h : b.mentions package = true) : ∃ type ∈ types, refersTo package type.toList = true := by
  induction b with
  | slice element ih => exact ih ok h
  | map key value first second =>
    rcases Bool.or_eq_true_iff.mp h with h | h
    · exact first ok.1 h
    · exact second ok.2 h
  | struct name => exact ⟨name, ok, h⟩
  | lazy name => exact ⟨name, ok, h⟩
  | _ => cases h

/-- Only the spelling of a struct or the name of a function refers to a package unannounced. -/
theorem FieldSpells.cases (declared : IsDeclared r) (h : FieldSpells r package f) :
    (∃ name ∈ f.shape.structs, refersTo package name.toList = true) ∨
      selectsFunction package f = true := by
  rcases h with ⟨e, written, mention⟩ | selected
  · obtain ⟨type, member, refers⟩ := Base.exists_of_mentions (spells_base written) mention
    rcases List.mem_cons.mp member with rfl | struct
    · rw [refersTo_of_noPoint (noPoint_typeName declared)] at refers
      cases refers
    · exact .inl ⟨type, struct, refers⟩
  · exact .inr selected

/-- A record with one field of a type. -/
def visit (typeText : String) (shape : Shape) : Record where
  name := "Visit"
  typeParams := []
  package := "desk"
  file := "visit.go"
  optedIn := true
  imports := [("time", "time")]
  fields := [.ofRules "Last" "last" typeText shape "" [⟨"required", []⟩]]

def timed : Record := visit "time.Time" .time

def paged : Record := visit "Page[time.Time]" (.struct "Page[time.Time]")

theorem isDeclared_visit {typeText : String} {shape : Shape}
    (structs : ∀ name ∈ shape.structs, IsWord name) : IsDeclared (visit typeText shape) where
  name := (by decide : Go.isSimpleIdentifier "Visit".toList = true)
  typeParams := nofun
  structs f member := by
    rw [List.mem_singleton.mp member]
    exact structs

theorem isDeclared_timed : IsDeclared timed := isDeclared_visit nofun

theorem importsFit_timed : ∃ code, file Config.standard.settings [timed] = .ok code ∧
    ∃ methods anchored, IsFile Config.standard.settings [timed] methods anchored code ∧
      ImportsFit Config.standard.settings [timed] methods anchored := by
  have written : (file Config.standard.settings [timed]).toOption.isSome = true := by
    decide
  obtain ⟨code, written⟩ := Option.isSome_iff_exists.mp written
  have written := toOption_eq_some_iff.mp written
  have plain : ∀ r ∈ [timed], ∀ f ∈ r.fields, ∀ package ∈ packages, ¬ FieldSpells r package f := by
    intro r member f present package known spelled
    obtain rfl := List.mem_singleton.mp member
    obtain rfl := List.mem_singleton.mp present
    rcases spelled.cases isDeclared_timed with ⟨_, struct, _⟩ | selected
    · cases struct
    · cases selected
  obtain ⟨methods, anchored, parts, fit⟩ := importsFit_iff (c := .standard) (by decide +kernel)
    (by decide) (List.cons_ne_nil _ _) (List.forall_mem_singleton.mpr isDeclared_timed) written
  refine ⟨code, written, methods, anchored, parts, fit.mpr ⟨?_, ?_⟩⟩
  · rintro ⟨r, member, f, present, spelled⟩
    exact (plain r member f present _ (by decide) spelled).elim
  · rintro ⟨r, member, f, present, spelled⟩
    exact (plain r member f present _ (by decide) spelled).elim

theorem isDeclared_paged : IsDeclared paged := by
  have page : IsWord "Page" := Go.isWord_of_all (by decide)
  have time : IsWord "time.Time" := Go.isWord_of_all (by decide)
  exact isDeclared_visit
    (List.forall_mem_singleton.mpr (page.append (.group (by decide) time .nil)))

theorem fieldSpells_paged : ∀ f ∈ paged.fields, FieldSpells paged "time" f := by
  intro f member
  have checked : paged.fields.all (fun f =>
      (Expression.ofField paged f).toOption.any (·.base.mentions "time")) = true := by
    decide +kernel
  obtain ⟨e, written, mention⟩ := (Option.any_eq_true _ _).mp (List.all_eq_true.mp checked f member)
  exact .inl ⟨e, toOption_eq_some_iff.mp written, mention⟩

/-- A type argument refers to a package that is not imported. -/
theorem paged_not_importsFit : ∃ code methods, file .standard [paged] = .ok code ∧
    IsFile .standard [paged] methods false code ∧ ¬ ImportsFit .standard [paged] methods false := by
  have written : (file .standard [paged]).toOption.isSome = true := by decide
  obtain ⟨code, written⟩ := Option.isSome_iff_exists.mp written
  have written := toOption_eq_some_iff.mp written
  obtain ⟨methods, parts⟩ := isFile_of_file written
  refine ⟨code, methods, written, parts, fun fit => ?_⟩
  have library : IsApart Settings.standard.schemaAlias := 
    ⟨List.all_eq_true.mp (by decide), by decide⟩
  have refers : refersToPackage "time" methods = true :=
    (refersToPackage_iff library (List.forall_mem_singleton.mpr isDeclared_paged) parts.written
      (by decide)).mpr (.inr ⟨paged, List.mem_cons_self, _, List.mem_cons_self,
        fieldSpells_paged _ List.mem_cons_self⟩)
  have missing : Import.plain "time" ∉ imports .standard [paged] := by decide
  exact missing (fit.time refers)

end TagSchema.Emit
