import TagSchema.Generate.Source
import TagSchema.Proofs.Except

/-!
# Sources under another path

The path of a source is in no generated text: `file_moved` says that the records of a file give the
same code wherever the file is said to be.
-/

namespace TagSchema

open TagSchema.Go (SourceFile)

def Go.SourceFile.moved (path : String) (f : SourceFile) : SourceFile := { f with path }

def Record.moved (file : String) (r : Record) : Record := { r with file }

namespace Generate

theorem readSource_moved {p text : String} {f : SourceFile} (h : readSource p text = .ok f)
    (q : String) : readSource q text = .ok (f.moved q) := by
  unfold readSource Go.Reader.file? at *
  dsimp only at *
  cases package : Go.Reader.packageOf (Go.Reader.items (Go.Token.scan text).length
    (Go.Token.scan text)) with
  | none =>
    rw [package] at h
    cases h
  | some name =>
    rw [package] at h
    rw [← Except.ok.inj h]
    rfl

theorem path_of_readSource {p text : String} {f : SourceFile} (h : readSource p text = .ok f) :
    f.path = p := by
  have moved := readSource_moved h p
  rw [h] at moved
  rw [Except.ok.inj moved]
  rfl

theorem ofDecl?_moved {ix : Index} {f : SourceFile} {d : Go.TypeDecl} {r : Option Record}
    (h : Record.ofDecl? ix f d = .ok r) (q : String) :
    Record.ofDecl? ix (f.moved q) d = .ok (r.map (·.moved q)) := by
  unfold Record.ofDecl? at *
  split at h
  · split at h
    · rename_i skipped
      rw [if_pos skipped, ← Except.ok.inj h]
      rfl
    · rename_i chosen
      dsimp only at h ⊢
      obtain ⟨fields, read, h⟩ := bind_ok h
      obtain rfl := pure_ok h
      rw [if_neg chosen]
      exact bind_of_ok (mapM_ok_mono
        (fun _ _ read => mapError_eq_ok_iff.mpr (mapError_eq_ok_iff.mp read)) read)
  · rw [← Except.ok.inj h]
    rfl

theorem ofFile_moved {ix : Index} {f : SourceFile} {rs : List Record}
    (h : Record.ofFile ix f = .ok rs) (q : String) :
    Record.ofFile ix (f.moved q) = .ok (rs.map (·.moved q)) := by
  obtain ⟨found, read, h⟩ := bind_ok h
  obtain rfl := pure_ok h
  have moved : f.decls.mapM (Record.ofDecl? ix (f.moved q)) =
      .ok (found.map (Option.map (·.moved q))) := by
    rw [mapM_eq_ok_iff, List.forall₂_map_right_iff]
    exact (mapM_eq_ok_iff.mp read).imp fun d r read => ofDecl?_moved read q
  unfold Record.ofFile
  rw [show (f.moved q).decls = f.decls from rfl, moved]
  show Except.ok ((found.map (Option.map (·.moved q))).filterMap id) = _
  rw [List.filterMap_map, List.map_filterMap]
  rfl

theorem ofShape_moved (r : Record) (q : String) (shape : Shape) :
    Emit.Base.ofShape (r.moved q) shape = Emit.Base.ofShape r shape := by
  induction shape with
  | primitive | time | any | struct => rfl
  | pointer s ih => exact ih
  | slice s ih => exact congrArg Emit.Base.slice ih
  | map k v key value => exact congrArg₂ Emit.Base.map key value

theorem fieldText_moved (s : Emit.Settings) (r : Record) (q : String) (f : Field) :
    Emit.fieldText s (r.moved q) f = Emit.fieldText s r f := by
  have depth : Emit.Base.selfDepth (r.moved q) f.typeText = Emit.Base.selfDepth r f.typeText := rfl
  have base (leaf : Option Emit.Base) :
      Emit.Base.ofField (r.moved q) f leaf = Emit.Base.ofField r f leaf := by
    simp only [Emit.Base.ofField, depth, ofShape_moved]
    rfl
  simp only [Emit.fieldText, Emit.Expression.ofField, base]

theorem recordText_moved {s : Emit.Settings} {r : Record} {text : String}
    (h : Emit.recordText s r = .ok text) (q : String) :
    Emit.recordText s (r.moved q) = .ok text := by
  unfold Emit.recordText at *
  obtain ⟨entries, read, h⟩ := bind_ok h
  have moved : Emit.recordEntries s (r.moved q) = .ok entries := by
    refine mapM_ok_mono ?_ read
    intro f entry rendered
    rw [fieldText_moved]
    cases field : Emit.fieldText s r f with
    | error e =>
      rw [field] at rendered
      cases rendered
    | ok text =>
      rw [field] at rendered
      exact rendered
  rw [moved]
  exact congrArg Except.ok (pure_ok h).symm

theorem file_moved {s : Emit.Settings} {rs : List Record} {code : Emit.Code}
    (h : Emit.file s rs = .ok code) (q : String) :
    Emit.file s (rs.map (·.moved q)) = .ok code := by
  unfold Emit.file at *
  obtain ⟨bodies, read, h⟩ := bind_ok h
  have moved : (rs.map (·.moved q)).mapM (Emit.recordText s) = .ok bodies := by
    rw [mapM_eq_ok_iff, List.forall₂_map_left_iff]
    exact (mapM_eq_ok_iff.mp read).imp fun r text read => recordText_moved read q
  have regex : Emit.usesRegex (rs.map (·.moved q)) = Emit.usesRegex rs := List.any_map
  have time : Emit.usesTime (rs.map (·.moved q)) = Emit.usesTime rs := List.any_map
  have refers : Emit.refersToTime (rs.map (·.moved q)) = Emit.refersToTime rs := List.any_map
  have package : Emit.packageName s (rs.map (·.moved q)) = Emit.packageName s rs := by
    simp only [Emit.packageName, List.head?_map, Option.map_map]
    rfl
  have imports : Emit.imports s (rs.map (·.moved q)) = Emit.imports s rs := by
    simp only [Emit.imports, regex, time]
  have names : (rs.map (·.moved q)).map (·.name) = rs.map (·.name) := by
    rw [List.map_map]
    rfl
  rw [bind_of_ok moved, time, refers, package, imports, names]
  exact h

end Generate

end TagSchema
