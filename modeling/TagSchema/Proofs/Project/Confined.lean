import TagSchema.Project.Basic
import TagSchema.Proofs.Project.Write

/-!
# What attempts can change

Whatever comes of an attempt, no directory is lost, and files differ after it at most where its path
leads or where it is staged: `write_confined` for one attempt, `each_confined` for a list of them,
and `run_confined` for a run.
-/

namespace TagSchema

open TagSchema.FileTree (Location KeepsDirectories SameDirectories)

namespace FileTree

variable {t u v : FileTree} {P Q : Location → Prop}

/-- No directory is lost, and files differ at most at certain places. -/
structure ConfinedTo (P : Location → Prop) (t u : FileTree) : Prop where
  directories : KeepsDirectories t u
  frame : ∀ l, ¬ P l → u.file? l = t.file? l

theorem ConfinedTo.refl (P : Location → Prop) (t : FileTree) : ConfinedTo P t t :=
  ⟨fun _ dir => dir, fun _ _ => rfl⟩

theorem ConfinedTo.mono (h : ConfinedTo P t u) (within : ∀ l, P l → Q l) : ConfinedTo Q t u :=
  ⟨h.directories, fun l outside => h.frame l fun inside => outside (within l inside)⟩

theorem ConfinedTo.trans (first : ConfinedTo P t u) (second : ConfinedTo P u v) :
    ConfinedTo P t v :=
  ⟨fun l dir => second.directories l (first.directories l dir),
    fun l outside => (second.frame l outside).trans (first.frame l outside)⟩

/-- With the same directories, a place is told by the file that it holds. -/
theorem find?_eq_of_file? (same : SameDirectories t u) {l : Location}
    (h : u.file? l = t.file? l) : u.find? l = t.find? l := by
  cases before : t.find? l with
  | some node =>
    cases node with
    | directory => exact (same l).mp before
    | file bytes => exact node_of_file? (by rw [h, file?, before])
  | none =>
    cases after : u.find? l with
    | none => rfl
    | some node =>
      cases node with
      | directory =>
        rw [(same l).mpr after] at before
        cases before
      | file bytes =>
        rw [file?, file?, before, after] at h
        cases h

/-! ### Single changes -/

theorem write_confined {path : String} {bytes : List UInt8} (h : t.write path bytes = .ok u) :
    SameDirectories t u ∧ ConfinedTo (t.locate path = .ok ·) t u := by
  obtain ⟨loc, place, written⟩ := bind_ok h
  have same := sameDirectories_writeFile written
  refine ⟨same, same.keeps, fun l outside => ?_⟩
  have other : l ≠ loc := fun equal => outside (equal ▸ place)
  rw [file?, file?, find?_writeFile written, if_neg other]

theorem remove_confined {path : String} (h : t.remove path = .ok u) :
    SameDirectories t u ∧ ConfinedTo (t.locate path = .ok ·) t u := by
  obtain ⟨loc, place, removed⟩ := bind_ok h
  have same := sameDirectories_removeFile removed
  refine ⟨same, same.keeps, fun l outside => ?_⟩
  have other : l ≠ loc := fun equal => outside (equal ▸ place)
  rw [file?, file?, find?_removeFile removed, if_neg other]

theorem move_confined {source target : String} (h : t.move source target = .ok u) :
    SameDirectories t u ∧
      ConfinedTo (fun l => t.locate target = .ok l ∨ t.locate source = .ok l) t u := by
  obtain ⟨bytes, _, h⟩ := bind_ok h
  obtain ⟨v, written, removed⟩ := bind_ok h
  have ⟨same, confined⟩ := write_confined written
  have ⟨same', confined'⟩ := remove_confined removed
  refine ⟨fun l => (same l).trans (same' l), (confined.mono fun _ => .inl).trans ?_⟩
  exact confined'.mono fun l place => .inr (locate_congr same.symm place)

/-! ### Creating directories -/

theorem makeDirectory_confined {loc : Location} (h : t.makeDirectory loc = .ok u) :
    ConfinedTo (fun _ => False) t u := by
  have made := find?_makeDirectory h
  refine ⟨fun l dir => ?_, fun l _ => ?_⟩
  · rw [made]
    split
    · rfl
    · exact dir
  · by_cases equal : l = loc
    · -- A file in the place would have been a fault.
      have free : t.file? loc = none := by
        unfold makeDirectory at h
        rw [file?]
        split at h
        · rename_i dir
          rw [dir]
        · split at h
          · split at h
            · cases h
            · rename_i free
              rw [Option.not_isSome_iff_eq_none.mp free]
          · cases h
      rw [equal, free, file?, made, if_pos rfl]
    · rw [file?, file?, made, if_neg equal]

theorem createParts_confined (t : FileTree) (loc : Location) (parts : List String) :
    ConfinedTo (fun _ => False) t (t.createParts loc parts).1 := by
  induction parts generalizing t loc with
  | nil => exact .refl _ t
  | cons part parts ih =>
    rw [createParts]
    split
    · exact .refl _ t
    · split
      · exact .refl _ t
      · rename_i made
        exact (makeDirectory_confined made).trans (ih _ _)

theorem createDirectories_confined (t : FileTree) (path : String) :
    ConfinedTo (fun _ => False) t (t.createDirectories path).1 := by
  unfold createDirectories
  split
  · exact .refl _ t
  · split
    · exact .refl _ t
    · exact createParts_confined t [] _

end FileTree

namespace Write

open TagSchema.FileTree (ConfinedTo)

/-- A path, or the path where its file is staged, leads to a place. -/
def Touches (t : FileTree) (path : String) (l : Location) : Prop :=
  t.locate path = .ok l ∨ t.locate (temporaryPath path) = .ok l

theorem Touches.mono {t u : FileTree} {path : String} {l : Location}
    (keeps : KeepsDirectories t u) (h : Touches t path l) : Touches u path l :=
  h.imp (FileTree.locate_mono keeps) (FileTree.locate_mono keeps)

/-! ### Single attempts -/

theorem replace_confined (t : FileTree) (path : String) (bytes : List UInt8) :
    SameDirectories t (replace t path bytes).1 ∧
      ConfinedTo (Touches t path) t (replace t path bytes).1 := by
  unfold replace
  dsimp only
  split
  · exact ⟨fun _ => Iff.rfl, .refl _ t⟩
  · rename_i v staged
    have ⟨same, confined⟩ := FileTree.write_confined staged
    have confined := confined.mono (Q := Touches t path) fun _ => .inr
    have back {path' : String} {l : Location} (place : v.locate path' = .ok l) :
        t.locate path' = .ok l := FileTree.locate_congr same.symm place
    split
    · rename_i w moved
      have ⟨same', confined'⟩ := FileTree.move_confined moved
      exact ⟨fun l => (same l).trans (same' l),
        confined.trans (confined'.mono fun _ => Or.imp back back)⟩
    · cases removed : v.remove (temporaryPath path) with
      | error e => exact ⟨same, confined⟩
      | ok w =>
        have ⟨same', confined'⟩ := FileTree.remove_confined removed
        exact ⟨fun l => (same l).trans (same' l),
          confined.trans (confined'.mono fun _ place => .inr (back place))⟩

theorem putFile_confined (t : FileTree) (path : String) (bytes : List UInt8) :
    ConfinedTo (Touches (putFile t path bytes).1 path) t (putFile t path bytes).1 := by
  have created := FileTree.createDirectories_confined t ((Path.parent? path).getD "")
  unfold putFile
  dsimp only
  split
  · rename_i done
    rw [done] at created
    exact created.mono fun _ => False.elim
  · rename_i u _ done
    rw [done] at created
    have ⟨same, confined⟩ := replace_confined u path bytes
    exact (created.mono fun _ => False.elim).trans
      (confined.mono fun _ touched => touched.mono same.keeps)

theorem change_confined (dryRun : Bool) (t : FileTree) (path content : String)
    (outcome : Nat → Outcome) : ConfinedTo (Touches (change dryRun t path content outcome).1 path) t
      (change dryRun t path content outcome).1 := by
  unfold change
  split
  · exact .refl _ t
  · exact putFile_confined t path _

theorem write_confined (dryRun : Bool) (t : FileTree) (path content : String) :
    ConfinedTo (Touches (write dryRun t path content).1 path) t
      (write dryRun t path content).1 := by
  unfold write
  split
  · split
    · exact .refl _ t
    · exact change_confined ..
  · exact change_confined ..
  · exact .refl _ t

theorem remove_confined (dryRun : Bool) (t : FileTree) (path : String) :
    SameDirectories t (remove dryRun t path).1 ∧
      ConfinedTo ((remove dryRun t path).1.locate path = .ok ·) t (remove dryRun t path).1 := by
  unfold remove
  split
  · exact ⟨fun _ => Iff.rfl, .refl _ t⟩
  · split
    · rename_i removed
      have ⟨same, confined⟩ := FileTree.remove_confined removed
      exact ⟨same, confined.mono fun _ => FileTree.locate_congr same⟩
    · exact ⟨fun _ => Iff.rfl, .refl _ t⟩

/-- A write below a directory that is there creates none. -/
theorem write_sameDirectories (dryRun : Bool) {t : FileTree} {path : String} {D : Location}
    (parent : t.LeadsTo ((Path.parent? path).getD "") D) (content : String) :
    SameDirectories t (write dryRun t path content).1 := by
  have changed (outcome : Nat → Outcome) :
      SameDirectories t (change dryRun t path content outcome).1 := by
    unfold change
    split
    · exact fun _ => Iff.rfl
    · show SameDirectories t (putFile t path content.toUTF8.toList).1
      rw [putFile, FileTree.createDirectories_self parent]
      exact (replace_confined t path _).1
  unfold write
  split
  · split
    · exact fun _ => Iff.rfl
    · exact changed _
  · exact changed _
  · exact fun _ => Iff.rfl

/-! ### One attempt after another -/

section

variable {α : Type} {attempt : FileTree → α → Attempt Change}

/-- What holds between the trees around each attempt holds between the first and the last. -/
theorem each_related {R : FileTree → FileTree → Prop} (refl : ∀ t, R t t)
    (trans : ∀ t u v, R t u → R u v → R t v) {I : FileTree → α → Prop}
    (keep : ∀ t u x, R t u → I t x → I u x) (step : ∀ t x, I t x → R t (attempt t x).1)
    (t : FileTree) {xs : List α} (h : ∀ x ∈ xs, I t x) : R t (each attempt t xs).1 := by
  induction xs generalizing t with
  | nil => exact refl t
  | cons x xs ih =>
    rw [List.forall_mem_cons] at h
    have first := step t x h.1
    unfold each
    split
    · rename_i made
      rw [made] at first
      exact first
    · rename_i u c made
      rw [made] at first
      exact trans _ _ _ first (ih u fun y member => keep t u y first (h.2 y member))

theorem each_confined {P : FileTree → α → Location → Prop}
    (mono : ∀ t u x l, KeepsDirectories t u → P t x l → P u x l)
    (step : ∀ t x, ConfinedTo (P (attempt t x).1 x) t (attempt t x).1) (t : FileTree)
    (xs : List α) :
    ConfinedTo (fun l => ∃ x ∈ xs, P (each attempt t xs).1 x l) t (each attempt t xs).1 := by
  induction xs generalizing t with
  | nil => exact .refl _ t
  | cons x xs ih =>
    have first := step t x
    unfold each
    split
    · rename_i made
      rw [made] at first
      exact first.mono fun _ inside => ⟨x, List.mem_cons_self, inside⟩
    · rename_i u c made
      rw [made] at first
      have later := ih u
      refine (first.mono fun l inside => ?_).trans (later.mono fun l inside => ?_)
      · exact ⟨x, List.mem_cons_self, mono _ _ x l later.directories inside⟩
      · obtain ⟨y, member, inside⟩ := inside
        exact ⟨y, List.mem_cons_of_mem _ member, inside⟩

end

section

variable {α : Type} (dryRun : Bool) (path content : α → String) (t : FileTree)

theorem each_write_confined (xs : List α) :
    let u := (each (fun t x => write dryRun t (path x) (content x)) t xs).1
    ConfinedTo (fun l => ∃ x ∈ xs, Touches u (path x) l) t u :=
  each_confined (P := fun t x => Touches t (path x))
    (fun _ _ _ _ keeps touched => touched.mono keeps)
    (fun t x => write_confined dryRun t (path x) (content x)) t xs

theorem each_remove_confined (xs : List String) :
    let u := (each (remove dryRun) t xs).1
    ConfinedTo (fun l => ∃ x ∈ xs, u.locate x = .ok l) t u :=
  each_confined (P := fun t x l => t.locate x = .ok l) (fun _ _ _ _ => FileTree.locate_mono)
    (fun t x => (remove_confined dryRun t x).2) t xs

variable {t}

theorem each_write_sameDirectories {xs : List α}
    (inside : ∀ x ∈ xs, ∃ D, t.LeadsTo ((Path.parent? (path x)).getD "") D) :
    SameDirectories t (each (fun t x => write dryRun t (path x) (content x)) t xs).1 :=
  each_related (R := SameDirectories) (fun _ _ => Iff.rfl)
    (fun _ _ _ first second l => (first l).trans (second l))
    (I := fun t x => ∃ D, t.LeadsTo ((Path.parent? (path x)).getD "") D)
    (fun _ _ _ same ⟨D, leads⟩ => ⟨D, leads.congr same⟩)
    (fun _ x ⟨_, leads⟩ => write_sameDirectories dryRun leads (content x)) t inside

theorem each_remove_sameDirectories (xs : List String) :
    SameDirectories t (each (remove dryRun) t xs).1 :=
  each_related (R := SameDirectories) (fun _ _ => Iff.rfl)
    (fun _ _ _ first second l => (first l).trans (second l)) (I := fun _ _ => True)
    (fun _ _ _ _ _ => trivial) (fun t x _ => (remove_confined dryRun t x).1) t fun _ _ => trivial

end

end Write

namespace Project

open TagSchema.FileTree (ConfinedTo)

variable {t : FileTree} {c : Config} {roots : List String} {pl : Plan}

/-- A path of the plan, or one where an output is staged, leads to a place. -/
def Plan.Touches (pl : Plan) (t : FileTree) (l : Location) : Prop :=
  (∃ o ∈ pl.outputs, Write.Touches t o.path l) ∨ ∃ x ∈ pl.orphans, t.locate x = .ok l

theorem Plan.Touches.mono {u : FileTree} {l : Location} (keeps : KeepsDirectories t u)
    (h : pl.Touches t l) : pl.Touches u l := by
  rcases h with ⟨o, member, touched⟩ | ⟨x, member, place⟩
  · exact .inl ⟨o, member, touched.mono keeps⟩
  · exact .inr ⟨x, member, FileTree.locate_mono keeps place⟩

theorem apply_confined (pl : Plan) (dryRun : Bool) (t : FileTree) :
    ConfinedTo (pl.Touches (pl.apply dryRun t).1) t (pl.apply dryRun t).1 := by
  have writes := Write.each_write_confined dryRun Generate.Output.path Generate.Output.contents t
    pl.outputs
  unfold Plan.apply
  split
  · rename_i made
    rw [made] at writes
    exact writes.mono fun _ => .inl
  · rename_i u _ made
    rw [made] at writes
    have removes := Write.each_remove_confined dryRun u pl.orphans
    refine (writes.mono fun l inside => ?_).trans (removes.mono fun _ => .inr)
    obtain ⟨o, member, inside⟩ := inside
    exact .inl ⟨o, member, inside.mono removes.directories⟩

theorem run_confined (planned : plan t c roots = .ok pl) :
    ConfinedTo (pl.Touches (run t c roots).1) t (run t c roots).1 := by
  rw [run, planned]
  exact apply_confined pl c.settings.dryRun t

theorem run_sameDirectories (planned : plan t c roots = .ok pl)
    (inside : ∀ o ∈ pl.outputs, ∃ D, t.LeadsTo ((Path.parent? o.path).getD "") D) :
    SameDirectories t (run t c roots).1 := by
  have writes := Write.each_write_sameDirectories c.settings.dryRun Generate.Output.path
    Generate.Output.contents inside
  rw [run, planned]
  dsimp only
  unfold Plan.apply
  split
  · rename_i made
    rw [made] at writes
    exact writes
  · rename_i u _ made
    rw [made] at writes
    have removes := Write.each_remove_sameDirectories c.settings.dryRun (t := u) pl.orphans
    exact fun l => (writes l).trans (removes l)

end Project

end TagSchema
