import TagSchema.Proofs.Project.Confined

/-!
# What successful attempts leave

An attempt that succeeds has found its file as it should be, or has put it in its place and left
nothing where it was staged (`Put.of_write`). `each_write_leaves` says which files differ after a
list of attempts.
-/

namespace TagSchema.Write

open TagSchema.FileTree (Location SameDirectories)

/-- Whether a file was put in its place. -/
def Change.isWritten (c : Change) : Bool :=
  match c.outcome with
  | .created _ | .updated _ => true
  | _ => false

/-- A path that ends in a name under which nothing is staged. -/
def IsOrdinary (path : String) : Prop :=
  ∃ n, Path.EndsIn path n ∧ ∀ D, ¬ IsScratch (D ++ [n])

theorem IsOrdinary.stands {t : FileTree} {path : String} {loc : Location}
    (ordinary : IsOrdinary path) (place : t.locate path = .ok loc) :
    t.StandsAt path loc ∧ ¬ IsScratch loc := by
  obtain ⟨n, ends, noScratch⟩ := ordinary
  refine ⟨FileTree.standsAt_of_locate ends place, ?_⟩
  obtain ⟨_, D, _, _, rfl⟩ := FileTree.leadsTo_parent ends place
  exact noScratch D

/-- Files that differ hold one of the contents, or are gone from where they were staged. -/
def Leaves (contents : List String) (t u : FileTree) : Prop :=
  ∀ l, u.file? l = t.file? l ∨ (IsScratch l ∧ u.file? l = none) ∨
    ¬ IsScratch l ∧ ∃ content ∈ contents, u.file? l = some content.toUTF8.toList

theorem Leaves.trans {xs ys : List String} {t u v : FileTree} (first : Leaves xs t u)
    (second : Leaves ys u v) : Leaves (xs ++ ys) t v := by
  intro l
  rcases second l with same | ⟨scratch, gone⟩ | ⟨ordinary, content, member, held⟩
  · rw [same]
    refine (first l).imp_right (Or.imp_right ?_)
    rintro ⟨ordinary, content, member, held⟩
    exact ⟨ordinary, content, List.mem_append_left _ member, held⟩
  · exact .inr (.inl ⟨scratch, gone⟩)
  · exact .inr (.inr ⟨ordinary, content, List.mem_append_right _ member, held⟩)

/-! ### Single attempts -/

section

variable {dryRun : Bool} {t u : FileTree} {path content n : String} {c : Change}

/-- What a successful attempt has done: nothing, because it is dry or the file was as it should be,
or the file was put in its place. -/
inductive Made (dryRun : Bool) (t : FileTree) (path content : String) :
    FileTree → Change → Prop where
  | kept {c : Change} (names : c.path = path) (unwritten : c.isWritten = false)
      (settled : dryRun = true ∨ t.read path = .ok content.toUTF8.toList) :
      Made dryRun t path content t c
  | put {u : FileTree} {c : Change} (names : c.path = path) (written : c.isWritten = true)
      (done : putFile t path content.toUTF8.toList = (u, .ok ())) : Made dryRun t path content u c

theorem Made.of_change {outcome : Nat → Outcome}
    (written : ∀ bytes, Change.isWritten ⟨path, outcome bytes⟩ = true)
    (h : change dryRun t path content outcome = (u, .ok c)) : Made dryRun t path content u c := by
  unfold change at h
  split at h
  · rename_i dry
    obtain ⟨rfl, made⟩ := Prod.mk.inj h
    rw [← Except.ok.inj made]
    exact .kept rfl rfl (.inl dry)
  · dsimp only at h
    cases put : putFile t path content.toUTF8.toList with
    | mk v r =>
      rw [put] at h
      cases r with
      | error e => cases (Prod.mk.inj h).2
      | ok _ =>
        obtain ⟨rfl, made⟩ := Prod.mk.inj h
        rw [← Except.ok.inj made]
        exact .put rfl (written _) put

theorem Made.of_write (h : write dryRun t path content = (u, .ok c)) :
    Made dryRun t path content u c := by
  unfold write at h
  split at h
  · rename_i old read
    split at h
    · rename_i same
      obtain ⟨rfl, made⟩ := Prod.mk.inj h
      rw [← Except.ok.inj made]
      exact .kept rfl rfl (.inr (same ▸ read))
    · exact .of_change (fun _ => rfl) h
  · exact .of_change (fun _ => rfl) h
  · cases (Prod.mk.inj h).2

theorem locate_of_move {source target : String} (h : t.move source target = .ok u) :
    ∃ loc, t.locate target = .ok loc := by
  obtain ⟨_, _, h⟩ := bind_ok h
  obtain ⟨_, written, _⟩ := bind_ok h
  obtain ⟨loc, place, _⟩ := bind_ok written
  exact ⟨loc, place⟩

theorem locate_of_replace {bytes : List UInt8} (h : replace t path bytes = (u, .ok ())) :
    ∃ loc, t.locate path = .ok loc := by
  unfold replace at h
  dsimp only at h
  split at h
  · cases (Prod.mk.inj h).2
  · rename_i v staged
    split at h
    · rename_i moved
      obtain ⟨loc, place⟩ := locate_of_move moved
      exact ⟨loc, FileTree.locate_congr (FileTree.write_confined staged).1.symm place⟩
    · cases (Prod.mk.inj h).2

/-- A file was put at a place that its path leads to, and is staged no more. -/
structure Put (t u : FileTree) (path : String) (bytes : List UInt8) (loc : Location) : Prop where
  stands : u.StandsAt path loc
  ordinary : ¬ IsScratch loc
  held : u.file? loc = some bytes
  staged : u.find? (scratchOf loc) = none
  frame : ∀ l, l ≠ loc → l ≠ scratchOf loc → u.file? l = t.file? l

theorem Put.of_putFile {bytes : List UInt8} (ordinary : IsOrdinary path)
    (h : putFile t path bytes = (u, .ok ())) : ∃ loc, Put t u path bytes loc := by
  have created := FileTree.createDirectories_confined t ((Path.parent? path).getD "")
  unfold putFile at h
  dsimp only at h
  split at h
  · cases (Prod.mk.inj h).2
  · rename_i v _ made
    rw [made] at created
    obtain ⟨loc, place⟩ := locate_of_replace h
    have ⟨stands, noScratch⟩ := ordinary.stands place
    have ⟨same, found⟩ := find?_replace stands h
    refine ⟨loc, stands.congr same, noScratch, ?_, ?_, fun l other noStaging => ?_⟩
    · rw [FileTree.file?, found, if_neg (scratchOf_ne stands).symm, if_pos rfl]
    · rw [found, if_pos rfl]
    · rw [← created.frame l not_false, FileTree.file?, FileTree.file?, found, if_neg noStaging,
        if_neg other]

theorem Put.leaves {loc : Location} (put : Put t u path content.toUTF8.toList loc) :
    Leaves [content] t u := by
  intro l
  by_cases here : l = loc
  · rw [here]
    exact .inr (.inr ⟨put.ordinary, content, List.mem_singleton.mpr rfl, put.held⟩)
  · by_cases staging : l = scratchOf loc
    · rw [staging]
      refine .inr (.inl ⟨isScratch_scratchOf put.stands, ?_⟩)
      rw [FileTree.file?, put.staged]
    · exact .inl (put.frame l here staging)

theorem write_leaves (ordinary : IsOrdinary path) (h : write dryRun t path content = (u, .ok c)) :
    Leaves [content] t u := by
  cases Made.of_write h with
  | kept _ _ _ => exact fun _ => .inl rfl
  | put _ _ done =>
    obtain ⟨loc, put⟩ := Put.of_putFile ordinary done
    exact put.leaves

/-- A successful attempt that is not dry leaves the content where the path leads. -/
theorem write_held (ordinary : IsOrdinary path) (h : write false t path content = (u, .ok c)) :
    ∃ loc, u.locate path = .ok loc ∧ u.file? loc = some content.toUTF8.toList := by
  cases Made.of_write h with
  | kept _ _ settled =>
    exact FileTree.exists_file_of_read (settled.resolve_left Bool.false_ne_true)
  | put _ _ done =>
    obtain ⟨loc, put⟩ := Put.of_putFile ordinary done
    exact ⟨loc, put.stands.locate, put.held⟩

end

/-! ### One attempt after another -/

section

variable {α : Type} {path content : α → String} {dryRun : Bool} {t u : FileTree} {xs : List α}
  {changes : List Change}

theorem each_write_leaves (ordinary : ∀ x ∈ xs, IsOrdinary (path x))
    (h : each (fun t x => write dryRun t (path x) (content x)) t xs = (u, .ok changes)) :
    Leaves (xs.map content) t u := by
  induction xs generalizing t changes with
  | nil =>
    obtain rfl := (Prod.mk.inj h).1
    exact fun _ => .inl rfl
  | cons x xs ih =>
    obtain ⟨v, c, rest, _, first, later⟩ := each_cons_ok h
    rw [List.forall_mem_cons] at ordinary
    exact (write_leaves ordinary.1 first).trans (ih ordinary.2 later)

theorem keepsDirectories_of_each
    (h : each (fun t x => write dryRun t (path x) (content x)) t xs = (u, .ok changes)) :
    FileTree.KeepsDirectories t u := by
  have confined := each_write_confined dryRun path content t xs
  rw [h] at confined
  exact confined.directories

/-- After successful attempts every path leads to a file with one of the contents. -/
theorem each_write_held (ordinary : ∀ x ∈ xs, IsOrdinary (path x))
    (h : each (fun t x => write false t (path x) (content x)) t xs = (u, .ok changes)) :
    ∀ x ∈ xs, ∃ loc, u.locate (path x) = .ok loc ∧
      ∃ y ∈ xs, u.file? loc = some (content y).toUTF8.toList := by
  induction xs generalizing t changes with
  | nil => simp
  | cons x xs ih =>
    obtain ⟨v, c, rest, _, first, later⟩ := each_cons_ok h
    rw [List.forall_mem_cons] at ordinary ⊢
    constructor
    · obtain ⟨loc, place, held⟩ := write_held ordinary.1 first
      refine ⟨loc, FileTree.locate_mono (keepsDirectories_of_each later) place, ?_⟩
      -- A later attempt may have put its content in the same place.
      rcases each_write_leaves ordinary.2 later loc with same | ⟨scratch, _⟩ | ⟨_, other⟩
      · exact ⟨x, List.mem_cons_self, same.trans held⟩
      · exact ((ordinary.1.stands place).2 scratch).elim
      · obtain ⟨text, listed, held⟩ := other
        obtain ⟨y, member, rfl⟩ := List.mem_map.mp listed
        exact ⟨y, List.mem_cons_of_mem _ member, held⟩
    · intro y member
      obtain ⟨loc, place, z, member', held⟩ := ih ordinary.2 later y member
      exact ⟨loc, place, z, List.mem_cons_of_mem _ member', held⟩

/-- After successful attempts no written file is still staged. -/
theorem each_write_staged (ordinary : ∀ x ∈ xs, IsOrdinary (path x))
    (h : each (fun t x => write dryRun t (path x) (content x)) t xs = (u, .ok changes)) :
    ∀ c ∈ changes, c.isWritten = true → ∃ loc, u.StandsAt c.path loc ∧
      t.find? (scratchOf loc) ≠ some .directory ∧ u.file? (scratchOf loc) = none := by
  induction xs generalizing t changes with
  | nil =>
    obtain rfl := Except.ok.inj (Prod.mk.inj h).2
    simp
  | cons x xs ih =>
    obtain ⟨v, c, rest, rfl, first, later⟩ := each_cons_ok h
    rw [List.forall_mem_cons] at ordinary ⊢
    have confined := write_confined dryRun t (path x) (content x)
    rw [first] at confined
    refine ⟨fun written => ?_, fun d member written => ?_⟩
    · cases Made.of_write first with
      | kept _ unwritten _ =>
        rw [unwritten] at written
        cases written
      | put names _ done =>
        obtain ⟨loc, put⟩ := Put.of_putFile ordinary.1 done
        have place := FileTree.locate_mono (keepsDirectories_of_each later) put.stands.locate
        have stands := (ordinary.1.stands place).1
        refine ⟨loc, names ▸ stands, fun dir => ?_, ?_⟩
        · have dir := confined.directories _ dir
          rw [put.staged] at dir
          cases dir
        · rcases each_write_leaves ordinary.2 later (scratchOf loc) with
            same | ⟨_, gone⟩ | ⟨other, _⟩
          · rw [same, FileTree.file?, put.staged]
          · exact gone
          · exact (other (isScratch_scratchOf stands)).elim
    · obtain ⟨loc, stands, free, gone⟩ := ih ordinary.2 later d member written
      exact ⟨loc, stands, fun dir => free (confined.directories _ dir), gone⟩

/-- Files differ only where a written path leads or is staged. -/
theorem each_write_changed
    (h : each (fun t x => write dryRun t (path x) (content x)) t xs = (u, .ok changes))
    {l : Location} (differs : u.file? l ≠ t.file? l) :
    ∃ c ∈ changes, c.isWritten = true ∧ (∃ x ∈ xs, c.path = path x) ∧ Touches u c.path l := by
  induction xs generalizing t changes with
  | nil =>
    obtain rfl := (Prod.mk.inj h).1
    exact (differs rfl).elim
  | cons x xs ih =>
    obtain ⟨v, c, rest, rfl, first, later⟩ := each_cons_ok h
    by_cases after : u.file? l = v.file? l
    · have confined := write_confined dryRun t (path x) (content x)
      rw [first] at confined
      have touched : Touches v (path x) l := by
        by_contra outside
        exact differs (after.trans (confined.frame l outside))
      refine ⟨c, List.mem_cons_self, ?_⟩
      cases Made.of_write first with
      | kept _ _ _ => exact (differs after).elim
      | put names written _ =>
        exact ⟨written, ⟨x, List.mem_cons_self, names⟩,
          names ▸ touched.mono (keepsDirectories_of_each later)⟩
    · obtain ⟨c, member, written, ⟨y, listed, names⟩, touched⟩ := ih later after
      exact ⟨c, List.mem_cons_of_mem _ member, written,
        ⟨y, List.mem_cons_of_mem _ listed, names⟩, touched⟩

theorem each_remove_unwritten {paths : List String}
    (h : each (remove dryRun) t paths = (u, .ok changes)) : ∀ c ∈ changes, c.isWritten = false := by
  induction paths generalizing t changes with
  | nil =>
    obtain rfl := Except.ok.inj (Prod.mk.inj h).2
    simp
  | cons path paths ih =>
    obtain ⟨v, c, rest, rfl, first, later⟩ := each_cons_ok h
    refine List.forall_mem_cons.mpr ⟨?_, ih later⟩
    unfold remove at first
    split at first
    · rw [← Except.ok.inj (Prod.mk.inj first).2]
      rfl
    · split at first
      · rw [← Except.ok.inj (Prod.mk.inj first).2]
        rfl
      · cases (Prod.mk.inj first).2

theorem each_remove_gone (dryRun : Bool) (paths : List String) (t : FileTree) (l : Location) :
    (each (remove dryRun) t paths).1.file? l = t.file? l ∨
      (each (remove dryRun) t paths).1.file? l = none := by
  refine each_related (R := fun t u => u.file? l = t.file? l ∨ u.file? l = none) (fun _ => .inl rfl)
    (fun _ _ _ first second => ?_) (I := fun _ _ => True) (fun _ _ _ _ _ => trivial)
    (fun t x _ => ?_) t fun _ _ => trivial
  · rcases second with same | gone
    · rwa [same]
    · exact .inr gone
  · unfold remove
    split
    · exact .inl rfl
    · split
      · rename_i u removed
        obtain ⟨loc, _, removed⟩ := bind_ok removed
        rw [FileTree.file?, FileTree.file?, FileTree.find?_removeFile removed]
        by_cases here : l = loc
        · rw [if_pos here]
          exact .inr rfl
        · rw [if_neg here]
          exact .inl rfl
      · exact .inl rfl

end

end TagSchema.Write
