import TagSchema.Project.Write
import TagSchema.Proofs.FileTree.Access

/-!
# What writing leaves behind

`each_write_ok` and `each_remove_ok`: after successful attempts the targets are as they should be,
and nothing else has changed but files left over from staging.
-/

namespace TagSchema

open TagSchema.FileTree (Location SameDirectories)

namespace FileTree

/-- A path that leads to an entry of a directory that is there, and whose parent leads to that
directory. -/
def StandsAt (t : FileTree) (path : String) (loc : Location) : Prop :=
  ∃ D n, loc = D ++ [n] ∧ IsName n ∧ t.locate path = .ok (D ++ [n]) ∧
    t.LeadsTo ((Path.parent? path).getD "") D ∧ Path.fileName? path = some n

theorem standsAt_join {t : FileTree} {p n : String} {D : Location} (leads : t.LeadsTo p D)
    (name : IsName n) : t.StandsAt (Path.join p n) (D ++ [n]) := by
  obtain ⟨q, inert, parent, relative, whole, all⟩ := Path.exists_parent_join leads.relative name
  refine ⟨D, n, rfl, name, locate_join leads name, ?_, Path.fileName?_join _ name⟩
  rw [parent]
  exact leads.parent relative whole all

theorem standsAt_withFileName {t : FileTree} {p n m : String} {D : Location}
    (leads : t.LeadsTo p D) (name : IsName n) (other : IsName m) :
    t.StandsAt (Path.withFileName (Path.join p n) m) (D ++ [m]) := by
  obtain ⟨q, inert, parent, relative, whole, all⟩ := Path.exists_parent_join leads.relative name
  rw [Path.withFileName, Path.fileName?_join _ name, parent]
  exact standsAt_join (leads.parent relative whole all) other

theorem standsAt_of_locate {t : FileTree} {path n : String} {loc : Location}
    (ends : Path.EndsIn path n) (h : t.locate path = .ok loc) : t.StandsAt path loc := by
  obtain ⟨q, D, parent, leads, rfl⟩ := leadsTo_parent ends h
  refine ⟨D, n, rfl, ends.name, h, ?_, ends.fileName?⟩
  rwa [parent]

theorem StandsAt.congr {t u : FileTree} {path : String} {loc : Location}
    (same : SameDirectories t u) (h : t.StandsAt path loc) : u.StandsAt path loc := by
  obtain ⟨D, n, place, name, reached, parent, fileName⟩ := h
  exact ⟨D, n, place, name, locate_congr same reached, parent.congr same, fileName⟩

theorem StandsAt.locate {t : FileTree} {path : String} {loc : Location}
    (h : t.StandsAt path loc) : t.locate path = .ok loc := by
  obtain ⟨D, n, rfl, _, reached, _⟩ := h
  exact reached

theorem StandsAt.names {t : FileTree} {path : String} {loc : Location} (names : t.Named)
    (h : t.StandsAt path loc) : ∀ n ∈ loc, IsName n := by
  obtain ⟨D, n, rfl, name, _, parent, _⟩ := h
  exact names.concat parent.dir name

theorem sameDirectories_writeFile {t u : FileTree} {loc : Location} {bytes : List UInt8}
    (h : t.writeFile loc bytes = .ok u) : SameDirectories t u := by
  have free : t.find? loc ≠ some .directory := by
    intro dir
    rw [writeFile, dif_pos dir] at h
    cases h
  intro l
  rw [find?_writeFile h]
  split
  · rename_i same
    subst same
    exact iff_of_false free (fun found => by cases found)
  · exact Iff.rfl

theorem sameDirectories_removeFile {t u : FileTree} {loc : Location}
    (h : t.removeFile loc = .ok u) : SameDirectories t u := by
  have file : t.find? loc ≠ some .directory := by
    intro dir
    unfold removeFile at h
    split at h
    · cases h
    · rename_i found
      rw [node_of_file? found] at dir
      cases dir
  intro l
  rw [find?_removeFile h]
  split
  · rename_i same
    subst same
    exact iff_of_false file (fun found => by cases found)
  · exact Iff.rfl

theorem write_ok {t u : FileTree} {path : String} {loc : Location} {bytes : List UInt8}
    (place : t.locate path = .ok loc) (h : t.write path bytes = .ok u) :
    t.writeFile loc bytes = .ok u := by
  obtain ⟨l, found, h⟩ := bind_ok h
  rwa [Except.ok.inj (place.symm.trans found)]

theorem remove_ok {t u : FileTree} {path : String} {loc : Location}
    (place : t.locate path = .ok loc) (h : t.remove path = .ok u) : t.removeFile loc = .ok u := by
  obtain ⟨l, found, h⟩ := bind_ok h
  rwa [Except.ok.inj (place.symm.trans found)]

end FileTree

namespace Write

open TagSchema.FileTree

/-- A place where a file is staged before it is moved. -/
def IsScratch (loc : Location) : Prop := ∃ D n, IsName n ∧ loc = D ++ ["." ++ n ++ ".tmp"]

/-- The place where what belongs at a place is staged. -/
def scratchOf (loc : Location) : Location :=
  loc.dropLast ++ ["." ++ loc.getLast?.getD "" ++ ".tmp"]

theorem scratchOf_concat (D : Location) (n : String) :
    scratchOf (D ++ [n]) = D ++ ["." ++ n ++ ".tmp"] := by
  rw [scratchOf, List.dropLast_concat, List.getLast?_concat]
  rfl

/-- The trees differ at the places of staging and at those of a list only, and in no directory. -/
structure ChangesOnly (places : List Location) (t u : FileTree) : Prop where
  directories : SameDirectories t u
  frame : ∀ l, ¬ IsScratch l → l ∉ places → u.find? l = t.find? l

theorem ChangesOnly.refl (places : List Location) (t : FileTree) : ChangesOnly places t t :=
  ⟨fun _ => Iff.rfl, fun _ _ _ => rfl⟩

theorem ChangesOnly.trans {ps qs : List Location} {t u v : FileTree} (first : ChangesOnly ps t u)
    (second : ChangesOnly qs u v) : ChangesOnly (ps ++ qs) t v := by
  refine ⟨fun l => (first.directories l).trans (second.directories l), fun l scratch member => ?_⟩
  rw [List.mem_append, not_or] at member
  rw [second.frame l scratch member.2, first.frame l scratch member.1]

/-! ### Staging -/

section

variable {t : FileTree} {path : String} {loc : Location}

theorem isScratch_scratchOf (stands : t.StandsAt path loc) : IsScratch (scratchOf loc) := by
  obtain ⟨D, n, rfl, name, _⟩ := stands
  exact ⟨D, n, name, scratchOf_concat D n⟩

theorem scratchOf_ne (stands : t.StandsAt path loc) : scratchOf loc ≠ loc := by
  obtain ⟨D, n, rfl, _⟩ := stands
  rw [scratchOf_concat]
  intro same
  have same := congrArg String.length (List.singleton_inj.mp (List.append_cancel_left same))
  have around : ".".length = 1 ∧ ".tmp".length = 4 := ⟨rfl, rfl⟩
  rw [String.length_append, String.length_append, around.1, around.2] at same
  omega

theorem locate_temporaryPath (stands : t.StandsAt path loc) :
    t.locate (temporaryPath path) = .ok (scratchOf loc) := by
  obtain ⟨D, n, rfl, name, _, parent, fileName⟩ := stands
  rw [temporaryPath, Path.withFileName, fileName, scratchOf_concat]
  exact locate_join parent (isName_scratch name)

/-- A file that was replaced is all that has changed, and it is staged no more. -/
theorem find?_replace {u : FileTree} {bytes : List UInt8} (stands : t.StandsAt path loc)
    (h : replace t path bytes = (u, .ok ())) : SameDirectories t u ∧ ∀ l, u.find? l =
      if l = scratchOf loc then none else if l = loc then some (.file bytes) else t.find? l := by
  have place := stands.locate
  have staging := locate_temporaryPath stands
  unfold replace at h
  dsimp only at h
  split at h
  · cases h
  · rename_i t₁ written
    have written := write_ok staging written
    have same₁ := sameDirectories_writeFile written
    split at h
    · rename_i t₃ moved
      obtain rfl := (Prod.mk.inj h).1
      obtain ⟨again, read, moved⟩ := bind_ok moved
      obtain ⟨t₂, put, removed⟩ := bind_ok moved
      rw [read_eq (locate_congr same₁ staging), find?_writeFile written, if_pos rfl] at read
      obtain rfl := Except.ok.inj read
      have put := write_ok (locate_congr same₁ place) put
      have same₂ := sameDirectories_writeFile put
      have removed := remove_ok (locate_congr same₂ (locate_congr same₁ staging)) removed
      have same₃ := sameDirectories_removeFile removed
      refine ⟨fun l => ((same₁ l).trans (same₂ l)).trans (same₃ l), fun l => ?_⟩
      rw [find?_removeFile removed, find?_writeFile put, find?_writeFile written]
      by_cases staged : l = scratchOf loc
      · rw [if_pos staged, if_pos staged]
      · simp only [if_neg staged]
    · cases h

end

/-! ### Single attempts -/

theorem replace_ok {t u : FileTree} {path : String} {loc : Location} {bytes : List UInt8}
    (stands : t.StandsAt path loc) (h : replace t path bytes = (u, .ok ())) :
    ChangesOnly [loc] t u ∧ u.find? loc = some (.file bytes) := by
  have ⟨same, found⟩ := find?_replace stands h
  have other := scratchOf_ne stands
  refine ⟨⟨same, fun l scratch member => ?_⟩, ?_⟩
  · have noStaging : l ≠ scratchOf loc := fun equal => scratch (equal ▸ isScratch_scratchOf stands)
    rw [List.mem_singleton] at member
    rw [found, if_neg noStaging, if_neg member]
  · rw [found, if_neg other.symm, if_pos rfl]

theorem putFile_ok {t u : FileTree} {path : String} {loc : Location} {bytes : List UInt8}
    (stands : t.StandsAt path loc) (h : putFile t path bytes = (u, .ok ())) :
    ChangesOnly [loc] t u ∧ u.find? loc = some (.file bytes) := by
  have ⟨D, n, _, _, _, parent, _⟩ := stands
  rw [putFile, createDirectories_self parent] at h
  exact replace_ok stands h

theorem change_ok {t u : FileTree} {path content : String} {loc : Location}
    {outcome : Nat → Outcome} {c : Change} (stands : t.StandsAt path loc)
    (h : change false t path content outcome = (u, .ok c)) :
    ChangesOnly [loc] t u ∧ u.find? loc = some (.file content.toUTF8.toList) := by
  rw [change, if_neg Bool.false_ne_true] at h
  dsimp only at h
  refine putFile_ok stands ?_
  cases put : putFile t path content.toUTF8.toList with
  | mk v r =>
    rw [put] at h
    cases r with
    | error e => cases h
    | ok _ =>
      obtain rfl : v = u := (Prod.mk.inj h).1
      rfl

/-- A successful attempt leaves the content at its place. -/
theorem write_ok {t u : FileTree} {path content : String} {loc : Location} {c : Change}
    (stands : t.StandsAt path loc) (h : write false t path content = (u, .ok c)) :
    ChangesOnly [loc] t u ∧ u.find? loc = some (.file content.toUTF8.toList) := by
  unfold write at h
  rw [read_eq stands.locate] at h
  cases found : t.find? loc with
  | none =>
    rw [found] at h
    exact change_ok stands h
  | some node =>
    rw [found] at h
    cases node with
    | directory => cases h
    | file old =>
      dsimp only at h
      split at h
      · rename_i same
        obtain rfl := (Prod.mk.inj h).1
        exact ⟨.refl _ _, by rw [found, same]⟩
      · exact change_ok stands h

/-- Where the content already is, nothing happens. -/
theorem write_unchanged {t : FileTree} {path content : String} {loc : Location} (dryRun : Bool)
    (place : t.locate path = .ok loc) (h : t.find? loc = some (.file content.toUTF8.toList)) :
    write dryRun t path content = (t, .ok ⟨path, .unchanged⟩) := by
  rw [write, read_eq place, h]
  simp

theorem remove_ok {t u : FileTree} {path : String} {loc : Location} {c : Change}
    (place : t.locate path = .ok loc) (h : remove false t path = (u, .ok c)) :
    ChangesOnly [loc] t u ∧ u.find? loc = none := by
  rw [remove, if_neg Bool.false_ne_true] at h
  split at h
  · rename_i v removed
    obtain rfl := (Prod.mk.inj h).1
    have removed := FileTree.remove_ok place removed
    refine ⟨⟨sameDirectories_removeFile removed, fun l _ member => ?_⟩, ?_⟩
    · rw [find?_removeFile removed, if_neg (by simpa using member)]
    · rw [find?_removeFile removed, if_pos rfl]
  · cases h

/-! ### One attempt after another -/

theorem each_cons_ok {α : Type} {attempt : FileTree → α → Attempt Change} {t v : FileTree} {x : α}
    {xs : List α} {changes : List Change} (h : each attempt t (x :: xs) = (v, .ok changes)) :
    ∃ u c rest, changes = c :: rest ∧ attempt t x = (u, .ok c) ∧
      each attempt u xs = (v, .ok rest) := by
  unfold each at h
  split at h
  · cases h
  · rename_i u c first
    dsimp only at h
    refine ⟨u, c, ?_⟩
    cases later : each attempt u xs with
    | mk w r =>
      rw [later] at h
      cases r with
      | error e => cases h
      | ok rest =>
        obtain rfl : w = v := (Prod.mk.inj h).1
        exact ⟨rest, (Except.ok.inj (Prod.mk.inj h).2).symm, first, rfl⟩

theorem each_remove_ok (place : String → Location) {t u : FileTree} {ps : List String}
    {changes : List Change} (places : ∀ p ∈ ps, t.locate p = .ok (place p))
    (ordinary : ∀ p ∈ ps, ¬ IsScratch (place p))
    (h : each (remove false) t ps = (u, .ok changes)) :
    ChangesOnly (ps.map place) t u ∧ ∀ p ∈ ps, u.find? (place p) = none := by
  induction ps generalizing t changes with
  | nil =>
    obtain rfl := (Prod.mk.inj h).1
    exact ⟨.refl _ _, by simp⟩
  | cons p ps ih =>
    obtain ⟨v, c, rest, _, first, later⟩ := each_cons_ok h
    rw [List.forall_mem_cons] at places ordinary
    have ⟨changed, gone⟩ := remove_ok places.1 first
    have ⟨changed', gone'⟩ := ih
      (fun q member => locate_congr changed.directories (places.2 q member)) ordinary.2 later
    refine ⟨changed.trans changed', List.forall_mem_cons.mpr ⟨?_, gone'⟩⟩
    by_cases again : place p ∈ ps.map place
    · obtain ⟨q, member, same⟩ := List.mem_map.mp again
      rw [← same]
      exact gone' q member
    · rw [changed'.frame _ ordinary.1 again, gone]

/-- Outputs that share a place have to share their content. -/
theorem each_write_ok {α : Type} (path content : α → String) (place : α → Location)
    {t u : FileTree} {xs : List α} {changes : List Change}
    (stands : ∀ x ∈ xs, t.StandsAt (path x) (place x))
    (ordinary : ∀ x ∈ xs, ¬ IsScratch (place x))
    (agree : ∀ x ∈ xs, ∀ y ∈ xs, place x = place y → content x = content y)
    (h : each (fun t x => write false t (path x) (content x)) t xs = (u, .ok changes)) :
    ChangesOnly (xs.map place) t u ∧
      ∀ x ∈ xs, u.find? (place x) = some (.file (content x).toUTF8.toList) := by
  induction xs generalizing t changes with
  | nil =>
    obtain rfl := (Prod.mk.inj h).1
    exact ⟨.refl _ _, by simp⟩
  | cons x xs ih =>
    obtain ⟨v, c, rest, _, first, later⟩ := each_cons_ok h
    rw [List.forall_mem_cons] at stands ordinary
    have ⟨changed, written⟩ := write_ok stands.1 first
    have ⟨changed', written'⟩ := ih
      (fun y member => (stands.2 y member).congr changed.directories) ordinary.2
      (fun y hy z hz => agree y (List.mem_cons_of_mem _ hy) z (List.mem_cons_of_mem _ hz)) later
    refine ⟨changed.trans changed', List.forall_mem_cons.mpr ⟨?_, written'⟩⟩
    by_cases again : place x ∈ xs.map place
    · obtain ⟨y, member, same⟩ := List.mem_map.mp again
      rw [← same, written' y member,
        agree x List.mem_cons_self y (List.mem_cons_of_mem _ member) same.symm]
    · rw [changed'.frame _ ordinary.1 again, written]

/-- Where every content already is, nothing happens. -/
theorem each_unchanged_of_written {α : Type} (path content : α → String) (place : α → Location)
    {t : FileTree} {xs : List α} (dryRun : Bool)
    (places : ∀ x ∈ xs, t.locate (path x) = .ok (place x))
    (written : ∀ x ∈ xs, t.find? (place x) = some (.file (content x).toUTF8.toList)) :
    each (fun t x => write dryRun t (path x) (content x)) t xs =
      (t, .ok (xs.map fun x => ⟨path x, .unchanged⟩)) := by
  induction xs with
  | nil => rfl
  | cons x xs ih =>
    rw [List.forall_mem_cons] at places written
    rw [each, write_unchanged dryRun places.1 written.1]
    dsimp only
    rw [ih places.2 written.2]
    rfl

end Write

end TagSchema
