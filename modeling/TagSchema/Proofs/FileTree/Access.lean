import Mathlib.Data.List.Sort
import TagSchema.FileTree.Access
import TagSchema.Proofs.Except
import TagSchema.Proofs.Path

/-!
# Where paths lead

A path leads where its components lead (`locate_eq_resolve`), and which directories there are
decides whether it leads anywhere (`locate_congr`). What a directory holds is told by its place
alone.
-/

namespace TagSchema.FileTree

open TagSchema.Path (IsRelative isInert parts)

variable {t u : FileTree} {p q n : String} {loc D E : Location}

/-! ### Following parts -/

theorem find?_of_follow {part : String} (h : t.follow loc part = .ok D) :
    t.find? loc = some .directory := by
  unfold follow at h
  split at h
  · cases h
  · cases h
  · assumption

theorem follow_inert {part : String} (dir : t.find? loc = some .directory)
    (inert : isInert part = true) : t.follow loc part = .ok loc := by
  rw [follow, dir]
  simp only [inert, if_true]

theorem follow_name (dir : t.find? loc = some .directory) (name : IsName n) :
    t.follow loc n = .ok (loc ++ [n]) := by
  rw [follow, dir]
  simp only [Path.isInert_of_name name, name.noParent, Bool.false_eq_true, if_false]

theorem relative_of_locate (h : t.locate p = .ok D) : IsRelative p := by
  unfold locate at h
  split at h
  · cases h
  · rename_i relative
    simpa [IsRelative] using relative

theorem locate_eq (relative : IsRelative p) : t.locate p = (parts p).foldlM t.follow [] := by
  simp [locate, relative.1, relative.2]

theorem foldlM_inert {inert : List String} (all : ∀ x ∈ inert, isInert x = true)
    (h : inert.foldlM t.follow D = .ok E) : E = D := by
  induction inert generalizing D with
  | nil => exact pure_ok h
  | cons x xs ih =>
    rw [List.forall_mem_cons] at all
    obtain ⟨next, step, h⟩ := bind_ok h
    rw [follow_inert (find?_of_follow step) all.1] at step
    rw [ih all.2 h, Except.ok.inj step]

theorem locate_parent {inert : List String} (relative : IsRelative q)
    (whole : parts p = parts q ++ inert) (all : ∀ x ∈ inert, isInert x = true)
    (h : t.locate p = .ok D) : t.locate q = .ok D := by
  rw [locate_eq (relative_of_locate h), whole, List.foldlM_append] at h
  rw [locate_eq relative]
  obtain ⟨E, found, h⟩ := bind_ok h
  rw [found, foldlM_inert all h]

/-- A path that leads to a directory. -/
structure LeadsTo (t : FileTree) (p : String) (D : Location) : Prop where
  place : t.locate p = .ok D
  dir : t.find? D = some .directory

theorem LeadsTo.relative (leads : t.LeadsTo p D) : IsRelative p := relative_of_locate leads.place

theorem LeadsTo.unique (leads : t.LeadsTo p D) (other : t.LeadsTo p E) : D = E :=
  Except.ok.inj (leads.place.symm.trans other.place)

theorem LeadsTo.parent {inert : List String} (relative : IsRelative q)
    (whole : parts p = parts q ++ inert) (all : ∀ x ∈ inert, isInert x = true)
    (leads : t.LeadsTo p D) : t.LeadsTo q D :=
  ⟨locate_parent relative whole all leads.place, leads.dir⟩

theorem locate_join (leads : t.LeadsTo p D) (name : IsName n) :
    t.locate (Path.join p n) = .ok (D ++ [n]) := by
  have ⟨h, dir⟩ := leads
  have relative := leads.relative
  obtain ⟨init, _, joined, whole⟩ := Path.parts_join relative.1 name
  have reached : init.foldlM t.follow [] = .ok D := by
    rw [locate_eq relative] at h
    rcases whole with whole | whole
    · rwa [whole] at h
    · rw [whole, List.foldlM_append] at h
      obtain ⟨E, found, h⟩ := bind_ok h
      rw [found, foldlM_inert (by simp [isInert]) h]
  rw [locate_eq (Path.isRelative_join relative name), joined, List.foldlM_append, reached]
  show t.follow D n >>= pure = _
  rw [follow_name dir name]
  rfl

/-- The place that a path leads to, if it leads anywhere. -/
def placeOf (t : FileTree) (path : String) : Location := (t.locate path).toOption.getD []

theorem placeOf_eq (h : t.locate p = .ok D) : t.placeOf p = D := by
  rw [placeOf, h]
  rfl

/-! ### Components -/

/-- The place one component further. -/
def resolve (loc : Location) : Path.Component → Location
  | .root | .current => loc
  | .parent => loc.dropLast
  | .name n => loc ++ [n]

theorem follow_resolve {part : String} (active : isInert part = false)
    (h : t.follow loc part = .ok D) : D = resolve loc (Path.componentOf part) := by
  unfold follow at h
  split at h
  · cases h
  · cases h
  · rw [active, if_neg Bool.false_ne_true] at h
    unfold Path.componentOf
    split at h
    · rename_i up
      rw [if_pos up]
      split at h
      · cases h
      · exact (Except.ok.inj h).symm
    · rename_i down
      rw [if_neg down]
      exact (Except.ok.inj h).symm

theorem foldlM_resolve {ps : List String} (h : ps.foldlM t.follow loc = .ok D) :
    D = (Path.laterComponents ps).foldl resolve loc := by
  induction ps generalizing loc with
  | nil => exact pure_ok h
  | cons part ps ih =>
    obtain ⟨next, step, h⟩ := bind_ok h
    rw [ih h]
    simp only [Path.laterComponents, List.filter_cons]
    cases inert : isInert part with
    | true =>
      rw [follow_inert (find?_of_follow step) inert] at step
      rw [← Except.ok.inj step]
      rfl
    | false =>
      rw [follow_resolve inert step]
      rfl

theorem locate_eq_resolve (h : t.locate p = .ok D) : D = (Path.components p).foldl resolve [] := by
  have relative := relative_of_locate h
  obtain ⟨first, rest, cut⟩ := List.exists_cons_of_ne_nil (Path.parts_ne_nil p)
  have started := (Path.isRelative_iff cut).mp relative
  rw [locate_eq relative, cut] at h
  obtain ⟨next, step, h⟩ := bind_ok h
  rw [foldlM_resolve h, Path.components, cut]
  simp only [relative.2, started, Bool.false_eq_true, if_false, List.foldl_append]
  congr 1
  by_cases current : first = "."
  · subst current
    rw [follow_inert (find?_of_follow step) rfl] at step
    exact (Except.ok.inj step).symm
  · rw [if_neg current]
    exact follow_resolve (by simp [isInert, started, current]) step

theorem locate_eq_of_components (hp : t.locate p = .ok D) (hq : u.locate q = .ok E)
    (same : Path.components p = Path.components q) : D = E := by
  rw [locate_eq_resolve hp, locate_eq_resolve hq, same]

/-! ### Trees with the same directories -/

/-- Every directory of the first tree is one of the second. -/
def KeepsDirectories (t u : FileTree) : Prop :=
  ∀ l, t.find? l = some .directory → u.find? l = some .directory

/-- Every directory of one tree is one of the other. -/
def SameDirectories (t u : FileTree) : Prop :=
  ∀ l, t.find? l = some .directory ↔ u.find? l = some .directory

theorem SameDirectories.keeps (same : SameDirectories t u) : KeepsDirectories t u :=
  fun l => (same l).mp

theorem SameDirectories.symm (same : SameDirectories t u) : SameDirectories u t :=
  fun l => (same l).symm

theorem follow_mono {part : String} (keeps : KeepsDirectories t u)
    (h : t.follow loc part = .ok D) : u.follow loc part = .ok D := by
  have dir := find?_of_follow h
  rw [follow, dir] at h
  rw [follow, keeps loc dir]
  exact h

/-- A path leads where it did as long as the directories are there. -/
theorem locate_mono (keeps : KeepsDirectories t u) (h : t.locate p = .ok D) :
    u.locate p = .ok D := by
  have relative := relative_of_locate h
  rw [locate_eq relative] at h ⊢
  generalize parts p = ps at h
  generalize ([] : Location) = loc at h ⊢
  induction ps generalizing loc with
  | nil => exact h
  | cons part ps ih =>
    obtain ⟨next, step, h⟩ := bind_ok h
    rw [List.foldlM_cons, follow_mono keeps step]
    exact ih next h

theorem locate_congr (same : SameDirectories t u) (h : t.locate p = .ok D) :
    u.locate p = .ok D := locate_mono same.keeps h

theorem LeadsTo.mono (keeps : KeepsDirectories t u) (leads : t.LeadsTo p D) : u.LeadsTo p D :=
  ⟨locate_mono keeps leads.place, keeps D leads.dir⟩

theorem LeadsTo.congr (same : SameDirectories t u) (leads : t.LeadsTo p D) : u.LeadsTo p D :=
  leads.mono same.keeps

/-! ### Entries of directories -/

theorem node_of_file? {bytes : List UInt8} (h : t.file? loc = some bytes) :
    t.find? loc = some (.file bytes) := by
  unfold file? at h
  split at h
  · rename_i found
    rw [found, Option.some.inj h]
  · cases h

theorem directory_of_held (h : (t.find? (loc ++ [n])).isSome = true) :
    t.find? loc = some .directory := by
  obtain ⟨node, found⟩ := Option.isSome_iff_exists.mp h
  have listed := (t.mem_of_find? found).resolve_left (by simp)
  have held := (t.held _ listed).2
  rw [List.dropLast_concat] at held
  rcases held with rfl | held
  · rfl
  · have some : loc ≠ [] := (t.held _ held).1
    rw [find?, if_neg some, lookup_eq_some_iff t.distinct]
    exact held

/-- Every entry stands under names that entries can have. -/
def Named (t : FileTree) : Prop := ∀ node ∈ t.nodes, ∀ n ∈ node.1, IsName n

instance (t : FileTree) : Decidable t.Named :=
  inferInstanceAs (Decidable (∀ node ∈ t.nodes, ∀ n ∈ node.1, IsName n))

theorem named_iff : t.Named ↔ ∀ l, (t.find? l).isSome = true → ∀ n ∈ l, IsName n := by
  constructor
  · intro names l found n member
    obtain ⟨node, found⟩ := Option.isSome_iff_exists.mp found
    rcases t.mem_of_find? found with rfl | listed
    · cases member
    · exact names _ listed n member
  · intro names node listed n member
    refine names node.1 ?_ n member
    rw [find?, if_neg (t.held _ listed).1, (lookup_eq_some_iff t.distinct).mpr listed]
    rfl

theorem Named.of_file? (names : t.Named) (h : (t.file? loc).isSome = true) :
    ∀ n ∈ loc, IsName n := by
  obtain ⟨bytes, file⟩ := Option.isSome_iff_exists.mp h
  exact named_iff.mp names loc (by rw [node_of_file? file]; rfl)

theorem Named.concat (names : t.Named) (dir : t.find? D = some .directory) (name : IsName n) :
    ∀ m ∈ D ++ [n], IsName m := by
  intro m member
  rcases List.mem_append.mp member with member | member
  · exact named_iff.mp names D (by rw [dir]; rfl) m member
  · rwa [List.mem_singleton.mp member]

/-- The names of the regular files in the directory at a place, in order. -/
def namesIn (t : FileTree) (loc : Location) : List String :=
  ((t.children loc).filter fun name => (t.file? (loc ++ [name])).isSome).mergeSort (· ≤ ·)

theorem fileNames_ok (leads : t.LeadsTo p D) : t.fileNames p = .ok (t.namesIn D) := by
  unfold fileNames
  rw [leads.place]
  simp only [bind, Except.bind, leads.dir]
  rfl

theorem mem_namesIn : n ∈ t.namesIn D ↔ (t.file? (D ++ [n])).isSome = true := by
  rw [namesIn, List.mem_mergeSort, List.mem_filter]
  refine ⟨fun h => h.2, fun h => ⟨?_, h⟩⟩
  obtain ⟨bytes, file⟩ := Option.isSome_iff_exists.mp h
  have listed : (D ++ [n], Node.file bytes) ∈ t.nodes :=
    (t.mem_of_find? (node_of_file? file)).resolve_left (by simp)
  exact List.mem_filterMap.mpr ⟨_, listed, by simp⟩

theorem not_mem_namesIn (absent : t.file? (D ++ [n]) = none) : n ∉ t.namesIn D := by
  rw [mem_namesIn, absent]
  exact Bool.false_ne_true

theorem file?_writeFile {bytes : List UInt8} (added : t.writeFile (D ++ [n]) bytes = .ok u)
    (m : String) : u.file? (D ++ [m]) = if m = n then some bytes else t.file? (D ++ [m]) := by
  rw [file?, find?_writeFile added]
  by_cases same : m = n
  · rw [if_pos same, if_pos (by rw [same])]
  · rw [if_neg same, if_neg (by simpa using same)]
    rfl

theorem nodup_children (t : FileTree) (D : Location) : (t.children D).Nodup := by
  have places : t.children D = (t.nodes.map (·.1)).filterMap fun l =>
      if l.dropLast = D then l.getLast? else none := by
    rw [children, List.filterMap_map]
    rfl
  rw [places]
  refine t.distinct.filterMap ?_
  intro a b name ha hb
  have whole {l : Location} (h : name ∈ if l.dropLast = D then l.getLast? else none) :
      l = D ++ [name] := by
    split at h
    · rename_i dir
      rw [← dir, List.dropLast_append_getLast? name h]
    · cases h
  rw [whole ha, whole hb]

theorem pairwise_namesIn (t : FileTree) (D : Location) : (t.namesIn D).Pairwise (· ≤ ·) := by
  have sorted : (t.namesIn D).Pairwise fun a b => decide (a ≤ b) = true :=
    List.pairwise_mergeSort (fun a b c => by simpa using String.le_trans)
      (fun a b => by simpa using String.le_total a b) _
  simpa using sorted

theorem nodup_namesIn (t : FileTree) (D : Location) : (t.namesIn D).Nodup :=
  (List.mergeSort_perm _ _).nodup_iff.mpr ((nodup_children t D).filter _)

/-- Directories with the same files of some kind list them alike. -/
theorem filter_namesIn {keep : String → Bool}
    (same : ∀ n, keep n = true → (t.file? (D ++ [n])).isSome = (u.file? (E ++ [n])).isSome) :
    (t.namesIn D).filter keep = (u.namesIn E).filter keep := by
  have perm : ((t.namesIn D).filter keep).Perm ((u.namesIn E).filter keep) := by
    rw [List.perm_ext_iff_of_nodup ((nodup_namesIn t D).filter _)
      ((nodup_namesIn u E).filter _)]
    intro n
    rw [List.mem_filter, List.mem_filter, mem_namesIn, mem_namesIn]
    exact and_congr_left fun kept => by rw [same n kept]
  exact perm.eq_of_pairwise (fun a b _ _ => String.le_antisymm)
    ((pairwise_namesIn t D).filter _) ((pairwise_namesIn u E).filter _)

theorem directory_dropLast (dir : t.find? D = some .directory) :
    t.find? D.dropLast = some .directory := by
  rcases D.eq_nil_or_concat with rfl | ⟨E, n, rfl⟩
  · exact dir
  · rw [List.concat_eq_append, List.dropLast_concat] at *
    exact directory_of_held (by rw [dir]; rfl)

/-- A path that ends in a name leads to an entry of the directory of its parent. -/
theorem leadsTo_parent (ends : Path.EndsIn p n) (h : t.locate p = .ok loc) :
    ∃ q E, Path.parent? p = some q ∧ t.LeadsTo q E ∧ loc = E ++ [n] := by
  obtain ⟨q, inert, parent, relative, whole, all⟩ := ends.exists_parent
  rw [locate_eq ends.relative, whole, List.foldlM_append] at h
  obtain ⟨E, reached, h⟩ := bind_ok h
  rw [List.foldlM_append] at h
  obtain ⟨F, stayed, last⟩ := bind_ok h
  rw [foldlM_inert all stayed] at last
  obtain ⟨next, step, last⟩ := bind_ok last
  have dir := find?_of_follow step
  rw [follow_name dir ends.name] at step
  exact ⟨q, E, parent, ⟨by rwa [locate_eq relative], dir⟩,
    (pure_ok last).trans (Except.ok.inj step).symm⟩

/-- A path that leads to a file ends in its name. -/
theorem name_of_file {part : String} {bytes : List UInt8} (noSlash : '/' ∉ part.toList)
    (step : t.follow D part = .ok loc) (file : t.find? loc = some (.file bytes)) :
    IsName part := by
  have dir := find?_of_follow step
  have active : isInert part = false := by
    by_contra inert
    rw [follow_inert dir (by simpa using inert)] at step
    rw [← Except.ok.inj step, dir] at file
    cases file
  have down : part ≠ ".." := by
    rintro rfl
    rw [follow_resolve active step] at file
    have up : resolve D (Path.componentOf "..") = D.dropLast := rfl
    rw [up, directory_dropLast dir] at file
    cases file
  simp only [isInert, Bool.or_eq_false_iff, decide_eq_false_iff_not] at active
  exact ⟨active.1, active.2, down, noSlash⟩

/-! ### Contents -/

theorem read_eq (h : t.locate p = .ok loc) : t.read p = match t.find? loc with
    | some (.file bytes) => .ok bytes
    | some .directory => .error .isDirectory
    | none => .error .notFound := by
  unfold read node
  rw [h]
  simp only [bind, Except.bind]
  cases t.find? loc with
  | none => rfl
  | some n => cases n <;> rfl

theorem holds_eq (h : t.locate p = .ok loc) : t.holds p = (t.find? loc).isSome := by
  rw [holds, node, bind_of_ok h]
  cases t.find? loc <;> rfl

theorem exists_file_of_read {bytes : List UInt8} (h : t.read p = .ok bytes) :
    ∃ loc, t.locate p = .ok loc ∧ t.file? loc = some bytes := by
  obtain ⟨_, found, _⟩ := bind_ok h
  obtain ⟨loc, place, _⟩ := bind_ok found
  refine ⟨loc, place, ?_⟩
  rw [read_eq place] at h
  rw [file?]
  split at h
  · rename_i held
    rw [held, Except.ok.inj h]
  · cases h
  · cases h

theorem readText?_eq (h : t.locate p = .ok loc) :
    t.readText? p = (t.file? loc).bind Text.ofUtf8? := by
  rw [readText?, read_eq h, file?]
  split <;> simp_all [Except.toOption]

/-! ### Creating directories -/

theorem createParts_self {ps : List String} (h : ps.foldlM t.follow loc = .ok D)
    (dir : t.find? D = some .directory) : t.createParts loc ps = (t, .ok D) := by
  induction ps generalizing loc with
  | nil => rw [createParts, pure_ok h]
  | cons part ps ih =>
    obtain ⟨next, step, h⟩ := bind_ok h
    have next_dir : t.find? next = some .directory := by
      cases ps with
      | nil => rwa [← pure_ok h]
      | cons part ps =>
        obtain ⟨_, step, _⟩ := bind_ok h
        exact find?_of_follow step
    rw [createParts, step]
    simp only [makeDirectory, next_dir, dite_true]
    exact ih h

/-- The directories of a path that leads to one are there. -/
theorem createDirectories_self (leads : t.LeadsTo p D) :
    t.createDirectories p = (t, .ok ()) := by
  have ⟨h, dir⟩ := leads
  have relative := leads.relative
  rw [locate_eq relative] at h
  rw [createDirectories, if_neg relative.1, if_neg (by rw [relative.2]; decide),
    createParts_self h dir]
  rfl

end TagSchema.FileTree
