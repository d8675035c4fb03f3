import TagSchema.Proofs.Scan.Packages

/-!
# How packages are spelled

A root spells a package by the names that lead to it from the root, or from the directory of a root
that is a file. `spells_of_mem_packages` and `exists_mem_packages_of_spells` say which spellings
there are, and `nodup_packages_iff` when no two packages share a directory.
-/

namespace TagSchema.Scan

open TagSchema.FileTree (Location)

variable {t : FileTree} {o : Options} {root : String} {roots ps : List String} {D : Location}
  {cs : List Path.Component}

/-! ### Roots -/

/-- The path that the packages of a root are spelled from. -/
def baseOf (t : FileTree) (root : String) : String :=
  match t.node root with
  | .ok (.file _) => directoryOf root
  | _ => root

/-- Looking at a root comes to the package at a place. -/
inductive Sees (t : FileTree) (o : Options) (root : String) : Location → Prop where
  | around {bytes : List UInt8} {D : Location} (file : t.node root = .ok (.file bytes))
      (source : (Path.fileName? root).any isSourceName = true)
      (leads : t.LeadsTo (directoryOf root) D) : Sees t o root D
  | below {R rel : Location} {n : String} {filter : Option Filter} (leads : t.LeadsTo root R)
      (filtered : readFilter o.filter = .ok filter)
      (source : rel ++ [n] ∈ sources t o filter R) : Sees t o root (R ++ rel)

/-- A root comes to the package at a place and gives it certain components. -/
def Spells (t : FileTree) (o : Options) (root : String) (D : Location)
    (cs : List Path.Component) : Prop :=
  Sees t o root D ∧ ∃ B rel, t.LeadsTo (baseOf t root) B ∧ D = B ++ rel ∧
    cs = Path.components (baseOf t root) ++ rel.map .name

theorem node_of_leadsTo {R : Location} (leads : t.LeadsTo root R) :
    t.node root = .ok .directory := by
  rw [FileTree.node, bind_of_ok leads.place, leads.dir]
  rfl

theorem leadsTo_of_node (h : t.node root = .ok .directory) : ∃ R, t.LeadsTo root R := by
  obtain ⟨R, place, held⟩ := bind_ok h
  refine ⟨R, place, ?_⟩
  split at held
  · rename_i found
    rw [found, pure_ok held]
  · cases held

theorem leadsTo_current (t : FileTree) : t.LeadsTo "." [] := by
  have parts : Path.parts "." = ["."] := rfl
  refine ⟨?_, rfl⟩
  rw [FileTree.locate_eq (by constructor <;> decide), parts]
  show t.follow [] "." >>= pure = _
  rw [FileTree.follow_inert rfl rfl]
  rfl

/-- A file that is a root stands in the directory that it stands for. -/
theorem leadsTo_directoryOf {bytes : List UInt8} (h : t.node root = .ok (.file bytes)) :
    ∃ D, t.LeadsTo (directoryOf root) D := by
  obtain ⟨loc, place, held⟩ := bind_ok h
  have file : t.find? loc = some (.file bytes) := by
    split at held
    · rename_i found
      rw [found, pure_ok held]
    · cases held
  have relative := FileTree.relative_of_locate place
  rcases (Path.parts root).eq_nil_or_concat with none | ⟨init, n, whole⟩
  · exact (Path.parts_ne_nil root none).elim
  · rw [List.concat_eq_append] at whole
    have name : IsName n := by
      have reached := place
      rw [FileTree.locate_eq relative, whole, List.foldlM_append] at reached
      obtain ⟨E, _, last⟩ := bind_ok reached
      obtain ⟨next, step, last⟩ := bind_ok last
      rw [← pure_ok last] at step
      have noSlash : '/' ∉ n.toList := Path.noSlash_of_mem_parts (p := root) (by simp [whole])
      exact FileTree.name_of_file noSlash step file
    by_cases alone : init = []
    · refine ⟨[], ?_⟩
      have parent : Path.parent? root = some "" := by
        rw [Path.parent?, whole, alone]
        simp [name.filled]
      rw [directoryOf, parent]
      exact leadsTo_current t
    · obtain ⟨q, D, parent, leads, _⟩ :=
        FileTree.leadsTo_parent ⟨relative, name, init, alone, whole⟩ place
      refine ⟨D, ?_⟩
      rw [directoryOf, parent]
      split
      · cases ‹some q = none›
      · rename_i empty
        rw [Option.some.inj empty] at leads
        exact (leads.relative.1 rfl).elim
      · rename_i same
        rwa [← Option.some.inj same]

theorem baseOf_file {bytes : List UInt8} (h : t.node root = .ok (.file bytes)) :
    baseOf t root = directoryOf root := by
  rw [baseOf, h]

theorem baseOf_directory {R : Location} (leads : t.LeadsTo root R) : baseOf t root = root := by
  rw [baseOf, node_of_leadsTo leads]

theorem spells_file_iff {bytes : List UInt8} {E : Location} (file : t.node root = .ok (.file bytes))
    (leads : t.LeadsTo (directoryOf root) E) : Spells t o root D cs ↔
      (Path.fileName? root).any isSourceName = true ∧ D = E ∧
        cs = Path.components (directoryOf root) := by
  rw [Spells, baseOf_file file]
  constructor
  · rintro ⟨sees, B, rel, leads_b, whole, rfl⟩
    cases sees with
    | around _ source leads' =>
      obtain rfl := leads.unique leads'
      obtain rfl := leads_b.unique leads
      obtain rfl : rel = [] := (List.append_cancel_left ((List.append_nil _).trans whole)).symm
      exact ⟨source, rfl, List.append_nil _⟩
    | below leads' _ _ =>
      rw [node_of_leadsTo leads'] at file
      cases file
  · rintro ⟨source, rfl, rfl⟩
    exact ⟨.around file source leads, _, [], leads, (List.append_nil D).symm,
      (List.append_nil _).symm⟩

theorem spells_directory_iff {R : Location} {filter : Option Filter} (leads : t.LeadsTo root R)
    (filtered : readFilter o.filter = .ok filter) : Spells t o root D cs ↔
      ∃ rel n, rel ++ [n] ∈ sources t o filter R ∧ D = R ++ rel ∧
        cs = Path.components root ++ rel.map .name := by
  rw [Spells, baseOf_directory leads]
  constructor
  · rintro ⟨sees, B, rel, leads_b, whole, rfl⟩
    obtain rfl := leads.unique leads_b
    cases sees with
    | around file _ _ =>
      rw [node_of_leadsTo leads] at file
      cases file
    | below leads' filtered' source =>
      obtain rfl := leads.unique leads'
      obtain rfl := Except.ok.inj (filtered.symm.trans filtered')
      obtain rfl := List.append_cancel_left whole
      exact ⟨_, _, source, rfl, rfl⟩
  · rintro ⟨rel, n, source, rfl, rfl⟩
    exact ⟨.below leads filtered source, R, rel, leads, rfl, rfl⟩

theorem Sees.exists_base (sees : Sees t o root D) :
    ∃ B rel, t.LeadsTo (baseOf t root) B ∧ D = B ++ rel := by
  cases sees with
  | around file _ leads => exact ⟨D, [], by rwa [baseOf_file file], (List.append_nil D).symm⟩
  | below leads _ _ => exact ⟨_, _, by rwa [baseOf_directory leads], rfl⟩

/-! ### Spellings -/

theorem packagesAt_ok (h : packagesAt t o root = .ok ps) :
    (∃ bytes, t.node root = .ok (.file bytes) ∧
      ps = if (Path.fileName? root).any isSourceName then [directoryOf root] else []) ∨
    ∃ R filter, t.LeadsTo root R ∧ readFilter o.filter = .ok filter ∧
      ps = Path.sortedFirst ((sources t o filter R).map (packagePath root)) := by
  cases node : t.node root with
  | error e =>
    unfold packagesAt at h
    rw [node] at h
    obtain ⟨_, _, h⟩ := bind_ok h
    cases h
  | ok held =>
    cases held with
    | file bytes =>
      unfold packagesAt at h
      rw [node] at h
      obtain ⟨_, _, h⟩ := bind_ok h
      exact .inl ⟨bytes, rfl, pure_ok h⟩
    | directory =>
      obtain ⟨R, leads⟩ := leadsTo_of_node node
      obtain ⟨filter, filtered, made⟩ := (packagesAt_directory leads).mp h
      exact .inr ⟨R, filter, leads, filtered, made⟩

theorem spells_of_mem_packagesAt (names : t.Named) (h : packagesAt t o root = .ok ps) {p : String}
    (member : p ∈ ps) : ∃ D, t.LeadsTo p D ∧ Spells t o root D (Path.components p) := by
  rcases packagesAt_ok h with ⟨bytes, file, rfl⟩ | ⟨R, filter, leads, filtered, rfl⟩
  · obtain ⟨D, leads⟩ := leadsTo_directoryOf file
    split at member
    · rename_i source
      rw [List.mem_singleton.mp member]
      exact ⟨D, leads, (spells_file_iff file leads).mpr ⟨source, rfl, rfl⟩⟩
    · cases member
  · obtain ⟨rel, n, source, _, reached, spelled⟩ := source_of_listed names leads member
    exact ⟨R ++ rel, reached,
      (spells_directory_iff leads filtered).mpr ⟨rel, n, source, rfl, spelled⟩⟩

theorem exists_mem_packagesAt (names : t.Named) (h : packagesAt t o root = .ok ps)
    (spells : Spells t o root D cs) : ∃ p ∈ ps, Path.components p = cs := by
  rcases packagesAt_ok h with ⟨bytes, file, rfl⟩ | ⟨R, filter, leads, filtered, rfl⟩
  · obtain ⟨E, leads⟩ := leadsTo_directoryOf file
    obtain ⟨source, rfl, rfl⟩ := (spells_file_iff file leads).mp spells
    rw [if_pos source]
    exact ⟨_, List.mem_singleton.mpr rfl, rfl⟩
  · obtain ⟨rel, n, source, rfl, rfl⟩ := (spells_directory_iff leads filtered).mp spells
    exact exists_listed names leads source

/-- The components of a root tell where the package of a spelling is. -/
theorem Spells.unique {root' : String} {E : Location} (first : Spells t o root D cs)
    (second : Spells t o root' E cs) : D = E := by
  obtain ⟨_, B, rel, leads, rfl, rfl⟩ := first
  obtain ⟨_, B', rel', leads', rfl, same⟩ := second
  have place {B rel : Location} {p : String} (leads : t.LeadsTo p B) : B ++ rel =
      (Path.components p ++ rel.map Path.Component.name).foldl FileTree.resolve [] := by
    rw [List.foldl_append, ← FileTree.locate_eq_resolve leads.place]
    induction rel using List.reverseRecOn with
    | nil => exact List.append_nil B
    | append_singleton rel n ih =>
      rw [List.map_append, List.foldl_append, ← ih, ← List.append_assoc]
      rfl
  rw [place leads, place leads', same]

variable {p : String}

theorem spells_of_mem_packages (names : t.Named) (h : packages t o roots = .ok ps)
    (member : p ∈ ps) :
    ∃ root ∈ roots, ∃ D, t.LeadsTo p D ∧ Spells t o root D (Path.components p) := by
  obtain ⟨perRoot, read, h⟩ := bind_ok h
  rw [pure_ok h] at member
  obtain ⟨found, listed, member⟩ := List.mem_flatten.mp (Path.mem_sortedFirst member)
  obtain ⟨root, present, read⟩ := (mem_mapM_ok read).mp listed
  exact ⟨root, present, spells_of_mem_packagesAt names read member⟩

theorem exists_mem_packages_of_spells (names : t.Named) (h : packages t o roots = .ok ps)
    (present : root ∈ roots) (spells : Spells t o root D cs) :
    ∃ p ∈ ps, t.LeadsTo p D ∧ Path.components p = cs := by
  have h' := h
  obtain ⟨perRoot, read, h⟩ := bind_ok h
  obtain ⟨found, listed, read⟩ := ok_of_mapM_ok read present
  obtain ⟨q, member, rfl⟩ := exists_mem_packagesAt names read spells
  obtain ⟨p, kept, same⟩ := Path.exists_mem_sortedFirst (List.mem_flatten_of_mem listed member)
  rw [← pure_ok h] at kept
  obtain ⟨_, _, E, leads, spells'⟩ := spells_of_mem_packages names h' kept
  rw [same] at spells'
  rw [spells.unique spells']
  exact ⟨p, kept, leads, same⟩

theorem directory_of_mem_packages (names : t.Named) (h : packages t o roots = .ok ps)
    (member : p ∈ ps) : ∃ D, t.LeadsTo p D := by
  obtain ⟨_, _, D, leads, _⟩ := spells_of_mem_packages names h member
  exact ⟨D, leads⟩

/-! ### Packages that share a directory -/

/-- Where two roots come to one package, the inner is spelled as the outer with the names that lead
from there. -/
def SpelledAlike (t : FileTree) (o : Options) (roots : List String) : Prop :=
  ∀ root ∈ roots, ∀ root' ∈ roots, ∀ D, Sees t o root D → Sees t o root' D → ∀ rel,
    t.placeOf (baseOf t root') = t.placeOf (baseOf t root) ++ rel →
      Path.components (baseOf t root') = Path.components (baseOf t root) ++ rel.map .name

theorem spelledAlike_iff : SpelledAlike t o roots ↔ ∀ root ∈ roots, ∀ root' ∈ roots, ∀ D cs cs',
    Spells t o root D cs → Spells t o root' D cs' → cs = cs' := by
  constructor
  · intro alike root member root' member' D cs cs' spells spells'
    obtain ⟨sees, B, rel, leads, rfl, rfl⟩ := spells
    obtain ⟨sees', B', rel', leads', whole, rfl⟩ := spells'
    have first := alike root member root' member' _ sees sees'
    have second := alike root' member' root member _ sees' sees
    rw [FileTree.placeOf_eq leads.place, FileTree.placeOf_eq leads'.place] at first second
    -- One of the two bases is below the other.
    rcases List.append_eq_append_iff.mp whole with ⟨mid, rfl, rfl⟩ | ⟨mid, rfl, rfl⟩
    · rw [first mid rfl, List.map_append, List.append_assoc]
    · rw [second mid rfl, List.map_append, List.append_assoc]
  · intro unique root member root' member' D sees sees' mid inner
    obtain ⟨B, rel, leads, whole⟩ := sees.exists_base
    obtain ⟨B', rel', leads', whole'⟩ := sees'.exists_base
    have same := unique root member root' member' D _ _ ⟨sees, B, rel, leads, whole, rfl⟩
      ⟨sees', B', rel', leads', whole', rfl⟩
    rw [FileTree.placeOf_eq leads.place, FileTree.placeOf_eq leads'.place] at inner
    rw [whole, inner, List.append_assoc] at whole'
    rw [List.append_cancel_left whole', List.map_append, ← List.append_assoc] at same
    exact (List.append_cancel_right same).symm

/-- No package is listed in two spellings of its components. -/
theorem nodup_components_packages (h : packages t o roots = .ok ps) :
    (ps.map Path.components).Nodup := by
  obtain ⟨perRoot, _, made⟩ := bind_ok h
  rw [pure_ok made]
  exact Path.nodup_sortedFirst _

/-- Packages are in different directories exactly if the roots are spelled alike. -/
theorem nodup_packages_iff (names : t.Named) (h : packages t o roots = .ok ps) :
    (ps.map t.placeOf).Nodup ↔ SpelledAlike t o roots := by
  have once := nodup_components_packages h
  rw [spelledAlike_iff]
  constructor
  · intro apart root member root' member' D cs cs' spells spells'
    obtain ⟨p, present, leads, rfl⟩ := exists_mem_packages_of_spells names h member spells
    obtain ⟨q, present', leads', rfl⟩ := exists_mem_packages_of_spells names h member' spells'
    refine congrArg _ (List.inj_on_of_nodup_map apart present present' ?_)
    rw [FileTree.placeOf_eq leads.place, FileTree.placeOf_eq leads'.place]
  · intro unique
    refine List.Nodup.map_on (fun p present q present' same => ?_) (List.Nodup.of_map _ once)
    obtain ⟨root, member, D, leads, spells⟩ := spells_of_mem_packages names h present
    obtain ⟨root', member', E, leads', spells'⟩ := spells_of_mem_packages names h present'
    rw [FileTree.placeOf_eq leads.place, FileTree.placeOf_eq leads'.place] at same
    subst same
    exact List.inj_on_of_nodup_map once present present'
      (unique root member root' member' _ _ _ spells spells')

/-- Below one root, packages are in different directories. -/
theorem nodup_packages (names : t.Named) (h : packages t o [root] = .ok ps) :
    (ps.map t.placeOf).Nodup := by
  rw [nodup_packages_iff names h]
  intro root₁ member₁ root₂ member₂ D _ _ rel inner
  obtain rfl := List.mem_singleton.mp member₁
  obtain rfl := List.mem_singleton.mp member₂
  obtain rfl := List.append_cancel_left ((List.append_nil _).trans inner)
  exact (List.append_nil _).symm

end TagSchema.Scan
