import TagSchema.Proofs.FileTree.Access
import TagSchema.Scan.Basic

/-!
# Packages below a root

`packagesAt_complete` says which directories below a root are its packages. Looking for them reads
the directories, the ignore files and the names of source files, nothing else: `packages_congr` says
which packages a tree can have that was made from another one without touching directories and
ignore files.
-/

namespace TagSchema.Scan

open TagSchema.FileTree (Location SameDirectories)

variable {t u : FileTree} {o : Options} {root : String} {R : Location}

/-! ### Files and what holds them -/

theorem locate_foldl {rel : Location} (leads : t.LeadsTo root R) (names : ∀ n ∈ rel, IsName n)
    (h : (t.find? (R ++ rel)).isSome = true) :
    t.locate (rel.foldl Path.join root) = .ok (R ++ rel) := by
  induction rel using List.reverseRecOn with
  | nil =>
    rw [List.append_nil]
    exact leads.place
  | append_singleton rel n ih =>
    rw [← List.append_assoc] at h
    have dir := FileTree.directory_of_held h
    have before := ih (fun m member => names m (List.mem_append_left _ member)) (by rw [dir]; rfl)
    rw [List.foldl_append, ← List.append_assoc]
    exact FileTree.locate_join ⟨before, dir⟩ (names n (by simp))

/-- The path of the package of a file leads to its directory. -/
theorem leadsTo_packagePath {rel : Location} {n : String} (leads : t.LeadsTo root R)
    (names : ∀ m ∈ rel ++ [n], IsName m) (h : (t.find? (R ++ (rel ++ [n]))).isSome = true) :
    t.LeadsTo (packagePath root (rel ++ [n])) (R ++ rel) := by
  rw [← List.append_assoc] at h
  have dir := FileTree.directory_of_held h
  have before : t.LeadsTo (rel.foldl Path.join root) (R ++ rel) :=
    ⟨locate_foldl leads (fun m member => names m (List.mem_append_left _ member))
      (by rw [dir]; rfl), dir⟩
  obtain ⟨q, inert, parent, relative, whole, all⟩ :=
    Path.exists_parent_join before.relative (names n (by simp))
  rw [packagePath, List.foldl_append]
  show t.LeadsTo ((Path.parent? (Path.join _ n)).getD "") _
  rw [parent]
  exact before.parent relative whole all

theorem components_packagePath {rel : Location} {n : String} (relative : Path.IsRelative root)
    (names : ∀ m ∈ rel ++ [n], IsName m) : Path.components (packagePath root (rel ++ [n])) =
      Path.components root ++ rel.map Path.Component.name := by
  have ⟨relative', whole⟩ :=
    Path.foldl_join relative fun m member => names m (List.mem_append_left _ member)
  obtain ⟨q, inert, parent, relative_q, same, all⟩ :=
    Path.exists_parent_join relative' (names n (by simp))
  rw [packagePath, List.foldl_append]
  show Path.components ((Path.parent? (Path.join _ n)).getD "") = _
  rw [parent, ← whole]
  exact (Path.components_parent relative_q same all).symm

theorem directory_of_file? {d : Location} {n : String}
    (file : (t.file? (R ++ (d ++ [n]))).isSome = true) : t.find? (R ++ d) = some .directory := by
  obtain ⟨bytes, file⟩ := Option.isSome_iff_exists.mp file
  rw [← List.append_assoc] at file
  exact FileTree.directory_of_held (by rw [FileTree.node_of_file? file]; rfl)

/-! ### Ignored places -/

theorem findSome?_congr {α β : Type} {f g : α → Option β} {xs : List α}
    (h : ∀ x ∈ xs, f x = g x) : xs.findSome? f = xs.findSome? g := by
  induction xs with
  | nil => rfl
  | cons x xs ih =>
    rw [List.forall_mem_cons] at h
    rw [List.findSome?_cons, List.findSome?_cons, h.1, ih h.2]

/-- Nothing is ignored in a tree without ignore files. -/
theorem isIgnored_of_plain (plain : ∀ l ∈ t.files,
    ∀ f ∈ Ignore.fileLocations o.respectIgnore, ¬ f <:+ l) (loc : Location) :
    isIgnored t o.respectIgnore loc = false := by
  refine isIgnored_of_ruleless (fun d f member => ?_) loc
  by_contra some
  obtain ⟨bytes, file⟩ := Option.ne_none_iff_exists'.mp some
  exact plain _ (FileTree.mem_files.mpr ⟨bytes, file⟩) f member (List.suffix_append d f)

/-- The trees have the same directories and the same ignore files. -/
structure SameIgnores (o : Options) (t u : FileTree) : Prop where
  directories : SameDirectories t u
  files : ∀ d, ∀ f ∈ Ignore.fileLocations o.respectIgnore, t.file? (d ++ f) = u.file? (d ++ f)

theorem SameIgnores.isIgnored (same : SameIgnores o t u) (loc : Location) :
    isIgnored t o.respectIgnore loc = isIgnored u o.respectIgnore loc := by
  have dir : t.isDirectory loc = u.isDirectory loc := by
    rw [Bool.eq_iff_iff, FileTree.isDirectory, FileTree.isDirectory, beq_iff_eq, beq_iff_eq]
    exact same.directories loc
  unfold Scan.isIgnored
  dsimp only
  congr 1
  refine findSome?_congr fun file member => findSome?_congr fun d _ => ?_
  rw [Ignore.rulesAt, Ignore.rulesAt, same.files d file member, dir]

theorem SameIgnores.isReached (same : SameIgnores o t u) (root rel : Location) :
    isReached t o root rel = isReached u o root rel := by
  simp only [Scan.isReached, same.isIgnored]

/-! ### Looking below a root -/

/-- The directories that looking for packages enters, by their places below the root: the root, and
if it looks further those in an entered one that are neither reserved nor ignored. -/
inductive Enters (t : FileTree) (o : Options) (R : Location) : Location → Prop where
  | root : Enters t o R []
  | inside {d : Location} {n : String} (outer : Enters t o R d) (further : o.recursive = true)
      (dir : t.find? (R ++ (d ++ [n])) = some .directory) (free : isReserved n = false)
      (seen : isIgnored t o.respectIgnore (R ++ (d ++ [n])) = false) : Enters t o R (d ++ [n])

/-- What keeps a directory from being entered is on the way to it. -/
theorem enters_iff {d : Location} (dir : t.find? (R ++ d) = some .directory) :
    Enters t o R d ↔ (o.recursive = true ∨ d = []) ∧ (∀ n ∈ d, isReserved n = false) ∧
      ∀ k < d.length, isIgnored t o.respectIgnore (R ++ d.take (k + 1)) = false := by
  constructor
  · intro enters
    clear dir
    induction enters with
    | root => simp
    | @inside d n _ further _ free seen ih =>
      obtain ⟨_, names, places⟩ := ih
      refine ⟨.inl further, ?_, fun k inner => ?_⟩
      · rw [List.forall_mem_append, List.forall_mem_singleton]
        exact ⟨names, free⟩
      · -- The new directory is the last place on the way, and the others were there before.
        rw [List.length_append, List.length_singleton] at inner
        rcases Nat.lt_succ_iff_lt_or_eq.mp inner with inner | rfl
        · rw [List.take_append_of_le_length inner]
          exact places k inner
        · rwa [List.take_of_length_le (by simp)]
  · rintro ⟨further, names, places⟩
    induction d using List.reverseRecOn with
    | nil => exact .root
    | append_singleton d n ih =>
      rw [List.forall_mem_append, List.forall_mem_singleton] at names
      have further : o.recursive = true := further.resolve_right (by simp)
      have outer : t.find? (R ++ d) = some .directory := by
        rw [← List.append_assoc] at dir
        exact FileTree.directory_of_held (by rw [dir]; rfl)
      refine .inside (ih outer (.inl further) names.1 fun k inner => ?_) further dir names.2 ?_
      · have before := places k (by rw [List.length_append]; omega)
        rwa [List.take_append_of_le_length inner] at before
      · have last := places d.length (by simp)
        rwa [List.take_of_length_le (by simp)] at last

/-- A file is come to in an entered directory, unless it is ignored itself. -/
theorem isReached_iff {d : Location} {n : String}
    (file : (t.file? (R ++ (d ++ [n]))).isSome = true) : isReached t o R (d ++ [n]) = true ↔
      Enters t o R d ∧ isIgnored t o.respectIgnore (R ++ (d ++ [n])) = false := by
  have depth : d.length + 1 = 1 ↔ d = [] := by simp
  have ends : (d ++ [n]).take (d.length + 1) = d ++ [n] := List.take_of_length_le (by simp)
  have before (k : Nat) (inner : k < d.length) : (d ++ [n]).take (k + 1) = d.take (k + 1) :=
    List.take_append_of_le_length inner
  rw [enters_iff (directory_of_file? file), isReached, List.dropLast_concat]
  simp only [Bool.and_eq_true, Bool.or_eq_true, beq_iff_eq, depth, Bool.not_eq_true',
    List.any_eq_false, List.all_eq_true, List.mem_range, List.length_append, List.length_singleton,
    Bool.not_eq_true, Nat.lt_succ_iff_lt_or_eq, or_imp, forall_and, forall_eq, ends, and_assoc]
  have places :
      (∀ k < d.length, isIgnored t o.respectIgnore (R ++ (d ++ [n]).take (k + 1)) = false) ↔
        ∀ k < d.length, isIgnored t o.respectIgnore (R ++ d.take (k + 1)) = false :=
    forall₂_congr fun k inner => by rw [before k inner]
  rw [places]

/-! ### Listed paths -/

theorem mem_sources {filter : Option Filter} {rel : Location} :
    rel ∈ sources t o filter R ↔ (t.file? (R ++ rel)).isSome = true ∧
      rel.getLast?.any isSourceName = true ∧ isReached t o R rel = true ∧
      isAccepted filter rel = true := by
  simp only [sources, List.mem_filter, List.mem_map, Bool.and_eq_true, List.isPrefixOf_iff_prefix,
    FileTree.mem_files, Option.isSome_iff_exists, and_assoc]
  refine and_congr_left fun _ => ⟨?_, fun h => ⟨R ++ rel, h, List.prefix_append R rel, by simp⟩⟩
  rintro ⟨_, h, ⟨rest, rfl⟩, cut⟩
  rw [List.drop_left] at cut
  rwa [← cut]

theorem packagesAt_directory {ps : List String} (leads : t.LeadsTo root R) :
    packagesAt t o root = .ok ps ↔ ∃ filter, readFilter o.filter = .ok filter ∧
      ps = Path.sortedFirst ((sources t o filter R).map (packagePath root)) := by
  have node : t.node root = .ok .directory := by
    rw [FileTree.node, bind_of_ok leads.place, leads.dir]
    rfl
  unfold packagesAt
  rw [node, leads.place]
  cases readFilter o.filter with
  | error e =>
    constructor
    · intro h
      cases h
    · rintro ⟨_, h, _⟩
      cases h
  | ok filter =>
    constructor
    · exact fun h => ⟨filter, rfl, pure_ok h⟩
    · rintro ⟨_, h, made⟩
      rw [made, Except.ok.inj h]
      rfl

/-- Every path that is listed is that of the directory of a source. -/
theorem source_of_listed {filter : Option Filter} {p : String} (names : t.Named)
    (leads : t.LeadsTo root R)
    (member : p ∈ Path.sortedFirst ((sources t o filter R).map (packagePath root))) :
    ∃ d n, d ++ [n] ∈ sources t o filter R ∧ p = packagePath root (d ++ [n]) ∧
      t.LeadsTo p (R ++ d) ∧ Path.components p = Path.components root ++ d.map .name := by
  obtain ⟨path, source, rfl⟩ := List.mem_map.mp (Path.mem_sortedFirst member)
  have ⟨file, last, _⟩ := mem_sources.mp source
  rcases path.eq_nil_or_concat with rfl | ⟨d, n, rfl⟩
  · cases last
  · rw [List.concat_eq_append] at *
    have named : ∀ m ∈ d ++ [n], IsName m := fun m member =>
      names.of_file? file m (List.mem_append_right _ member)
    refine ⟨d, n, source, rfl, leadsTo_packagePath leads named ?_,
      components_packagePath leads.relative named⟩
    obtain ⟨bytes, file⟩ := Option.isSome_iff_exists.mp file
    rw [FileTree.node_of_file? file]
    rfl

/-- The directory of every source is listed. -/
theorem exists_listed {filter : Option Filter} {d : Location} {n : String} (names : t.Named)
    (leads : t.LeadsTo root R) (source : d ++ [n] ∈ sources t o filter R) :
    ∃ p ∈ Path.sortedFirst ((sources t o filter R).map (packagePath root)),
      Path.components p = Path.components root ++ d.map .name := by
  obtain ⟨p, member, same⟩ := Path.exists_mem_sortedFirst
    (List.mem_map_of_mem (f := packagePath root) source)
  refine ⟨p, member, same.trans (components_packagePath leads.relative fun m member => ?_)⟩
  exact names.of_file? (mem_sources.mp source).1 m (List.mem_append_right _ member)

/-! ### Packages below a root -/

/-- A place below the root is a package: it is the root unless looking goes further, no name on the
way to it is reserved, and a source that counts stands right in it. -/
structure IsPackage (t : FileTree) (o : Options) (filter : Option Filter) (R d : Location) :
    Prop where
  depth : o.recursive = false → d = []
  free : ∀ n ∈ d, n ≠ "testdata" ∧ n ≠ "vendor" ∧ ¬ ".".toList <+: n.toList ∧
    ¬ "_".toList <+: n.toList
  source : ∃ n, (t.file? (R ++ d ++ [n])).isSome = true ∧ ".go".toList <:+ n.toList ∧
    ¬ "_test.go".toList <:+ n.toList ∧ isAccepted filter (d ++ [n]) = true

theorem isReserved_eq_false_iff {n : String} : isReserved n = false ↔ n ≠ "testdata" ∧
    n ≠ "vendor" ∧ ¬ ".".toList <+: n.toList ∧ ¬ "_".toList <+: n.toList := by
  rw [← String.startsWith_string_iff, ← String.startsWith_string_iff]
  simp [isReserved, and_assoc]

theorem isSourceName_iff {n : String} : isSourceName n = true ↔
    ".go".toList <:+ n.toList ∧ ¬ "_test.go".toList <:+ n.toList := by
  rw [← endsWith_iff, ← endsWith_iff]
  simp [isSourceName]

/-- Where nothing is ignored, packages are the directories of the sources that are listed. -/
theorem isPackage_iff {filter : Option Filter} {d : Location}
    (visible : ∀ rel, isIgnored t o.respectIgnore (R ++ rel) = false) :
    IsPackage t o filter R d ↔ ∃ n, d ++ [n] ∈ sources t o filter R := by
  have reached {n : String} (file : (t.file? (R ++ (d ++ [n]))).isSome = true) :
      isReached t o R (d ++ [n]) = true ↔
        (o.recursive = false → d = []) ∧ ∀ n ∈ d, isReserved n = false := by
    rw [isReached_iff file, enters_iff (directory_of_file? file)]
    simp only [visible, implies_true, and_true]
    cases o.recursive <;> simp
  simp only [mem_sources, List.getLast?_concat, Option.any_some]
  constructor
  · rintro ⟨depth, names, n, file, goes, noTest, accepted⟩
    rw [List.append_assoc] at file
    refine ⟨n, file, isSourceName_iff.mpr ⟨goes, noTest⟩, (reached file).mpr ⟨depth, ?_⟩, accepted⟩
    exact fun n member => isReserved_eq_false_iff.mpr (names n member)
  · rintro ⟨n, file, name, visited, accepted⟩
    have ⟨depth, names⟩ := (reached file).mp visited
    have ⟨goes, noTest⟩ := isSourceName_iff.mp name
    refine ⟨depth, fun n member => isReserved_eq_false_iff.mp (names n member), n, ?_, goes, noTest,
      accepted⟩
    rwa [List.append_assoc]

/-- Where nothing is ignored, as in a tree without ignore files, the packages below a root are
listed in order, each once and by its names behind the root. -/
theorem packagesAt_complete {filter : Option Filter} (names : t.Named) (leads : t.LeadsTo root R)
    (filtered : readFilter o.filter = .ok filter)
    (visible : ∀ rel, isIgnored t o.respectIgnore (R ++ rel) = false) : ∃ ps ds,
    packagesAt t o root = .ok ps ∧ ps.Pairwise (Path.compare · · = .lt) ∧
    ds.Nodup ∧ (∀ d, d ∈ ds ↔ IsPackage t o filter R d) ∧
    List.Forall₂ (fun p d => t.LeadsTo p (R ++ d) ∧
      Path.components p = Path.components root ++ d.map .name) ps ds := by
  let behind (p : String) : Location := (t.placeOf p).drop R.length
  have behind_eq {p : String} {d : Location} (leads : t.LeadsTo p (R ++ d)) : behind p = d := by
    show (t.placeOf p).drop R.length = d
    rw [FileTree.placeOf_eq leads.place, List.drop_left]
  have named_inj {d e : Location} (same : Path.components root ++ d.map .name =
      Path.components root ++ e.map .name) : d = e :=
    List.map_injective_iff.mpr (fun _ _ => Path.Component.name.inj) (List.append_cancel_left same)
  refine ⟨_, (Path.sortedFirst ((sources t o filter R).map (packagePath root))).map behind,
    (packagesAt_directory leads).mpr ⟨filter, filtered, rfl⟩, Path.sorted_sortedFirst _, ?_, ?_, ?_⟩
  · -- Paths that are not the same have different names behind the root.
    have once := Path.nodup_sortedFirst ((sources t o filter R).map (packagePath root))
    refine List.Nodup.map_on (fun p member q member' same => ?_) (List.Nodup.of_map _ once)
    obtain ⟨d, _, _, _, place, spelled⟩ := source_of_listed names leads member
    obtain ⟨e, _, _, _, place', spelled'⟩ := source_of_listed names leads member'
    rw [behind_eq place, behind_eq place'] at same
    exact List.inj_on_of_nodup_map once member member' (by rw [spelled, spelled', same])
  · intro d
    rw [isPackage_iff visible, List.mem_map]
    constructor
    · rintro ⟨p, member, rfl⟩
      obtain ⟨d, n, source, _, place, _⟩ := source_of_listed names leads member
      exact ⟨n, by rwa [behind_eq place]⟩
    · rintro ⟨n, source⟩
      obtain ⟨p, member, spelled⟩ := exists_listed names leads source
      obtain ⟨e, _, _, _, place, spelled'⟩ := source_of_listed names leads member
      exact ⟨p, member, (behind_eq place).trans (named_inj (spelled'.symm.trans spelled))⟩
  · rw [List.forall₂_map_right_iff, List.forall₂_same]
    intro p member
    obtain ⟨d, _, _, _, place, spelled⟩ := source_of_listed names leads member
    rw [behind_eq place]
    exact ⟨place, spelled⟩

/-- A root with a reserved name, and below it a directory that is named like a source, one that is
not entered and one with nothing but a test. -/
def reservedRoot : FileTree where
  nodes := [
    (["vendor"], .directory),
    (["vendor", "a.go"], .file []),
    (["vendor", "lib.go"], .directory),
    (["vendor", "lib.go", "b.go"], .file []),
    (["vendor", "lib.go", "_c"], .directory),
    (["vendor", "lib.go", "_c", "d.go"], .file []),
    (["vendor", "only"], .directory),
    (["vendor", "only", "e_test.go"], .file [])]
  distinct := by decide
  held := by decide

/-- The reserved name of the root does not count. -/
theorem packagesAt_reservedRoot : reservedRoot.Named ∧ reservedRoot.LeadsTo "vendor" ["vendor"] ∧
    readFilter none = .ok none ∧
    (∀ rel, isIgnored reservedRoot true (["vendor"] ++ rel) = false) ∧
    packagesAt reservedRoot ⟨true, true, none⟩ "vendor" = .ok ["vendor", "vendor/lib.go"] ∧
    ∀ d, IsPackage reservedRoot ⟨true, true, none⟩ none ["vendor"] d ↔ d = [] ∨ d = ["lib.go"] := by
  have names : reservedRoot.Named := by decide +kernel
  have leads : reservedRoot.LeadsTo "vendor" ["vendor"] := ⟨by decide +kernel, by decide +kernel⟩
  have visible (rel : Location) : isIgnored reservedRoot true (["vendor"] ++ rel) = false :=
    isIgnored_of_plain (o := ⟨true, true, none⟩) (by decide +kernel) _
  have found : packagesAt reservedRoot ⟨true, true, none⟩ "vendor" =
      .ok ["vendor", "vendor/lib.go"] := by decide +kernel
  have inner : reservedRoot.LeadsTo "vendor/lib.go" ["vendor", "lib.go"] :=
    ⟨by decide +kernel, by decide +kernel⟩
  refine ⟨names, leads, rfl, visible, found, fun d => ?_⟩
  obtain ⟨ps, ds, read, _, _, packages, places⟩ :=
    packagesAt_complete (o := ⟨true, true, none⟩) names leads rfl visible
  obtain rfl := Except.ok.inj (found.symm.trans read)
  obtain ⟨first, others, ⟨place, _⟩, later, rfl⟩ := List.forall₂_cons_left_iff.mp places
  obtain ⟨second, none, ⟨place', _⟩, last, rfl⟩ := List.forall₂_cons_left_iff.mp later
  obtain rfl := List.forall₂_nil_left_iff.mp last
  obtain rfl : first = [] := List.append_cancel_left (leads.unique place).symm
  obtain rfl : second = ["lib.go"] := List.append_cancel_left (inner.unique place').symm
  rw [← packages d, List.mem_pair]

/-! ### Packages of changed trees -/

/-- Every root is a directory. -/
def AllDirectories (t : FileTree) (roots : List String) : Prop :=
  ∀ root ∈ roots, ∃ R, t.LeadsTo root R

theorem AllDirectories.congr {roots : List String} (same : SameDirectories t u)
    (h : AllDirectories t roots) : AllDirectories u roots := by
  intro root member
  obtain ⟨R, leads⟩ := h root member
  exact ⟨R, leads.congr same⟩

variable {roots ps : List String}

/-- Every package is the directory of a source file below a root. -/
theorem source_of_mem_packages (names : t.Named) (dirs : AllDirectories t roots)
    (h : packages t o roots = .ok ps) {p : String} (member : p ∈ ps) :
    ∃ root ∈ roots, ∃ R rel n filter, t.LeadsTo root R ∧
      readFilter o.filter = .ok filter ∧ rel ++ [n] ∈ sources t o filter R ∧
      p = packagePath root (rel ++ [n]) ∧ t.LeadsTo p (R ++ rel) := by
  obtain ⟨perRoot, read, h⟩ := bind_ok h
  rw [pure_ok h] at member
  obtain ⟨found, listed, member⟩ := List.mem_flatten.mp (Path.mem_sortedFirst member)
  obtain ⟨root, present, read⟩ := (mem_mapM_ok read).mp listed
  obtain ⟨R, leads⟩ := dirs root present
  obtain ⟨filter, filtered, rfl⟩ := (packagesAt_directory leads).mp read
  obtain ⟨rel, n, source, made, reached, _⟩ := source_of_listed names leads member
  exact ⟨root, present, R, rel, n, filter, leads, filtered, source, made, reached⟩

theorem exists_mem_packages {filter : Option Filter} {rel : Location} (member : root ∈ roots)
    (leads : t.LeadsTo root R)
    (filtered : readFilter o.filter = .ok filter) (source : rel ∈ sources t o filter R)
    (h : packages t o roots = .ok ps) :
    ∃ p ∈ ps, Path.components p = Path.components (packagePath root rel) := by
  obtain ⟨perRoot, read, h⟩ := bind_ok h
  rw [pure_ok h]
  obtain ⟨found, listed, read⟩ := ok_of_mapM_ok read member
  obtain ⟨_, again, rfl⟩ := (packagesAt_directory leads).mp read
  obtain rfl := Except.ok.inj (filtered.symm.trans again)
  obtain ⟨q, present, same⟩ := Path.exists_mem_sortedFirst (List.mem_map_of_mem source)
  obtain ⟨p, kept, equal⟩ :=
    Path.exists_mem_sortedFirst (List.mem_flatten_of_mem listed present)
  exact ⟨p, kept, equal.trans same⟩

/-- Each package of the changed tree has a source file, and if that file was there before, so was
the package. -/
theorem packages_congr (same : SameIgnores o t u) (names : t.Named)
    (names' : u.Named) (dirs : AllDirectories t roots) (h : packages t o roots = .ok ps) :
    ∃ qs, packages u o roots = .ok qs ∧ ∀ q ∈ qs, ∃ D n, u.LeadsTo q D ∧
      isSourceName n = true ∧ (u.file? (D ++ [n])).isSome = true ∧
      ((t.file? (D ++ [n])).isSome = true → ∃ p ∈ ps, t.LeadsTo p D) := by
  have dirs' := dirs.congr same.directories
  have read : ∃ qs, packages u o roots = .ok qs := by
    obtain ⟨perRoot, read, _⟩ := bind_ok h
    have all : ∃ perRoot', roots.mapM (packagesAt u o) = .ok perRoot' := by
      refine exists_mapM_ok fun root member => ?_
      obtain ⟨R, leads⟩ := dirs root member
      obtain ⟨R', leads'⟩ := dirs' root member
      obtain ⟨found, _, read⟩ := ok_of_mapM_ok read member
      obtain ⟨filter, filtered, _⟩ := (packagesAt_directory leads).mp read
      exact ⟨_, (packagesAt_directory leads').mpr ⟨filter, filtered, rfl⟩⟩
    obtain ⟨perRoot', read'⟩ := all
    exact ⟨_, bind_of_ok read'⟩
  obtain ⟨qs, read⟩ := read
  refine ⟨qs, read, fun q member => ?_⟩
  obtain ⟨root, present, R, rel, n, filter, leads, filtered, source, rfl, reached⟩ :=
    source_of_mem_packages names' dirs' read member
  have ⟨file, last, visible, accepted⟩ := mem_sources.mp source
  rw [List.getLast?_concat] at last
  refine ⟨R ++ rel, n, reached, last, by rwa [List.append_assoc], fun before => ?_⟩
  obtain ⟨R', leads'⟩ := dirs root present
  obtain rfl := leads.unique (leads'.congr same.directories)
  rw [List.append_assoc] at before
  have source' : rel ++ [n] ∈ sources t o filter R := mem_sources.mpr
    ⟨before, by rwa [List.getLast?_concat], by rwa [same.isReached], accepted⟩
  obtain ⟨p, kept, equal⟩ := exists_mem_packages present leads' filtered source' h
  obtain ⟨_, _, _, _, _, _, _, _, _, _, found⟩ := source_of_mem_packages names dirs h kept
  refine ⟨p, kept, ?_⟩
  rwa [← FileTree.locate_eq_of_components found.place reached.place equal]

end TagSchema.Scan
