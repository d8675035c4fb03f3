/-!
# File trees

The directories and regular files below a working directory. Each place holds at most one of them,
and what contains a place is a directory. `find?_writeFile`, `find?_makeDirectory`,
`find?_removeFile` and `find?_removeAll` say what each change does to every place.
-/

namespace TagSchema

namespace FileTree

/-- The names from the working directory down to a place. -/
abbrev Location := List String

inductive Node where
  | file (bytes : List UInt8)
  | directory
  deriving DecidableEq, Repr

abbrev Nodes := List (Location × Node)

/-- Whether a place can hold something: it lies in the working directory or in a listed one. -/
def Held (nodes : Nodes) (loc : Location) : Prop :=
  loc ≠ [] ∧ (loc.dropLast = [] ∨ (loc.dropLast, Node.directory) ∈ nodes)

end FileTree

structure FileTree where
  nodes : FileTree.Nodes
  distinct : (nodes.map (·.1)).Nodup
  held : ∀ n ∈ nodes, FileTree.Held nodes n.1

namespace FileTree

inductive Fault where
  | notFound | notDirectory | isDirectory
  deriving DecidableEq, Repr

def empty : FileTree := ⟨[], List.nodup_nil, nofun⟩

/-- What a place holds; the working directory is always there. -/
def find? (t : FileTree) (loc : Location) : Option Node :=
  if loc = [] then some .directory else t.nodes.lookup loc

def file? (t : FileTree) (loc : Location) : Option (List UInt8) :=
  match t.find? loc with
  | some (.file bytes) => some bytes
  | _ => none

def isDirectory (t : FileTree) (loc : Location) : Bool := t.find? loc == some .directory

/-- The places of all regular files. -/
def files (t : FileTree) : List Location :=
  t.nodes.filterMap fun n => match n.2 with
    | .file _ => some n.1
    | .directory => none

/-! ### Lists of nodes -/

def without (loc : Location) (nodes : Nodes) : Nodes := nodes.filter (·.1 != loc)

theorem nodup_filter {nodes : Nodes} (p : Location × Node → Bool) (h : (nodes.map (·.1)).Nodup) :
    ((nodes.filter p).map (·.1)).Nodup :=
  h.sublist (List.filter_sublist.map _)

theorem lookup_eq_some_iff {nodes : Nodes} (h : (nodes.map (·.1)).Nodup) {loc : Location}
    {n : Node} : nodes.lookup loc = some n ↔ (loc, n) ∈ nodes := by
  induction nodes with
  | nil => simp
  | cons m nodes ih =>
    obtain ⟨k, v⟩ := m
    have ⟨hk, hs⟩ := List.nodup_cons.1 h
    by_cases he : loc = k
    · subst he
      have : (loc, n) ∉ nodes := fun hm => hk (List.mem_map.2 ⟨_, hm, rfl⟩)
      simp [this, eq_comm]
    · simp [List.lookup_cons, beq_false_of_ne he, ih hs, he]

theorem lookup_filter (nodes : Nodes) (p : Location × Node → Bool) (loc : Location)
    (h : ∀ n, p (loc, n) = true) : (nodes.filter p).lookup loc = nodes.lookup loc := by
  induction nodes with
  | nil => rfl
  | cons m nodes ih =>
    obtain ⟨k, v⟩ := m
    by_cases he : loc = k
    · subst he
      simp [h]
    · by_cases hp : p (k, v) = true
      · simp [hp, List.lookup_cons, beq_false_of_ne he, ih]
      · simp [hp, List.lookup_cons, beq_false_of_ne he, ih]

theorem lookup_filter_none (nodes : Nodes) (p : Location × Node → Bool) (loc : Location)
    (h : ∀ n, p (loc, n) = false) : (nodes.filter p).lookup loc = none := by
  induction nodes with
  | nil => rfl
  | cons m nodes ih =>
    obtain ⟨k, v⟩ := m
    by_cases he : loc = k
    · subst he
      simp [h, ih]
    · by_cases hp : p (k, v) = true
      · simp [hp, List.lookup_cons, beq_false_of_ne he, ih]
      · simp [hp, ih]

theorem mem_of_find? (t : FileTree) {loc : Location} {n : Node} (h : t.find? loc = some n) :
    loc = [] ∨ (loc, n) ∈ t.nodes := by
  by_cases he : loc = []
  · exact .inl he
  · exact .inr ((lookup_eq_some_iff t.distinct).1 (by simpa [find?, he] using h))

theorem mem_files {t : FileTree} {loc : Location} : loc ∈ t.files ↔ ∃ b, t.file? loc = some b := by
  have hne : ∀ {n}, (loc, n) ∈ t.nodes → loc ≠ [] := fun h => (t.held _ h).1
  constructor
  · intro h
    obtain ⟨⟨k, v⟩, hm, hv⟩ := List.mem_filterMap.1 h
    cases v with
    | directory => simp at hv
    | file b =>
      simp only [Option.some.injEq] at hv
      subst hv
      refine ⟨b, ?_⟩
      have := (lookup_eq_some_iff t.distinct).2 hm
      simp [file?, find?, hne hm, this]
  · rintro ⟨b, h⟩
    have hf : t.find? loc = some (.file b) := by
      unfold file? at h
      split at h <;> simp_all
    rcases t.mem_of_find? hf with rfl | hm
    · simp [find?] at hf
    · exact List.mem_filterMap.2 ⟨_, hm, rfl⟩

/-! ### Changes -/

/-- The tree with a node put at a place that can hold it and is no directory. -/
def place (t : FileTree) (loc : Location) (n : Node) (held : Held t.nodes loc)
    (free : t.find? loc ≠ some .directory) : FileTree where
  nodes := (loc, n) :: without loc t.nodes
  distinct := by
    refine List.nodup_cons.2 ⟨fun h => ?_, nodup_filter _ t.distinct⟩
    obtain ⟨m, hm, he⟩ := List.mem_map.1 h
    simpa [he] using (List.mem_filter.1 hm).2
  held := by
    have keep : ∀ d, (d, Node.directory) ∈ t.nodes →
        (d, Node.directory) ∈ (loc, n) :: without loc t.nodes := by
      intro d hd
      refine List.mem_cons_of_mem _ (List.mem_filter.2 ⟨hd, ?_⟩)
      have hne : d ≠ [] := (t.held _ hd).1
      have : d ≠ loc := by
        rintro rfl
        exact free (by simpa [find?, hne] using (lookup_eq_some_iff t.distinct).2 hd)
      simpa using this
    intro m hm
    have h : Held t.nodes m.1 := by
      rcases List.mem_cons.1 hm with rfl | hm
      · exact held
      · exact t.held _ (List.mem_filter.1 hm).1
    exact ⟨h.1, h.2.imp_right (keep _)⟩

theorem find?_place (t : FileTree) (loc : Location) (n : Node) (held free) (l : Location) :
    (t.place loc n held free).find? l = if l = loc then some n else t.find? l := by
  have hne := held.1
  by_cases hl : l = loc
  · subst hl
    simp [find?, place, hne]
  · have := lookup_filter t.nodes (·.1 != loc) l (by simp [hl])
    simp [find?, place, without, hl, List.lookup_cons, beq_false_of_ne hl, this]

instance (nodes : Nodes) (loc : Location) : Decidable (Held nodes loc) :=
  inferInstanceAs (Decidable (_ ∧ _))

/-- Why a place cannot hold anything: what should contain it is missing or is a file. -/
def holdFault (t : FileTree) (loc : Location) : Fault :=
  match t.find? loc.dropLast with
  | some (.file _) => .notDirectory
  | _ => .notFound

/-- Creates a file or replaces its content. -/
def writeFile (t : FileTree) (loc : Location) (bytes : List UInt8) : Except Fault FileTree :=
  if free : t.find? loc = some .directory then .error .isDirectory
  else if held : Held t.nodes loc then .ok (t.place loc (.file bytes) held free)
  else .error (t.holdFault loc)

/-- Creates a directory; one that is there already stays. -/
def makeDirectory (t : FileTree) (loc : Location) : Except Fault FileTree :=
  if free : t.find? loc = some .directory then .ok t
  else if held : Held t.nodes loc then
    if (t.find? loc).isSome then .error .notDirectory
    else .ok (t.place loc .directory held free)
  else .error (t.holdFault loc)

theorem find?_writeFile {t u : FileTree} {loc : Location} {bytes : List UInt8}
    (h : t.writeFile loc bytes = .ok u) (l : Location) :
    u.find? l = if l = loc then some (.file bytes) else t.find? l := by
  unfold writeFile at h
  split at h
  · simp at h
  · split at h
    · cases h
      exact find?_place ..
    · simp at h

theorem find?_makeDirectory {t u : FileTree} {loc : Location} (h : t.makeDirectory loc = .ok u)
    (l : Location) : u.find? l = if l = loc then some .directory else t.find? l := by
  unfold makeDirectory at h
  split at h
  · rename_i hd
    cases h
    split <;> simp_all
  · split at h
    · split at h
      · simp at h
      · cases h
        exact find?_place ..
    · simp at h

/-- Deletes a file. -/
def removeFile (t : FileTree) (loc : Location) : Except Fault FileTree :=
  match h : t.file? loc with
  | none => .error (if t.isDirectory loc then .isDirectory else .notFound)
  | some bytes => .ok {
      nodes := without loc t.nodes
      distinct := nodup_filter _ t.distinct
      held := by
        intro m hm
        have ⟨hne, hp⟩ := t.held _ (List.mem_filter.1 hm).1
        refine ⟨hne, hp.imp_right fun hd => List.mem_filter.2 ⟨hd, ?_⟩⟩
        have hd' := (lookup_eq_some_iff t.distinct).2 hd
        have hne' : m.1.dropLast ≠ [] := (t.held _ hd).1
        have : m.1.dropLast ≠ loc := by
          intro he
          rw [he] at hd' hne'
          simp [file?, find?, hne', hd'] at h
        simpa using this }

theorem find?_removeFile {t u : FileTree} {loc : Location} (h : t.removeFile loc = .ok u)
    (l : Location) : u.find? l = if l = loc then none else t.find? l := by
  unfold removeFile at h
  split at h
  · simp at h
  · rename_i b hb
    cases h
    have hne : loc ≠ [] := by
      rintro rfl
      simp [file?, find?] at hb
    by_cases hl : l = loc
    · subst hl
      have := lookup_filter_none t.nodes (·.1 != l) l (by simp)
      simp [find?, without, hne, this]
    · have := lookup_filter t.nodes (·.1 != loc) l (by simp [hl])
      simp [find?, without, hl, this]

/-- Deletes what a place holds with everything inside. -/
def removeAll (t : FileTree) (loc : Location) : FileTree where
  nodes := t.nodes.filter fun n => !loc.isPrefixOf n.1
  distinct := nodup_filter _ t.distinct
  held := by
    intro m hm
    have ⟨hm, hk⟩ := List.mem_filter.1 hm
    have ⟨hne, hp⟩ := t.held _ hm
    refine ⟨hne, hp.imp_right fun hd => List.mem_filter.2 ⟨hd, ?_⟩⟩
    simp only [Bool.not_eq_true', Bool.eq_false_iff, ne_eq, List.isPrefixOf_iff_prefix] at hk ⊢
    exact fun h => hk (h.trans (List.dropLast_prefix _))

theorem find?_removeAll (t : FileTree) {loc l : Location} (hl : l ≠ []) :
    (t.removeAll loc).find? l = if loc <+: l then none else t.find? l := by
  by_cases h : loc <+: l
  · have := lookup_filter_none t.nodes (fun n => !loc.isPrefixOf n.1) l (by simp [h])
    simp [find?, removeAll, hl, h, this]
  · have hp : loc.isPrefixOf l = false := by
      simpa [Bool.eq_false_iff, List.isPrefixOf_iff_prefix] using h
    have := lookup_filter t.nodes (fun n => !loc.isPrefixOf n.1) l (by simp [hp])
    simp [find?, removeAll, hl, h, this]

/-- The names in a directory. -/
def children (t : FileTree) (loc : Location) : List String :=
  t.nodes.filterMap fun n => if n.1.dropLast = loc then n.1.getLast? else none

end FileTree

end TagSchema
