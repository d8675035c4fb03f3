import Mathlib.Data.List.Induction
import Mathlib.Data.List.TakeWhile
import TagSchema.Path
import TagSchema.Proofs.Text.Fields

/-!
# Parts and components of paths

A relative path is told by its parts. `exists_parent_join` takes a name off again that `join` has
put at the end, and `components_join` says what it has put there.
-/

namespace TagSchema

open TagSchema.Text (fields)

/-- A name that an entry of a directory can have. -/
structure IsName (n : String) : Prop where
  filled : n ≠ ""
  noCurrent : n ≠ "."
  noParent : n ≠ ".."
  noSlash : '/' ∉ n.toList

instance (n : String) : Decidable (IsName n) :=
  decidable_of_iff (n ≠ "" ∧ n ≠ "." ∧ n ≠ ".." ∧ '/' ∉ n.toList)
    ⟨fun ⟨filled, current, parent, slash⟩ => ⟨filled, current, parent, slash⟩,
      fun h => ⟨h.filled, h.noCurrent, h.noParent, h.noSlash⟩⟩

theorem endsWith_iff {s t : String} : s.endsWith t = true ↔ t.toList <:+ s.toList := by
  rw [String.endsWith_eq_endsWith_toSlice, String.Slice.endsWith_string_iff]
  simp

theorem isName_of_length {n : String} (long : 2 < n.length) (noSlash : '/' ∉ n.toList) :
    IsName n := by
  refine ⟨?_, ?_, ?_, noSlash⟩ <;>
  · rintro rfl
    revert long
    decide

theorem isName_scratch {n : String} (name : IsName n) : IsName ("." ++ n ++ ".tmp") := by
  refine isName_of_length ?_ (by simp [name.noSlash])
  have tail : ".tmp".length = 4 := rfl
  rw [String.length_append, tail]
  omega

namespace Path

/-- A path that starts at the working directory. -/
def IsRelative (p : String) : Prop := p ≠ "" ∧ isAbsolute p = false

/-! ### Parts -/

theorem isInert_of_name {n : String} (h : IsName n) : isInert n = false := by
  simp [isInert, h.filled, h.noCurrent]

theorem parts_append (a b : String) : parts (a ++ "/" ++ b) = parts a ++ parts b := by
  simp [parts, Text.fields_append]

theorem parts_of_noSlash {n : String} (h : '/' ∉ n.toList) : parts n = [n] := by
  simp [parts, Text.fields_of_not_mem h]

theorem parts_intercalate {ps : List String} (some : ps ≠ []) (h : ∀ p ∈ ps, '/' ∉ p.toList) :
    parts ("/".intercalate ps) = ps := by
  rw [parts, String.toList_intercalate]
  have cut : fields '/' (['/'].intercalate (ps.map String.toList)) = ps.map String.toList :=
    Text.fields_intercalate (by simpa using some) (by simpa using h)
  rw [show "/".toList = ['/'] from rfl, cut, List.map_map]
  simp

theorem noSlash_of_mem_parts {p part : String} (h : part ∈ parts p) : '/' ∉ part.toList := by
  obtain ⟨cs, member, rfl⟩ := List.mem_map.mp h
  rw [String.toList_ofList]
  exact Text.not_mem_fields member

theorem parts_ne_nil (p : String) : parts p ≠ [] := by
  simp [parts, Text.fields_ne_nil]

theorem isRelative_iff {p first : String} {rest : List String} (h : parts p = first :: rest) :
    IsRelative p ↔ first ≠ "" := by
  unfold parts at h
  unfold IsRelative isAbsolute
  cases text : p.toList with
  | nil =>
    have empty : p = "" := String.toList_eq_nil_iff.mp text
    rw [text] at h
    simp only [fields, List.map_cons, List.cons.injEq] at h
    simp [empty, ← h.1]
  | cons c cs =>
    have some : p ≠ "" := by
      rintro rfl
      cases text
    rw [text, fields] at h
    by_cases slash : c = '/'
    · subst slash
      simp only [beq_self_eq_true, if_true, List.map_cons, List.cons.injEq] at h
      simp [← h.1]
    · rw [if_neg (by simpa using slash)] at h
      have filled : first ≠ "" := by
        split at h <;>
        · simp only [List.map_cons, List.cons.injEq] at h
          rw [← h.1]
          simp
      simp [some, slash, filled]

theorem eq_empty_of_parts {p : String} (h : parts p = [""]) : p = "" := by
  have cut : fields '/' p.toList = [[]] := by
    unfold parts at h
    obtain ⟨cs, single, empty⟩ := List.map_eq_singleton_iff.mp h
    rw [single, String.ofList_eq_empty_iff.mp empty]
  have whole : ['/'].intercalate (fields '/' p.toList) = p.toList :=
    Text.intercalate_fields p.toList
  rw [cut] at whole
  exact String.toList_eq_nil_iff.mp whole.symm

theorem isAbsolute_iff {p first : String} {rest : List String} (h : parts p = first :: rest) :
    isAbsolute p = true ↔ first = "" ∧ rest ≠ [] := by
  have relative := isRelative_iff h
  constructor
  · intro absolute
    have started : first = "" := by
      by_contra other
      rw [(relative.mpr other).2] at absolute
      cases absolute
    refine ⟨started, ?_⟩
    rintro rfl
    rw [started] at h
    rw [eq_empty_of_parts h] at absolute
    cases absolute
  · rintro ⟨started, more⟩
    by_contra other
    refine relative.mp ⟨?_, Bool.eq_false_iff.mpr other⟩ started
    rintro rfl
    cases h
    exact more rfl

/-- The parts of a lengthened path, up to an empty part for a slash at the end. -/
theorem parts_join_relative {p x : String} (filled : p ≠ "") (other : IsRelative x) :
    ∃ init, init ≠ [] ∧ parts (join p x) = init ++ parts x ∧
      (parts p = init ∨ parts p = init ++ [""]) := by
  rw [join, other.2]
  by_cases ends : p.endsWith "/" = true
  · obtain ⟨before, text⟩ := endsWith_iff.mp ends
    have cut : p = String.ofList before ++ "/" := by
      rw [← String.toList_inj, ← text]
      simp
    have none : parts "" = [""] := rfl
    have whole : parts p = parts (String.ofList before) ++ [""] := by
      rw [cut, ← none, ← parts_append, String.append_empty]
    refine ⟨parts (String.ofList before), parts_ne_nil _, ?_, .inr whole⟩
    simp only [Bool.false_eq_true, if_false, ends, Bool.or_true, if_true]
    rw [cut, parts_append]
  · refine ⟨parts p, parts_ne_nil _, ?_, .inl rfl⟩
    simp only [Bool.false_eq_true, if_false, filled, decide_false, Bool.false_or, ends]
    rw [parts_append]

theorem isRelative_of_noSlash {x : String} (some : x ≠ "") (noSlash : '/' ∉ x.toList) :
    IsRelative x := by
  refine ⟨some, ?_⟩
  rw [isAbsolute, beq_eq_false_iff_ne]
  intro slash
  exact noSlash (List.mem_of_mem_head? slash)

theorem parts_join {p n : String} (filled : p ≠ "") (name : IsName n) :
    ∃ init, init ≠ [] ∧ parts (join p n) = init ++ [n] ∧
      (parts p = init ∨ parts p = init ++ [""]) := by
  have joined := parts_join_relative filled (isRelative_of_noSlash name.filled name.noSlash)
  rwa [parts_of_noSlash name.noSlash] at joined

/-- The last part of a text that ends in a part of a name. -/
theorem exists_last_part {x e : String} (ends : x.endsWith e = true) (noSlash : '/' ∉ e.toList) :
    ∃ init n, parts x = init ++ [n] ∧ n.endsWith e = true := by
  obtain ⟨before, text⟩ := endsWith_iff.mp ends
  obtain ⟨init, last, _, cut⟩ := Text.fields_append_of_not_mem before noSlash
  refine ⟨init.map String.ofList, String.ofList (last ++ e.toList), ?_, ?_⟩
  · rw [parts, ← text, cut, List.map_append]
    rfl
  · rw [endsWith_iff, String.toList_ofList]
    exact List.suffix_append _ _

/-- The last part that is not inert, with what stands before and behind it. -/
theorem exists_last_active (ps : List String) : (∀ x ∈ ps, isInert x = true) ∨
    ∃ mid x inert, ps = mid ++ x :: inert ∧ isInert x = false ∧ ∀ y ∈ inert, isInert y = true := by
  induction ps with
  | nil => exact .inl (by simp)
  | cons p ps ih =>
    rcases ih with all | ⟨mid, x, inert, rfl, filled, all⟩
    · cases first : isInert p with
      | true => exact .inl (List.forall_mem_cons.mpr ⟨first, all⟩)
      | false => exact .inr ⟨[], p, ps, rfl, first, all⟩
    · exact .inr ⟨p :: mid, x, inert, rfl, filled, all⟩

theorem dropWhile_all_inert {ps : List String} (all : ∀ x ∈ ps, isInert x = true) :
    ps.reverse.dropWhile isInert = [] :=
  List.dropWhile_eq_nil_iff.mpr fun x member => all x (List.mem_reverse.mp member)

theorem dropWhile_inert {x : String} {mid inert : List String} (filled : isInert x = false)
    (all : ∀ y ∈ inert, isInert y = true) :
    (mid ++ x :: inert).reverse.dropWhile isInert = x :: mid.reverse := by
  rw [List.reverse_append, List.reverse_cons, List.append_assoc,
    List.dropWhile_append_of_pos fun y member => all y (List.mem_reverse.mp member),
    List.singleton_append, List.dropWhile_cons_of_neg (by rw [filled]; decide)]

theorem exists_kept (first : String) (mid : List String) : ∃ kept dropped,
    mid = kept ++ dropped ∧ (∀ y ∈ dropped, isInert y = true) ∧
      dropInert first mid = first :: kept := by
  rcases exists_last_active mid with all | ⟨kept, x, inert, rfl, filled, all⟩
  · refine ⟨[], mid, rfl, all, ?_⟩
    rw [dropInert, dropWhile_all_inert all, List.reverse_nil]
  · refine ⟨kept ++ [x], inert, by simp, all, ?_⟩
    rw [dropInert, dropWhile_inert filled all, List.reverse_cons, List.reverse_reverse]

/-- The parent has the parts before the last one that is not inert, up to inert parts at its end. -/
theorem parent?_of_parts {p first x : String} {mid inert : List String}
    (h : parts p = first :: (mid ++ x :: inert)) (filled : isInert x = false)
    (all : ∀ y ∈ inert, isInert y = true) : ∃ kept dropped, mid = kept ++ dropped ∧
      (∀ y ∈ dropped, isInert y = true) ∧
      if first = "" ∧ kept = [] then parent? p = some "/"
      else ∃ d, parent? p = some d ∧ parts d = first :: kept := by
  obtain ⟨kept, dropped, rfl, none, whole⟩ := exists_kept first mid
  refine ⟨kept, dropped, rfl, none, ?_⟩
  unfold parent?
  rw [h]
  simp only [dropWhile_inert filled all, List.reverse_reverse, whole]
  split
  · rename_i bare
    obtain ⟨rfl, rfl⟩ := bare
    rw [if_pos ((isAbsolute_iff h).mpr ⟨rfl, by simp⟩)]
    rfl
  · rename_i more
    split
    · rename_i bare
      obtain ⟨rfl, rfl⟩ := List.cons.inj bare
      exact (more ⟨rfl, rfl⟩).elim
    · refine ⟨_, rfl, parts_intercalate (List.cons_ne_nil _ _) fun y member => ?_⟩
      have listed : y ∈ parts p := by
        rw [h, ← List.cons_append, ← List.cons_append]
        exact List.mem_append_left _ (List.mem_append_left _ member)
      exact noSlash_of_mem_parts listed

/-- Taking off a name at the end leaves the path, but for inert parts at its end. -/
theorem exists_parent_join {p n : String} (relative : IsRelative p) (name : IsName n) :
    ∃ q inert, parent? (join p n) = some q ∧ IsRelative q ∧ parts p = parts q ++ inert ∧
      ∀ x ∈ inert, isInert x = true := by
  obtain ⟨init, some, joined, whole⟩ := parts_join relative.1 name
  obtain ⟨first, mid, rfl⟩ := List.exists_cons_of_ne_nil some
  have started : first ≠ "" := by
    rcases whole with whole | whole <;> exact (isRelative_iff whole).mp relative
  obtain ⟨kept, inert, rfl, all, parent⟩ :=
    parent?_of_parts joined (isInert_of_name name) (by simp)
  rw [if_neg fun bare => started bare.1] at parent
  obtain ⟨q, parent, parts_q⟩ := parent
  have relative_q : IsRelative q := (isRelative_iff parts_q).mpr started
  rcases whole with whole | whole
  · exact ⟨q, inert, parent, relative_q, by rw [whole, parts_q, List.cons_append], all⟩
  · refine ⟨q, inert ++ [""], parent, relative_q, ?_, ?_⟩
    · rw [whole, parts_q, List.cons_append, List.cons_append, List.append_assoc]
    · intro x member
      rcases List.mem_append.mp member with member | member
      · exact all x member
      · rw [List.mem_singleton.mp member]
        rfl

theorem isRelative_join {p n : String} (relative : IsRelative p) (name : IsName n) :
    IsRelative (join p n) := by
  obtain ⟨init, some, joined, whole⟩ := parts_join relative.1 name
  obtain ⟨first, mid, rfl⟩ := List.exists_cons_of_ne_nil some
  refine (isRelative_iff joined).mpr ?_
  rcases whole with whole | whole <;> exact (isRelative_iff whole).mp relative

/-! ### Components -/

theorem laterComponents_append (as bs : List String) :
    laterComponents (as ++ bs) = laterComponents as ++ laterComponents bs := by
  simp [laterComponents]

theorem laterComponents_inert {inert : List String} (h : ∀ x ∈ inert, isInert x = true) :
    laterComponents inert = [] := by
  have none : inert.filter (!isInert ·) = [] := by
    rw [List.filter_eq_nil_iff]
    intro x member
    rw [h x member]
    decide
  rw [laterComponents, none, List.map_nil]

theorem laterComponents_name {n : String} (name : IsName n) : laterComponents [n] = [.name n] := by
  simp [laterComponents, isInert_of_name name, componentOf, name.noParent]

/-- What the first part of a path stands for; `rest` are the other parts. -/
def start (first : String) (rest : List String) : List Component :=
  if first = "" then if rest = [] then [] else [.root]
  else if first = "." then [.current]
  else [componentOf first]

theorem components_eq {p first : String} {rest : List String} (h : parts p = first :: rest) :
    components p = start first rest ++ laterComponents rest := by
  have absolute := isAbsolute_iff h
  rw [components, h, start]
  dsimp only
  by_cases started : first = ""
  · by_cases more : rest = []
    · rw [if_neg fun slash => (absolute.mp slash).2 more, if_pos started, if_pos started,
        if_pos more]
    · rw [if_pos (absolute.mpr ⟨started, more⟩), if_pos started, if_neg more]
  · rw [if_neg fun slash => started (absolute.mp slash).1, if_neg started, if_neg started]

theorem components_of_parts {p q : String} {more : List String} (relative : IsRelative q)
    (h : parts p = parts q ++ more) : components p = components q ++ laterComponents more := by
  obtain ⟨first, rest, parts_q⟩ := List.exists_cons_of_ne_nil (parts_ne_nil q)
  rw [parts_q, List.cons_append] at h
  have started := (isRelative_iff parts_q).mp relative
  have relative_p := (isRelative_iff h).mpr started
  unfold components
  rw [h, parts_q]
  simp only [relative.2, relative_p.2, laterComponents_append, List.append_assoc]

theorem components_parent {p q : String} {inert : List String} (relative : IsRelative q)
    (h : parts p = parts q ++ inert) (all : ∀ x ∈ inert, isInert x = true) :
    components p = components q := by
  rw [components_of_parts relative h, laterComponents_inert all, List.append_nil]

/-- The parts in front stand for the same if other parts follow both of them or neither. -/
theorem start_congr {first : String} {as bs : List String}
    (h : first = "" → (as = [] ↔ bs = [])) : start first as = start first bs := by
  unfold start
  by_cases empty : first = ""
  · rw [if_pos empty, if_pos empty]
    simp only [h empty]
  · rw [if_neg empty, if_neg empty]

/-- A path behind another one loses a point in front. -/
theorem components_join_relative (p : String) {x first : String} {rest : List String}
    (other : IsRelative x) (h : parts x = first :: rest) :
    components (join p x) = (if p = "" then start first rest
      else components p ++ laterComponents [first]) ++ laterComponents rest := by
  by_cases filled : p = ""
  · have bare : join p x = x := by
      rw [filled, join, other.2]
      simp
    rw [bare, if_pos filled, components_eq h]
  · obtain ⟨init, some, joined, whole⟩ := parts_join_relative filled other
    obtain ⟨front, mid, rfl⟩ := List.exists_cons_of_ne_nil some
    obtain ⟨inert, whole, all⟩ : ∃ inert, parts p = front :: (mid ++ inert) ∧
        ∀ x ∈ inert, isInert x = true := by
      rcases whole with whole | whole
      · exact ⟨[], by rw [whole, List.append_nil], by simp⟩
      · exact ⟨[""], whole, by simp [isInert]⟩
    -- An absolute path has a second part before the other path is there.
    have same : start front (mid ++ first :: rest) = start front (mid ++ inert) := by
      refine start_congr fun empty => iff_of_false (by simp) fun none => ?_
      rw [none, empty] at whole
      exact filled (eq_empty_of_parts whole)
    rw [h, List.cons_append] at joined
    rw [if_neg filled, components_eq joined, components_eq whole, same,
      ← List.singleton_append (l := rest), laterComponents_append, laterComponents_append,
      laterComponents_append, laterComponents_inert all]
    simp only [List.append_nil, List.append_assoc]

/-- Whatever the path, a name behind it is its last component. -/
theorem components_join (p : String) {n : String} (name : IsName n) :
    components (join p n) = components p ++ [.name n] := by
  rw [components_join_relative p (isRelative_of_noSlash name.filled name.noSlash)
    (parts_of_noSlash name.noSlash)]
  split
  · rename_i empty
    rw [empty, start, if_neg name.filled, if_neg name.noCurrent, componentOf, if_neg name.noParent]
    rfl
  · rw [laterComponents_name name]
    exact List.append_nil _

theorem fileName?_of_components {p n : String} {before : List Component}
    (h : components p = before ++ [.name n]) : fileName? p = some n := by
  rw [fileName?, h, List.getLast?_append, List.getLast?_singleton, Option.some_or]

theorem fileName?_join (p : String) {n : String} (name : IsName n) :
    fileName? (join p n) = some n :=
  fileName?_of_components (components_join p name)

/-- The path ends in a name behind other parts. -/
structure EndsIn (p n : String) : Prop where
  relative : IsRelative p
  name : IsName n
  parts : ∃ init, init ≠ [] ∧ Path.parts p = init ++ [n]

theorem endsIn_join {p x n : String} {init : List String} (relative : IsRelative p)
    (other : IsRelative x) (name : IsName n) (last : parts x = init ++ [n]) :
    EndsIn (join p x) n := by
  obtain ⟨front, some, joined, whole⟩ := parts_join_relative relative.1 other
  obtain ⟨first, mid, rfl⟩ := List.exists_cons_of_ne_nil some
  refine ⟨(isRelative_iff joined).mpr ?_, name, first :: mid ++ init, by simp, ?_⟩
  · rcases whole with whole | whole <;> exact (isRelative_iff whole).mp relative
  · rw [joined, last, List.append_assoc]

/-- What stands before the name, but for inert parts, is the parent. -/
theorem EndsIn.exists_parent {p n : String} (ends : EndsIn p n) : ∃ q inert, parent? p = some q ∧
    IsRelative q ∧ Path.parts p = Path.parts q ++ (inert ++ [n]) ∧
      ∀ x ∈ inert, isInert x = true := by
  obtain ⟨init, some, whole⟩ := ends.parts
  obtain ⟨first, mid, rfl⟩ := List.exists_cons_of_ne_nil some
  have started : first ≠ "" := (isRelative_iff whole).mp ends.relative
  obtain ⟨kept, inert, rfl, all, parent⟩ :=
    parent?_of_parts whole (isInert_of_name ends.name) (by simp)
  rw [if_neg fun bare => started bare.1] at parent
  obtain ⟨q, parent, parts_q⟩ := parent
  refine ⟨q, inert, parent, (isRelative_iff parts_q).mpr started, ?_, all⟩
  rw [whole, parts_q, List.cons_append, List.cons_append, List.append_assoc]

theorem EndsIn.fileName? {p n : String} (ends : EndsIn p n) : Path.fileName? p = some n := by
  obtain ⟨q, inert, _, relative, whole, all⟩ := ends.exists_parent
  refine @fileName?_of_components p n (components q) ?_
  rw [components_of_parts relative whole, laterComponents_append, laterComponents_inert all,
    laterComponents_name ends.name, List.nil_append]

theorem foldl_join {p : String} {ns : List String} (relative : IsRelative p)
    (names : ∀ n ∈ ns, IsName n) : IsRelative (ns.foldl join p) ∧
      components (ns.foldl join p) = components p ++ ns.map Component.name := by
  induction ns generalizing p with
  | nil => exact ⟨relative, (List.append_nil _).symm⟩
  | cons n ns ih =>
    rw [List.forall_mem_cons] at names
    have ⟨relative', whole⟩ := ih (isRelative_join relative names.1) names.2
    refine ⟨relative', whole.trans ?_⟩
    rw [components_join _ names.1, List.append_assoc]
    rfl

/-! ### Order -/

theorem compare_component_eq_iff {a b : Component} : a.compare b = .eq ↔ a = b := by
  cases a <;> cases b <;> simp [Component.compare, Component.rank]

theorem compareComponents_eq_iff {as bs : List Component} :
    compareComponents as bs = .eq ↔ as = bs := by
  induction as generalizing bs with
  | nil => cases bs <;> simp [compareComponents]
  | cons a as ih =>
    cases bs with
    | nil => simp [compareComponents]
    | cons b bs =>
      rw [compareComponents, Ordering.then_eq_eq, compare_component_eq_iff, ih, List.cons.injEq]

theorem same_iff {p q : String} : same p q = true ↔ components p = components q := by
  rw [same, beq_iff_eq, compare, compareComponents_eq_iff]

instance : Std.TransCmp Component.compare where
  eq_swap {a b} := by
    cases a <;> cases b <;> first | rfl | exact Std.OrientedOrd.eq_swap
  isLE_trans {a b c} first second := by
    cases a <;> cases b <;> cases c <;>
      first | exact Std.TransOrd.isLE_trans first second | rfl | cases first | cases second

theorem compareComponents_eq_compareLex (as bs : List Component) :
    compareComponents as bs = List.compareLex Component.compare as bs := by
  induction as generalizing bs with
  | nil =>
    cases bs with
    | nil => exact List.compareLex_nil_nil.symm
    | cons b bs => exact List.compareLex_nil_cons.symm
  | cons a as ih =>
    cases bs with
    | nil => exact List.compareLex_cons_nil.symm
    | cons b bs => rw [compareComponents, List.compareLex_cons_cons, ih]

theorem compare_trans {p q r : String} (first : compare p q = .lt) (second : compare q r = .lt) :
    compare p r = .lt := by
  rw [compare, compareComponents_eq_compareLex] at *
  exact Std.TransCmp.lt_trans first second

theorem compare_gt_iff {p q : String} : compare p q = .gt ↔ compare q p = .lt := by
  simp only [compare, compareComponents_eq_compareLex]
  exact Std.OrientedCmp.gt_iff_lt

theorem mem_insert_first {p x : String} {qs : List String} (h : x ∈ insert false p qs) :
    x = p ∨ x ∈ qs := by
  induction qs with
  | nil => exact .inl (List.mem_singleton.mp h)
  | cons q qs ih =>
    rw [insert] at h
    split at h
    · exact List.mem_cons.mp h
    · exact .inr h
    · rcases List.mem_cons.mp h with rfl | h
      · exact .inr List.mem_cons_self
      · exact (ih h).imp_right (List.mem_cons_of_mem _)

theorem mem_insert_of_mem {p x : String} {qs : List String} (h : x ∈ qs) :
    x ∈ insert false p qs := by
  induction qs with
  | nil => cases h
  | cons q qs ih =>
    rw [insert]
    split
    · exact List.mem_cons_of_mem _ h
    · exact h
    · rcases List.mem_cons.mp h with rfl | h
      · exact List.mem_cons_self
      · exact List.mem_cons_of_mem _ (ih h)

theorem exists_mem_insert (p : String) (qs : List String) :
    ∃ q ∈ insert false p qs, components q = components p := by
  induction qs with
  | nil => exact ⟨p, List.mem_singleton.mpr rfl, rfl⟩
  | cons q qs ih =>
    rw [insert]
    split
    · exact ⟨p, List.mem_cons_self, rfl⟩
    · rename_i equal
      exact ⟨q, List.mem_cons_self, (compareComponents_eq_iff.mp equal).symm⟩
    · obtain ⟨x, member, same⟩ := ih
      exact ⟨x, List.mem_cons_of_mem _ member, same⟩

theorem sortedFirst_concat (ps : List String) (p : String) :
    sortedFirst (ps ++ [p]) = insert false p (sortedFirst ps) := by
  rw [sortedFirst, List.foldl_append]
  rfl

theorem mem_sortedFirst {p : String} {ps : List String} (h : p ∈ sortedFirst ps) : p ∈ ps := by
  induction ps using List.reverseRecOn with
  | nil => cases h
  | append_singleton ps q ih =>
    rw [sortedFirst_concat] at h
    rw [List.mem_append]
    rcases mem_insert_first h with rfl | h
    · exact .inr (List.mem_singleton.mpr rfl)
    · exact .inl (ih h)

/-- Each path is there once, in some spelling. -/
theorem exists_mem_sortedFirst {p : String} {ps : List String} (h : p ∈ ps) :
    ∃ q ∈ sortedFirst ps, components q = components p := by
  induction ps using List.reverseRecOn with
  | nil => cases h
  | append_singleton ps q ih =>
    rw [sortedFirst_concat]
    rcases List.mem_append.mp h with h | h
    · obtain ⟨x, member, same⟩ := ih h
      exact ⟨x, mem_insert_of_mem member, same⟩
    · rw [List.mem_singleton.mp h]
      exact exists_mem_insert q _

theorem sorted_insert_first {p : String} {qs : List String}
    (sorted : qs.Pairwise (compare · · = .lt)) :
    (insert false p qs).Pairwise (compare · · = .lt) := by
  induction qs with
  | nil => exact List.pairwise_singleton _ _
  | cons q qs ih =>
    have ⟨below, later⟩ := List.pairwise_cons.mp sorted
    rw [insert]
    split
    · rename_i before
      refine List.pairwise_cons.mpr ⟨fun x member => ?_, sorted⟩
      rcases List.mem_cons.mp member with rfl | member
      · exact before
      · exact compare_trans before (below x member)
    · exact sorted
    · rename_i behind
      refine List.pairwise_cons.mpr ⟨fun x member => ?_, ih later⟩
      rcases mem_insert_first member with rfl | member
      · exact compare_gt_iff.mp behind
      · exact below x member

theorem sorted_sortedFirst (ps : List String) : (sortedFirst ps).Pairwise (compare · · = .lt) := by
  induction ps using List.reverseRecOn with
  | nil => exact .nil
  | append_singleton ps p ih =>
    rw [sortedFirst_concat]
    exact sorted_insert_first ih

/-- No path is there in two spellings. -/
theorem nodup_sortedFirst (ps : List String) : ((sortedFirst ps).map components).Nodup := by
  refine List.pairwise_map.mpr ((sorted_sortedFirst ps).imp fun {p q} before same => ?_)
  rw [compare, compareComponents_eq_iff.mpr same] at before
  cases before

/-! ### Stems -/

/-- The stem of a name is what stands before its extension, except where there is nothing. -/
theorem eq_stem_append {n : String} (ends : n.endsWith ".go" = true) (more : n ≠ ".go") :
    n = stem n ++ ".go" := by
  obtain ⟨before, text⟩ := endsWith_iff.mp ends
  have extension : ".go".toList = '.' :: ['g', 'o'] := rfl
  rw [extension] at text
  have cut : fields '.' n.toList = fields '.' before ++ [['g', 'o']] := by
    rw [← text, Text.fields_append]
    rfl
  have whole : (['.'].intercalate (fields '.' before)) = before := Text.intercalate_fields before
  have found : stem n = String.ofList before := by
    unfold stem
    rw [cut, List.reverse_append, List.reverse_singleton, List.singleton_append]
    cases reversed : (fields '.' before).reverse with
    | nil => exact (Text.fields_ne_nil '.' before (List.reverse_eq_nil_iff.mp reversed)).elim
    | cons first rest =>
      have forward : fields '.' before = (first :: rest).reverse := by
        rw [← reversed, List.reverse_reverse]
      dsimp only
      split
      · rename_i none
        rw [Bool.and_eq_true, List.isEmpty_iff, List.isEmpty_iff] at none
        rw [forward, none.1, none.2] at whole
        rw [← whole] at text
        exact (more (String.toList_inj.mp text.symm)).elim
      · rw [← forward, whole]
  rw [found, ← String.toList_inj, ← text]
  simp

theorem stem_injective {n m : String} (ends_n : n.endsWith ".go" = true) (more_n : n ≠ ".go")
    (ends_m : m.endsWith ".go" = true) (more_m : m ≠ ".go") (same : stem n = stem m) : n = m := by
  rw [eq_stem_append ends_n more_n, eq_stem_append ends_m more_m, same]

/-- The name that is an extension only shares its stem with one other name. -/
theorem stem_eq_iff {n m : String} (ends_n : n.endsWith ".go" = true)
    (ends_m : m.endsWith ".go" = true) (distinct : n ≠ m) :
    stem n = stem m ↔ n = ".go" ∧ m = ".go.go" ∨ n = ".go.go" ∧ m = ".go" := by
  have bare : stem ".go" = ".go" := by decide
  constructor
  · intro same
    by_cases bare_n : n = ".go"
    · subst bare_n
      have whole := eq_stem_append ends_m (Ne.symm distinct)
      rw [← same, bare] at whole
      exact .inl ⟨rfl, whole⟩
    · by_cases bare_m : m = ".go"
      · subst bare_m
        have whole := eq_stem_append ends_n bare_n
        rw [same, bare] at whole
        exact .inr ⟨whole, rfl⟩
      · exact (distinct (stem_injective ends_n bare_n ends_m bare_m same)).elim
  · rintro (⟨rfl, rfl⟩ | ⟨rfl, rfl⟩) <;> decide

end Path

end TagSchema
