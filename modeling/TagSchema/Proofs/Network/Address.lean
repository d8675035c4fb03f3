import Mathlib.Data.List.Basic
import TagSchema.Network.Address
import TagSchema.Proofs.Number.Read
import TagSchema.Proofs.Text.Fields

/-!
# What reads as an IP address

An address of version 6 is eight groups between colons, or two rows of groups with `::` between them
that stand for seven at most; a dotted quad may be the last of them and stands for two. This is
`parse?_v6_iff`, and `parse?_v4_iff` says that what reads as an address of version 4 is a dotted
quad.
-/

namespace TagSchema.Network

open TagSchema.Number TagSchema.Text

/-! ### Octets and groups -/

/-- One to four hexadecimal digits. -/
def IsGroup (g : List Char) : Prop := (readGroup g).isSome = true

def IsQuad (q : List Char) : Prop := (readQuad q).isSome = true

theorem isGroup_iff {g : List Char} : IsGroup g ↔
    (g ≠ [] ∧ g.length ≤ 4) ∧ ∀ c ∈ g, (digitValue 16 c).isSome = true := by
  rw [IsGroup, readGroup]
  split
  · rename_i long
    simp only [Option.isSome_none, Bool.false_eq_true, false_iff]
    rintro ⟨⟨-, short⟩, -⟩
    omega
  · rename_i short
    rw [isSome_readNat, and_right_comm, and_iff_left (Nat.le_of_not_lt short)]

theorem IsGroup.not_mem {g : List Char} (group : IsGroup g) {c : Char}
    (other : (digitValue 16 c).isSome = false) : c ∉ g := by
  intro member
  have digit := (isGroup_iff.mp group).2 c member
  rw [other] at digit
  cases digit

theorem IsGroup.isPiece {g : List Char} (group : IsGroup g) : IsPiece ':' g :=
  ⟨(isGroup_iff.mp group).1.1, group.not_mem rfl⟩

theorem isSome_mapM {α β : Type} {f : α → Option β} {xs : List α} :
    (xs.mapM f).isSome = true ↔ ∀ x ∈ xs, (f x).isSome = true := by
  induction xs with
  | nil => simp
  | cons x xs ih =>
    rw [List.mapM_cons, List.forall_mem_cons, ← ih]
    cases f x with
    | none => simp
    | some y => cases xs.mapM f <;> simp

theorem length_of_mapM_eq_some {α β : Type} {f : α → Option β} {xs : List α} {ys : List β}
    (h : xs.mapM f = some ys) : ys.length = xs.length := by
  induction xs generalizing ys with
  | nil =>
    obtain rfl : [] = ys := Option.some.inj h
    rfl
  | cons x xs ih =>
    rw [List.mapM_cons] at h
    obtain ⟨y, -, h⟩ := Option.bind_eq_some_iff.mp h
    obtain ⟨ys, rest, h⟩ := Option.bind_eq_some_iff.mp h
    rw [← Option.some.inj h, List.length_cons, List.length_cons, ih rest]

theorem isSome_readOctet {o : List Char} : (readOctet o).isSome = true ↔
    (o.length ≤ 3 ∧ (o.head? = some '0' → o.length ≤ 1)) ∧ ∃ n ≤ 255, readNat 10 o = some n := by
  rw [readOctet]
  split
  · rename_i out
    simp only [Bool.or_eq_true, Bool.and_eq_true, decide_eq_true_eq, beq_iff_eq] at out
    refine iff_of_false Bool.false_ne_true ?_
    rintro ⟨⟨short, zero⟩, -⟩
    rcases out with long | ⟨long, leading⟩
    · omega
    · have := zero leading
      omega
  · rename_i fits
    simp only [Bool.or_eq_true, Bool.and_eq_true, decide_eq_true_eq, beq_iff_eq, not_or, not_and']
      at fits
    rw [and_iff_right ⟨Nat.le_of_not_lt fits.1, fun zero => Nat.le_of_not_lt (fits.2 zero)⟩]
    cases readNat 10 o with
    | none => simp
    | some n => by_cases small : n ≤ 255 <;> simp [small]

theorem isSome_of_readOctet {o : List Char} (octet : (readOctet o).isSome = true) {c : Char}
    (member : c ∈ o) : (digitValue 10 c).isSome = true := by
  obtain ⟨-, n, -, value⟩ := isSome_readOctet.mp octet
  exact (isSome_readNat.mp (Option.isSome_iff_exists.mpr ⟨n, value⟩)).2 c member

theorem isQuad_iff {q : List Char} : IsQuad q ↔
    ∃ os, q = ['.'].intercalate os ∧ os.length = 4 ∧ ∀ o ∈ os, (readOctet o).isSome = true := by
  have read : IsQuad q ↔
      (∀ o ∈ fields '.' q, (readOctet o).isSome = true) ∧ (fields '.' q).length = 4 := by
    rw [IsQuad, readQuad, ← isSome_mapM]
    cases octets : (fields '.' q).mapM readOctet with
    | none => simp
    | some ns =>
      rw [← length_of_mapM_eq_some octets]
      by_cases four : ns.length = 4 <;> simp [four]
  rw [read]
  constructor
  · rintro ⟨octets, four⟩
    exact ⟨_, (intercalate_fields q).symm, four, octets⟩
  · rintro ⟨os, rfl, four, octets⟩
    have dotless : ∀ o ∈ os, '.' ∉ o := by
      intro o member dot
      have digit := isSome_of_readOctet (octets o member) dot
      cases digit
    rw [fields_intercalate (by rintro rfl; cases four) dotless]
    exact ⟨octets, four⟩

namespace IsQuad

variable {q : List Char}

theorem dot_mem (quad : IsQuad q) : '.' ∈ q := by
  obtain ⟨os, rfl, four, -⟩ := isQuad_iff.mp quad
  match os, four with
  | o :: o' :: os, _ => simp [List.intercalate_cons_cons]

theorem dot_or_digit (quad : IsQuad q) {c : Char} (member : c ∈ q) :
    c = '.' ∨ (digitValue 10 c).isSome = true := by
  obtain ⟨os, rfl, -, octets⟩ := isQuad_iff.mp quad
  rcases mem_of_mem_intercalate member with rfl | ⟨o, among, member⟩
  · exact .inl rfl
  · exact .inr (isSome_of_readOctet (octets o among) member)

theorem not_mem (quad : IsQuad q) {c : Char} (dot : c ≠ '.')
    (other : (digitValue 10 c).isSome = false) : c ∉ q := by
  intro member
  rcases quad.dot_or_digit member with same | digit
  · exact dot same
  · rw [other] at digit
    cases digit

theorem isPiece (quad : IsQuad q) : IsPiece ':' q :=
  ⟨List.ne_nil_of_mem quad.dot_mem, quad.not_mem (by decide) rfl⟩

theorem not_isGroup (quad : IsQuad q) : ¬ IsGroup q :=
  fun group => group.not_mem rfl quad.dot_mem

end IsQuad

/-! ### Rows of groups -/

/-- The pieces stand for `n` groups; if `tail`, the last of them may be a dotted quad. -/
def Stands (tail : Bool) (ps : List (List Char)) (n : Nat) : Prop :=
  (∀ p ∈ ps, IsGroup p) ∧ ps.length = n ∨
    tail = true ∧ ∃ init q, ps = init ++ [q] ∧ (∀ p ∈ init, IsGroup p) ∧ IsQuad q ∧
      init.length + 2 = n

theorem Stands.group_or_quad {tail : Bool} {ps : List (List Char)} {n : Nat}
    (h : Stands tail ps n) : ∀ p ∈ ps, IsGroup p ∨ IsQuad p := by
  rcases h with ⟨groups, -⟩ | ⟨-, init, q, rfl, groups, quad, -⟩
  · exact fun p member => .inl (groups p member)
  · intro p member
    rcases List.mem_append.mp member with member | last
    · exact .inl (groups p member)
    · exact .inr (List.mem_singleton.mp last ▸ quad)

theorem Stands.isPiece {tail : Bool} {ps : List (List Char)} {n : Nat} (h : Stands tail ps n) :
    ∀ p ∈ ps, IsPiece ':' p :=
  fun p member => (h.group_or_quad p member).elim IsGroup.isPiece IsQuad.isPiece

theorem stands_concat {tail : Bool} {init : List (List Char)} {last : List Char} {n : Nat} :
    Stands tail (init ++ [last]) n ↔ (∀ p ∈ init, IsGroup p) ∧
      (IsGroup last ∧ init.length + 1 = n ∨ tail = true ∧ IsQuad last ∧ init.length + 2 = n) := by
  rw [Stands, List.forall_mem_append, List.forall_mem_singleton, List.length_append]
  constructor
  · rintro (⟨⟨groups, group⟩, count⟩ | ⟨allowed, init, q, same, groups, quad, count⟩)
    · exact ⟨groups, .inl ⟨group, count⟩⟩
    · obtain ⟨rfl, ⟨⟩⟩ := List.append_inj' same rfl
      exact ⟨groups, .inr ⟨allowed, quad, count⟩⟩
  · rintro ⟨groups, ⟨group, count⟩ | ⟨allowed, quad, count⟩⟩
    · exact .inl ⟨⟨groups, group⟩, count⟩
    · exact .inr ⟨allowed, init, last, rfl, groups, quad, count⟩

theorem Stands.slash_not_mem {tail : Bool} {ps : List (List Char)} {n : Nat}
    (h : Stands tail ps n) : '/' ∉ [':'].intercalate ps := by
  intro joined
  rcases mem_of_mem_intercalate joined with same | ⟨p, member, slash⟩
  · cases same
  · rcases h.group_or_quad p member with group | quad
    · exact group.not_mem rfl slash
    · exact quad.not_mem (by decide) rfl slash

theorem length_quadGroups {q : List Char} {octets : List Nat} (h : readQuad q = some octets) :
    (quadGroups octets).length = 2 := by
  obtain ⟨ns, -, h⟩ := Option.bind_eq_some_iff.mp h
  split at h
  · rename_i four
    rw [← Option.some.inj h]
    match ns, four with
    | [_, _, _, _], _ => rfl
  · cases h

theorem exists_readGroups_concat {tail : Bool} {init : List (List Char)} {last : List Char}
    {n : Nat} (filled : [':'].intercalate (init ++ [last]) ≠ [])
    (clean : ∀ p ∈ init ++ [last], ':' ∉ p) :
    (∃ gs, readGroups tail ([':'].intercalate (init ++ [last])) = some gs ∧ gs.length = n) ↔
      Stands tail (init ++ [last]) n := by
  rw [readGroups, if_neg (by simpa using filled), fields_intercalate (by simp) clean, stands_concat]
  simp only [List.dropLast_concat, List.getLast?_concat, Option.getD_some]
  have front : (init.mapM readGroup).isSome = true ↔ ∀ p ∈ init, IsGroup p := isSome_mapM
  rw [← front]
  cases groups : init.mapM readGroup with
  | none => simp
  | some gs =>
    rw [← length_of_mapM_eq_some groups]
    cases group : readGroup last with
    | some g =>
      have isGroup : IsGroup last := by rw [IsGroup, group]; rfl
      have notQuad : ¬ IsQuad last := fun quad => quad.not_isGroup isGroup
      simp [isGroup, notQuad]
    | none =>
      have notGroup : ¬ IsGroup last := by simp [IsGroup, group]
      cases quad : readQuad last with
      | none => simp [notGroup, IsQuad, quad]
      | some octets =>
        have two := length_quadGroups quad
        cases tail <;> simp [notGroup, IsQuad, quad, two]

theorem exists_readGroups {tail : Bool} {cs : List Char} {n : Nat} :
    (∃ gs, readGroups tail cs = some gs ∧ gs.length = n) ↔
      ∃ ps, cs = [':'].intercalate ps ∧ Stands tail ps n := by
  constructor
  · intro h
    by_cases none : cs = []
    · obtain ⟨gs, read, rfl⟩ := h
      subst none
      obtain rfl : [] = gs := Option.some.inj read
      exact ⟨[], rfl, .inl ⟨by simp, rfl⟩⟩
    · obtain ⟨init, last, whole⟩ :=
        (List.eq_nil_or_concat' _).resolve_left (fields_ne_nil ':' cs)
      have joined : [':'].intercalate (fields ':' cs) = cs := intercalate_fields cs
      have clean (p) (member : p ∈ fields ':' cs) := not_mem_fields member
      rw [whole] at joined clean
      rw [← joined] at h
      exact ⟨_, joined.symm, (exists_readGroups_concat (by rwa [joined]) clean).mp h⟩
  · rintro ⟨ps, rfl, stands⟩
    have pieces := stands.isPiece
    rcases ps.eq_nil_or_concat' with rfl | ⟨init, last, rfl⟩
    · rcases stands with ⟨-, rfl⟩ | ⟨-, init, q, none, -⟩
      · exact ⟨[], rfl, rfl⟩
      · simp at none
    · refine (exists_readGroups_concat ?_ fun p member => (pieces p member).2).mpr stands
      intro none
      have same : init ++ [last] = [] := intercalate_injective pieces (by simp) none
      simp at same

/-! ### Addresses -/

/-- Two rows of groups with `::` between them. -/
def doubled (front back : List (List Char)) : List Char :=
  [':'].intercalate front ++ ':' :: ':' :: [':'].intercalate back

theorem doubled_injective {front back front' back' : List (List Char)}
    (hf : ∀ p ∈ front, IsPiece ':' p) (hb : ∀ p ∈ back, IsPiece ':' p)
    (hf' : ∀ p ∈ front', IsPiece ':' p) (hb' : ∀ p ∈ back', IsPiece ':' p)
    (same : doubled front back = doubled front' back') : front = front' ∧ back = back' := by
  have cut := cutAt_doubled hf ([':'].intercalate back)
  rw [← doubled, same, doubled, cutAt_doubled hf', Option.some.injEq, Prod.mk.injEq] at cut
  exact ⟨(intercalate_injective hf' hf cut.1).symm, (intercalate_injective hb' hb cut.2).symm⟩

theorem doubled_ne_intercalate {front back ps : List (List Char)}
    (hf : ∀ p ∈ front, IsPiece ':' p) (hp : ∀ p ∈ ps, IsPiece ':' p) :
    doubled front back ≠ [':'].intercalate ps := by
  intro same
  have cut := cutAt_doubled hf ([':'].intercalate back)
  rw [← doubled, same, cutAt_single hp] at cut
  cases cut

/-- Eight groups, or `::` in place of at least one. -/
def IsV6 (cs : List Char) : Prop :=
  (∃ ps, cs = [':'].intercalate ps ∧ Stands true ps 8) ∨
    ∃ front back m n, cs = doubled front back ∧ Stands false front m ∧ Stands true back n ∧
      m + n ≤ 7

theorem isSome_readV6_of_cut {cs front back : List Char}
    (cut : cutAt [':', ':'] cs = some (front, back)) : (readV6 cs).isSome = true ↔
      ∃ m n, (∃ ps, front = [':'].intercalate ps ∧ Stands false ps m) ∧
        (∃ ps, back = [':'].intercalate ps ∧ Stands true ps n) ∧ m + n ≤ 7 := by
  simp only [← exists_readGroups]
  rw [readV6, cut]
  dsimp only
  cases readGroups false front with
  | none => simp
  | some fs =>
    cases readGroups true back with
    | none => simp
    | some bs => by_cases few : fs.length + bs.length ≤ 7 <;> simp [few]

theorem isSome_readV6_of_no_cut {cs : List Char} (cut : cutAt [':', ':'] cs = none) :
    (readV6 cs).isSome = true ↔ ∃ ps, cs = [':'].intercalate ps ∧ Stands true ps 8 := by
  rw [← exists_readGroups, readV6, cut]
  dsimp only
  cases readGroups true cs with
  | none => simp
  | some gs => by_cases eight : gs.length = 8 <;> simp [eight]

theorem isSome_readV6 {cs : List Char} : (readV6 cs).isSome = true ↔ IsV6 cs := by
  constructor
  · intro read
    cases cut : cutAt [':', ':'] cs with
    | none => exact .inl ((isSome_readV6_of_no_cut cut).mp read)
    | some found =>
      obtain ⟨_, _⟩ := found
      obtain ⟨m, n, ⟨front, rfl, hf⟩, ⟨back, same, hb⟩, few⟩ :=
        (isSome_readV6_of_cut cut).mp read
      refine .inr ⟨front, back, m, n, ?_, hf, hb, few⟩
      rw [cutAt_eq_some cut, same, doubled, List.append_assoc]
      rfl
  · rintro (⟨ps, rfl, stands⟩ | ⟨front, back, m, n, rfl, hf, hb, few⟩)
    · exact (isSome_readV6_of_no_cut (cutAt_single stands.isPiece)).mpr ⟨ps, rfl, stands⟩
    · exact (isSome_readV6_of_cut (cutAt_doubled hf.isPiece _)).mpr
        ⟨m, n, ⟨front, rfl, hf⟩, ⟨back, rfl, hb⟩, few⟩

theorem IsV6.colon_mem {cs : List Char} (h : IsV6 cs) : ':' ∈ cs := by
  rcases h with ⟨ps, rfl, stands⟩ | ⟨front, back, m, n, rfl, -⟩
  · have several : 2 ≤ ps.length := by
      rcases stands with ⟨-, count⟩ | ⟨-, init, q, rfl, -, -, count⟩
      · omega
      · rw [List.length_append]
        omega
    match ps, several with
    | p :: p' :: ps, _ => simp [List.intercalate_cons_cons]
  · simp [doubled]

theorem IsV6.slash_not_mem {cs : List Char} (h : IsV6 cs) : '/' ∉ cs := by
  rcases h with ⟨ps, rfl, stands⟩ | ⟨front, back, m, n, rfl, hf, hb, -⟩
  · exact stands.slash_not_mem
  · simp [doubled, hf.slash_not_mem, hb.slash_not_mem]

theorem parse?_v4_iff {cs : List Char} : (∃ octets, Address.parse? cs = some (.v4 octets)) ↔
    IsQuad cs := by
  rw [IsQuad, Address.parse?]
  cases readQuad cs with
  | none => cases readV6 cs <;> simp
  | some octets => simp

theorem parse?_v6_iff {cs : List Char} : (∃ groups, Address.parse? cs = some (.v6 groups)) ↔
    IsV6 cs := by
  have apart : IsQuad cs → ¬ IsV6 cs := fun quad h => quad.isPiece.2 h.colon_mem
  rw [← isSome_readV6] at apart ⊢
  rw [IsQuad] at apart
  rw [Address.parse?]
  cases quad : readQuad cs with
  | none => cases readV6 cs <;> simp
  | some octets =>
    rw [quad] at apart
    simpa using apart rfl

end TagSchema.Network
