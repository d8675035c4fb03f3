import TagSchema.Proofs.Project.Fresh

/-!
# Checks, dry runs and runs

`check_dryRun_run`: a check lists the files that a dry run reports, and a run changes just these.
Below one root no two outputs share a place (`nodup_places`), so that an attempt finds its file as
it was before the run (`each_write_outcome`).
-/

namespace TagSchema

open TagSchema.FileTree (Location)

/-- The configuration for dry runs, or for others. -/
def Config.withDryRun (c : Config) (dryRun : Bool) : Config :=
  { c with settings := { c.settings with dryRun } }

namespace Write

/-- Whether a run that is not dry would change the file. -/
def Change.isPlanned (c : Change) : Bool :=
  match c.outcome with
  | .wouldWrite _ | .wouldRemove => true
  | _ => false

/-- What writing a content makes of what a file held. -/
def outcome (dryRun : Bool) (content : String) (old : Option (List UInt8)) : Outcome :=
  let bytes := content.toUTF8.toList
  if old = some bytes then .unchanged
  else if dryRun then .wouldWrite content
  else if old.isSome then .updated bytes.length
  else .created bytes.length

/-! ### Single attempts -/

theorem change_outcome {dryRun : Bool} {t u : FileTree} {path content : String}
    {made : Nat → Outcome} {c : Change} (h : change dryRun t path content made = (u, .ok c)) :
    c = ⟨path, if dryRun then .wouldWrite content else made content.toUTF8.toList.length⟩ := by
  unfold change at h
  split at h
  · rename_i dry
    rw [if_pos dry]
    exact (Except.ok.inj (Prod.mk.inj h).2).symm
  · rename_i wet
    rw [if_neg wet]
    obtain ⟨_, _, made⟩ := map_ok (Prod.mk.inj h).2
    exact made.symm

theorem write_outcome {dryRun : Bool} {t u : FileTree} {path content : String} {loc : Location}
    {c : Change} (place : t.locate path = .ok loc)
    (h : write dryRun t path content = (u, .ok c)) :
    c = ⟨path, outcome dryRun content (t.file? loc)⟩ := by
  unfold write at h
  rw [FileTree.read_eq place] at h
  unfold outcome FileTree.file?
  cases found : t.find? loc with
  | none =>
    rw [found] at h
    exact change_outcome h
  | some node =>
    rw [found] at h
    cases node with
    | directory => cases h
    | file old =>
      dsimp only at h ⊢
      split at h
      · rename_i same
        rw [same, if_pos rfl]
        exact (Except.ok.inj (Prod.mk.inj h).2).symm
      · rename_i other
        rw [if_neg (by simpa using other)]
        exact change_outcome h

theorem not_directory_of_write {t u : FileTree} {path content : String} {loc : Location}
    {c : Change} (place : t.locate path = .ok loc)
    (h : write false t path content = (u, .ok c)) : t.find? loc ≠ some .directory := by
  intro dir
  rw [write, FileTree.read_eq place, dir] at h
  cases h

theorem write_dry {t : FileTree} {path content : String} {loc : Location}
    (place : t.locate path = .ok loc) (free : t.find? loc ≠ some .directory) :
    write true t path content = (t, .ok ⟨path, outcome true content (t.file? loc)⟩) := by
  unfold write outcome FileTree.file?
  rw [FileTree.read_eq place]
  cases found : t.find? loc with
  | none => rfl
  | some node =>
    cases node with
    | directory => exact (free found).elim
    | file old =>
      dsimp only
      generalize content.toUTF8.toList = bytes
      by_cases same : old = bytes <;> simp [same, change]

theorem remove_outcome {t u : FileTree} {path : String} {c : Change}
    (h : remove false t path = (u, .ok c)) : c = ⟨path, .removed⟩ := by
  rw [remove, if_neg Bool.false_ne_true] at h
  split at h
  · exact (Except.ok.inj (Prod.mk.inj h).2).symm
  · cases h

/-! ### One attempt after another -/

theorem each_remove_outcome {t u : FileTree} {ps : List String} {changes : List Change}
    (h : each (remove false) t ps = (u, .ok changes)) :
    changes = ps.map fun p => ⟨p, .removed⟩ := by
  induction ps generalizing t changes with
  | nil => exact (Except.ok.inj (Prod.mk.inj h).2).symm
  | cons p ps ih =>
    obtain ⟨v, c, rest, rfl, first, later⟩ := each_cons_ok h
    rw [remove_outcome first, ih later, List.map_cons]

theorem each_remove_dry (t : FileTree) (ps : List String) :
    each (remove true) t ps = (t, .ok (ps.map fun p => ⟨p, .wouldRemove⟩)) := by
  induction ps with
  | nil => rfl
  | cons p ps ih =>
    rw [each, remove, if_pos rfl]
    dsimp only
    rw [ih]
    rfl

section

variable {α : Type} (path content : α → String) (place : α → Location)

/-- At different places every attempt finds what was there before the first. -/
theorem each_write_outcome {t u : FileTree} {xs : List α} {changes : List Change}
    (stands : ∀ x ∈ xs, t.StandsAt (path x) (place x))
    (ordinary : ∀ x ∈ xs, ¬ IsScratch (place x)) (distinct : (xs.map place).Nodup)
    (h : each (fun t x => write false t (path x) (content x)) t xs = (u, .ok changes)) :
    changes = xs.map fun x => ⟨path x, outcome false (content x) (t.file? (place x))⟩ := by
  induction xs generalizing t changes with
  | nil => exact (Except.ok.inj (Prod.mk.inj h).2).symm
  | cons x xs ih =>
    obtain ⟨v, c, rest, rfl, first, later⟩ := each_cons_ok h
    rw [List.forall_mem_cons] at stands ordinary
    have ⟨apart, distinct⟩ := List.nodup_cons.mp distinct
    have ⟨changed, _⟩ := write_ok stands.1 first
    have kept : ∀ y ∈ xs, v.file? (place y) = t.file? (place y) := by
      intro y member
      have other : place y ≠ place x := fun same => apart (same ▸ List.mem_map_of_mem member)
      rw [FileTree.file?, FileTree.file?,
        changed.frame _ (ordinary.2 y member) (by rwa [List.mem_singleton])]
    rw [List.map_cons, write_outcome stands.1.locate first,
      ih (fun y member => (stands.2 y member).congr changed.directories) ordinary.2 distinct later]
    exact congrArg _ (List.map_congr_left fun y member => by rw [kept y member])

theorem not_directory_of_each {t u : FileTree} {xs : List α} {changes : List Change}
    (stands : ∀ x ∈ xs, t.StandsAt (path x) (place x))
    (h : each (fun t x => write false t (path x) (content x)) t xs = (u, .ok changes)) :
    ∀ x ∈ xs, t.find? (place x) ≠ some .directory := by
  induction xs generalizing t changes with
  | nil => simp
  | cons x xs ih =>
    obtain ⟨v, c, rest, _, first, later⟩ := each_cons_ok h
    rw [List.forall_mem_cons] at stands ⊢
    have ⟨changed, _⟩ := write_ok stands.1 first
    refine ⟨not_directory_of_write stands.1.locate first, fun y member dir => ?_⟩
    exact ih (fun y member => (stands.2 y member).congr changed.directories) later y member
      ((changed.directories _).mp dir)

theorem each_write_dry {t : FileTree} {xs : List α}
    (places : ∀ x ∈ xs, t.locate (path x) = .ok (place x))
    (free : ∀ x ∈ xs, t.find? (place x) ≠ some .directory) :
    each (fun t x => write true t (path x) (content x)) t xs =
      (t, .ok (xs.map fun x => ⟨path x, outcome true (content x) (t.file? (place x))⟩)) := by
  induction xs with
  | nil => rfl
  | cons x xs ih =>
    rw [List.forall_mem_cons] at places free
    rw [each, write_dry places.1 free.1]
    dsimp only
    rw [ih places.2 free.2]
    rfl

end

end Write

namespace Project

open TagSchema.Generate (Output outputName)

variable {t u : FileTree} {c : Config} {root : String} {ps : List String} {pl : Plan}

/-! ### Places of outputs -/

theorem nodup_places_package {roots : List String} (regular : Regular t c roots) {p : String}
    {D : Location} {outs : List Output} (leads : t.LeadsTo p D)
    (made : Generate.ofPackage t c.settings p = .ok outs) :
    (outs.map fun o => t.placeOf o.path).Nodup := by
  have ⟨kept, _⟩ :=
    Generate.entries_ofPackage leads (fun n h => (regular.candidate h).1) made
  have once : (outs.map (·.entry.1)).Nodup :=
    kept.nodup ((FileTree.nodup_namesIn t D).filter _)
  have source {o : Output} (member : o ∈ outs) := regular.candidate
    (kept.subset (List.mem_map_of_mem (f := fun o : Output => o.entry.1) member))
  refine List.Nodup.map_on ?_ (List.Nodup.of_map _ once)
  intro o member o' member' same
  have place {o : Output} (member : o ∈ outs) := FileTree.placeOf_eq
    (output_stands regular.names regular.flat leads made member).1.locate
  rw [place member, place member'] at same
  have ⟨_, more, candidate⟩ := source member
  have ⟨_, more', candidate'⟩ := source member'
  exact List.inj_on_of_nodup_map once member member' (Generate.outputName_injective candidate more
    candidate' more' (List.append_singleton_inj.mp same).2)

theorem nodup_places_packages {roots : List String} (regular : Regular t c roots)
    {perPackage : List (List Output)} (distinct : (ps.map t.placeOf).Nodup)
    (leads : ∀ p ∈ ps, ∃ D, t.LeadsTo p D)
    (made : List.Forall₂ (fun p outs => Generate.ofPackage t c.settings p = .ok outs) ps
      perPackage) : (perPackage.flatten.map fun o => t.placeOf o.path).Nodup := by
  induction made with
  | nil => exact .nil
  | @cons p outs ps perPackage first later ih =>
    have ⟨apart, distinct⟩ := List.nodup_cons.mp distinct
    rw [List.forall_mem_cons] at leads
    obtain ⟨D, leads_p⟩ := leads.1
    rw [List.flatten_cons, List.map_append, List.nodup_append]
    refine ⟨nodup_places_package regular leads_p first, ih distinct leads.2, ?_⟩
    intro l left l' right same
    obtain ⟨o, member, rfl⟩ := List.mem_map.mp left
    obtain ⟨o', member', rfl⟩ := List.mem_map.mp right
    obtain ⟨outs', listed, member'⟩ := List.mem_flatten.mp member'
    obtain ⟨q, present, made'⟩ := (mem_mapM_ok (mapM_eq_ok_iff.mpr later)).mp listed
    obtain ⟨E, leads_q⟩ := leads.2 q present
    have stands := (output_stands regular.names regular.flat leads_p first member).1
    have stands' := (output_stands regular.names regular.flat leads_q made' member').1
    rw [FileTree.placeOf_eq stands.locate, FileTree.placeOf_eq stands'.locate] at same
    refine apart (List.mem_map.mpr ⟨q, present, ?_⟩)
    rw [FileTree.placeOf_eq leads_p.place, FileTree.placeOf_eq leads_q.place,
      (List.append_singleton_inj.mp same).1]

/-- Below one root every output has a place of its own. -/
theorem nodup_places (regular : Regular t c [root]) (planned : plan t c [root] = .ok pl) :
    (pl.outputs.map fun o => t.placeOf o.path).Nodup := by
  obtain ⟨ps, found, _⟩ := plan_covers planned
  obtain ⟨outputs, made, h⟩ := bind_ok planned
  obtain ⟨left, _, h⟩ := bind_ok h
  obtain rfl := pure_ok h
  rw [generate, packages, bind_of_ok (mapError_eq_ok_iff.mpr found)] at made
  obtain ⟨perPackage, made, h⟩ := bind_ok made
  obtain ⟨R, leads⟩ := regular.directories root (List.mem_singleton.mpr rfl)
  rw [pure_ok h]
  refine nodup_places_packages regular (Scan.nodup_packages regular.names found)
    (fun p member =>
      Scan.directory_of_mem_packages regular.names found member)
    ((mapM_eq_ok_iff.mp made).imp fun p outs made => mapError_eq_ok_iff.mp made)

/-! ### What is due -/

/-- Whether the place of an output holds something else. -/
def isDue (t : FileTree) (o : Output) : Bool :=
  t.file? (t.placeOf o.path) != some o.contents.toUTF8.toList

/-- What writing an output reports. -/
def outputChange (dryRun : Bool) (t : FileTree) (o : Output) : Write.Change :=
  ⟨o.path, Write.outcome dryRun o.contents (t.file? (t.placeOf o.path))⟩

theorem isPlanned_outputChange (t : FileTree) (o : Output) :
    (outputChange true t o).isPlanned = isDue t o := by
  unfold outputChange Write.outcome isDue Write.Change.isPlanned
  dsimp only
  generalize t.file? (t.placeOf o.path) = old, o.contents.toUTF8.toList = bytes
  by_cases same : old = some bytes <;> simp [same]

theorem isMade_outputChange (t : FileTree) (o : Output) :
    (outputChange false t o).isMade = isDue t o := by
  unfold outputChange Write.outcome isDue Write.Change.isMade
  dsimp only
  generalize t.file? (t.placeOf o.path) = old, o.contents.toUTF8.toList = bytes
  by_cases same : old = some bytes
  · simp [same]
  · cases old <;> simp [same]

theorem outcome_of_not_due {dryRun : Bool} {o : Output} (h : isDue t o = false) :
    (outputChange dryRun t o).outcome = .unchanged := by
  unfold isDue at h
  rw [outputChange, Write.outcome, if_pos (by simpa using h)]

theorem staleness?_eq_none_iff {o : Output} {l : Location} (place : t.locate o.path = .ok l) :
    staleness? t o = none ↔ isDue t o = false := by
  rw [staleness?, FileTree.readText?_eq place, isDue, FileTree.placeOf_eq place,
    bne_eq_false_iff_eq]
  cases held : (t.file? l).bind Text.ofUtf8? with
  | none =>
    refine iff_of_false (Option.some_ne_none _) fun same => ?_
    rw [same, Option.bind_some, Text.ofUtf8?_toUTF8] at held
    cases held
  | some text =>
    obtain ⟨bytes, file, read⟩ := Option.bind_eq_some_iff.mp held
    rw [file, Text.ofUtf8?_eq_some_iff.mp read, Option.some_inj]
    dsimp only
    constructor
    · intro settled
      split at settled
      · rename_i same
        rw [same]
      · cases settled
    · intro same
      rw [← Text.ofUtf8?_eq_some_iff, Text.ofUtf8?_toUTF8] at same
      rw [if_pos (Option.some.inj same)]

theorem staleness?_ne_orphaned (o : Output) : staleness? t o ≠ some .orphaned := by
  unfold staleness?
  split
  · simp
  · split <;> simp

theorem paths_stale {outs : List Output} (places : ∀ o ∈ outs, ∃ l, t.locate o.path = .ok l) :
    (outs.filterMap fun o => (staleness? t o).map (StaleFile.mk o.path)).map (·.path) =
      (outs.filter (isDue t)).map (·.path) := by
  induction outs with
  | nil => rfl
  | cons o outs ih =>
    rw [List.forall_mem_cons] at places
    obtain ⟨l, place⟩ := places.1
    have settled := staleness?_eq_none_iff place
    rw [List.filterMap_cons, List.filter_cons]
    cases stale : staleness? t o with
    | none =>
      rw [settled.mp stale]
      exact ih places.2
    | some reason =>
      have due : isDue t o = true := by
        by_contra fresh
        rw [settled.mpr (by simpa using fresh)] at stale
        cases stale
      rw [due]
      exact congrArg (o.path :: ·) (ih places.2)

section Reports

variable {keep : Write.Change → Bool} {dryRun : Bool} {outcome : Write.Outcome}

/-- The reports on outputs and orphans that are kept name what is due, and then the orphans. -/
theorem paths_kept (due : ∀ o, keep (outputChange dryRun t o) = isDue t o)
    (kept : ∀ x, keep ⟨x, outcome⟩ = true) (outs : List Output) (orphans : List String) :
    ((outs.map (outputChange dryRun t) ++ orphans.map (Write.Change.mk · outcome)).filter
        keep).map (·.path) =
      (outs.filter (isDue t)).map (·.path) ++ orphans := by
  have early : (outs.map (outputChange dryRun t)).filter keep =
      (outs.filter (isDue t)).map (outputChange dryRun t) := by
    rw [List.filter_map]
    exact congrArg _ (List.filter_congr fun o _ => due o)
  have late : (orphans.map (Write.Change.mk · outcome)).filter keep =
      orphans.map (⟨·, outcome⟩) := by
    refine List.filter_eq_self.mpr fun change member => ?_
    obtain ⟨x, _, rfl⟩ := List.mem_map.mp member
    exact kept x
  rw [List.filter_append, early, late, List.map_append, List.map_map, List.map_map]
  exact congrArg _ (List.map_id _)

theorem unchanged_of_not_kept (due : ∀ o, keep (outputChange dryRun t o) = isDue t o)
    (kept : ∀ x, keep ⟨x, outcome⟩ = true) {outs : List Output} {orphans : List String}
    {change : Write.Change}
    (member : change ∈ outs.map (outputChange dryRun t) ++ orphans.map (⟨·, outcome⟩))
    (other : keep change = false) : change.outcome = .unchanged := by
  rcases List.mem_append.mp member with member | member
  · obtain ⟨o, _, rfl⟩ := List.mem_map.mp member
    exact outcome_of_not_due ((due o).symm.trans other)
  · obtain ⟨x, _, rfl⟩ := List.mem_map.mp member
    rw [kept x] at other
    cases other

end Reports

/-! ### Agreement -/

theorem run_of_apply {roots : List String} {changes : List Write.Change}
    (planned : plan t c roots = .ok pl)
    (applied : pl.apply c.settings.dryRun t = (u, .ok changes)) :
    run t c roots = (u, .ok ⟨pl.outputs, changes⟩) := by
  rw [run, planned]
  dsimp only
  rw [applied]
  rfl

theorem apply_reports {roots : List String} {changes : List Write.Change}
    (regular : Regular t c roots) (found : Scan.packages t (scanOptions c) roots = .ok ps)
    (covers : pl.Covers t c ps) (distinct : (pl.outputs.map fun o => t.placeOf o.path).Nodup)
    (h : pl.apply false t = (u, .ok changes)) :
    changes = pl.outputs.map (outputChange false t) ++ pl.orphans.map (⟨·, .removed⟩) ∧
      pl.apply true t = (t, .ok (pl.outputs.map (outputChange true t) ++
        pl.orphans.map (⟨·, .wouldRemove⟩))) := by
  have stands (o : Output) (member : o ∈ pl.outputs) := covers.output_place regular found member
  obtain ⟨v, written, removed, rfl, first, later⟩ := apply_ok h
  constructor
  · rw [Write.each_remove_outcome later]
    congr 1
    exact Write.each_write_outcome Output.path Output.contents (fun o => t.placeOf o.path)
      (fun o member => (stands o member).1) (fun o member => (stands o member).2) distinct first
  · have free := Write.not_directory_of_each Output.path Output.contents
      (fun o => t.placeOf o.path) (fun o member => (stands o member).1) first
    have writes := Write.each_write_dry Output.path Output.contents (fun o => t.placeOf o.path)
      (fun o member => (stands o member).1.locate) free
    rw [Plan.apply, writes]
    dsimp only
    rw [Write.each_remove_dry]
    rfl

/-- A check, a dry run, and a run that leaves the tree `u` say the same of every file. -/
structure Agree (u : FileTree) (stale : List StaleFile) (dry made : Report) : Prop where
  outputs : dry.outputs = made.outputs
  ordered : stale = stale.filter (·.reason != .orphaned) ++ stale.filter (·.reason == .orphaned)
  /-- There is a report on every output and on every orphan. -/
  covered : made.changes.map (·.path) =
    made.outputs.map (·.path) ++ (stale.filter (·.reason == .orphaned)).map (·.path)
  paths : dry.changes.map (·.path) = made.changes.map (·.path)
  planned : (dry.changes.filter (·.isPlanned)).map (·.path) = stale.map (·.path)
  done : (made.changes.filter (·.isMade)).map (·.path) = stale.map (·.path)
  unplanned : ∀ change ∈ dry.changes, change.isPlanned = false → change.outcome = .unchanged
  undone : ∀ change ∈ made.changes, change.isMade = false → change.outcome = .unchanged
  contents : ∀ path content, ⟨path, .wouldWrite content⟩ ∈ dry.changes →
    u.read path = .ok content.toUTF8.toList

/-- The outputs that a check lists, in front of the orphans. -/
def staleOutputs (t : FileTree) (outs : List Output) : List StaleFile :=
  outs.filterMap fun o => (staleness? t o).map (StaleFile.mk o.path)

theorem reason_of_mem_staleOutputs {outs : List Output} {file : StaleFile}
    (h : file ∈ staleOutputs t outs) : file.reason ≠ .orphaned := by
  obtain ⟨o, _, found⟩ := List.mem_filterMap.mp h
  obtain ⟨reason, stale, rfl⟩ := Option.map_eq_some_iff.mp found
  rintro rfl
  exact staleness?_ne_orphaned o stale

theorem filter_orphaned (outs : List Output) (orphans : List String) :
    (staleOutputs t outs ++ orphans.map (StaleFile.mk · .orphaned)).filter
        (·.reason != .orphaned) = staleOutputs t outs ∧
      (staleOutputs t outs ++ orphans.map (StaleFile.mk · .orphaned)).filter
        (·.reason == .orphaned) = orphans.map (StaleFile.mk · .orphaned) := by
  have other : ∀ file ∈ staleOutputs t outs, (file.reason == .orphaned) = false := fun _ member =>
    beq_false_of_ne (reason_of_mem_staleOutputs member)
  have late : ∀ file ∈ orphans.map (StaleFile.mk · .orphaned),
      (file.reason == .orphaned) = true := by simp
  rw [List.filter_append, List.filter_append]
  constructor
  · rw [List.filter_eq_self.mpr fun file member => by rw [bne, other file member]; rfl,
      List.filter_eq_nil_iff.mpr fun file member => by rw [bne, late file member]; simp,
      List.append_nil]
  · rw [List.filter_eq_self.mpr late,
      List.filter_eq_nil_iff.mpr fun file member => by rw [other file member]; simp,
      List.nil_append]

theorem agree_of_written {outs : List Output} {orphans : List String}
    (places : ∀ o ∈ outs, ∃ l, t.locate o.path = .ok l)
    (written : ∀ o ∈ outs, u.read o.path = .ok o.contents.toUTF8.toList) :
    Agree u (staleOutputs t outs ++ orphans.map (StaleFile.mk · .orphaned))
      ⟨outs, outs.map (outputChange true t) ++ orphans.map (⟨·, .wouldRemove⟩)⟩
      ⟨outs, outs.map (outputChange false t) ++ orphans.map (⟨·, .removed⟩)⟩ := by
  have ⟨early, late⟩ := filter_orphaned (t := t) outs orphans
  have listed : (staleOutputs t outs ++ orphans.map (StaleFile.mk · .orphaned)).map (·.path) =
      (outs.filter (isDue t)).map (·.path) ++ orphans := by
    rw [List.map_append, staleOutputs, paths_stale places, List.map_map]
    exact congrArg _ (List.map_id _)
  have planned := isPlanned_outputChange t
  have made := isMade_outputChange t
  refine ⟨rfl, by rw [early, late], ?_, ?_, ?_, ?_,
    fun _ => unchanged_of_not_kept planned fun _ => rfl,
    fun _ => unchanged_of_not_kept made fun _ => rfl, ?_⟩
  · rw [late]
    simp [outputChange, Function.comp_def]
  · simp [outputChange, Function.comp_def]
  · rw [listed, paths_kept planned fun _ => rfl]
  · rw [listed, paths_kept made fun _ => rfl]
  · intro path content member
    rcases List.mem_append.mp member with member | member
    · obtain ⟨o, present, same⟩ := List.mem_map.mp member
      obtain ⟨rfl, outcome⟩ := Write.Change.mk.inj same
      unfold Write.outcome at outcome
      dsimp only at outcome
      split at outcome
      · cases outcome
      · obtain rfl := Write.Outcome.wouldWrite.inj outcome
        exact written o present
    · obtain ⟨x, _, same⟩ := List.mem_map.mp member
      cases same

/-- A check lists the files that a dry run reports, and a run changes just these. -/
theorem check_dryRun_run {report : Report} (names : t.Named)
    (noBare : ∀ l ∈ t.files, l.getLast? ≠ some ".go") (valid : c.Valid)
    (noSlash : '/' ∉ c.settings.suffix.toList) (directory : t.node root = .ok .directory)
    (made : (run t (c.withDryRun false) [root]).2 = .ok report) :
    ∃ stale dry, check t c [root] = .ok stale ∧
      (run t (c.withDryRun true) [root]).2 = .ok dry ∧
      Agree (run t (c.withDryRun false) [root]).1 stale dry report := by
  have ⟨ends, more⟩ := Config.suffix_of_valid valid
  have leads : ∃ R, t.LeadsTo root R := by
    obtain ⟨R, place, held⟩ := bind_ok directory
    refine ⟨R, place, ?_⟩
    split at held
    · rename_i found
      rw [found, pure_ok held]
    · cases held
  have regular : Regular t c [root] :=
    ⟨names, noBare, ⟨ends, more, noSlash⟩, List.forall_mem_singleton.mpr leads⟩
  obtain ⟨pl, changes, planned, applied⟩ := run_ok (c := c.withDryRun false) rfl made
  -- A plan does not depend on whether the run is dry.
  have planned : plan t c [root] = .ok pl := planned
  obtain ⟨ps, found, covers⟩ := plan_covers planned
  have brought := apply_brought regular found covers applied
  obtain ⟨rfl, dry⟩ :=
    apply_reports regular found covers (nodup_places regular planned) applied
  have whole := run_of_apply (c := c.withDryRun false) planned applied
  rw [whole] at made
  obtain rfl := Except.ok.inj made
  have stands (o : Output) (member : o ∈ pl.outputs) :=
    (covers.output_place regular found member).1.locate
  refine ⟨staleOutputs t pl.outputs ++ pl.orphans.map (StaleFile.mk · .orphaned), _, ?_,
    congrArg Prod.snd (run_of_apply (c := c.withDryRun true) planned dry),
    agree_of_written (fun o member => ⟨_, stands o member⟩) fun o member => ?_⟩
  · rw [check, bind_of_ok planned]
    rfl
  · rw [FileTree.read_eq (FileTree.locate_congr brought.directories (stands o member)),
      brought.written o member _ (stands o member)]

theorem check_dryRun_run_halfDone : ∃ stale dry made,
    (run halfDone (Config.standard.withDryRun false) ["."]).2 = .ok made ∧
      check halfDone .standard ["."] = .ok stale ∧
      (run halfDone (Config.standard.withDryRun true) ["."]).2 = .ok dry ∧
      Agree (run halfDone (Config.standard.withDryRun false) ["."]).1 stale dry made := by
  have succeeds : (run halfDone (Config.standard.withDryRun false) ["."]).2.toOption.isSome =
      true := by decide +kernel
  obtain ⟨report, made⟩ := Option.isSome_iff_exists.mp succeeds
  have made := toOption_eq_some_iff.mp made
  have directory : halfDone.node "." = .ok .directory := toOption_eq_some_iff.mp (by decide +kernel)
  obtain ⟨stale, dry, checked, predicted, agree⟩ :=
    check_dryRun_run (c := .standard) (by decide +kernel) (by decide) (by decide +kernel)
      (by decide +kernel) directory made
  exact ⟨stale, dry, report, made, checked, predicted, agree⟩

end Project

end TagSchema
