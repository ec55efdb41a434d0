import GnomePilot.Desktop.Calendar

/-!
# Desktop deletions

`pre_sync` takes its changes from the objects the server still has, so an object
that was deleted since the last sync is in no change list.  What the conduits do
report as deleted is what the calendar conduit split up itself.
-/

namespace GnomePilot

variable {α : Type}

/-- Every unarchived uid of the map without an object is reported once as deleted,
under its pilot id, and no object that is there is reported as deleted. -/
structure DeletionsReported (map : EPilotMap) (st : EdsStore α)
    (records : List (DesktopLocal α)) : Prop where
  once : ∀ u, map.Live u → st.has u = false →
    (records.filter fun r => r.ID = map.pidOf u && r.attr = .deleted).length = 1
  only : ∀ r ∈ records, r.attr = .deleted → st.has r.comp.uid = false

def deletedLast (changes : List (Change α)) (u : String) : Bool :=
  (lastChange changes u).any fun ccc => ccc.type = .deleted

def changesOf (changes : List (Change α)) (u : String) : List (Change α) :=
  changes.filter fun ccc => ccc.comp.uid = u

theorem lastChange_eq_head? (changes : List (Change α)) (u : String) :
    lastChange changes u = (changesOf changes u).reverse.head? := by
  rw [lastChange, changesOf, ← List.filter_reverse, List.head?_filter]

theorem exists_of_deletedLast {changes : List (Change α)} {u : String}
    (h : deletedLast changes u = true) :
    ∃ ccc ∈ changes, ccc.comp.uid = u ∧ ccc.type = .deleted := by
  unfold deletedLast at h
  cases hlast : lastChange changes u with
  | none => simp [hlast] at h
  | some ccc =>
      rw [lastChange] at hlast
      have hmem := List.mem_of_find?_eq_some hlast
      have huid := List.find?_some hlast
      exact ⟨ccc, by simpa using hmem, by simpa using huid, by simpa [lastChange, hlast] using h⟩

/-! ## The context after `pre_sync` -/

/-- What `pre_sync` leaves of a loaded map and a change list. -/
structure AfterPreSync (map : EPilotMap) (changes : List (Change α)) (otherSource : Bool)
    (ctxt : DesktopContext α) : Prop where
  changed : ctxt.changed = changes
  hash : ∀ u, ctxt.changedHash.lookup u =
    if ePilotMapUidIsArchived map u then none else lastChange changes u
  uidMap : ctxt.map.uidMap = if otherSource then ∅ else map.uidMap

theorem afterPreSync {map : EPilotMap} {changes : List (Change α)} (cfg : PreSyncSettings)
    (happ : cfg.appBlockRead = true) (comps : List (EdsObject α))
    (h : ∀ ccc ∈ changes, ccc.type = .deleted → ePilotMapUidIsArchived map ccc.comp.uid = false) :
    AfterPreSync map changes cfg.otherSource
      (finishPreSync cfg (hashChanges map cfg.slow comps changes)).2 := by
  obtain ⟨hmap, hchanged, -, hhash⟩ :=
    foldl_hashChange changes ⟨map, comps, changes, ∅, [], 0, 0, 0, cfg.slow⟩ h
  obtain ⟨-, fchanged, fhash, -, fmap, -⟩ :=
    finishPreSync_fields cfg (hashChanges map cfg.slow comps changes) happ
  refine ⟨fchanged.trans hchanged, fun u => ?_, ?_⟩
  · rw [fhash, hashChanges, hhash u]
    simp
  · rw [fmap, hashChanges, hmap]

namespace AfterPreSync

variable {map : EPilotMap} {changes : List (Change α)} {other : Bool} {ctxt : DesktopContext α}

theorem pidOf_eq (h : AfterPreSync map changes other ctxt) (u : String) :
    ctxt.map.pidOf u = if other then 0 else map.pidOf u := by
  unfold EPilotMap.pidOf
  rw [h.uidMap]
  cases other with
  | true => rfl
  | false => rfl

theorem lastChange_isSome {ccc : Change α} (hc : ccc ∈ changes) :
    (lastChange changes ccc.comp.uid).isSome = true := by
  rw [lastChange, List.find?_isSome]
  exact ⟨ccc, by simpa using hc, by simp⟩

theorem reports_iff (h : AfterPreSync map changes other ctxt) {ccc : Change α}
    (hc : ccc ∈ changes) :
    ctxt.reports ccc = !ePilotMapUidIsArchived map ccc.comp.uid := by
  unfold DesktopContext.reports
  rw [h.hash]
  cases ePilotMapUidIsArchived map ccc.comp.uid with
  | true => rfl
  | false => simpa using lastChange_isSome hc

theorem status_deleted_iff (h : AfterPreSync map changes other ctxt) (u : String) :
    computeStatus ctxt u = .deleted ↔
      ePilotMapUidIsArchived map u = false ∧ deletedLast changes u = true := by
  unfold computeStatus deletedLast
  rw [h.hash]
  cases ePilotMapUidIsArchived map u with
  | true => simp
  | false =>
      cases lastChange changes u with
      | none => simp
      | some ccc =>
          cases htype : ccc.type with
          | added => simp [htype]
          | modified => simp [htype]
          | deleted => simp [htype]

theorem length_reported (hmap : map.Persisted) (h : AfterPreSync map changes other ctxt)
    {u : String} (hu : map.Live u) :
    ((modifiedRecords ctxt).filter fun r => r.ID = map.pidOf u && r.attr = .deleted).length =
      if !other && deletedLast changes u then (changesOf changes u).length else 0 := by
  have h0 := hmap.live_iff.mp hu
  have hpred : ∀ ccc ∈ changes, ((decide ((ctxt.recordOf ccc).ID = map.pidOf u) &&
      decide ((ctxt.recordOf ccc).attr = .deleted)) && ctxt.reports ccc) =
      (decide (ccc.comp.uid = u) && (!other && deletedLast changes u)) := by
    intro ccc hc
    have hID : (ctxt.recordOf ccc).ID = if other then 0 else map.pidOf ccc.comp.uid :=
      h.pidOf_eq ccc.comp.uid
    have hattr : (ctxt.recordOf ccc).attr = .deleted ↔ _ := h.status_deleted_iff ccc.comp.uid
    rw [h.reports_iff hc, hID]
    cases other with
    | true => simp [Ne.symm h0]
    | false =>
        by_cases hccc : ccc.comp.uid = u
        · rw [Bool.eq_iff_iff]
          simp [hattr, hccc, hmap.not_archived hu]
        · have hne : map.pidOf ccc.comp.uid ≠ map.pidOf u := fun heq =>
            hccc (hmap.reachable.pidOf_injective heq.symm h0).symm
          simp [hne, hccc]
  rw [modifiedRecords_eq, h.changed, List.filter_map, List.length_map, List.filter_filter]
  simp only [Function.comp_def]
  rw [List.filter_congr hpred]
  cases hlast : (!other && deletedLast changes u) with
  | true => simp [changesOf]
  | false => simp

/-- Deletions are reported right exactly if every live uid without an object has one
change, a deletion, in a map that is kept, and no live uid with one is deleted last. -/
theorem deletionsReported_iff (hmap : map.Persisted) (h : AfterPreSync map changes other ctxt)
    (hlive : ∀ ccc ∈ changes, ccc.type = .deleted → map.Live ccc.comp.uid)
    (st : EdsStore α) :
    DeletionsReported map st (modifiedRecords ctxt) ↔ ∀ u, map.Live u →
      (st.has u = false → other = false ∧ deletedLast changes u = true ∧
        (changesOf changes u).length = 1) ∧
      (st.has u = true → deletedLast changes u = false) := by
  constructor
  · intro hrep u hu
    constructor
    · intro hgone
      have honce := hrep.once u hu hgone
      rw [length_reported hmap h hu] at honce
      cases other with
      | true => simp at honce
      | false =>
          cases hlast : deletedLast changes u with
          | true => exact ⟨rfl, rfl, by simpa [hlast] using honce⟩
          | false => simp [hlast] at honce
    · intro hhas
      cases hlast : deletedLast changes u with
      | false => rfl
      | true =>
          obtain ⟨ccc, hmem, rfl, -⟩ := exists_of_deletedLast hlast
          have hreport : ctxt.recordOf ccc ∈ modifiedRecords ctxt := by
            rw [modifiedRecords_eq, h.changed]
            refine List.mem_map.mpr ⟨ccc, List.mem_filter.mpr ⟨hmem, ?_⟩, rfl⟩
            simp [h.reports_iff hmem, hmap.not_archived hu]
          have hdeleted : (ctxt.recordOf ccc).attr = .deleted :=
            (h.status_deleted_iff _).mpr ⟨hmap.not_archived hu, hlast⟩
          have hgone := hrep.only _ hreport hdeleted
          have hgone' : st.has ccc.comp.uid = false := hgone
          simp [hhas] at hgone'
  · intro hcond
    refine ⟨fun u hu hgone => ?_, fun r hr hdeleted => ?_⟩
    · obtain ⟨hother, hlast, hlength⟩ := (hcond u hu).1 hgone
      rw [length_reported hmap h hu]
      simp [hother, hlast, hlength]
    · rw [modifiedRecords_eq, h.changed] at hr
      obtain ⟨ccc, -, rfl⟩ := List.mem_map.mp hr
      obtain ⟨-, hlast⟩ := (h.status_deleted_iff ccc.comp.uid).mp hdeleted
      obtain ⟨last, hmem, huid, htype⟩ := exists_of_deletedLast hlast
      have hlive' := huid ▸ hlive last hmem htype
      cases hhas : st.has (ctxt.recordOf ccc).comp.uid with
      | false => rfl
      | true => simp [(hcond _ hlive').2 hhas] at hlast

end AfterPreSync

/-! ## The four conduits -/

/-- The objects of a uid as the server lists them. -/
def EdsStore.under (st : EdsStore α) (u : String) : List (EdsObject α) :=
  st.objects.filter fun o => o.uid = u

theorem has_iff_under {st : EdsStore α} {u : String} : st.has u = true ↔ st.under u ≠ [] := by
  rw [EdsStore.has_iff, EdsStore.under, ne_eq, List.filter_eq_nil_iff]
  simp

theorem buildChanged_eq (comps : List (EdsObject α)) :
    buildChanged comps = (comps.map fun comp => ⟨comp, .modified⟩).reverse := by
  have happend : ∀ init : List (Change α),
      comps.foldl (fun changed comp => ⟨comp, .modified⟩ :: changed) init =
        (comps.map fun comp => ⟨comp, .modified⟩).reverse ++ init := by
    intro init
    induction comps generalizing init with
    | nil => rfl
    | cons comp comps ih => simp [ih]
  rw [buildChanged, happend, List.append_nil]

theorem buildChanged_type {comps : List (EdsObject α)} {ccc : Change α}
    (h : ccc ∈ buildChanged comps) : ccc.type = .modified := by
  rw [buildChanged_eq, List.mem_reverse] at h
  obtain ⟨comp, -, rfl⟩ := List.mem_map.mp h
  rfl

theorem type_ne_deleted {changes : List (Change α)} (h : ∀ ccc ∈ changes, ccc.type = .modified)
    {ccc : Change α} (hc : ccc ∈ changes) : ccc.type ≠ .deleted := by
  rw [h ccc hc]
  decide

/-- The same for a conduit that reports modifications alone. -/
theorem afterPreSync_of_modified {map : EPilotMap} {changes : List (Change α)}
    (cfg : PreSyncSettings) (happ : cfg.appBlockRead = true) (comps : List (EdsObject α))
    (hall : ∀ ccc ∈ changes, ccc.type = .modified) :
    AfterPreSync map changes cfg.otherSource
      (finishPreSync cfg (hashChanges map cfg.slow comps changes)).2 :=
  afterPreSync cfg happ comps fun _ hc h => absurd h (type_ne_deleted hall hc)

/-- A conduit that reports modifications alone needs every live uid to have an object. -/
theorem modifiedOnly_iff {map : EPilotMap} {changes : List (Change α)} (hmap : map.Persisted)
    (cfg : PreSyncSettings) (happ : cfg.appBlockRead = true) (comps : List (EdsObject α))
    (hall : ∀ ccc ∈ changes, ccc.type = .modified) (st : EdsStore α) :
    DeletionsReported map st (modifiedRecords
      (finishPreSync cfg (hashChanges map cfg.slow comps changes)).2) ↔
      ∀ u, map.Live u → st.has u = true := by
  have hlast : ∀ u, deletedLast changes u = false := by
    intro u
    cases hu : deletedLast changes u with
    | false => rfl
    | true =>
        obtain ⟨ccc, hc, -, htype⟩ := exists_of_deletedLast hu
        exact absurd htype (type_ne_deleted hall hc)
  have hafter : AfterPreSync map changes cfg.otherSource
      (finishPreSync cfg (hashChanges map cfg.slow comps changes)).2 :=
    afterPreSync_of_modified cfg happ comps hall
  rw [hafter.deletionsReported_iff hmap (fun _ hc h => absurd h (type_ne_deleted hall hc)) st]
  constructor
  · intro h u hu
    cases hhas : st.has u with
    | true => rfl
    | false => simpa [hlast] using (h u hu).1 hhas
  · intro h u hu
    exact ⟨fun hgone => by simp [h u hu] at hgone, fun _ => hlast u⟩

section Calendar

variable {τ ζ β : Type}

theorem splitTurns_type {ans : Nat → SplitAnswers} {comps : List (EdsObject (ECalEvent τ β))}
    {turn : Change (ECalEvent τ β) × SplitAnswers} (h : turn ∈ splitTurns ans comps) :
    turn.1.type = .modified ∧ ∃ i, turn.2 = ans i := by
  obtain ⟨hc, ha⟩ := List.of_mem_zip h
  obtain ⟨i, -, hi⟩ := List.mem_map.mp ha
  exact ⟨buildChanged_type hc, i, hi.symm⟩

theorem splitTurns_fst (ans : Nat → SplitAnswers) (comps : List (EdsObject (ECalEvent τ β))) :
    (splitTurns ans comps).map Prod.fst = buildChanged comps := by
  rw [splitTurns, List.map_fst_zip]
  simp [buildChanged_eq]

/-- The changes of a uid that the pilot has and no piece takes: the outcomes of its
objects, the last listed first. -/
theorem changesOf_changes (env : CalendarEnv τ ζ) (ans : Nat → SplitAnswers)
    (world : CalendarWorld (ECalEvent τ β)) (map : EPilotMap) {u : String}
    (h0 : map.pidOf u ≠ 0) (hu : ∀ i, NoPiece env (ans i) u) :
    changesOf ((splitPass env ans world world.store.objects).changes map) u =
      ((world.store.under u).map fun o => (dayOutcome env ⟨o, .modified⟩).1).reverse := by
  have hturns : ∀ turn ∈ splitTurns ans world.store.objects,
      turn.1.type = .modified ∧ NoPiece env turn.2 u := by
    intro turn ht
    obtain ⟨htype, i, hi⟩ := splitTurns_type ht
    exact ⟨htype, hi ▸ hu i⟩
  obtain ⟨hchanged, -⟩ := foldl_splitStep_changed env (splitTurns ans world.store.objects)
    ⟨world, world.store.objects, [], []⟩ (fun t ht => (hturns t ht).1) (fun _ hc => nomatch hc)
  obtain ⟨hadded, -⟩ := foldl_splitStep_server env u (splitTurns ans world.store.objects)
    ⟨world, world.store.objects, [], []⟩ hturns (fun _ hc => nomatch hc)
  have hnone : ((splitPass env ans world world.store.objects).added.map
      fun ccc => (ccc, false)).filter (fun c => decide (c.1.comp.uid = u)) = [] := by
    rw [List.filter_eq_nil_iff]
    intro c hc
    obtain ⟨ccc, hccc, rfl⟩ := List.mem_map.mp hc
    simpa using hadded ccc hccc
  have hkeep : ∀ c : Change (ECalEvent τ β) × Bool,
      (decide (c.1.comp.uid = u) && !(c.2 && decide ((ePilotMapLookupPid map c.1.comp.uid
        false).1 = 0))) = decide (c.1.comp.uid = u) := by
    intro c
    by_cases hc : c.1.comp.uid = u
    · simp [hc, EPilotMap.lookupPid_fst, h0]
    · simp [hc]
  unfold changesOf SplitPass.changes
  rw [List.filter_map, List.filter_filter]
  simp only [Function.comp_def, hkeep]
  have houtcomes : (splitTurns ans world.store.objects).map (fun turn => dayOutcome env turn.1) =
      (buildChanged world.store.objects).map (dayOutcome env) := by
    rw [← splitTurns_fst ans, List.map_map]
    rfl
  rw [List.filter_append, hnone, List.append_nil, splitPass, hchanged, List.nil_append,
    houtcomes, buildChanged_eq, EdsStore.under]
  simp [List.filter_map, Function.comp_def, dayOutcome_comp]

theorem deletedLast_changes (env : CalendarEnv τ ζ) (ans : Nat → SplitAnswers)
    (world : CalendarWorld (ECalEvent τ β)) (map : EPilotMap) {u : String}
    (h0 : map.pidOf u ≠ 0) (hu : ∀ i, NoPiece env (ans i) u) :
    deletedLast ((splitPass env ans world world.store.objects).changes map) u =
      (world.store.under u).head?.any fun o => dayKind env o.content = .split := by
  rw [deletedLast, lastChange_eq_head?, changesOf_changes env ans world map h0 hu,
    List.reverse_reverse, List.head?_map]
  cases (world.store.under u).head? with
  | none => rfl
  | some o =>
      cases hkind : dayKind env o.content with
      | within => simp [dayOutcome, hkind]
      | kept => simp [dayOutcome, hkind]
      | split => simp [dayOutcome, hkind]

theorem pidOf_of_deleted (env : CalendarEnv τ ζ) (ans : Nat → SplitAnswers)
    (world : CalendarWorld (ECalEvent τ β)) (map : EPilotMap) {ccc : Change (ECalEvent τ β)}
    (hc : ccc ∈ (splitPass env ans world world.store.objects).changes map)
    (hd : ccc.type = .deleted) : map.pidOf ccc.comp.uid ≠ 0 := by
  obtain ⟨hchanged, hadded⟩ := foldl_splitStep_changed env (splitTurns ans world.store.objects)
    ⟨world, world.store.objects, [], []⟩ (fun t ht => (splitTurns_type ht).1)
    (fun _ hc => nomatch hc)
  obtain ⟨c, hmem, rfl⟩ := List.mem_map.mp hc
  obtain ⟨hmem, hkeep⟩ := List.mem_filter.mp hmem
  cases List.mem_append.mp hmem with
  | inl hmem =>
      rw [splitPass, hchanged, List.nil_append] at hmem
      obtain ⟨turn, hturn, rfl⟩ := List.mem_map.mp hmem
      have hm := (splitTurns_type hturn).1
      have hremoved : (dayOutcome env turn.1).2 = true := by
        unfold dayOutcome at hd ⊢
        cases hkind : dayKind env turn.1.comp.content with
        | within => simp [hkind, hm] at hd
        | kept => rfl
        | split => rfl
      simpa [hremoved, EPilotMap.lookupPid_fst] using hkeep
  | inr hmem =>
      obtain ⟨added, hadd, rfl⟩ := List.mem_map.mp hmem
      rw [hadded added hadd] at hd
      cases hd

/-- Every live uid still has its objects, and what was split of them is reported right:
either a split event of it was removed, then it is the only object of the uid and the
map is kept; or none was, then the object listed first was not split. -/
def SplitsReported (env : CalendarEnv τ ζ) (ans : Nat → SplitAnswers) (cfg : PreSyncSettings)
    (map : EPilotMap) (st : EdsStore (ECalEvent τ β)) : Prop :=
  ∀ u, map.Live u →
    if (splitTurns ans st.objects).any (splitAway env u) then
      (st.under u).length = 1 ∧ cfg.otherSource = false
    else ∃ o, (st.under u).head? = some o ∧ dayKind env o.content ≠ .split

theorem exists_of_splitAway {env : CalendarEnv τ ζ} {ans : Nat → SplitAnswers}
    {st : EdsStore (ECalEvent τ β)} {u : String}
    (h : (splitTurns ans st.objects).any (splitAway env u) = true) :
    ∃ o ∈ st.under u, dayKind env o.content = .split := by
  obtain ⟨turn, hturn, haway⟩ := List.any_eq_true.mp h
  simp only [splitAway, Bool.and_eq_true, decide_eq_true_eq] at haway
  have hcomp := (List.of_mem_zip hturn).1
  rw [buildChanged_eq, List.mem_reverse] at hcomp
  obtain ⟨o, ho, hc⟩ := List.mem_map.mp hcomp
  rw [← hc] at haway
  exact ⟨o, List.mem_filter.mpr ⟨ho, by simpa using haway.1.2⟩, haway.1.1⟩

/-- The calendar conduit reports deletions right exactly if it split no more than it
can report and every other live uid still has its object. -/
theorem calendar_iff {map : EPilotMap} (hmap : map.Persisted) (env : CalendarEnv τ ζ)
    (ans : Nat → SplitAnswers) (cfg : PreSyncSettings) (happ : cfg.appBlockRead = true)
    (world : CalendarWorld (ECalEvent τ β))
    (hpiece : ∀ u, map.Live u → ∀ i, NoPiece env (ans i) u) :
    DeletionsReported map (calendarPreSync env ans cfg map world).2.2.store
      (modifiedRecords (calendarPreSync env ans cfg map world).2.1) ↔
      SplitsReported env ans cfg map world.store := by
  have hlive : ∀ ccc ∈ (splitPass env ans world world.store.objects).changes map,
      ccc.type = .deleted → map.Live ccc.comp.uid := fun ccc hc hd =>
    hmap.live_iff.mpr (pidOf_of_deleted env ans world map hc hd)
  have hafter := afterPreSync cfg happ (splitPass env ans world world.store.objects).comps
    fun ccc hc hd => hmap.not_archived (hlive ccc hc hd)
  have hiff := hafter.deletionsReported_iff hmap hlive
    (splitPass env ans world world.store.objects).world.store
  refine hiff.trans (forall_congr' fun u => imp_congr_right fun hu => ?_)
  have h0 := hmap.live_iff.mp hu
  have hu' := hpiece u hu
  have hturns : ∀ turn ∈ splitTurns ans world.store.objects,
      turn.1.type = .modified ∧ NoPiece env turn.2 u := by
    intro turn ht
    obtain ⟨htype, i, hi⟩ := splitTurns_type ht
    exact ⟨htype, hi ▸ hu' i⟩
  obtain ⟨-, hhas⟩ := foldl_splitStep_server env u (splitTurns ans world.store.objects)
    ⟨world, world.store.objects, [], []⟩ hturns (fun _ hc => nomatch hc)
  rw [splitPass, hhas, ← splitPass, deletedLast_changes env ans world map h0 hu',
    changesOf_changes env ans world map h0 hu', List.length_reverse, List.length_map]
  cases haway : (splitTurns ans world.store.objects).any (splitAway env u) with
  | true =>
      -- the object that was split is the only one if there is only one
      obtain ⟨o, hmem, hkind⟩ := exists_of_splitAway haway
      simp only [Bool.not_true, Bool.and_false, if_true]
      constructor
      · intro h
        exact ⟨(h.1 trivial).2.2, (h.1 trivial).1⟩
      · intro ⟨hlength, hother⟩
        obtain ⟨o', ho'⟩ := List.length_eq_one_iff.mp hlength
        have heq : o = o' := by simpa [ho'] using hmem
        exact ⟨fun _ => ⟨hother, by simp [ho', ← heq, hkind], hlength⟩, fun h => nomatch h⟩
  | false =>
      simp only [Bool.not_false, Bool.and_true, Bool.false_eq_true, if_false]
      cases hunder : world.store.under u with
      | nil =>
          have hgone : world.store.has u = false := by
            cases hhas : world.store.has u with
            | false => rfl
            | true => exact absurd hunder (has_iff_under.mp hhas)
          simp [hgone]
      | cons o os =>
          have hthere : world.store.has u = true := has_iff_under.mpr (by simp [hunder])
          simp [hthere]

/-- When the four conduits report the desktop's deletions right: never, if a live uid
has lost its object. -/
theorem deletions_reported_iff {α : Type} {map : EPilotMap} (hmap : map.Persisted)
    (cfg : PreSyncSettings) (happ : cfg.appBlockRead = true) (st : EdsStore α)
    (env : CalendarEnv τ ζ) (ans : Nat → SplitAnswers) (world : CalendarWorld (ECalEvent τ β))
    (hpiece : ∀ u, map.Live u → ∀ i, NoPiece env (ans i) u) :
    (DeletionsReported map st (modifiedRecords (todoPreSync cfg map st.objects).2) ↔
      ∀ u, map.Live u → st.has u = true) ∧
    (DeletionsReported map st (modifiedRecords (memoPreSync cfg map st.objects).2) ↔
      ∀ u, map.Live u → st.has u = true) ∧
    (DeletionsReported map st (modifiedRecords (addressPreSync cfg map st.objects).2) ↔
      ∀ u, map.Live u → st.has u = true) ∧
    (DeletionsReported map (calendarPreSync env ans cfg map world).2.2.store
      (modifiedRecords (calendarPreSync env ans cfg map world).2.1) ↔
      SplitsReported env ans cfg map world.store) :=
  ⟨modifiedOnly_iff hmap cfg happ st.objects (fun _ hc => buildChanged_type hc) st,
    modifiedOnly_iff hmap cfg happ st.objects (fun _ hc => buildChanged_type hc) st,
    modifiedOnly_iff hmap cfg happ st.objects
      (fun _ hc => buildChanged_type (List.mem_reverse.mp hc)) st,
    calendar_iff hmap env ans cfg happ world hpiece⟩

end Calendar

/-! ## One object, there and deleted -/

/-- The map that a conduit loads after one record with the pilot id 5. -/
def loadedMap : EPilotMap :=
  { readBack { EPilotMap.empty with since := 0 } ⟨"a", ⟨5, false, true⟩⟩ with
    writeTouchedOnly := false }

theorem loadedMap_persisted : loadedMap.Persisted := by
  have hmap : (ePilotMapInsert .empty 5 "a" false).Reachable :=
    .op (.insert 5 "a" false) .empty
  obtain ⟨doc, hwrite⟩ : ∃ doc, (ePilotMapWrite none 0 (ePilotMapInsert .empty 5 "a" false)
      ⟨_, .refl _⟩).2.2 = some doc := ⟨_, rfl⟩
  obtain ⟨map', hread⟩ : ∃ map', (ePilotMapRead (.doc doc)).2 = some map' := ⟨_, rfl⟩
  have hloaded : map' = loadedMap := ePilotMapRead_write hwrite hread
  exact .written 0 ⟨_, .refl _⟩ hmap hwrite (hloaded ▸ hread)

theorem loadedMap_live {u : String} : loadedMap.Live u ↔ u = "a" := by
  have huid : loadedMap.uidMap =
      (∅ : AList fun _ : String => EPilotMapUidNode).insert "a" ⟨5, false, false⟩ := rfl
  unfold EPilotMap.Live
  rw [huid, HashTable.lookup_insert_ite]
  by_cases hu : u = "a"
  · simp [hu]
  · simp [hu]

/-- A day has ten hours. -/
def sampleEnv : CalendarEnv Int Unit where
  timezone := ()
  getTimezone _ := ()
  isDate _ := false
  asTimet t _ := t
  fromTimet t _ _ := t
  timeDayEnd t _ := (t / 10 + 1) * 10
  lt_timeDayEnd t _ := by omega
  generateUid k := "piece" ++ toString k
  multiDaySplit := true

/-- The server takes every call and keeps the uids. -/
def sampleAnswers : SplitAnswers :=
  ⟨fun _ => ⟨none, fun uid => uid.getD "made"⟩, ⟨none, fun uid => uid.getD "made"⟩⟩

def sampleSettings : PreSyncSettings := ⟨true, false, some "home", some "home", false⟩

/-- From the third hour of a day to the fifth of the next. -/
def sampleEvent : EdsObject (ECalEvent Int Unit) :=
  ⟨"a", ⟨some ⟨some 3, none⟩, some ⟨some 15, none⟩, false, ()⟩⟩

theorem sample_noPiece (u : String) (hu : loadedMap.Live u) (i : Nat) :
    NoPiece sampleEnv ((fun _ => sampleAnswers) i) u := by
  have hne : ∀ k : Nat, "piece" ++ toString k ≠ "a" := by
    intro k h
    have hlist := congrArg String.toList h
    simp at hlist
  rw [loadedMap_live.mp hu]
  exact fun k => ⟨hne k, fun _ => hne k⟩

/-- The event is there and is split: it is reported as deleted; the other conduits
have their object and report nothing. -/
theorem deletions_reported_split :
    DeletionsReported loadedMap ⟨[⟨"a", ()⟩]⟩
      (modifiedRecords (todoPreSync sampleSettings loadedMap [⟨"a", ()⟩]).2) ∧
    DeletionsReported loadedMap
      (calendarPreSync sampleEnv (fun _ => sampleAnswers) sampleSettings loadedMap
        ⟨⟨[sampleEvent]⟩, 0⟩).2.2.store
      (modifiedRecords (calendarPreSync sampleEnv (fun _ => sampleAnswers) sampleSettings
        loadedMap ⟨⟨[sampleEvent]⟩, 0⟩).2.1) := by
  have h := deletions_reported_iff loadedMap_persisted sampleSettings rfl
    (⟨[⟨"a", ()⟩]⟩ : EdsStore Unit) sampleEnv (fun _ => sampleAnswers) ⟨⟨[sampleEvent]⟩, 0⟩
    sample_noPiece
  refine ⟨h.1.mpr fun u hu => ?_, h.2.2.2.mpr fun u hu => ?_⟩
  · rw [loadedMap_live.mp hu]
    decide
  · rw [loadedMap_live.mp hu]
    decide

/-- The object was deleted on the desktop, and no conduit reports it. -/
theorem deletion_unreported :
    ¬ DeletionsReported loadedMap (⟨[]⟩ : EdsStore Unit)
      (modifiedRecords (todoPreSync sampleSettings loadedMap []).2) ∧
    ¬ DeletionsReported loadedMap (⟨[]⟩ : EdsStore Unit)
      (modifiedRecords (memoPreSync sampleSettings loadedMap []).2) ∧
    ¬ DeletionsReported loadedMap (⟨[]⟩ : EdsStore Unit)
      (modifiedRecords (addressPreSync sampleSettings loadedMap []).2) ∧
    ¬ DeletionsReported loadedMap
      (calendarPreSync sampleEnv (fun _ => sampleAnswers) sampleSettings loadedMap
        ⟨(⟨[]⟩ : EdsStore (ECalEvent Int Unit)), 0⟩).2.2.store
      (modifiedRecords (calendarPreSync sampleEnv (fun _ => sampleAnswers) sampleSettings
        loadedMap ⟨⟨[]⟩, 0⟩).2.1) := by
  have hlive : loadedMap.Live "a" := loadedMap_live.mpr rfl
  refine ⟨fun h => ?_, fun h => ?_, fun h => ?_, fun h => ?_⟩
  · exact absurd (h.once "a" hlive rfl) (by decide)
  · exact absurd (h.once "a" hlive rfl) (by decide)
  · exact absurd (h.once "a" hlive rfl) (by decide)
  · exact absurd (h.once "a" hlive rfl) (by decide)

end GnomePilot
