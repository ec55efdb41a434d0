import GnomePilot.Sync.Outcome

/-!
# FastSync against SlowSync

The two main loops hand different records to `standard_abs_sync_record` and rely
on the later passes for the rest.  From one starting state with accurate flags,
`sameResult_iff` says when the two sessions end alike.
-/

namespace GnomePilot.Sync

variable {α : Type}

/-! ## Equal results -/

/-- The same local store, pilot database and archive, up to the order of slots and
of archive entries of different records. -/
structure SameResult (s t : SyncState α) : Prop where
  loc : ∀ i, i ≠ 0 → s.store.recordAt i = t.store.recordAt i
  unnumbered : ∀ u l, l.ID = 0 → (s.store.get u = some l ↔ t.store.get u = some l)
  pilot : ∀ i, s.pilot.get i = t.pilot.get i
  archive : ∀ i, s.archivedAt i = t.archivedAt i

theorem atRest_eq_iff {s t : SyncState α} {i : Nat} :
    (s.pair i).atRest = (t.pair i).atRest ↔
      s.store.recordAt i = t.store.recordAt i ∧ s.pilot.get i = t.pilot.get i ∧
        s.archivedAt i = t.archivedAt i := by
  simp [Pair.atRest, SyncState.pair]

/-- Two sessions with the same loose part end alike if their pairs do. -/
theorem sameResult_iff_pairs {base : Nat} {s t : SyncState α}
    (hloose : s.loose base = t.loose base) :
    SameResult s t ↔ ∀ i, 0 < i → i < base → (s.pair i).atRest = (t.pair i).atRest := by
  have hslot : ∀ u l, Unissued base l.ID →
      (s.store.get u = some l ↔ t.store.get u = some l) := by
    intro u l hid
    have h := congrFun (congrArg Loose.slot hloose) u
    simp only [SyncState.loose] at h
    have hfilter : ∀ o : Option (LocalRecord α), o = some l ↔
        o.filter (fun l => decide (Unissued base l.ID)) = some l := by
      intro o
      rw [Option.filter_eq_some_iff]
      simp [hid]
    rw [hfilter, h, ← hfilter]
  have hpilot : ∀ i, base ≤ i → s.pilot.get i = t.pilot.get i := by
    intro i hi
    have h := congrFun (congrArg Loose.rem hloose) i
    simpa [SyncState.loose, hi] using h
  have harch : ∀ i, Unissued base i → s.archivedAt i = t.archivedAt i := by
    intro i hi
    have h := congrFun (congrArg Loose.arch hloose) i
    simpa [SyncState.loose, hi] using h
  constructor
  · intro h i h0 _
    exact atRest_eq_iff.2 ⟨h.loc i (by omega), h.pilot i, h.archive i⟩
  · intro h
    refine ⟨?_, fun u l h0 => hslot u l (h0 ▸ unissued_zero base), ?_, ?_⟩
    · intro i hi
      by_cases hb : i < base
      · exact (atRest_eq_iff.1 (h i (by omega) hb)).1
      · apply LocalStore.recordAt_congr
        intro u l hid
        exact hslot u l (Or.inr (by omega))
    · intro i
      by_cases hi : i = 0
      · rw [hi, PilotDB.get_zero, PilotDB.get_zero]
      · by_cases hb : i < base
        · exact (atRest_eq_iff.1 (h i (by omega) hb)).2.1
        · exact hpilot i (by omega)
    · intro i
      by_cases hi : Unissued base i
      · exact harch i hi
      · obtain ⟨h0, hb⟩ := not_unissued.mp hi
        exact (atRest_eq_iff.1 (h i h0 hb)).2.2

/-! ## Pairs that depend on being visited -/

/-- Passing over the flagged record changes nothing: a later pass resolves the
pair, the local status has no arm, or both sides are alike already. -/
def SkipHarmless (l : LocalRecord α) (d : DlpRecord α) : Prop :=
  l.archived = false ∧ l.attr ≠ .nothing ∨
    l.archived = true ∧ (l.attr = .new ∨ l.attr = .pending) ∧
      (d.archived = true ∨ d.deleted = false) ∨
    l.archived = false ∧ l.attr = .nothing ∧ d.dirty = true ∧ d.live = true ∧
      l.content = d.content ∧ l.secret = d.secret

section Pairs

variable [DecidableEq α] [Inhabited α]

omit [Inhabited α] in
theorem visit_flagged_iff {i : Nat} {l : LocalRecord α} {d : DlpRecord α} (hid : l.ID = i)
    (hflag : d.flagged = true) :
    (outcome i true l d).result i l d = (outcome i false l d).result i l d ↔
      SkipHarmless l d := by
  obtain ⟨attr, archived, secret, ID, content⟩ := l
  obtain ⟨dsecret, dirty, deleted, darchived, dcontent⟩ := d
  simp only at hid
  subst hid
  unfold outcome syncCase SkipHarmless
  cases attr <;> cases archived <;> cases darchived <;> cases deleted <;> cases dirty <;>
    simp only [DlpRecord.flagged, Bool.or_self, Bool.false_eq_true] at hflag <;>
    by_cases h : content = dcontent <;>
    simp [revisited, standardAbsComputeAttrField, compare, SyncCase.outcome, Outcome.result,
      Pair.start, Pair.close, DlpRecord.live, SyncState.storedRecord, settled, Option.filter, h,
      eq_comm (a := dsecret), eq_comm (a := dcontent)]

omit [Inhabited α] in
/-- An unflagged record visited or not: only an archived local record is treated
differently. -/
theorem visit_unflagged_iff {i : Nat} {l : LocalRecord α} {d : DlpRecord α}
    (hflag : d.flagged = false) :
    (outcome i true l d).result i l d = (outcome i false l d).result i l d ↔
      l.archived = false := by
  obtain ⟨attr, archived, secret, ID, content⟩ := l
  obtain ⟨dsecret, dirty, deleted, darchived, dcontent⟩ := d
  simp only [DlpRecord.flagged, Bool.or_eq_false_iff] at hflag
  obtain ⟨⟨rfl, rfl⟩, rfl⟩ := hflag
  unfold outcome syncCase
  cases attr <;> cases archived <;>
    simp [revisited, standardAbsComputeAttrField, SyncCase.outcome, Outcome.result,
      Pair.start, Pair.close, DlpRecord.live, Option.filter]

/-- A pilot record without a local one is treated differently as well. -/
theorem visit_remote_only_ne (i : Nat) (d : DlpRecord α) :
    ((Pair.start none (some d)).synchronize i true).atRest ≠
      ((Pair.start none (some d)).synchronize i false).atRest := by
  rw [synchronize_remote_only, synchronize_remote_only]
  intro h
  by_cases harch : d.archived = true <;> simp [harch, Pair.start, Pair.close] at h

end Pairs

/-! ## Two sessions from one state -/

/-- The modification flags are accurate: an unflagged pilot record has a local
partner, with the same content unless that is marked as changed, and an unmarked
local record has a pilot partner. -/
structure Accurate (x : Replicas α) : Prop where
  remote : ∀ i d, x.pilot.get i = some d → d.flagged = false →
    ∃ l, x.store.recordAt i = some l ∧ (l.attr = .nothing → l.content = d.content)
  loc : ∀ u l, x.store.get u = some l → l.attr = .nothing → (x.pilot.get l.ID).isSome

variable [DecidableEq α]

/-- `FastSync` and `SlowSync` end differently on the records of `i`: an archived
local record whose pilot record is unflagged is archived by `SlowSync` only, and
a flagged record that `SlowSync` passes over is handled by `FastSync` only. -/
def Replicas.differsAt (x : Replicas α) (i : Nat) : Prop :=
  match x.store.recordAt i, x.pilot.get i with
  | some l, some d =>
    if d.flagged then x.reaches false i = false ∧ ¬ SkipHarmless l d
    else x.reaches false i = true ∧ l.archived = true
  | none, some d => d.flagged = true ∧ x.reaches false i = false
  | _, none => False

variable [Inhabited α]

/-- Pairs end alike in the two sessions unless they are of the kinds named. -/
theorem synchronize_agrees_iff {x : Replicas α} (hx : Accurate x) {i : Nat} (h0 : 0 < i) :
    ((x.pair i).synchronize i (x.reaches true i)).atRest =
      ((x.pair i).synchronize i (x.reaches false i)).atRest ↔ ¬ x.differsAt i := by
  unfold Replicas.pair Replicas.differsAt
  have hfast : x.reaches true i = (x.pilot.get i).any DlpRecord.flagged := by
    simp [Replicas.reaches]
  rw [hfast]
  cases hd : x.pilot.get i with
  | none =>
      rw [Replicas.reaches_eq_false hd]
      cases x.store.recordAt i <;> simp
  | some d =>
      rw [Option.any_some]
      cases hl : x.store.recordAt i with
      | none =>
          cases hflag : d.flagged with
          | false =>
              obtain ⟨l, hl', -⟩ := hx.remote i d hd hflag
              rw [hl] at hl'
              contradiction
          | true =>
              cases x.reaches false i with
              | false => simpa [hflag] using visit_remote_only_ne i d
              | true => simp
      | some l =>
          obtain ⟨u, -, hid⟩ := (x.keyed.recordAt_eq_some (by omega)).1 hl
          rw [synchronize_both, synchronize_both]
          cases hflag : d.flagged with
          | true =>
              cases x.reaches false i with
              | true => simp [hflag]
              | false => simpa [hflag] using visit_flagged_iff hid hflag
          | false =>
              cases x.reaches false i with
              | false => simp [hflag]
              | true =>
                  rw [eq_comm, visit_unflagged_iff hflag]
                  simp [hflag]

/-- From a state with accurate flags, a session through `FastSync` and one through
`SlowSync` end alike exactly when no pair is of the kinds that differ. -/
theorem sameResult_iff (x : Replicas α) (hx : Accurate x) (slow slow' : Bool)
    (dbinfo dbinfo' : DBInfo) (hfast : choosesFast slow dbinfo = true)
    (hslow : choosesFast slow' dbinfo' = false) :
    SameResult (synchronize .none dbinfo (x.start slow)).2
        (synchronize .none dbinfo' (x.start slow')).2 ↔ ∀ i, ¬ x.differsAt i := by
  have hF := (synchronize_passed x slow dbinfo).2
  have hS := (synchronize_passed x slow' dbinfo').2
  rw [sameResult_iff_pairs (by rw [hF.loose, hS.loose, x.start_loose, x.start_loose])]
  have hpair : ∀ i, 0 < i → i < x.pilot.uniqueIDSeed →
      (((synchronize .none dbinfo (x.start slow)).2.pair i).atRest =
        ((synchronize .none dbinfo' (x.start slow')).2.pair i).atRest ↔ ¬ x.differsAt i) := by
    intro i h0 hb
    rw [synchronize_pair x slow dbinfo h0 hb, synchronize_pair x slow' dbinfo' h0 hb, hfast, hslow]
    exact synchronize_agrees_iff hx h0
  constructor
  · intro h i hdiff
    have hsome : ∃ d, x.pilot.get i = some d := by
      unfold Replicas.differsAt at hdiff
      cases hd : x.pilot.get i with
      | none => simp [hd] at hdiff
      | some d => exact ⟨d, rfl⟩
    obtain ⟨d, hd⟩ := hsome
    obtain ⟨h0, hb⟩ := PilotDB.get_issued hd
    exact (hpair i h0 hb).1 (h i h0 hb) hdiff
  · intro h i h0 hb
    exact (hpair i h0 hb).2 (h i)

def modifiedOnPilot : Replicas Nat :=
  .ofLists [⟨.nothing, false, false, 5, 1⟩] [(5, ⟨false, true, false, false, 2⟩)] 6 (by decide)

theorem modifiedOnPilot_accurate : Accurate modifiedOnPilot where
  remote i d hd hflag := by
    have hmem := PilotDB.mem_of_get_ofList hd
    simp only [List.mem_singleton, Prod.mk.injEq] at hmem
    rw [hmem.2] at hflag
    contradiction
  loc u l hl _ := by
    have hmem : l ∈ [(⟨.nothing, false, false, 5, 1⟩ : LocalRecord Nat)] :=
      List.mem_of_getElem? hl
    rw [List.mem_singleton.mp hmem]
    decide

theorem modifiedOnPilot_sameResult :
    SameResult (synchronize .none ⟨1, 1⟩ (modifiedOnPilot.start false)).2
      (synchronize .none ⟨1, 1⟩ (modifiedOnPilot.start true)).2 := by
  refine (sameResult_iff modifiedOnPilot modifiedOnPilot_accurate false true ⟨1, 1⟩ ⟨1, 1⟩ rfl
    rfl).2 ?_
  intro i hdiff
  unfold Replicas.differsAt at hdiff
  cases hd : modifiedOnPilot.pilot.get i with
  | none => simp [hd] at hdiff
  | some d =>
      have hmem := PilotDB.mem_of_get_ofList hd
      simp only [List.mem_singleton, Prod.mk.injEq] at hmem
      have hreach : modifiedOnPilot.reaches false 5 = true := by decide
      have hl : modifiedOnPilot.store.recordAt 5 = some ⟨.nothing, false, false, 5, 1⟩ := by
        decide
      rw [hmem.1] at hdiff hd
      simp [hd, hl, hreach] at hdiff

/-- One record, archived locally and unchanged. -/
def archivedLocally : Replicas Nat :=
  .ofLists [⟨.nothing, true, false, 5, 1⟩] [(5, ⟨false, false, false, false, 1⟩)] 6 (by decide)

/-- `SlowSync` archives it and deletes it on the pilot, `FastSync` leaves both. -/
theorem archivedLocally_differs :
    Accurate archivedLocally ∧ choosesFast false ⟨1, 1⟩ = true ∧ choosesFast true ⟨1, 1⟩ = false ∧
      ¬ SameResult (synchronize .none ⟨1, 1⟩ (archivedLocally.start false)).2
        (synchronize .none ⟨1, 1⟩ (archivedLocally.start true)).2 := by
  refine ⟨⟨?_, ?_⟩, rfl, rfl, ?_⟩
  · intro i d hd _
    have hmem := PilotDB.mem_of_get_ofList hd
    simp only [List.mem_singleton, Prod.mk.injEq] at hmem
    rw [hmem.1, hmem.2]
    exact ⟨⟨.nothing, true, false, 5, 1⟩, by decide, fun _ => rfl⟩
  · intro u l hl _
    have hmem : l ∈ [(⟨.nothing, true, false, 5, 1⟩ : LocalRecord Nat)] :=
      List.mem_of_getElem? hl
    rw [List.mem_singleton.mp hmem]
    decide
  · intro h
    have hpilot := h.pilot 5
    revert hpilot
    decide

end GnomePilot.Sync
