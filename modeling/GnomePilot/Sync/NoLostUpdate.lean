import GnomePilot.Sync.Fresh
import GnomePilot.Sync.Outcome

/-!
# Lost updates in two-way synchronisation

A content that was new or modified locally, or dirty and not deleted on the
pilot, should be found after the session in the local store, in the pilot
database or in the archive.  `noLostUpdate_iff` says for which starting states
it is.
-/

namespace GnomePilot.Sync

variable {α : Type}

/-! ## Where a content is found -/

/-- The content is that of record `i` on one of the two sides or in the archive. -/
def Held (s : SyncState α) (i : Nat) (c : α) : Prop :=
  (∃ u l, s.store.get u = some l ∧ l.ID = i ∧ l.content = c) ∨
    (∃ d, s.pilot.get i = some d ∧ d.content = c) ∨ ⟨i, c⟩ ∈ s.archive

def Pair.holds (p : Pair α) (c : α) : Prop :=
  (∃ l, p.loc = some l ∧ l.content = c) ∨ (∃ d, p.rem = some d ∧ d.content = c) ∨ c ∈ p.arch

@[simp] theorem Pair.holds_atRest (p : Pair α) (c : α) : p.atRest.holds c ↔ p.holds c := Iff.rfl

theorem held_iff {base : Nat} {s : SyncState α} (hwf : Wf base s) {i : Nat} (hi : i ≠ 0)
    (hb : i < base) (c : α) : Held s i c ↔ (s.pair i).holds c := by
  unfold Held Pair.holds
  refine or_congr ?_ (or_congr Iff.rfl ?_)
  · constructor
    · rintro ⟨u, l, hl, hid, hc⟩
      exact ⟨l, (hwf.keyed.recordAt_eq_some hi hb).2 ⟨u, hl, hid⟩, hc⟩
    · rintro ⟨l, hl, hc⟩
      obtain ⟨u, hu, hid⟩ := (hwf.keyed.recordAt_eq_some hi hb).1 hl
      exact ⟨u, l, hu, hid, hc⟩
  · simp only [SyncState.pair, SyncState.archivedAt, List.mem_map, List.mem_filter,
      decide_eq_true_eq]
    constructor
    · intro h
      exact ⟨_, ⟨h, rfl⟩, rfl⟩
    · rintro ⟨a, ⟨ha, hid⟩, hc⟩
      rw [← hid, ← hc]
      exact ha

/-- No update is lost: a record without an ID is known by its slot, any other by
its ID. -/
def NoLostUpdate (x : Replicas α) (s : SyncState α) : Prop :=
  (∀ u l, x.store.get u = some l → l.attr.changed = true →
    if l.ID = 0 then ∃ m, s.store.get u = some m ∧ m.content = l.content
    else Held s l.ID l.content) ∧
  (∀ i d, x.pilot.get i = some d → d.dirty = true → d.deleted = false → Held s i d.content)

/-- Every content to be found in a state. -/
def SyncState.contents (s : SyncState α) : List α :=
  ((List.range s.store.size).filterMap s.store.get).map LocalRecord.content ++
    ((s.pilot.order.filterMap s.pilot.get).map DlpRecord.content ++
      s.archive.map ArchivedRecord.content)

theorem Held.mem_contents {s : SyncState α} {i : Nat} {c : α} (h : Held s i c) :
    c ∈ s.contents := by
  unfold SyncState.contents
  simp only [List.mem_append, List.mem_map, List.mem_filterMap, List.mem_range]
  rcases h with ⟨u, l, hl, -, hc⟩ | ⟨d, hd, hc⟩ | h
  · exact Or.inl ⟨l, ⟨u, LocalStore.lt_size hl, hl⟩, hc⟩
  · exact Or.inr (Or.inl ⟨d, ⟨i, (s.pilot.mem_order i).2 (by simp [hd]), hd⟩, hc⟩)
  · exact Or.inr (Or.inr ⟨_, h, rfl⟩)

/-! ## The pairs that lose a content -/

/-- Case 20: the local record is archived and modified, the pilot record modified
otherwise, and the main loop reaches the pair. -/
def LosesLocal (visited : Bool) (l : LocalRecord α) (d : DlpRecord α) : Prop :=
  visited = true ∧ l.attr = .modified ∧ l.archived = true ∧ d.dirty = true ∧ d.deleted = false ∧
    d.archived = false ∧ l.content ≠ d.content

/-- No branch takes the record up: the main loop passes it over and so do the
later passes, or the local status has no arm for it. -/
def Neglected (visited : Bool) (l : LocalRecord α) : Prop :=
  if visited then l.attr = .pending ∨ (l.attr = .new ∧ l.archived = true)
  else revisited l = false ∧ ¬ (l.attr = .new ∧ l.archived = false)

/-- A modified pilot record is overwritten by a new local one with its ID, or it
is archived, neglected and dropped by the clean-up. -/
def LosesRemote (visited : Bool) (l : LocalRecord α) (d : DlpRecord α) : Prop :=
  d.dirty = true ∧ d.deleted = false ∧
    (l.attr = .new ∧ l.archived = false ∧ l.content ≠ d.content ∨
      d.archived = true ∧ Neglected visited l ∧ ¬ (l.attr ≠ .deleted ∧ l.content = d.content))

/-- The starting state loses a content under ID `i`. -/
def Replicas.losesAt [DecidableEq α] (x : Replicas α) (fast : Bool) (i : Nat) : Prop :=
  match x.store.recordAt i, x.pilot.get i with
  | some l, some d => LosesLocal (x.reaches fast i) l d ∨ LosesRemote (x.reaches fast i) l d
  | none, some d =>
    x.reaches fast i = false ∧ d.dirty = true ∧ d.deleted = false ∧ d.archived = true
  | _, none => False

/-! ## What the outcomes keep -/

theorem result_holds_local (o : Outcome) (i : Nat) {l : LocalRecord α} (d : DlpRecord α)
    (hl : l.attr ≠ .deleted) :
    (o.result i l d).holds l.content ↔
      match o with
      | .stored | .archivedRemote => l.content = d.content
      | .deleted => False
      | _ => True := by
  cases o with
  | stored =>
      simp [Outcome.result, Pair.holds, Pair.start, SyncState.storedRecord,
        standardAbsComputeAttrField, settled, eq_comm (a := d.content)]
  | _ => simp [Outcome.result, Pair.holds, Pair.start, Pair.close, Option.filter, hl, settled]

theorem result_holds_remote (o : Outcome) (i : Nat) (l : LocalRecord α) (d : DlpRecord α) :
    (o.result i l d).holds d.content ↔
      match o with
      | .untouched => d.live = true ∨ l.attr ≠ .deleted ∧ l.content = d.content
      | .sent | .archivedLocal => l.content = d.content
      | .deleted => False
      | _ => True := by
  cases o with
  | untouched =>
      cases hd : d.live <;> by_cases h : l.attr = .deleted <;>
        simp [Outcome.result, Pair.holds, Pair.start, Pair.close, Option.filter, h, hd]
  | archivedLocal =>
      simp [Outcome.result, Pair.holds, Pair.start, eq_comm (a := d.content)]
  | _ =>
      simp [Outcome.result, Pair.holds, Pair.start, SyncState.storedRecord,
        standardAbsComputeAttrField, settled]

section Pairs

variable [DecidableEq α]

theorem not_holds_local_iff (i : Nat) (visited : Bool) (l : LocalRecord α) (d : DlpRecord α)
    (hl : l.attr.changed = true) :
    ¬ ((outcome i visited l d).result i l d).holds l.content ↔ LosesLocal visited l d := by
  have hne : l.attr ≠ .deleted := by
    rintro h
    simp [h, RecordAttr.changed] at hl
  rw [result_holds_local _ _ _ hne]
  obtain ⟨attr, archived, _, _, content⟩ := l
  obtain ⟨_, dirty, deleted, darchived, dcontent⟩ := d
  unfold outcome syncCase LosesLocal
  cases attr <;> simp only [RecordAttr.changed, Bool.false_eq_true] at hl <;>
    cases archived <;> cases darchived <;> cases deleted <;> cases dirty <;> cases visited <;>
    by_cases h : content = dcontent <;>
    simp [revisited, standardAbsComputeAttrField, compare, SyncCase.outcome, h]

theorem not_holds_remote_iff (i : Nat) (visited : Bool) (l : LocalRecord α) (d : DlpRecord α)
    (hdirty : d.dirty = true) (hdel : d.deleted = false) :
    ¬ ((outcome i visited l d).result i l d).holds d.content ↔ LosesRemote visited l d := by
  obtain ⟨attr, archived, _, _, content⟩ := l
  obtain ⟨_, dirty, deleted, darchived, dcontent⟩ := d
  simp only at hdirty hdel
  subst hdirty hdel
  rw [result_holds_remote _ _ _ _]
  unfold outcome syncCase LosesRemote Neglected
  cases attr <;> cases archived <;> cases darchived <;> cases visited <;>
    by_cases h : content = dcontent <;>
    simp [revisited, standardAbsComputeAttrField, compare, SyncCase.outcome, DlpRecord.live, h]
/-- A pilot record without a local one is lost only if it is archived and passed
over. -/
theorem not_holds_remote_only_iff [Inhabited α] (i : Nat) (visited : Bool) (d : DlpRecord α) :
    ¬ ((Pair.start none (some d)).synchronize i visited).holds d.content ↔
      visited = false ∧ d.live = false := by
  rw [← Pair.holds_atRest, synchronize_remote_only]
  cases visited with
  | true =>
      by_cases harch : d.archived = true <;>
        simp [Pair.holds, Pair.start, harch, SyncState.storedRecord, standardAbsComputeAttrField]
  | false => cases hd : d.live <;> simp [Pair.holds, Pair.start, Pair.close, Option.filter, hd]

theorem holds_local_only [Inhabited α] (i : Nat) (visited : Bool) (l : LocalRecord α)
    (hl : l.attr.changed = true) :
    ((Pair.start (some l) none).synchronize i visited).holds l.content := by
  have hne : l.attr ≠ .deleted := by
    rintro h
    simp [h, RecordAttr.changed] at hl
  rw [← Pair.holds_atRest, synchronize_local_only]
  cases l.archived <;> simp [hl, Pair.holds, Pair.start, Option.filter, hne]

end Pairs

theorem loose_keeps_content {x : Replicas α} {u : Nat} {l : LocalRecord α}
    (hl : x.loose.slot u = some l) (hch : l.attr.changed = true) :
    ∃ m, (x.loose.synchronize x.store.size).slot u = some m ∧ m.content = l.content ∧
      (l.ID ≠ 0 → m.ID = l.ID) := by
  obtain ⟨m, hm, hc, hid, hattr⟩ := Loose.keeps_mergeToRemote x.store.size x.loose u l hl
  refine ⟨m, Loose.synchronize_slot_eq hm ?_, hc, hid⟩
  intro hdel
  rcases hattr with h | h
  · rw [← h, hdel] at hch
    contradiction
  · rw [hdel] at h
    contradiction

/-! ## The whole session -/

variable [DecidableEq α] [Inhabited α]

/-- A two-way session returns 0 and loses no update exactly when no pair is one of
those that lose a content. -/
theorem noLostUpdate_iff (x : Replicas α) (slow : Bool) (dbinfo : DBInfo) :
    (synchronize .none dbinfo (x.start slow)).1 = 0 ∧
      (NoLostUpdate x (synchronize .none dbinfo (x.start slow)).2 ↔
        ∀ i, ¬ x.losesAt (choosesFast slow dbinfo) i) := by
  obtain ⟨hresult, hpassed⟩ := synchronize_passed x slow dbinfo
  refine ⟨hresult, ?_⟩
  have hheld : ∀ {i}, 0 < i → i < x.pilot.uniqueIDSeed → ∀ c,
      Held (synchronize .none dbinfo (x.start slow)).2 i c ↔
        ((x.pair i).synchronize i (x.reaches (choosesFast slow dbinfo) i)).holds c := by
    intro i h0 hb c
    rw [held_iff hpassed.wf (by omega) hb, synchronize_pair x slow dbinfo h0 hb]
  generalize hs : (synchronize .none dbinfo (x.start slow)).2 = s at hheld
  generalize choosesFast slow dbinfo = fast at hheld
  constructor
  · rintro ⟨hlocal, hremote⟩ i hloses
    unfold Replicas.losesAt at hloses
    cases hd : x.pilot.get i with
    | none => simp [hd] at hloses
    | some d =>
        obtain ⟨h0, hb⟩ := PilotDB.get_issued hd
        cases hl : x.store.recordAt i with
        | none =>
            simp only [hl, hd] at hloses
            obtain ⟨hvis, hdirty, hdel, harch⟩ := hloses
            have hkept := (hheld h0 hb d.content).1 (hremote i d hd hdirty hdel)
            rw [Replicas.pair, hl, hd] at hkept
            exact (not_holds_remote_only_iff i _ d).2 ⟨hvis, by simp [DlpRecord.live, harch]⟩ hkept
        | some l =>
            simp only [hl, hd] at hloses
            obtain ⟨u, hu, hid⟩ := (x.keyed.recordAt_eq_some (by omega)).1 hl
            rcases hloses with hloses | hloses
            · have hch : l.attr.changed = true := by simp [hloses.2.1, RecordAttr.changed]
              have hkept := hlocal u l hu hch
              rw [if_neg (by omega), hid, hheld h0 hb, Replicas.pair, hl, hd,
                ← Pair.holds_atRest, synchronize_both] at hkept
              exact (not_holds_local_iff i _ l d hch).2 hloses hkept
            · have hkept := hremote i d hd hloses.1 hloses.2.1
              rw [hheld h0 hb, Replicas.pair, hl, hd, ← Pair.holds_atRest, synchronize_both]
                at hkept
              exact (not_holds_remote_iff i _ l d hloses.1 hloses.2.1).2 hloses hkept
  · intro hsafe
    refine ⟨?_, ?_⟩
    · intro u l hu hch
      by_cases hun : Unissued x.pilot.uniqueIDSeed l.ID
      · -- the record stays in its slot, and an ID it has is not taken from it
        obtain ⟨m, hm, hc, hid⟩ := loose_keeps_content (Replicas.loose_slot.2 ⟨hu, hun⟩) hch
        rw [← x.start_loose slow, ← hpassed.loose, hs] at hm
        have hm' := store_of_loose _ hm
        by_cases h0 : l.ID = 0
        · rw [if_pos h0]
          exact ⟨m, hm', hc⟩
        · rw [if_neg h0]
          exact Or.inl ⟨u, m, hm', hid h0, hc⟩
      · obtain ⟨hpos, hb⟩ := not_unissued.mp hun
        have h0 : l.ID ≠ 0 := by omega
        rw [if_neg h0]
        have hl : x.store.recordAt l.ID = some l := (x.keyed.recordAt_eq_some h0).2 ⟨u, hu, rfl⟩
        rw [hheld hpos hb, Replicas.pair, hl]
        cases hd : x.pilot.get l.ID with
        | none => exact holds_local_only _ _ l hch
        | some d =>
            have hnot := hsafe l.ID
            simp only [Replicas.losesAt, hl, hd] at hnot
            by_contra hlost
            rw [← Pair.holds_atRest, synchronize_both] at hlost
            exact hnot (Or.inl ((not_holds_local_iff _ _ l d hch).1 hlost))
    · intro i d hd hdirty hdel
      obtain ⟨h0, hb⟩ := PilotDB.get_issued hd
      have hnot := hsafe i
      by_contra hlost
      rw [hheld h0 hb, Replicas.pair, hd] at hlost
      cases hl : x.store.recordAt i with
      | none =>
          rw [hl, not_holds_remote_only_iff] at hlost
          simp only [Replicas.losesAt, hl, hd] at hnot
          refine hnot ⟨hlost.1, hdirty, hdel, ?_⟩
          simpa [DlpRecord.live, hdel] using hlost.2
      | some l =>
          rw [hl, ← Pair.holds_atRest, synchronize_both, not_holds_remote_iff _ _ l d hdirty hdel]
            at hlost
          simp only [Replicas.losesAt, hl, hd] at hnot
          exact hnot (Or.inr hlost)

/-- An archived local record, modified on both sides. -/
def archivedConflict : Replicas Nat :=
  .ofLists [⟨.modified, true, false, 5, 1⟩] [(5, ⟨false, true, false, false, 2⟩)] 6 (by decide)

/-- The session returns 0, and the content modified locally is nowhere. -/
theorem archivedConflict_loses :
    archivedConflict.store.get 0 = some ⟨.modified, true, false, 5, 1⟩ ∧
      (synchronize .none ⟨1, 1⟩ (archivedConflict.start false)).1 = 0 ∧
      1 ∉ (synchronize .none ⟨1, 1⟩ (archivedConflict.start false)).2.contents := by
  decide

end GnomePilot.Sync
