import GnomePilot.Sync.Reach
import GnomePilot.Sync.Run

/-!
# Records deleted on the pilot

A record whose deletion the pilot has not forgotten yet, that is not to be archived and
that the desktop does not have, should be dropped by every loop over the pilot's
records.  `neverResurrects_iff` says when it is.
-/

namespace GnomePilot.Sync

variable {α : Type}

def isGone (s : SyncState α) (i : Nat) : Bool :=
  ((s.pilot.get i).any fun d => d.deleted && !d.archived) &&
    (s.store.matchRecord i).isNone

/-- No such record is in the local store afterwards. -/
def NoResurrection (s s' : SyncState α) : Prop :=
  ∀ i, isGone s i = true → s'.store.matchRecord i = none

theorem isGone_iff {s : SyncState α} {i : Nat} : isGone s i = true ↔
    (∃ d, s.pilot.get i = some d ∧ d.deleted = true ∧ d.archived = false) ∧
      s.store.matchRecord i = none := by
  unfold isGone
  rw [Bool.and_eq_true, Option.any_eq_true, Option.isNone_iff_eq_none]
  simp

theorem computeAttr_deleted {i : Nat} {d : DlpRecord α} (h : d.deleted = true) :
    (standardAbsComputeAttrField i d).attr = .deleted := if_pos h

/-! ## Synchronising such a record -/

/-- Case 1 stores it, whatever its status. -/
theorem syncRemoteOnly_unmatched_iff {fl : Faults} {s : SyncState α} {r : PilotRecord α}
    (harch : r.archived = false) (hm : s.store.matchRecord r.ID = none) :
    (syncRemoteOnly fl s r SyncBothWays).store.matchRecord r.ID = none ↔
      fl.storeRemote r.ID = true := by
  unfold syncRemoteOnly
  rw [if_neg (by simp [harch]), if_pos (show SyncBothWays.toLocal = true from rfl)]
  dsimp only
  by_cases hfail : fl.storeRemote r.ID = true
  · have hkept : (s.storeRemote fl r).store = s.store := by
      simp [SyncState.storeRemote, hfail, SyncState.record]
    have hm' : (s.storeRemote fl r).store.matchRecord r.ID = none := hkept ▸ hm
    rw [hm']
    exact iff_of_true hm' hfail
  · have hinserted : (s.storeRemote fl r).store = s.store.insert (SyncState.storedRecord r) := by
      simp [SyncState.storeRemote, hfail, hm]
    have hfound : (s.storeRemote fl r).store.matchRecord r.ID = some s.store.size := by
      rw [hinserted]
      exact LocalStore.matchRecord_insert (l := SyncState.storedRecord r) hm
    rw [hfound]
    refine iff_of_false (fun hnone => ?_) hfail
    refine LocalStore.matchRecord_eq_none.mp hnone s.store.size
      { SyncState.storedRecord r with attr := .nothing } ?_ rfl
    simp [SyncState.setStatus, hinserted]

/-- Whether `standard_abs_sync_record` stores it. -/
def resurrects (fl : Faults) (s : SyncState α) (i : Nat) : Bool :=
  isGone s i && (decide (i ∉ s.recordIdsToIgnore) && !fl.storeRemote i)

theorem syncRecordRemote_unmatched_iff [DecidableEq α] {fl : Faults} {s : SyncState α} {i : Nat}
    {d : DlpRecord α} (halive : s.crashed = false) (hd : s.pilot.get i = some d)
    (hgone : isGone s i = true) :
    (syncRecordRemote fl s (standardAbsComputeAttrField i d) SyncBothWays).store.matchRecord i =
        none ↔ resurrects fl s i = false := by
  obtain ⟨⟨e, he, -, harch⟩, hm⟩ := isGone_iff.mp hgone
  obtain rfl : d = e := Option.some.inj (hd.symm.trans he)
  have hr : (standardAbsComputeAttrField i d).ID = i := rfl
  unfold syncRecordRemote resurrects
  rw [if_neg (by simp [halive]), hr, hgone]
  by_cases hign : i ∈ s.recordIdsToIgnore
  · simp [hign, hm]
  · rw [if_neg hign, hm]
    refine (syncRemoteOnly_unmatched_iff (r := standardAbsComputeAttrField i d) harch hm).trans ?_
    simp [hign, hr]

/-! ## FastSync and SlowSync -/

def fastReached (flagged fails stops : Nat → Bool) : List Nat → List Nat
  | [] => []
  | i :: rest =>
    if flagged i then
      if fails i then [] else i :: if stops i then [] else fastReached flagged fails stops rest
    else fastReached flagged fails stops rest

theorem fastReached_sublist (flagged fails stops : Nat → Bool) (ids : List Nat) :
    (fastReached flagged fails stops ids).Sublist ids := by
  induction ids with
  | nil => exact .slnil
  | cons i rest ih =>
    unfold fastReached
    split_ifs
    · exact List.nil_sublist _
    · exact (List.nil_sublist rest).cons_cons i
    · exact ih.cons_cons i
    · exact ih.cons i

theorem fastReached_congr {flagged flagged' stops stops' : Nat → Bool} (fails : Nat → Bool)
    {ids : List Nat} (hflag : ∀ i ∈ ids, flagged' i = flagged i)
    (hstop : ∀ i ∈ ids, stops' i = stops i) :
    fastReached flagged' fails stops' ids = fastReached flagged fails stops ids := by
  induction ids with
  | nil => rfl
  | cons i rest ih =>
    unfold fastReached
    rw [hflag i List.mem_cons_self, hstop i List.mem_cons_self,
      ih (fun j hj => hflag j (List.mem_cons_of_mem i hj))
        (fun j hj => hstop j (List.mem_cons_of_mem i hj))]

def isFlagged (s : SyncState α) (i : Nat) : Bool := (s.pilot.get i).any DlpRecord.flagged

theorem SameAt.isFlagged {i : Nat} {s t : SyncState α} (h : SameAt i s t) :
    isFlagged t i = isFlagged s i := by
  unfold Sync.isFlagged
  rw [h.rem]

theorem readNextModifiedLoop_of_crashed {fl : Faults}
    {body : SyncState α → PilotRecord α → SyncState α} {s : SyncState α}
    (h : s.crashed = true) (ids : List Nat) (i : Nat) :
    SameAt i s (readNextModifiedLoop fl body ids s) := by
  cases ids with
  | nil => exact .record i s _
  | cons j ids =>
    rw [readNextModifiedLoop, if_pos h]
    exact .refl i s

theorem readNextModifiedLoop_handed {fl : Faults}
    {body : SyncState α → PilotRecord α → SyncState α}
    {deletes stops : SyncState α → Nat → Bool} (hbody : Turns body deletes stops)
    (ids : List Nat) (hnodup : ids.Nodup) (s : SyncState α) (halive : s.crashed = false) :
    Handed body (fastReached (isFlagged s) fl.readNextModifiedRec (stops s) ids) s
      (readNextModifiedLoop fl body ids s) := by
  induction ids generalizing s with
  | nil => exact .nil fun i => .record i s _
  | cons i ids ih =>
    obtain ⟨hi, hnodup⟩ := List.nodup_cons.mp hnodup
    rw [readNextModifiedLoop, if_neg (by simp [halive]), fastReached]
    cases hd : s.pilot.get i with
    | none =>
      have hunflagged : ¬isFlagged s i = true := by simp [isFlagged, hd]
      rw [if_neg hunflagged]
      exact ih hnodup s halive
    | some d =>
      have hiff : isFlagged s i = d.flagged := by simp [isFlagged, hd]
      rw [hiff]
      dsimp only
      by_cases hflag : d.flagged = true
      · rw [if_pos hflag, if_pos hflag]
        by_cases hfail : fl.readNextModifiedRec i = true
        · rw [if_pos hfail, if_pos hfail]
          exact .nil fun j => .record j s _
        rw [if_neg hfail, if_neg hfail]
        have hsame : ∀ j, SameAt j s (s.record .readNextModifiedRec) := fun j => .record j s _
        have haside := hbody.aside (s := s.record .readNextModifiedRec) hd
        have hcrashed := hbody.crashed (s := s.record .readNextModifiedRec) halive hd
        rw [(hbody.sameAt (hsame i)).2] at hcrashed
        refine Handed.cons hsame halive hd haside ?_ ?_
        · by_cases hstops : stops s i = true
          · rw [if_pos hstops]
            exact .nil fun j =>
              readNextModifiedLoop_of_crashed (hcrashed.trans hstops) ids j
          · rw [if_neg hstops]
            have hrest := ih hnodup _ (hcrashed.trans (Bool.eq_false_iff.mpr hstops))
            have hkept : ∀ j ∈ ids, SameAt j s (body (s.record .readNextModifiedRec)
                (standardAbsComputeAttrField i d)) := by
              intro j hj
              have hji : j ≠ i := by
                rintro rfl
                exact hi hj
              exact (hsame j).trans (haside j hji)
            rw [fastReached_congr fl.readNextModifiedRec
              (fun j hj => (hkept j hj).isFlagged)
              (fun j hj => (hbody.sameAt (hkept j hj)).2)] at hrest
            exact hrest
        · split_ifs
          · exact List.not_mem_nil
          · exact fun h => hi ((fastReached_sublist _ _ _ _).subset h)
      · rw [if_neg hflag, if_neg hflag]
        exact ih hnodup s halive

theorem SameAt.isGone {i : Nat} {s t : SyncState α} (h : SameAt i s t) :
    isGone t i = isGone s i := by
  rw [Sync.isGone, h.rem, h.matchRecord, Sync.isGone]

theorem SameAt.resurrects {fl : Faults} {i : Nat} {s t : SyncState α} (h : SameAt i s t) :
    resurrects fl t i = resurrects fl s i := by
  simp only [Sync.resurrects, h.isGone, h.ignored]

section Passes

variable [DecidableEq α]

/-- The IDs `FastSync` hands over, told from the state before. -/
def fastSyncReaches (fl : Faults) (s : SyncState α) : List Nat :=
  fastReached (isFlagged s) fl.readNextModifiedRec (crashesWhenSynced fl s) s.pilot.order

theorem fastSync_handed (fl : Faults) {s : SyncState α} (halive : s.crashed = false) :
    Handed (fun s r => syncRecordRemote fl s r SyncBothWays) (fastSyncReaches fl s) s
      (FastSync fl s) :=
  readNextModifiedLoop_handed (syncRecordRemote_turns fl) _ s.pilot.order_nodup s halive

/-- A pass brings a record back exactly when it comes to one that is stored. -/
theorem Handed.noResurrection_iff {fl : Faults} {ids : List Nat} {s s' : SyncState α}
    (h : Handed (fun s r => syncRecordRemote fl s r SyncBothWays) ids s s') :
    NoResurrection s s' ↔ ∀ i ∈ ids, resurrects fl s i = false := by
  constructor
  · intro hno i hi
    by_cases hgone : isGone s i = true
    · obtain ⟨t, d, hsame, halive, hd, hrest⟩ := h.turn i hi
      have hnone := hno i hgone
      rw [hrest.matchRecord] at hnone
      rw [← hsame.resurrects]
      exact (syncRecordRemote_unmatched_iff halive (hsame.rem.trans hd)
        (hsame.isGone.trans hgone)).mp hnone
    · simp [resurrects, hgone]
  · intro hno i hgone
    by_cases hi : i ∈ ids
    · obtain ⟨t, d, hsame, halive, hd, hrest⟩ := h.turn i hi
      rw [hrest.matchRecord]
      exact (syncRecordRemote_unmatched_iff halive (hsame.rem.trans hd)
        (hsame.isGone.trans hgone)).mpr (hsame.resurrects.trans (hno i hi))
    · rw [(h.away i hi).matchRecord]
      exact (isGone_iff.mp hgone).2

end Passes

/-! ## merge_from_pilot and copy_from_pilot -/

/-- A loop whose body leaves an ID alone leaves it alone. -/
theorem readByIndexLoop_sameAt {fl : Faults}
    {body : SyncState α → PilotRecord α → SyncState α} {i : Nat} {s : SyncState α}
    (hbody : ∀ t j d, SameAt i s t → t.pilot.get j = some d →
      SameAt i t (body t (standardAbsComputeAttrField j d)))
    (fuel index : Nat) {t : SyncState α} (h : SameAt i s t) :
    SameAt i s (readByIndexLoop fl body fuel index t) := by
  induction fuel generalizing index t with
  | zero => exact h
  | succ fuel ih =>
    have hread : SameAt i s (t.record (.readRecordByIndex index)) := h.trans (.record i t _)
    unfold readByIndexLoop
    split_ifs
    · exact h
    · exact hread
    · cases hget : t.pilot.dlpReadRecordByIndex index with
      | none => exact hread
      | some e =>
        obtain ⟨j, -, hrest⟩ := Option.bind_eq_some_iff.mp hget
        obtain ⟨d, hd, he⟩ := Option.bind_eq_some_iff.mp hrest
        cases he
        exact ih (index + 1) (hread.trans (hbody _ j d hread hd))

/-- What holds of the opened database and is kept by the body holds after the operation,
whichever call fails. -/
theorem withOpenDb_keeps {P : SyncState α → Prop} {fl : Faults}
    (hrecord : ∀ s c, P s → P (s.record c))
    (hclose : ∀ s clean, P s → P (standardAbsCloseDbAndPurgeLocal s clean))
    {s : SyncState α} {body : SyncState α → Int × SyncState α} (hs : P s)
    (hbody : P (body (opened s)).2) : P (withOpenDb fl s body).2 := by
  have hfinish : ∀ result t, P t → P (finish result t).2 := by
    intro result t ht
    unfold finish
    split_ifs
    · exact ht
    · exact hclose t true ht
    · exact hclose t false ht
  unfold withOpenDb standardAbsOpenDb preSync
  by_cases hopen : fl.openDB = true
  · simp only [hopen, if_true]
    exact hfinish _ _ (hrecord _ _ hs)
  · by_cases hpre : fl.preSync = true
    · simp only [hopen, hpre, if_true]
      exact hfinish _ _ (hrecord _ _ (hrecord _ _ (hrecord _ _ hs)))
    · simp only [hopen, hpre]
      exact hfinish _ _ hbody

theorem closed_unmatched {s : SyncState α} {i : Nat} (clean : Bool)
    (h : s.store.matchRecord i = none) :
    (standardAbsCloseDbAndPurgeLocal s clean).store.matchRecord i = none := by
  cases clean with
  | false => exact h
  | true =>
    refine LocalStore.matchRecord_eq_none.mpr fun u l hl => ?_
    exact LocalStore.matchRecord_eq_none.mp h u l (Option.filter_eq_some_iff.mp hl).1

/-- Only records whose status is New or Modified are merged. -/
theorem mergeFromPilot_noResurrection [DecidableEq α] (fl : Faults) (s : SyncState α) :
    NoResurrection s (mergeFromPilot fl s).2 := by
  intro i hgone
  obtain ⟨⟨d, hd, hdel, -⟩, hm⟩ := isGone_iff.mp hgone
  refine withOpenDb_keeps (P := fun t => t.store.matchRecord i = none)
    (fun _ _ ht => ht) (fun _ clean ht => closed_unmatched clean ht) hm ?_
  have hloop : SameAt i (opened s)
      (standardAbsMergeToLocal fl (opened s) SyncToLocal) := by
    refine readByIndexLoop_sameAt ?_ _ 0 (.refl i _)
    intro t j e hsame he
    unfold mergeLocalBody
    by_cases hji : j = i
    · subst hji
      have hde : some e = some d := he.symm.trans (hsame.rem.trans hd)
      cases hde
      rw [if_neg (by simp [computeAttr_deleted hdel])]
      exact .refl j t
    · have hpos := (PilotDB.get_issued he).1
      split_ifs
      · exact syncRecordRemote_aside fl SyncToLocal (i := j) (by omega) rfl i (Ne.symm hji)
      · exact .refl i t
  exact hloop.matchRecord.trans hm

theorem copyFromPilotBody_sameAt {fl : Faults} {s : SyncState α} {i j : Nat}
    {d : DlpRecord α} (hji : j ≠ i) :
    SameAt i s (copyFromPilotBody fl s (standardAbsComputeAttrField j d)) := by
  unfold copyFromPilotBody
  split_ifs
  · exact ⟨rfl, fun _ _ _ => Iff.rfl, Iff.rfl⟩
  · exact (storeRemote_keepsTo fl rfl (slotFor_size s _)).aside i (Ne.symm hji)
  · exact .refl i s

/-- The local records are deleted first, so none of a deleted pilot record is left. -/
theorem copyFromPilot_noResurrection (fl : Faults) (s : SyncState α) :
    NoResurrection s (copyFromPilot fl s).2 := by
  intro i hgone
  obtain ⟨⟨d, hd, hdel, harch⟩, hm⟩ := isGone_iff.mp hgone
  refine withOpenDb_keeps (P := fun t => t.store.matchRecord i = none)
    (fun _ _ ht => ht) (fun _ clean ht => closed_unmatched clean ht) hm ?_
  split_ifs
  · exact hm
  · have hclear : (opened s).store.clear.matchRecord i = none :=
      LocalStore.matchRecord_eq_none.mpr fun u l hl => by cases hl
    refine (SameAt.matchRecord (readByIndexLoop_sameAt ?_ _ 0 (.refl i _))).trans hclear
    intro t j e hsame he
    by_cases hji : j = i
    · subst hji
      have hde : some e = some d := he.symm.trans (hsame.rem.trans hd)
      cases hde
      have hkept : copyFromPilotBody fl t (standardAbsComputeAttrField j d) = t := by
        unfold copyFromPilotBody
        rw [if_neg (by simp [standardAbsComputeAttrField, harch]),
          if_neg (by simp [computeAttr_deleted hdel])]
      rw [hkept]
      exact .refl j t
    · exact copyFromPilotBody_sameAt hji

/-! ## All four -/

variable [DecidableEq α]

/-- None of the four brings a deleted record back. -/
def NeverResurrects (fl : Faults) (s : SyncState α) : Prop :=
  NoResurrection s (FastSync fl s) ∧ NoResurrection s (SlowSync fl s) ∧
    NoResurrection s (mergeFromPilot fl s).2 ∧ NoResurrection s (copyFromPilot fl s).2

/-- `merge_from_pilot` and `copy_from_pilot` drop such records; `FastSync` and `SlowSync`
do so exactly when they come to none that is not to be ignored and that the conduit
stores. -/
theorem neverResurrects_iff (fl : Faults) (s : SyncState α) (halive : s.crashed = false) :
    NeverResurrects fl s ↔
      (∀ i ∈ fastSyncReaches fl s, resurrects fl s i = false) ∧
        ∀ i ∈ slowSyncReaches fl s, resurrects fl s i = false := by
  have hfast := (fastSync_handed fl halive).noResurrection_iff
  have hslow := (slowSync_handed fl halive).2.noResurrection_iff
  rw [NeverResurrects, hfast, hslow]
  constructor
  · rintro ⟨hf, hs, -, -⟩
    exact ⟨hf, hs⟩
  · rintro ⟨hf, hs⟩
    exact ⟨hf, hs, mergeFromPilot_noResurrection fl s, copyFromPilot_noResurrection fl s⟩

def modifiedOnly : SyncState Nat :=
  SyncState.start (.ofList [])
    (.ofList [(5, ⟨false, true, false, false, 1⟩)] 6 (by decide) (by decide) (by decide)) false

theorem modifiedOnly_neverResurrects : NeverResurrects .none modifiedOnly :=
  (neverResurrects_iff .none modifiedOnly rfl).mpr (by decide)

/-- Written and deleted on the pilot between two sessions. -/
def writtenAndDeleted : SyncState Nat :=
  SyncState.start (.ofList [])
    (.ofList [(5, ⟨false, true, true, false, 1⟩)] 6 (by decide) (by decide) (by decide)) false

/-- Both passes store it. -/
theorem writtenAndDeleted_resurrected :
    ¬NoResurrection writtenAndDeleted (FastSync .none writtenAndDeleted) ∧
      ¬NoResurrection writtenAndDeleted (SlowSync .none writtenAndDeleted) ∧
        ¬NeverResurrects .none writtenAndDeleted := by
  have hfast : ¬NoResurrection writtenAndDeleted (FastSync .none writtenAndDeleted) := by
    intro h
    exact absurd (h 5 (by decide)) (by decide)
  refine ⟨hfast, ?_, fun h => hfast h.1⟩
  intro h
  exact absurd (h 5 (by decide)) (by decide)

end GnomePilot.Sync
