import GnomePilot.Sync.Steps

/-!
# What synchronising one record touches

`standard_abs_sync_record` under any faults and over any local store, seen one ID at a
time.  A call touches what is kept under its record's ID only; whether it deletes the
record, or brings the engine down, is told by the branch the record takes.
-/

namespace GnomePilot.Sync

variable {α : Type}

/-! ## One ID -/

/-- Nothing that is kept under ID `i` differs. -/
structure SameAt (i : Nat) (s t : SyncState α) : Prop where
  rem : t.pilot.get i = s.pilot.get i
  loc : ∀ v l, l.ID = i → (t.store.get v = some l ↔ s.store.get v = some l)
  ignored : i ∈ t.recordIdsToIgnore ↔ i ∈ s.recordIdsToIgnore

/-- Everything but what is kept under ID `i` is the same. -/
def Aside (i : Nat) (s t : SyncState α) : Prop := ∀ j, j ≠ i → SameAt j s t

section SameAt

variable {i : Nat} {s t v : SyncState α}

theorem SameAt.refl (i : Nat) (s : SyncState α) : SameAt i s s :=
  ⟨rfl, fun _ _ _ => Iff.rfl, Iff.rfl⟩

theorem SameAt.trans (h : SameAt i s t) (h' : SameAt i t v) : SameAt i s v where
  rem := h'.rem.trans h.rem
  loc w l hl := (h'.loc w l hl).trans (h.loc w l hl)
  ignored := h'.ignored.trans h.ignored

theorem SameAt.record (i : Nat) (s : SyncState α) (c : Call α) : SameAt i s (s.record c) :=
  ⟨rfl, fun _ _ _ => Iff.rfl, Iff.rfl⟩

theorem Aside.refl (i : Nat) (s : SyncState α) : Aside i s s := fun j _ => .refl j s

theorem Aside.trans (h : Aside i s t) (h' : Aside i t v) : Aside i s v :=
  fun j hj => (h j hj).trans (h' j hj)

theorem matchRecord_congr {st st' : LocalStore α}
    (h : ∀ v l, l.ID = i → (st'.get v = some l ↔ st.get v = some l)) :
    st'.matchRecord i = st.matchRecord i := by
  have hany : ∀ v, ((st'.get v).any fun l => decide (l.ID = i)) =
      (st.get v).any fun l => decide (l.ID = i) := by
    intro v
    rw [Bool.eq_iff_iff, Option.any_eq_true, Option.any_eq_true]
    constructor
    · rintro ⟨l, hl, hid⟩
      exact ⟨l, (h v l (of_decide_eq_true hid)).mp hl, hid⟩
    · rintro ⟨l, hl, hid⟩
      exact ⟨l, (h v l (of_decide_eq_true hid)).mpr hl, hid⟩
  apply Option.ext
  intro u
  unfold LocalStore.matchRecord
  rw [List.find?_range_eq_some, List.find?_range_eq_some, hany]
  constructor
  · rintro ⟨hu, -, hbefore⟩
    obtain ⟨l, hl, -⟩ := (Option.any_eq_true _ _).mp hu
    exact ⟨hu, List.mem_range.mpr (LocalStore.lt_size hl), fun w hw => hany w ▸ hbefore w hw⟩
  · rintro ⟨hu, -, hbefore⟩
    obtain ⟨l, hl, -⟩ := (Option.any_eq_true _ _).mp (hany u ▸ hu)
    exact ⟨hu, List.mem_range.mpr (LocalStore.lt_size hl),
      fun w hw => (hany w).symm ▸ hbefore w hw⟩

theorem SameAt.matchRecord (h : SameAt i s t) :
    t.store.matchRecord i = s.store.matchRecord i := matchRecord_congr h.loc

theorem SameAt.get_match (h : SameAt i s t) {u : Nat} (hu : s.store.matchRecord i = some u) :
    t.store.get u = s.store.get u := by
  obtain ⟨l, hl, hid⟩ := LocalStore.matchRecord_some hu
  rw [hl]
  exact (h.loc u l hid).mpr hl

end SameAt

/-! ## The calls of one branch -/

/-- A record in slot `u` is one with ID `i`. -/
def SlotFor (u i : Nat) (s : SyncState α) : Prop := ∀ l, s.store.get u = some l → l.ID = i

section Stores

variable {st : LocalStore α} {w i : Nat}

theorem get_modify_other {f : LocalRecord α → LocalRecord α}
    (hw : ∀ l, st.get w = some l → l.ID = i) (hf : ∀ l, l.ID = i → (f l).ID = i)
    (v : Nat) {l : LocalRecord α} (hl : l.ID ≠ i) :
    (st.modify w f).get v = some l ↔ st.get v = some l := by
  rw [LocalStore.get_modify]
  split_ifs with hv
  · subst hv
    constructor
    · intro h
      obtain ⟨m, hm, rfl⟩ := Option.map_eq_some_iff.mp h
      exact absurd (hf m (hw m hm)) hl
    · intro h
      exact absurd (hw l h) hl
  · exact Iff.rfl

theorem get_remove_other (hw : ∀ l, st.get w = some l → l.ID = i) (v : Nat)
    {l : LocalRecord α} (hl : l.ID ≠ i) : (st.remove w).get v = some l ↔ st.get v = some l := by
  rw [LocalStore.get_remove]
  split_ifs with hv
  · subst hv
    exact iff_of_false (by simp) fun h => hl (hw l h)
  · exact Iff.rfl

theorem get_insert_other {m : LocalRecord α} (hm : m.ID = i) (v : Nat) {l : LocalRecord α}
    (hl : l.ID ≠ i) : (st.insert m).get v = some l ↔ st.get v = some l := by
  rw [LocalStore.get_insert]
  split_ifs with hv
  · subst hv
    rw [st.bounded st.size (Nat.le_refl _)]
    constructor
    · rintro ⟨⟩
      exact absurd hm hl
    · rintro ⟨⟩
  · exact Iff.rfl

end Stores

section Calls

variable (fl : Faults) {u i : Nat} {r : PilotRecord α} {s : SyncState α}

/-- The call keeps to ID `i` and leaves slot `u` to it. -/
structure KeepsTo (u i : Nat) (s t : SyncState α) : Prop where
  aside : Aside i s t
  slot : SlotFor u i t

theorem KeepsTo.record {t : SyncState α} (h : KeepsTo u i s t) (c : Call α) :
    KeepsTo u i s (t.record c) :=
  ⟨fun j hj => (h.aside j hj).trans (.record j t c), h.slot⟩

theorem setStatus_keepsTo (hu : SlotFor u i s) (attr : RecordAttr) :
    KeepsTo u i s (s.setStatus u attr) where
  aside j hj :=
    { rem := rfl
      loc := fun v l hl => get_modify_other (f := fun l => { l with attr := attr }) hu
        (fun _ hid => hid) v (by omega)
      ignored := Iff.rfl }
  slot l hl := by
    simp only [SyncState.setStatus, LocalStore.get_modify, if_true] at hl
    obtain ⟨m, hm, rfl⟩ := Option.map_eq_some_iff.mp hl
    exact hu m hm

theorem storeRemote_keepsTo (hr : r.ID = i) (hu : SlotFor u i s) :
    KeepsTo u i s (s.storeRemote fl r) := by
  have hstored : (SyncState.storedRecord r).ID = i := hr
  unfold SyncState.storeRemote
  split_ifs
  · exact ⟨fun j _ => .record j s _, hu⟩
  · cases hm : s.store.matchRecord r.ID with
    | none =>
      refine ⟨fun j hj => ⟨rfl, fun v l hl => get_insert_other hstored v (by omega), Iff.rfl⟩, ?_⟩
      intro l hl
      rw [LocalStore.get_insert] at hl
      split_ifs at hl
      · cases hl
        exact hstored
      · exact hu l hl
    | some w =>
      obtain ⟨m, hw, hid⟩ := LocalStore.matchRecord_some hm
      have hwid : ∀ l, s.store.get w = some l → l.ID = i := by
        intro l hl
        rw [hw] at hl
        cases hl
        exact hid.trans hr
      refine ⟨fun j hj => ⟨rfl, fun v l hl => get_modify_other hwid (fun _ _ => hstored) v
        (by omega), Iff.rfl⟩, ?_⟩
      intro l hl
      rw [LocalStore.get_modify] at hl
      split_ifs at hl
      · obtain ⟨m', -, rfl⟩ := Option.map_eq_some_iff.mp hl
        exact hstored
      · exact hu l hl

theorem archiveRemote_keepsTo (hu : SlotFor u i s) :
    KeepsTo u i s (s.archiveRemote (some u) r) where
  aside j hj := ⟨rfl, fun v l hl => get_remove_other hu v (by omega), Iff.rfl⟩
  slot l hl := by simp [SyncState.archiveRemote] at hl

theorem archiveLocal_keepsTo (hu : SlotFor u i s) : KeepsTo u i s (s.archiveLocal u) := by
  unfold SyncState.archiveLocal
  cases s.store.get u with
  | none => exact ⟨.refl i s, hu⟩
  | some m =>
    refine ⟨fun j hj => ⟨rfl, fun v l hl => get_remove_other hu v (by omega), Iff.rfl⟩, ?_⟩
    intro l hl
    simp at hl

theorem deleteFromPilot_keepsTo (hu : SlotFor u i s) :
    KeepsTo u i s (standardAbsDeleteFromPilot s i) where
  aside j hj :=
    { rem := by simp [standardAbsDeleteFromPilot, SyncState.deleteRecord,
        SyncState.ignoreRecord, hj]
      loc := fun _ _ _ => Iff.rfl
      ignored := by simp [standardAbsDeleteFromPilot, SyncState.deleteRecord,
        SyncState.ignoreRecord, hj] }
  slot := hu

theorem addToPilot_keepsTo (hi : i ≠ 0) (hu : SlotFor u i s) :
    KeepsTo u i s (standardAbsAddToPilot fl s u).2 := by
  unfold standardAbsAddToPilot
  cases hl : s.store.get u with
  | none => exact ⟨.refl i s, hu⟩
  | some l =>
    have hid : l.ID = i := hu l hl
    have hstatus := setStatus_keepsTo hu .nothing
    dsimp only
    split_ifs
    · exact ⟨fun j hj => ⟨rfl, (hstatus.aside j hj).loc, Iff.rfl⟩, hstatus.slot⟩
    · exact ⟨fun j hj => ⟨rfl, (hstatus.aside j hj).loc, Iff.rfl⟩, hstatus.slot⟩
    · have hassigned : s.pilot.assignedID l.ID = i := by
        rw [PilotDB.assignedID_of_ne_zero _ (by omega), hid]
      refine ⟨fun j hj => ⟨?_, (hstatus.aside j hj).loc, ?_⟩, hstatus.slot⟩
      · exact (PilotDB.get_dlpWriteRecord ..).trans (if_neg fun h => hj (h.trans hassigned))
      · change j ∈ s.pilot.assignedID l.ID :: s.recordIdsToIgnore ↔ j ∈ s.recordIdsToIgnore
        rw [hassigned]
        simp [hj]

theorem perform_keepsTo (hi : i ≠ 0) (hr : r.ID = i) (hu : SlotFor u i s) (a : SyncAction) :
    KeepsTo u i s (perform fl u r s a) := by
  cases a with
  | addToPilot => exact addToPilot_keepsTo fl hi hu
  | storeRemote => exact storeRemote_keepsTo fl hr hu
  | archiveRemote => exact archiveRemote_keepsTo hu
  | archiveLocal => exact archiveLocal_keepsTo hu
  | deleteFromPilot => exact hr ▸ deleteFromPilot_keepsTo (hr ▸ hu)
  | setStatus attr => exact setStatus_keepsTo hu attr
  | log text => exact (KeepsTo.mk (.refl i s) hu).record _ |>.record _

theorem runActions_keepsTo (hi : i ≠ 0) (hr : r.ID = i) (acts : List SyncAction)
    (hu : SlotFor u i s) : KeepsTo u i s (runActions fl u r s acts) := by
  unfold runActions
  induction acts generalizing s with
  | nil => exact ⟨.refl i s, hu⟩
  | cons a acts ih =>
    rw [List.foldl_cons]
    split_ifs
    · exact ih hu
    · have hstep := perform_keepsTo fl hi hr hu a
      have hrest := ih hstep.slot
      exact ⟨hstep.aside.trans hrest.aside, hrest.slot⟩

/-- Only a deletion changes the order of the database; a record that is there is written
in place. -/
theorem perform_order (hi : i ≠ 0) (hu : SlotFor u i s) {a : SyncAction}
    (hmem : a = .addToPilot → i ∈ s.pilot.order) (ha : a ≠ .deleteFromPilot) :
    (perform fl u r s a).pilot.order = s.pilot.order := by
  cases a with
  | addToPilot =>
    unfold perform standardAbsAddToPilot
    cases hl : s.store.get u with
    | none => rfl
    | some l =>
      have hid : l.ID = i := hu l hl
      have hassigned : s.pilot.assignedID l.ID = i := by
        rw [PilotDB.assignedID_of_ne_zero _ (by omega), hid]
      dsimp only
      split_ifs
      · rfl
      · rfl
      · exact PilotDB.order_put_of_mem _ (hassigned ▸ Nat.pos_of_ne_zero hi) _
          (hassigned ▸ hmem rfl)
  | storeRemote =>
    unfold perform SyncState.storeRemote
    split_ifs <;> rfl
  | archiveRemote => rfl
  | archiveLocal =>
    unfold perform SyncState.archiveLocal
    cases s.store.get u <;> rfl
  | deleteFromPilot => exact absurd rfl ha
  | setStatus attr => rfl
  | log text => rfl

/-- The engine goes down when the conduit does not return a record to be written. -/
theorem perform_crashed (a : SyncAction) : (perform fl u r s a).crashed =
    (s.crashed || (decide (a = .addToPilot) && (fl.transmit u && (s.store.get u).isSome))) := by
  cases a with
  | addToPilot =>
    unfold perform standardAbsAddToPilot
    cases hl : s.store.get u with
    | none => simp
    | some l =>
      by_cases ht : fl.transmit u = true
      · simp [ht, SyncState.crash]
      · by_cases hw : fl.writeRecord u = true <;>
          simp [ht, hw, SyncState.record, SyncState.setStatus, SyncState.ignoreRecord]
  | storeRemote =>
    unfold perform SyncState.storeRemote
    split_ifs <;> simp [SyncState.record]
  | archiveRemote => simp [perform, SyncState.archiveRemote]
  | archiveLocal =>
    unfold perform SyncState.archiveLocal
    cases s.store.get u <;> simp
  | deleteFromPilot =>
    simp [perform, standardAbsDeleteFromPilot, SyncState.deleteRecord, SyncState.ignoreRecord]
  | setStatus attr => simp [perform, SyncState.setStatus]
  | log text => simp [perform, SyncState.logConflict, SyncState.record]

theorem runActions_order (hi : i ≠ 0) (hr : r.ID = i) {acts : List SyncAction}
    (hacts : .deleteFromPilot ∉ acts) (hu : SlotFor u i s) (hmem : i ∈ s.pilot.order) :
    (runActions fl u r s acts).pilot.order = s.pilot.order := by
  unfold runActions
  induction acts generalizing s with
  | nil => rfl
  | cons a acts ih =>
    obtain ⟨ha, hacts⟩ := not_or.mp (List.mem_cons.not.mp hacts)
    rw [List.foldl_cons]
    split_ifs
    · exact ih hacts hu hmem
    · have hstep := perform_order fl (r := r) hi hu (fun _ => hmem) (Ne.symm ha)
      rw [ih hacts (perform_keepsTo fl hi hr hu a).slot (hstep ▸ hmem), hstep]

/-- A branch that writes nothing to the pilot runs to its end. -/
theorem runActions_order_of_delete (hi : i ≠ 0) (hr : r.ID = i) {acts : List SyncAction}
    (hacts : .addToPilot ∉ acts) (hu : SlotFor u i s) (halive : s.crashed = false) :
    (runActions fl u r s acts).pilot.order =
      if .deleteFromPilot ∈ acts then s.pilot.order.filter (· ≠ i) else s.pilot.order := by
  induction acts generalizing s with
  | nil => rfl
  | cons a acts ih =>
    obtain ⟨ha, hacts⟩ := not_or.mp (List.mem_cons.not.mp hacts)
    have hnext : (perform fl u r s a).crashed = false := by
      rw [perform_crashed, halive, decide_eq_false (Ne.symm ha)]
      rfl
    rw [runActions_cons fl halive, ih hacts (perform_keepsTo fl hi hr hu a).slot hnext]
    by_cases hdel : a = .deleteFromPilot
    · subst hdel
      have hstep : (perform fl u r s .deleteFromPilot).pilot.order =
          s.pilot.order.filter (· ≠ i) := by
        rw [← hr]
        rfl
      rw [hstep, if_pos List.mem_cons_self, List.filter_filter]
      simp
    · rw [perform_order fl hi hu (fun h => absurd h.symm ha) hdel]
      simp [Ne.symm hdel]

theorem runActions_alive {acts : List SyncAction} (halive : s.crashed = false)
    (h : .addToPilot ∈ acts → fl.transmit u = false) :
    (runActions fl u r s acts).crashed = false := by
  induction acts generalizing s with
  | nil => exact halive
  | cons a acts ih =>
    have hnext : (perform fl u r s a).crashed = false := by
      rw [perform_crashed, halive]
      by_cases ha : a = .addToPilot
      · simp [h (ha ▸ List.mem_cons_self)]
      · simp [ha]
    rw [runActions_cons fl halive]
    exact ih hnext fun hmem => h (List.mem_cons_of_mem a hmem)

end Calls

/-! ## The branch a record takes -/

/-- Cases 14, 19, 17, 3, 16 and 4. -/
def SyncCase.deletesFromPilot : SyncCase → Bool
  | .case14 | .case19 | .case17 | .case3 | .case16 | .case4 => true
  | _ => false

/-- Cases 15, 13, 20, 10, 5 and 8. -/
def SyncCase.addsToPilot : SyncCase → Bool
  | .case15 | .case13 | .case20 | .case10 | .case5 | .case8 => true
  | _ => false

theorem SyncCase.mem_actions_delete (c : SyncCase) :
    .deleteFromPilot ∈ c.actions SyncBothWays ↔ c.deletesFromPilot = true := by
  cases c <;> simp [actions, SyncBothWays, SyncDirection.ifRemote, SyncDirection.ifLocal,
    deletesFromPilot]

theorem SyncCase.mem_actions_add (c : SyncCase) :
    .addToPilot ∈ c.actions SyncBothWays ↔ c.addsToPilot = true := by
  cases c <;> simp [actions, SyncBothWays, SyncDirection.ifRemote, SyncDirection.ifLocal,
    addsToPilot]

theorem SyncCase.not_adds_of_deletes {c : SyncCase} (h : c.deletesFromPilot = true) :
    c.addsToPilot = false := by
  cases c <;> first | rfl | cases h

theorem runActions_of_crashed {fl : Faults} {u : Nat} {r : PilotRecord α} {s : SyncState α}
    (h : s.crashed = true) (acts : List SyncAction) : runActions fl u r s acts = s := by
  induction acts with
  | nil => rfl
  | cons a acts ih =>
    rw [runActions, List.foldl_cons, if_pos h]
    exact ih

theorem runActions_crashed_of_adds {fl : Faults} {u : Nat} {r : PilotRecord α}
    {s : SyncState α} {l : LocalRecord α} {c : SyncCase} (halive : s.crashed = false)
    (hl : s.store.get u = some l) (hr : s.store.matchRecord r.ID = some u)
    (hc : c.addsToPilot = true) (ht : fl.transmit u = true) :
    (runActions fl u r s (c.actions SyncBothWays)).crashed = true := by
  have hadd : ∀ t : SyncState α, t.crashed = false → (t.store.get u).isSome = true →
      ∀ acts, (runActions fl u r t (.addToPilot :: acts)).crashed = true := by
    intro t ht' hget acts
    have hdown : (perform fl u r t .addToPilot).crashed = true := by
      rw [perform_crashed]
      simp [ht, hget]
    rw [runActions_cons fl ht', runActions_of_crashed hdown]
    exact hdown
  have hsome : (s.store.get u).isSome = true := by simp [hl]
  cases c with
  | case15 => exact hadd s halive hsome _
  | case13 => exact hadd s halive hsome _
  | case10 => exact hadd s halive hsome _
  | case5 => exact hadd s halive hsome _
  | case8 => exact hadd s halive hsome _
  | case20 =>
    -- the pilot's record was stored over the local one just before
    have hkept : ((s.storeRemote fl r).store.get u).isSome = true := by
      unfold SyncState.storeRemote
      split_ifs
      · exact hsome
      · simp [hr, hl]
    have halive' : (s.storeRemote fl r).crashed = false :=
      (perform_crashed fl (u := u) (r := r) (s := s) .storeRemote).trans (by simp [halive])
    exact (runActions_cons fl halive .storeRemote _).symm ▸ hadd _ halive' hkept _
  | _ => cases hc

section Branch

variable [DecidableEq α]

/-- The slot and the branch `standard_abs_sync_record` takes for a pilot record that has a
local one and is not ignored. -/
def branchAt (s : SyncState α) (i : Nat) : Option (Nat × SyncCase) :=
  if i ∈ s.recordIdsToIgnore then none
  else
    (s.store.matchRecord i).bind fun u =>
      (s.store.get u).bind fun l =>
        (s.pilot.get i).map fun d => (u, syncCase l (standardAbsComputeAttrField i d))

/-- Synchronising the record deletes it from the pilot. -/
def deletedWhenSynced (s : SyncState α) (i : Nat) : Bool :=
  (branchAt s i).any fun b => b.2.deletesFromPilot

/-- Synchronising the record writes the local one to the pilot, and the conduit does not
return it. -/
def crashesWhenSynced (fl : Faults) (s : SyncState α) (i : Nat) : Bool :=
  (branchAt s i).any fun b => b.2.addsToPilot && fl.transmit b.1

theorem SameAt.branchAt {i : Nat} {s t : SyncState α} (h : SameAt i s t) :
    branchAt t i = branchAt s i := by
  unfold Sync.branchAt
  simp only [h.ignored, h.matchRecord, h.rem]
  cases hm : s.store.matchRecord i with
  | none => rfl
  | some u => simp only [Option.bind_some, h.get_match hm]

theorem SameAt.deletedWhenSynced {i : Nat} {s t : SyncState α} (h : SameAt i s t) :
    deletedWhenSynced t i = deletedWhenSynced s i := by
  rw [Sync.deletedWhenSynced, h.branchAt, Sync.deletedWhenSynced]

theorem SameAt.crashesWhenSynced {fl : Faults} {i : Nat} {s t : SyncState α}
    (h : SameAt i s t) : crashesWhenSynced fl t i = crashesWhenSynced fl s i := by
  rw [Sync.crashesWhenSynced, h.branchAt, Sync.crashesWhenSynced]

end Branch

/-! ## One record -/

section Record

variable (fl : Faults) (dir : SyncDirection) {i : Nat} {r : PilotRecord α} {s : SyncState α}

/-- No slot is concerned yet. -/
theorem slotFor_size (s : SyncState α) (i : Nat) : SlotFor s.store.size i s := by
  intro l hl
  rw [s.store.bounded s.store.size (Nat.le_refl _)] at hl
  cases hl

theorem slotFor_match {u : Nat} (hm : s.store.matchRecord i = some u) : SlotFor u i s := by
  intro l hl
  obtain ⟨m, hm, hid⟩ := LocalStore.matchRecord_some hm
  rw [hl] at hm
  cases hm
  exact hid

/-- Without a local record nothing but the conduit's side is changed. -/
theorem syncRemoteOnly_aside (hr : r.ID = i) : Aside i s (syncRemoteOnly fl s r dir) ∧
    (syncRemoteOnly fl s r dir).pilot = s.pilot ∧
    (syncRemoteOnly fl s r dir).crashed = s.crashed := by
  have hstore := (storeRemote_keepsTo fl hr (slotFor_size s i)).aside
  have hpilot : (s.storeRemote fl r).pilot = s.pilot := by
    unfold SyncState.storeRemote
    split_ifs <;> rfl
  have hcrashed : (s.storeRemote fl r).crashed = s.crashed := by
    unfold SyncState.storeRemote
    split_ifs <;> rfl
  unfold syncRemoteOnly
  split_ifs
  · exact ⟨fun j _ => ⟨rfl, fun _ _ _ => Iff.rfl, Iff.rfl⟩, rfl, rfl⟩
  · exact ⟨.refl i s, rfl, rfl⟩
  · dsimp only
    cases hm : (s.storeRemote fl r).store.matchRecord r.ID with
    | none => exact ⟨hstore, hpilot, hcrashed⟩
    | some u =>
      have hstatus := setStatus_keepsTo (slotFor_match (hr ▸ hm)) .nothing
      exact ⟨hstore.trans hstatus.aside, hpilot, hcrashed⟩
  · exact ⟨.refl i s, rfl, rfl⟩

variable [DecidableEq α]

theorem syncRecordRemote_aside (hi : i ≠ 0) (hr : r.ID = i) :
    Aside i s (syncRecordRemote fl s r dir) := by
  unfold syncRecordRemote
  split_ifs
  · exact .refl i s
  · exact .refl i s
  · cases hm : s.store.matchRecord r.ID with
    | none => exact (syncRemoteOnly_aside fl dir hr).1
    | some u =>
      dsimp only
      cases hl : s.store.get u with
      | none => exact .refl i s
      | some l => exact (runActions_keepsTo fl hi hr _ (slotFor_match (hr ▸ hm))).aside

/-- What happens to the record's place and to the engine is told by the branch. -/
theorem syncRecordRemote_order {d : DlpRecord α} (halive : s.crashed = false)
    (hd : s.pilot.get i = some d) :
    (syncRecordRemote fl s (standardAbsComputeAttrField i d) SyncBothWays).pilot.order =
        s.pilot.order.filter (fun j => j ≠ i ∨ deletedWhenSynced s i = false) ∧
      (syncRecordRemote fl s (standardAbsComputeAttrField i d) SyncBothWays).crashed =
        crashesWhenSynced fl s i := by
  have hpos := (PilotDB.get_issued hd).1
  have hi : i ≠ 0 := by omega
  have hmem : i ∈ s.pilot.order := (s.pilot.mem_order i).2 (by simp [hd])
  have hr : (standardAbsComputeAttrField i d).ID = i := rfl
  have hstays : s.pilot.order.filter (fun j => decide (j ≠ i ∨ false = false)) =
      s.pilot.order := List.filter_eq_self.mpr (by simp)
  unfold syncRecordRemote
  rw [if_neg (by simp [halive]), hr]
  by_cases hign : i ∈ s.recordIdsToIgnore
  · simp only [if_pos hign, deletedWhenSynced, crashesWhenSynced, branchAt, Option.any_none]
    exact ⟨by simp, halive⟩
  · rw [if_neg hign]
    cases hm : s.store.matchRecord i with
    | none =>
      have honly := syncRemoteOnly_aside fl SyncBothWays (s := s) hr
      simp only [deletedWhenSynced, crashesWhenSynced, branchAt, if_neg hign, hm,
        Option.bind_none, Option.any_none]
      exact ⟨(congrArg PilotDB.order honly.2.1).trans (by simp),
        honly.2.2.trans halive⟩
    | some u =>
      obtain ⟨l, hl, hid⟩ := LocalStore.matchRecord_some hm
      have hslot := slotFor_match hm
      have hbranch : branchAt s i = some (u, syncCase l (standardAbsComputeAttrField i d)) := by
        simp [branchAt, hign, hm, hl, hd]
      simp only [hl, deletedWhenSynced, crashesWhenSynced, hbranch, Option.any_some, syncPair]
      generalize syncCase l (standardAbsComputeAttrField i d) = c
      constructor
      · cases hc : c.deletesFromPilot with
        | true =>
          have hadd : .addToPilot ∉ c.actions SyncBothWays := by
            rw [c.mem_actions_add, SyncCase.not_adds_of_deletes hc]
            exact Bool.false_ne_true
          rw [runActions_order_of_delete fl hi hr hadd hslot halive,
            if_pos (c.mem_actions_delete.mpr hc)]
          simp
        | false =>
          have hdel : .deleteFromPilot ∉ c.actions SyncBothWays := by
            rw [c.mem_actions_delete, hc]
            exact Bool.false_ne_true
          rw [runActions_order fl hi hr hdel hslot hmem]
          exact hstays.symm
      · by_cases hdown : c.addsToPilot = true ∧ fl.transmit u = true
        · rw [runActions_crashed_of_adds halive hl hm hdown.1 hdown.2, hdown.1, hdown.2]
          rfl
        · rw [runActions_alive fl halive fun hadd => ?_]
          · simpa using hdown
          · simpa using fun ht => hdown ⟨c.mem_actions_add.mp hadd, ht⟩

end Record

end GnomePilot.Sync
