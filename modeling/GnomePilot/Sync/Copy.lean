import GnomePilot.Sync.Run

/-!
# Copying a database

`copy_to_pilot` and `copy_from_pilot` wipe the destination and copy record by
record.  Whatever goes wrong in the loop, the result stays 0 and the database is
closed as after a complete copy.
-/

namespace GnomePilot.Sync

variable {α : Type}

/-! ## Closing -/

/-- The local record of slot `u` has its content on the pilot, under its ID. -/
def OnPilot (s : SyncState α) (u : Nat) (c : α) : Prop :=
  ∃ m d, s.store.get u = some m ∧ m.attr ≠ .deleted ∧ s.pilot.get m.ID = some d ∧
    d.live = true ∧ d.content = c

def InStore (s : SyncState α) (i : Nat) (c : α) : Prop :=
  ∃ u m, s.store.get u = some m ∧ m.attr ≠ .deleted ∧ m.ID = i ∧ m.content = c

theorem onPilot_close (s : SyncState α) (u : Nat) (c : α) :
    OnPilot (standardAbsCloseDbAndPurgeLocal s true) u c ↔ OnPilot s u c := by
  constructor
  · rintro ⟨m, d, hm, hattr, hd, -, hc⟩
    obtain ⟨hm, -⟩ := Option.filter_eq_some_iff.mp hm
    obtain ⟨e, he, rfl⟩ := Option.map_eq_some_iff.mp hd
    obtain ⟨he, hlive⟩ := Option.filter_eq_some_iff.mp he
    exact ⟨m, e, hm, hattr, he, hlive, hc⟩
  · rintro ⟨m, d, hm, hattr, hd, hlive, hc⟩
    refine ⟨m, { d with dirty := false }, ?_, hattr, ?_, hlive, hc⟩
    · exact Option.filter_eq_some_iff.mpr ⟨hm, by simpa using hattr⟩
    · exact Option.map_eq_some_iff.mpr ⟨d, Option.filter_eq_some_iff.mpr ⟨hd, hlive⟩, rfl⟩

theorem inStore_close (s : SyncState α) (i : Nat) (c : α) :
    InStore (standardAbsCloseDbAndPurgeLocal s true) i c ↔ InStore s i c := by
  constructor
  · rintro ⟨u, m, hm, hattr, hid, hc⟩
    exact ⟨u, m, (Option.filter_eq_some_iff.mp hm).1, hattr, hid, hc⟩
  · rintro ⟨u, m, hm, hattr, hid, hc⟩
    exact ⟨u, m, Option.filter_eq_some_iff.mpr ⟨hm, by simpa using hattr⟩, hattr, hid, hc⟩

/-- An operation that returns 0 only if `complete` holds of the state it leaves, and
otherwise leaves the sync flags alone. -/
def SucceedsOnlyWhen (complete : SyncState α → Prop) (r : Int × SyncState α) : Prop :=
  (r.1 = 0 → complete r.2) ∧ (¬ complete r.2 → r.1 ≠ 0 ∧ .resetSyncFlags ∉ r.2.calls)

/-- The opening fails, or the body does before it copies anything: the result is
negative and the database is closed without a clean-up. -/
theorem succeedsOnlyWhen_of_early {complete : SyncState α → Prop} {fl : Faults}
    {s : SyncState α} {body : SyncState α → Int × SyncState α} (hcalls : s.calls = [])
    (h : fl.openDB = false → fl.preSync = false → ∃ r c, r ≠ 0 ∧ c ≠ .resetSyncFlags ∧
      body (opened s) = (r, (opened s).record c)) :
    SucceedsOnlyWhen complete (withOpenDb fl s body) := by
  have hearly : (withOpenDb fl s body).1 ≠ 0 ∧
      .resetSyncFlags ∉ (withOpenDb fl s body).2.calls := by
    cases hopen : fl.openDB with
    | true =>
        cases hcr : s.crashed <;>
          simp [withOpenDb, standardAbsOpenDb, hopen, finish, SyncState.record, hcalls, hcr,
            standardAbsCloseDbAndPurgeLocal]
    | false =>
        cases hpre : fl.preSync with
        | true =>
            cases hcr : s.crashed <;>
              simp [withOpenDb, standardAbsOpenDb, preSync, hopen, hpre, finish,
                SyncState.record, hcalls, hcr, standardAbsCloseDbAndPurgeLocal]
        | false =>
            obtain ⟨r, c, hr, hc, hbody⟩ := h hopen hpre
            have hopened : withOpenDb fl s body = finish r ((opened s).record c) := by
              have hfinish : withOpenDb fl s body =
                  finish (body (opened s)).1 (body (opened s)).2 := by
                simp [withOpenDb, standardAbsOpenDb, preSync, hopen, hpre, opened]
              rw [hfinish, hbody]
            rw [hopened]
            cases hcr : s.crashed <;>
              simp [finish, opened, SyncState.record, hcalls, hcr, hr, hc.symm,
                standardAbsCloseDbAndPurgeLocal]
  exact ⟨fun h => absurd h hearly.1, fun _ => hearly⟩

/-- A copy that went through to the closing. -/
theorem succeedsOnlyWhen_of_closed {complete : SyncState α → Prop} {s : SyncState α} :
    SucceedsOnlyWhen complete (0, standardAbsCloseDbAndPurgeLocal s true) ↔
      complete (standardAbsCloseDbAndPurgeLocal s true) := by
  constructor
  · intro h
    exact h.1 rfl
  · intro h
    exact ⟨fun _ => h, fun hn => absurd h hn⟩

/-! ## copy_to_pilot -/

def unwritten (s : SyncState α) (u : Nat) (l : LocalRecord α) : SyncState α :=
  ((s.record (.transmit u true)).setStatus u .nothing).record (.writeRecord u l.ID l.content false)

def copied (s : SyncState α) (u : Nat) (l : LocalRecord α) : SyncState α :=
  let sent := (s.record (.transmit u true)).setStatus u .nothing
  { sent with
    pilot := s.pilot.dlpWriteRecord l.secret l.ID l.content
    calls := .writeRecord u l.ID l.content true :: sent.calls
    }.setPilotId u (s.pilot.assignedID l.ID)

/-- What the loop makes of the state at slot `u`, and whether it goes on. -/
inductive CopyTurn (fl : Faults) (u : Nat) (s : SyncState α) : SyncState α → Bool → Prop where
  | skipped (h : ∀ l, s.store.get u = some l → l.live = false) : CopyTurn fl u s s true
  | archived (h : ∀ l, s.store.get u = some l → l.live = false) :
      CopyTurn fl u s (s.archiveLocal u) true
  | untransmitted (l : LocalRecord α) (hl : s.store.get u = some l) (hlive : l.live = true)
      (htransmit : fl.transmit u = true) : CopyTurn fl u s (s.record (.transmit u false)) false
  | unwritten (l : LocalRecord α) (hl : s.store.get u = some l) (hlive : l.live = true)
      (htransmit : fl.transmit u = false) (hwrite : fl.writeRecord u = true) :
      CopyTurn fl u s (unwritten s u l) true
  | copied (l : LocalRecord α) (hl : s.store.get u = some l) (hlive : l.live = true)
      (htransmit : fl.transmit u = false) (hwrite : fl.writeRecord u = false) :
      CopyTurn fl u s (copied s u l) true

theorem copyToPilotLoop_cons (fl : Faults) (u : Nat) (us : List Nat) (s : SyncState α) :
    ∃ s' goesOn, CopyTurn fl u s s' goesOn ∧ copyToPilotLoop fl (u :: us) s =
      if goesOn then copyToPilotLoop fl us s' else s' := by
  rw [copyToPilotLoop]
  cases hl : s.store.get u with
  | none => exact ⟨s, true, .skipped (by simp [hl]), rfl⟩
  | some l =>
      have hdead : l.live = false → ∀ m, s.store.get u = some m → m.live = false := by
        intro h m hm
        rw [hl, Option.some.injEq] at hm
        rw [← hm, h]
      dsimp only
      cases harch : l.archived with
      | true => exact ⟨_, true, .archived (hdead (by simp [LocalRecord.live, harch])), rfl⟩
      | false =>
          by_cases hdel : l.attr = .deleted
          · refine ⟨s, true, .skipped (hdead (by simp [LocalRecord.live, hdel])), ?_⟩
            simp [hdel]
          · have hlive : l.live = true := by simp [LocalRecord.live, harch, hdel]
            simp only [hdel, ne_eq, not_false_eq_true, if_true, Bool.false_eq_true, if_false]
            cases htransmit : fl.transmit u with
            | true => exact ⟨_, false, .untransmitted l hl hlive htransmit, rfl⟩
            | false =>
                cases hwrite : fl.writeRecord u with
                | true => exact ⟨_, true, .unwritten l hl hlive htransmit hwrite, rfl⟩
                | false => exact ⟨_, true, .copied l hl hlive htransmit hwrite, rfl⟩

section Turn

variable {fl : Faults} {u : Nat} {us : List Nat} {s s' : SyncState α} {goesOn : Bool}
  {l : LocalRecord α}

theorem unwritten_store (hl : s.store.get u = some l) (v : Nat) :
    (unwritten s u l).store.get v =
      if v = u then some { l with attr := .nothing } else s.store.get v := by
  by_cases hv : v = u <;> simp [unwritten, SyncState.setStatus, SyncState.record, hv, hl]

theorem copied_store (hl : s.store.get u = some l) (v : Nat) : (copied s u l).store.get v =
    if v = u then some { l with attr := .nothing, ID := s.pilot.assignedID l.ID }
    else s.store.get v := by
  by_cases hv : v = u <;>
    simp [copied, SyncState.setPilotId, SyncState.setStatus, SyncState.record, hv, hl]

theorem copied_pilot (s : SyncState α) (u : Nat) (l : LocalRecord α) :
    (copied s u l).pilot = s.pilot.dlpWriteRecord l.secret l.ID l.content := rfl

theorem archiveLocal_store (v : Nat) : (s.archiveLocal u).store.get v =
    if v = u then none else s.store.get v := by
  unfold SyncState.archiveLocal
  cases hu : s.store.get u with
  | none =>
      by_cases hv : v = u
      · rw [if_pos hv, hv]
        exact hu
      · rw [if_neg hv]
  | some l => exact LocalStore.get_remove _ _ _

theorem archiveLocal_pilot : (s.archiveLocal u).pilot = s.pilot := by
  unfold SyncState.archiveLocal
  cases s.store.get u <;> rfl

theorem CopyTurn.slots (h : CopyTurn fl u s s' goesOn) {v : Nat} (hv : v ≠ u) :
    s'.store.get v = s.store.get v := by
  cases h with
  | skipped _ => rfl
  | archived _ => rw [archiveLocal_store, if_neg hv]
  | untransmitted _ _ _ _ => rfl
  | unwritten l hl _ _ _ => rw [unwritten_store hl, if_neg hv]
  | copied l hl _ _ _ => rw [copied_store hl, if_neg hv]

theorem CopyTurn.crashed_eq (h : CopyTurn fl u s s' goesOn) : s'.crashed = s.crashed := by
  cases h with
  | archived _ =>
      unfold SyncState.archiveLocal
      cases s.store.get u <;> rfl
  | _ => rfl

end Turn

/-- The slots behind the turn keep their records. -/
theorem copyToPilotLoop_frame (fl : Faults) (us : List Nat) (s : SyncState α) :
    (∀ v, v ∉ us → (copyToPilotLoop fl us s).store.get v = s.store.get v) ∧
      (copyToPilotLoop fl us s).crashed = s.crashed := by
  induction us generalizing s with
  | nil => exact ⟨fun _ _ => rfl, rfl⟩
  | cons u us ih =>
      obtain ⟨s', goesOn, hturn, hloop⟩ := copyToPilotLoop_cons fl u us s
      rw [hloop]
      cases goesOn with
      | false => exact ⟨fun v hv => hturn.slots fun h => hv (h ▸ List.mem_cons_self),
          hturn.crashed_eq⟩
      | true =>
          obtain ⟨hslots, hcrashed⟩ := ih s'
          refine ⟨fun v hv => ?_, hcrashed.trans hturn.crashed_eq⟩
          rw [List.mem_cons, not_or] at hv
          exact (hslots v hv.2).trans (hturn.slots hv.1)

/-- The calls for the record in slot `u` succeed. -/
def Faults.sparesTransfer (fl : Faults) (u : Nat) : Prop :=
  fl.transmit u = false ∧ fl.writeRecord u = false

/-! ## The IDs of the copies -/

def liveSlots (st : LocalStore α) (us : List Nat) : List Nat :=
  us.filter fun u => (st.get u).any LocalRecord.live

def idAt (st : LocalStore α) (u : Nat) : Nat :=
  ((st.get u).map LocalRecord.ID).getD 0

def assignIDs (seed : Nat) : List Nat → List Nat
  | [] => []
  | id :: ids =>
    let assigned := if id = 0 then seed else id
    assigned :: assignIDs (max seed (assigned + 1)) ids

/-- The IDs that the live records of the slots get. -/
def copyIDs (s : SyncState α) (us : List Nat) : List Nat :=
  assignIDs s.pilot.uniqueIDSeed ((liveSlots s.store us).map (idAt s.store))

theorem mem_liveSlots {st : LocalStore α} {us : List Nat} {u : Nat} :
    u ∈ liveSlots st us ↔ u ∈ us ∧ ∃ l, st.get u = some l ∧ l.live = true := by
  rw [liveSlots, List.mem_filter, Option.any_eq_true]

section Ids

variable {fl : Faults} {u : Nat} {us : List Nat} {s s' : SyncState α} {l : LocalRecord α}

/-- Records of other slots are of no account. -/
theorem liveSlots_congr {st st' : LocalStore α} (h : ∀ v ∈ us, st'.get v = st.get v) :
    liveSlots st' us = liveSlots st us ∧
      (liveSlots st' us).map (idAt st') = (liveSlots st us).map (idAt st) := by
  have hsame : liveSlots st' us = liveSlots st us :=
    List.filter_congr fun v hv => by rw [h v hv]
  refine ⟨hsame, ?_⟩
  rw [hsame]
  refine List.map_congr_left fun v hv => ?_
  rw [idAt, idAt, h v (mem_liveSlots.mp hv).1]

theorem liveSlots_cons_of_dead {st : LocalStore α}
    (h : ∀ l, st.get u = some l → l.live = false) :
    liveSlots st (u :: us) = liveSlots st us := by
  refine List.filter_cons_of_neg fun hany => ?_
  obtain ⟨l, hl, hlive⟩ := Option.any_eq_true _ _ |>.mp hany
  rw [h l hl] at hlive
  contradiction

theorem liveSlots_cons_of_live {st : LocalStore α} (hl : st.get u = some l)
    (hlive : l.live = true) : liveSlots st (u :: us) = u :: liveSlots st us :=
  List.filter_cons_of_pos (by simp [hl, hlive])

theorem copyIDs_cons_of_dead (h : ∀ l, s.store.get u = some l → l.live = false)
    (hslots : ∀ v ∈ us, s'.store.get v = s.store.get v) (hpilot : s'.pilot = s.pilot) :
    copyIDs s (u :: us) = copyIDs s' us := by
  rw [copyIDs, copyIDs, liveSlots_cons_of_dead h, hpilot, (liveSlots_congr hslots).2]

/-- The first live record gets its ID, and the others theirs after it. -/
theorem copyIDs_cons_of_live (hl : s.store.get u = some l) (hlive : l.live = true)
    (hu : u ∉ us) :
    copyIDs s (u :: us) = s.pilot.assignedID l.ID :: copyIDs (copied s u l) us := by
  have hslots : ∀ v ∈ us, (copied s u l).store.get v = s.store.get v := fun v hv => by
    rw [copied_store hl, if_neg (ne_of_mem_of_not_mem hv hu)]
  have hid : idAt s.store u = l.ID := by simp [idAt, hl]
  rw [copyIDs, copyIDs, liveSlots_cons_of_live hl hlive, List.map_cons, assignIDs, hid,
    (liveSlots_congr hslots).2]
  rfl

/-- What the loop leaves if no call for a live record fails: each record has its ID, only these
IDs are written, and where they are different every record is on the pilot. -/
structure CopiesAll (us : List Nat) (s s' : SyncState α) : Prop where
  ids : (liveSlots s.store us).map (idAt s'.store) = copyIDs s us
  pilot : ∀ j, j ∉ copyIDs s us → s'.pilot.get j = s.pilot.get j
  onPilot : (copyIDs s us).Nodup → ∀ u ∈ us, ∀ l, s.store.get u = some l → l.live = true →
    OnPilot s' u l.content

/-- A turn at a record that is not copied. -/
theorem CopiesAll.cons_of_dead {t : SyncState α}
    (h : ∀ l, s.store.get u = some l → l.live = false)
    (hslots : ∀ v ∈ us, s'.store.get v = s.store.get v) (hpilot : s'.pilot = s.pilot)
    (hall : CopiesAll us s' t) : CopiesAll (u :: us) s t := by
  have hids := copyIDs_cons_of_dead h hslots hpilot
  refine ⟨?_, fun j hj => ?_, fun hnodup v hv l hl hlive => ?_⟩
  · rw [hids, liveSlots_cons_of_dead h, ← (liveSlots_congr hslots).1]
    exact hall.ids
  · rw [hids] at hj
    rw [hall.pilot j hj, hpilot]
  · rcases List.mem_cons.mp hv with rfl | hv
    · rw [h l hl] at hlive
      contradiction
    · exact hall.onPilot (hids ▸ hnodup) v hv l ((hslots v hv).trans hl) hlive

/-- The turn at a record that is copied. -/
theorem CopiesAll.cons_of_live {t : SyncState α} (hl : s.store.get u = some l)
    (hlive : l.live = true) (hu : u ∉ us)
    (hslot : t.store.get u = (copied s u l).store.get u)
    (hall : CopiesAll us (copied s u l) t) : CopiesAll (u :: us) s t := by
  have hids := copyIDs_cons_of_live hl hlive hu
  have hslots : ∀ v ∈ us, (copied s u l).store.get v = s.store.get v := fun v hv => by
    rw [copied_store hl, if_neg (ne_of_mem_of_not_mem hv hu)]
  rw [copied_store hl, if_pos rfl] at hslot
  refine ⟨?_, fun j hj => ?_, fun hnodup v hv m hm hmlive => ?_⟩
  · rw [hids, liveSlots_cons_of_live hl hlive, List.map_cons, ← hall.ids,
      (liveSlots_congr hslots).1, idAt, hslot]
    rfl
  · rw [hids, List.mem_cons, not_or] at hj
    rw [hall.pilot j hj.2, copied_pilot, PilotDB.get_dlpWriteRecord, if_neg hj.1]
  · rw [hids, List.nodup_cons] at hnodup
    rcases List.mem_cons.mp hv with rfl | hv
    · rw [hl, Option.some.injEq] at hm
      subst hm
      refine ⟨_, PilotDB.written l.secret l.content, hslot, by simp, ?_, rfl, rfl⟩
      rw [hall.pilot _ hnodup.1, copied_pilot, PilotDB.get_dlpWriteRecord, if_pos rfl]
    · exact hall.onPilot hnodup.2 v hv m ((hslots v hv).trans hm) hmlive

theorem copyToPilotLoop_copiesAll (us : List Nat) (hus : us.Nodup) (s : SyncState α)
    (hspared : ∀ u ∈ us, ∀ l, s.store.get u = some l → l.live = true → fl.sparesTransfer u) :
    CopiesAll us s (copyToPilotLoop fl us s) := by
  induction us generalizing s with
  | nil => exact ⟨rfl, fun _ _ => rfl, fun _ _ h => absurd h List.not_mem_nil⟩
  | cons u us ih =>
      obtain ⟨hu, hus⟩ := List.nodup_cons.mp hus
      obtain ⟨s', goesOn, hturn, hloop⟩ := copyToPilotLoop_cons fl u us s
      have hslots : ∀ v ∈ us, s'.store.get v = s.store.get v :=
        fun v hv => hturn.slots fun h => hu (h ▸ hv)
      have hrest := ih hus s' fun v hv l hl =>
        hspared v (List.mem_cons_of_mem u hv) l ((hslots v hv).symm.trans hl)
      rw [hloop]
      cases hturn with
      | skipped hdead => exact hrest.cons_of_dead hdead hslots rfl
      | archived hdead => exact hrest.cons_of_dead hdead hslots archiveLocal_pilot
      | untransmitted l hl hlive htransmit =>
          have hok := (hspared u List.mem_cons_self l hl hlive).1
          rw [htransmit] at hok
          contradiction
      | unwritten l hl hlive _ hwrite =>
          have hok := (hspared u List.mem_cons_self l hl hlive).2
          rw [hwrite] at hok
          contradiction
      | copied l hl hlive _ _ =>
          exact hrest.cons_of_live hl hlive hu ((copyToPilotLoop_frame fl us _).1 u hu)

/-- Every record of the pilot was written for a live record that has its ID now. -/
def Sourced (fl : Faults) (live : Nat → Prop) (us : List Nat) (s : SyncState α) : Prop :=
  ∀ j d, s.pilot.get j = some d →
    ∃ v m, v ∉ us ∧ live v ∧ fl.sparesTransfer v ∧ s.store.get v = some m ∧ m.ID = j

theorem CopyTurn.sourced {goesOn : Bool} {live : Nat → Prop}
    (hturn : CopyTurn fl u s s' goesOn) (hu : u ∉ us)
    (hlive : ∀ l, s.store.get u = some l → l.live = true → live u)
    (h : Sourced fl live (u :: us) s) : Sourced fl live us s' := by
  have hold : ∀ {j d}, s.pilot.get j = some d → ∃ v m, v ∉ us ∧ live v ∧ fl.sparesTransfer v ∧
      s'.store.get v = some m ∧ m.ID = j := by
    intro j d hd
    obtain ⟨v, m, hv, hrest⟩ := h j d hd
    rw [List.mem_cons, not_or] at hv
    rw [← hturn.slots hv.1] at hrest
    exact ⟨v, m, hv.2, hrest⟩
  intro j d hd
  cases hturn with
  | skipped _ => exact hold hd
  | archived _ => exact hold (archiveLocal_pilot ▸ hd)
  | untransmitted _ _ _ _ => exact hold hd
  | unwritten _ _ _ _ _ => exact hold hd
  | copied l hl hl' htransmit hwrite =>
      rw [copied_pilot, PilotDB.get_dlpWriteRecord] at hd
      by_cases hj : j = s.pilot.assignedID l.ID
      · exact ⟨u, _, hu, hlive l hl hl', ⟨htransmit, hwrite⟩,
          (copied_store hl u).trans (if_pos rfl), hj.symm⟩
      · rw [if_neg hj] at hd
        exact hold hd

theorem copyToPilotLoop_sourced {live : Nat → Prop} (us : List Nat) (hus : us.Nodup)
    (s : SyncState α) (hlive : ∀ u ∈ us, ∀ l, s.store.get u = some l → l.live = true → live u)
    (h : Sourced fl live us s) : Sourced fl live [] (copyToPilotLoop fl us s) := by
  induction us generalizing s with
  | nil => exact h
  | cons u us ih =>
      obtain ⟨hu, hus⟩ := List.nodup_cons.mp hus
      obtain ⟨s', goesOn, hturn, hloop⟩ := copyToPilotLoop_cons fl u us s
      have hsourced := hturn.sourced hu (hlive u List.mem_cons_self) h
      rw [hloop]
      cases goesOn with
      | false => exact fun j d hd => (hsourced j d hd).imp fun v => Exists.imp fun m h =>
          ⟨List.not_mem_nil, h.2⟩
      | true =>
          refine ih hus s' (fun v hv l hl => hlive v (List.mem_cons_of_mem u hv) l ?_) hsourced
          rw [← hl]
          exact (hturn.slots fun h => hu (h ▸ hv)).symm

structure CopiedSlots (st : LocalStore α) (us : List Nat) (s : SyncState α) : Prop where
  content : ∀ u ∈ us, ∀ l, st.get u = some l → l.live = true → OnPilot s u l.content
  apart : ∀ u ∈ liveSlots st us, ∀ v ∈ liveSlots st us, idAt s.store u = idAt s.store v → u = v

/-- From an empty database the loop copies every live record exactly when no call for one of
them fails and no two get the same ID. -/
theorem copyToPilotLoop_complete_iff (fl : Faults) (us : List Nat) (hus : us.Nodup)
    (s : SyncState α) (hempty : ∀ j, s.pilot.get j = none) :
    CopiedSlots s.store us (copyToPilotLoop fl us s) ↔
      (∀ u ∈ us, ∀ l, s.store.get u = some l → l.live = true → fl.sparesTransfer u) ∧
        (copyIDs s us).Nodup := by
  have hnodup : (liveSlots s.store us).Nodup := hus.filter _
  constructor
  · intro h
    have hspared : ∀ u ∈ us, ∀ l, s.store.get u = some l → l.live = true →
        fl.sparesTransfer u := by
      intro u hu l hl hlive
      obtain ⟨m, d, hm, -, hd, -, -⟩ := h.content u hu l hl hlive
      have hstart : Sourced fl (fun v => v ∈ liveSlots s.store us) us s :=
        fun j e he => by simp [hempty] at he
      have hsourced := copyToPilotLoop_sourced us hus s
        (fun v hv n hn hnlive => mem_liveSlots.mpr ⟨hv, n, hn, hnlive⟩) hstart
      obtain ⟨v, n, -, hv, hok, hn, hid⟩ := hsourced m.ID d hd
      rwa [h.apart u (mem_liveSlots.mpr ⟨hu, l, hl, hlive⟩) v hv (by simp [idAt, hm, hn, hid])]
    have hcopies := copyToPilotLoop_copiesAll us hus s hspared
    refine ⟨hspared, ?_⟩
    rw [← hcopies.ids, List.nodup_map_iff_inj_on hnodup]
    exact h.apart
  · rintro ⟨hspared, hids⟩
    have hcopies := copyToPilotLoop_copiesAll us hus s hspared
    refine ⟨hcopies.onPilot hids, fun u hu v hv hid => ?_⟩
    rw [← hcopies.ids] at hids
    exact List.inj_on_of_nodup_map hids hu hv hid

end Ids

/-! ## copy_from_pilot -/

def Absent (ids : List Nat) (s : SyncState α) : Prop :=
  ∀ u m, s.store.get u = some m → m.ID ∉ ids

/-- What a turn does: the pilot is left alone, and only a live record is stored. -/
structure BodyCopies (fl : Faults) (i : Nat) (d : DlpRecord α) (s s' : SyncState α) : Prop where
  pilot : s'.pilot = s.pilot
  crashed : s'.crashed = s.crashed
  slots : ∀ u m, s'.store.get u = some m → s.store.get u = some m ∨ m.ID = i
  other : ∀ j c, j ≠ i → (InStore s' j c ↔ InStore s j c)
  self : d.live = true → (InStore s' i d.content ↔ fl.storeRemote i = false)

theorem BodyCopies.absent {fl : Faults} {i : Nat} {d : DlpRecord α} {s s' : SyncState α}
    {ids : List Nat} (h : BodyCopies fl i d s s') (habsent : Absent (i :: ids) s) (hi : i ∉ ids) :
    Absent ids s' := by
  intro u m hm hmem
  rcases h.slots u m hm with hold | hid
  · exact habsent u m hold (List.mem_cons_of_mem i hmem)
  · rw [hid] at hmem
    exact hi hmem

theorem copyFromPilotBody_copies (fl : Faults) {s : SyncState α} {i : Nat} {ids : List Nat}
    (d : DlpRecord α) (habsent : Absent (i :: ids) s) :
    BodyCopies fl i d s (copyFromPilotBody fl s (standardAbsComputeAttrField i d)) := by
  have hnone : ∀ c, ¬ InStore s i c := by
    rintro c ⟨u, m, hm, -, hid, -⟩
    exact habsent u m hm (by rw [hid]; exact List.mem_cons_self)
  have hmatch : s.store.matchRecord i = none := by
    rw [LocalStore.matchRecord_eq_none]
    rintro u m hm rfl
    exact habsent u m hm List.mem_cons_self
  unfold copyFromPilotBody
  by_cases harch : d.archived = true
  · have hdead : d.live = false := by simp [DlpRecord.live, harch]
    rw [if_pos (show (standardAbsComputeAttrField i d).archived = true from harch)]
    exact ⟨rfl, rfl, fun u m hm => Or.inl hm, fun j c _ => Iff.rfl, by simp [hdead]⟩
  · rw [if_neg (show ¬ (standardAbsComputeAttrField i d).archived = true from harch)]
    by_cases hdel : d.deleted = true
    · have hdead : d.live = false := by simp [DlpRecord.live, hdel]
      rw [if_neg (by simp [standardAbsComputeAttrField, hdel])]
      exact ⟨rfl, rfl, fun u m hm => Or.inl hm, fun j c _ => Iff.rfl, by simp [hdead]⟩
    · have hattr : (standardAbsComputeAttrField i d).attr ≠ .deleted := by
        cases hdirty : d.dirty <;> simp [standardAbsComputeAttrField, hdel, hdirty]
      rw [if_pos hattr]
      by_cases hfault : fl.storeRemote i = true
      · have hstore : s.storeRemote fl (standardAbsComputeAttrField i d).cleared =
            s.record (.storeRemote i) := by
          simp [SyncState.storeRemote, PilotRecord.cleared, standardAbsComputeAttrField, hfault]
        rw [hstore]
        refine ⟨rfl, rfl, fun u m hm => Or.inl hm, fun j c _ => Iff.rfl, ?_⟩
        intro _
        have hstill : ¬ InStore (s.record (.storeRemote i)) i d.content := hnone d.content
        simp [hfault, hstill]
      · have hstore : s.storeRemote fl (standardAbsComputeAttrField i d).cleared =
            { s with
              store := s.store.insert ⟨.nothing, false, d.secret, i, d.content⟩
              calls := .storeRemote i :: s.calls } := by
          simp [SyncState.storeRemote, PilotRecord.cleared, standardAbsComputeAttrField, hfault,
            hmatch, SyncState.storedRecord]
        rw [hstore]
        refine ⟨rfl, rfl, ?_, ?_, ?_⟩
        · intro u m hm
          simp only [LocalStore.get_insert] at hm
          split at hm
          · rw [Option.some.injEq] at hm
            exact Or.inr (by rw [← hm])
          · exact Or.inl hm
        · intro j c hj
          constructor
          · rintro ⟨u, m, hm, hne, hid, hc⟩
            simp only [LocalStore.get_insert] at hm
            split at hm
            · rw [Option.some.injEq] at hm
              rw [← hm] at hid
              exact absurd hid.symm hj
            · exact ⟨u, m, hm, hne, hid, hc⟩
          · rintro ⟨u, m, hm, hne, hid, hc⟩
            have hu := LocalStore.lt_size hm
            refine ⟨u, m, ?_, hne, hid, hc⟩
            rw [LocalStore.get_insert, if_neg (by omega)]
            exact hm
        · intro _
          simp only [Bool.not_eq_true] at hfault
          simp only [hfault, iff_true]
          exact ⟨s.store.size, ⟨.nothing, false, d.secret, i, d.content⟩, by simp, by simp,
            rfl, rfl⟩

/-- The reads up to the record and the call that stores it succeed. -/
def Faults.sparesRead (fl : Faults) (index k i : Nat) : Prop :=
  fl.storeRemote i = false ∧ ∀ n, index ≤ n → n ≤ index + k → fl.readRecordByIndex n = false

theorem drop_eq_cons_iff {l rest : List Nat} {n i : Nat} :
    l.drop n = i :: rest ↔ l[n]? = some i ∧ l.drop (n + 1) = rest := by
  by_cases h : n < l.length
  · rw [List.drop_eq_getElem_cons h, List.cons.injEq, List.getElem?_eq_getElem h,
      Option.some.injEq]
  · rw [List.drop_eq_nil_of_le (by omega), List.getElem?_eq_none (by omega)]
    exact iff_of_false (List.cons_ne_nil i rest).symm
      fun hsome => Option.some_ne_none i hsome.1.symm

/-- Once a read succeeds, its record has to be stored and the reads behind it to succeed. -/
theorem forall_sparesRead_cons {fl : Faults} {index i : Nat} {rest : List Nat}
    (hread : fl.readRecordByIndex index = false) {P : Nat → DlpRecord α → Prop} :
    (∀ k j d, (i :: rest)[k]? = some j → P j d → fl.sparesRead index k j) ↔
      (∀ d, P i d → fl.storeRemote i = false) ∧
        ∀ k j d, rest[k]? = some j → P j d → fl.sparesRead (index + 1) k j := by
  constructor
  · intro hall
    refine ⟨fun d hd => (hall 0 i d rfl hd).1, fun k j d hj hd => ?_⟩
    obtain ⟨hstore, hreads⟩ := hall (k + 1) j d hj hd
    exact ⟨hstore, fun n hn hn' => hreads n (by omega) (by omega)⟩
  · rintro ⟨hhead, htail⟩ k j d hj hd
    cases k with
    | zero =>
        simp only [List.getElem?_cons_zero, Option.some.injEq] at hj
        subst hj
        refine ⟨hhead d hd, fun n hn hn' => ?_⟩
        have hn : n = index := by omega
        rw [hn, hread]
    | succ k =>
        rw [List.getElem?_cons_succ] at hj
        obtain ⟨hstore, hreads⟩ := htail k j d hj hd
        refine ⟨hstore, fun n hn hn' => ?_⟩
        by_cases hni : n = index
        · rw [hni, hread]
        · exact hreads n (by omega) (by omega)

/-- A read that fails comes before every record ahead. -/
theorem not_sparesRead {fl : Faults} {index : Nat} (hread : fl.readRecordByIndex index = true)
    (k i : Nat) : ¬ fl.sparesRead index k i := by
  intro h
  have hno := h.2 index (Nat.le_refl _) (by omega)
  rw [hread] at hno
  contradiction

/-- Records behind the turn stay as they are. -/
theorem copyFromPilotLoop_other (fl : Faults) (fuel index : Nat) (rest : List Nat)
    (s : SyncState α) (hrest : s.pilot.order.drop index = rest) (habsent : Absent rest s)
    (j : Nat) (hj : j ∉ rest) (c : α) :
    InStore (readByIndexLoop fl (copyFromPilotBody fl) fuel index s) j c ↔ InStore s j c := by
  induction fuel generalizing index rest s with
  | zero => exact Iff.rfl
  | succ fuel ih =>
      unfold readByIndexLoop
      by_cases hcr : s.crashed = true
      · rw [if_pos hcr]
      · rw [if_neg hcr]
        by_cases hread : fl.readRecordByIndex index = true
        · rw [if_pos hread]
          exact Iff.rfl
        · rw [if_neg hread]
          cases hi : s.pilot.dlpReadRecordByIndex index with
          | none => exact Iff.rfl
          | some e =>
              obtain ⟨i, d⟩ := e
              have hget? : s.pilot.order[index]? = some i := by
                simp only [PilotDB.dlpReadRecordByIndex, Option.bind_eq_bind,
                  Option.bind_eq_some_iff] at hi
                obtain ⟨a, ha, b, -, hab⟩ := hi
                simp only [Option.pure_def, Option.some.injEq, Prod.mk.injEq] at hab
                rw [ha, hab.1]
              have hcons : rest = i :: s.pilot.order.drop (index + 1) :=
                hrest.symm.trans (drop_eq_cons_iff.mpr ⟨hget?, rfl⟩)
              rw [hcons] at hj habsent
              rw [List.mem_cons, not_or] at hj
              have hbody := copyFromPilotBody_copies fl (s := s.record (.readRecordByIndex index))
                d habsent
              have hnodup := s.pilot.order_nodup.drop (i := index)
              rw [hrest, hcons] at hnodup
              have hdrop := ih (index + 1) (s.pilot.order.drop (index + 1))
                (copyFromPilotBody fl (s.record (.readRecordByIndex index))
                  (standardAbsComputeAttrField i d)) (by rw [hbody.pilot]; rfl)
                (hbody.absent habsent (List.nodup_cons.mp hnodup).1) hj.2
              exact hdrop.trans (hbody.other j c hj.1)

/-- The loop stores every live record from its index on exactly when no call that
leads to one of them fails. -/
theorem copyFromPilotLoop_complete_iff (fl : Faults) (fuel index : Nat) (rest : List Nat)
    (s : SyncState α) (hrest : s.pilot.order.drop index = rest) (hfuel : rest.length < fuel)
    (habsent : Absent rest s) (halive : s.crashed = false) :
    (∀ i ∈ rest, ∀ d, s.pilot.get i = some d → d.live = true →
        InStore (readByIndexLoop fl (copyFromPilotBody fl) fuel index s) i d.content) ↔
      ∀ k i d, rest[k]? = some i → s.pilot.get i = some d → d.live = true →
        fl.sparesRead index k i := by
  induction fuel generalizing index rest s with
  | zero => omega
  | succ fuel ih =>
      unfold readByIndexLoop
      rw [if_neg (by rw [halive]; decide)]
      cases rest with
      | nil => simp
      | cons i rest =>
          obtain ⟨hget?, hdrop⟩ := drop_eq_cons_iff.mp hrest
          have hnodup := s.pilot.order_nodup.drop (i := index)
          rw [hrest] at hnodup
          obtain ⟨hi, -⟩ := List.nodup_cons.mp hnodup
          have hmem : i ∈ s.pilot.order := List.mem_of_getElem? hget?
          obtain ⟨d, hd⟩ := Option.isSome_iff_exists.mp ((s.pilot.mem_order i).1 hmem)
          by_cases hread : fl.readRecordByIndex index = true
          · -- the loop ends here, before any of the records ahead is stored
            rw [if_pos hread]
            constructor
            · intro h k j e hj he hlive
              obtain ⟨u, m, hm, -, hid, -⟩ := h j (List.mem_of_getElem? hj) e he hlive
              exact absurd (by rw [hid]; exact List.mem_of_getElem? hj) (habsent u m hm)
            · intro h j hj e he hlive
              obtain ⟨k, hk⟩ := List.getElem?_of_mem hj
              exact absurd (h k j e hk he hlive) (not_sparesRead hread k j)
          · rw [if_neg hread, PilotDB.dlpReadRecordByIndex_eq hget? hd]
            dsimp only
            have hbody := copyFromPilotBody_copies fl (s := s.record (.readRecordByIndex index))
              d habsent
            generalize copyFromPilotBody fl (s.record (.readRecordByIndex index))
              (standardAbsComputeAttrField i d) = s₁ at hbody
            have hpilot : s₁.pilot = s.pilot := hbody.pilot
            have habsent₁ : Absent rest s₁ := hbody.absent habsent hi
            have hrest₁ : s₁.pilot.order.drop (index + 1) = rest := by rw [hpilot, hdrop]
            have htail := ih (index + 1) rest s₁ hrest₁ (by simpa using hfuel) habsent₁
              (hbody.crashed.trans halive)
            rw [hpilot] at htail
            have hself : (∀ e, s.pilot.get i = some e → e.live = true →
                InStore (readByIndexLoop fl (copyFromPilotBody fl) fuel (index + 1) s₁) i
                  e.content) ↔
                ∀ e, s.pilot.get i = some e ∧ e.live = true → fl.storeRemote i = false := by
              refine forall_congr' fun e => and_imp.symm.trans (imp_congr_right fun he => ?_)
              have hde : d = e := Option.some.inj (hd.symm.trans he.1)
              rw [copyFromPilotLoop_other fl fuel (index + 1) rest s₁ hrest₁ habsent₁ i hi, ← hde]
              exact hbody.self (hde ▸ he.2)
            have hall := @forall_sparesRead_cons α fl index i rest (Bool.eq_false_iff.mpr hread)
              fun j e => s.pilot.get j = some e ∧ e.live = true
            simp only [and_imp] at hall hself
            rw [List.forall_mem_cons, htail, hself, hall]

/-! ## The operations -/

theorem copyFromPilotLoop_crashed (fl : Faults) (fuel index : Nat) (s : SyncState α) :
    (readByIndexLoop fl (copyFromPilotBody fl) fuel index s).crashed = s.crashed := by
  have hbody : ∀ (s : SyncState α) (r : PilotRecord α),
      (copyFromPilotBody fl s r).crashed = s.crashed := by
    intro s r
    unfold copyFromPilotBody SyncState.storeRemote
    repeat' split
    all_goals rfl
  induction fuel generalizing index s with
  | zero => rfl
  | succ fuel ih =>
      unfold readByIndexLoop
      split
      · rfl
      · split
        · rfl
        · split
          · rfl
          · rw [ih, hbody]
            rfl

/-- Every live local record is on the pilot, under an ID of its own. -/
structure CopiedToPilot (x : Replicas α) (s : SyncState α) : Prop where
  content : ∀ u l, x.store.get u = some l → l.live = true → OnPilot s u l.content
  apart : ∀ u v l m, x.store.get u = some l → l.live = true → x.store.get v = some m →
    m.live = true → idAt s.store u = idAt s.store v → u = v

/-- The IDs under which `copy_to_pilot` writes the live records. -/
def Replicas.copyIDs (x : Replicas α) : List Nat :=
  assignIDs x.pilot.uniqueIDSeed
    ((liveSlots x.store (List.range x.store.size)).map (idAt x.store))

/-- Every live pilot record is in the local store. -/
def CopiedFromPilot (x : Replicas α) (s : SyncState α) : Prop :=
  ∀ i d, x.pilot.get i = some d → d.live = true → InStore s i d.content

/-- The operation opens the database and wipes the destination. -/
def Faults.preparesCopy (fl : Faults) (wipe : Bool) : Prop :=
  fl.openDB = false ∧ fl.preSync = false ∧ wipe = false

theorem mem_liveSlots_range {st : LocalStore α} {u : Nat} :
    u ∈ liveSlots st (List.range st.size) ↔ ∃ l, st.get u = some l ∧ l.live = true := by
  rw [mem_liveSlots, List.mem_range, and_iff_right_iff_imp]
  rintro ⟨l, hl, -⟩
  exact LocalStore.lt_size hl

/-- The closing drops no record that is on the pilot. -/
theorem copiedToPilot_close {x : Replicas α} {s : SyncState α} :
    CopiedToPilot x (standardAbsCloseDbAndPurgeLocal s true) ↔
      CopiedSlots x.store (List.range x.store.size) s := by
  have hid : ∀ {u c}, OnPilot s u c →
      idAt (standardAbsCloseDbAndPurgeLocal s true).store u = idAt s.store u := by
    rintro u c ⟨m, -, hm, hattr, -⟩
    have hm' : (standardAbsCloseDbAndPurgeLocal s true).store.get u = some m :=
      Option.filter_eq_some_iff.mpr ⟨hm, by simpa using hattr⟩
    rw [idAt, idAt, hm, hm']
  constructor
  · intro h
    have hcontent : ∀ u ∈ List.range x.store.size, ∀ l, x.store.get u = some l →
        l.live = true → OnPilot s u l.content :=
      fun u _ l hl hlive => (onPilot_close s u l.content).mp (h.content u l hl hlive)
    refine ⟨hcontent, fun u hu v hv heq => ?_⟩
    obtain ⟨hu', l, hl, hlive⟩ := mem_liveSlots.mp hu
    obtain ⟨hv', m, hm, hmlive⟩ := mem_liveSlots.mp hv
    refine h.apart u v l m hl hlive hm hmlive ?_
    rw [hid (hcontent u hu' l hl hlive), hid (hcontent v hv' m hm hmlive), heq]
  · intro h
    have hcontent : ∀ u l, x.store.get u = some l → l.live = true → OnPilot s u l.content :=
      fun u l hl => h.content u (List.mem_range.mpr (LocalStore.lt_size hl)) l hl
    refine ⟨fun u l hl hlive => (onPilot_close s u l.content).mpr (hcontent u l hl hlive), ?_⟩
    intro u v l m hl hlive hm hmlive heq
    refine h.apart u (mem_liveSlots_range.mpr ⟨l, hl, hlive⟩) v
      (mem_liveSlots_range.mpr ⟨m, hm, hmlive⟩) ?_
    rwa [hid (hcontent u l hl hlive), hid (hcontent v m hm hmlive)] at heq

/-- Exactly when `copy_to_pilot` succeeds only with a complete copy. -/
theorem copyToPilot_sound_iff (fl : Faults) (x : Replicas α) (slow : Bool) :
    SucceedsOnlyWhen (CopiedToPilot x) (copyToPilot fl (x.start slow)) ↔
      (fl.preparesCopy fl.deleteAllRecords →
        (∀ u l, x.store.get u = some l → l.live = true → fl.sparesTransfer u) ∧
          x.copyIDs.Nodup) := by
  by_cases hprep : fl.preparesCopy fl.deleteAllRecords
  · obtain ⟨hopen, hpre, hwipe⟩ := hprep
    simp only [Faults.preparesCopy, hopen, hpre, hwipe, and_self, forall_const]
    generalize hs₀ : ({ opened (x.start slow) with
      pilot := x.pilot.dlpDeleteAll
      calls := .deleteAllRecords true :: (opened (x.start slow)).calls } : SyncState α) = s₀
    have hstore : s₀.store = x.store := by
      rw [← hs₀]
      rfl
    have hpilot : s₀.pilot = x.pilot.dlpDeleteAll := by rw [← hs₀]
    have halive : s₀.crashed = false := by
      rw [← hs₀]
      rfl
    have hloop := copyToPilotLoop_complete_iff fl (List.range x.store.size) List.nodup_range s₀
      fun j => by rw [hpilot, PilotDB.get_dlpDeleteAll]
    have hrun : copyToPilot fl (x.start slow) = (0, standardAbsCloseDbAndPurgeLocal
        (copyToPilotLoop fl (List.range x.store.size) s₀) true) := by
      refine withOpenDb_closed hopen hpre ?_
        ((copyToPilotLoop_frame fl (List.range x.store.size) s₀).2.trans halive)
      rw [← hs₀]
      simp only [hwipe, Bool.false_eq_true, if_false]
      rfl
    have hids : copyIDs s₀ (List.range x.store.size) = x.copyIDs := by
      rw [copyIDs, hstore, hpilot, PilotDB.seed_dlpDeleteAll]
      rfl
    rw [hstore, hids] at hloop
    rw [hrun, succeedsOnlyWhen_of_closed, copiedToPilot_close, hloop]
    refine and_congr_left fun _ => ⟨fun h u l hl => ?_, fun h u _ => h u⟩
    exact h u (List.mem_range.mpr (LocalStore.lt_size hl)) l hl
  · have hearly : SucceedsOnlyWhen (CopiedToPilot x) (copyToPilot fl (x.start slow)) := by
      refine succeedsOnlyWhen_of_early rfl fun hopen hpre => ?_
      have hwipe : fl.deleteAllRecords = true := by
        simpa [Faults.preparesCopy, hopen, hpre] using hprep
      exact ⟨-4, .deleteAllRecords false, by decide, nofun, by simp [hwipe]⟩
    simp [hearly, hprep]

theorem copyFromPilot_sound_iff (fl : Faults) (x : Replicas α) (slow : Bool) :
    SucceedsOnlyWhen (CopiedFromPilot x) (copyFromPilot fl (x.start slow)) ↔
      (fl.preparesCopy fl.deleteAll → ∀ k i d, x.pilot.order[k]? = some i →
        x.pilot.get i = some d → d.live = true → fl.sparesRead 0 k i) := by
  by_cases hprep : fl.preparesCopy fl.deleteAll
  · obtain ⟨hopen, hpre, hwipe⟩ := hprep
    simp only [Faults.preparesCopy, hopen, hpre, hwipe, and_self, forall_const]
    generalize hs₀ : ({ opened (x.start slow) with
      store := x.store.clear
      calls := .deleteAll true :: (opened (x.start slow)).calls } : SyncState α) = s₀
    have hstore : s₀.store = x.store.clear := by rw [← hs₀]
    have hpilot : s₀.pilot = x.pilot := by
      rw [← hs₀]
      rfl
    have halive : s₀.crashed = false := by
      rw [← hs₀]
      rfl
    have hloop := copyFromPilotLoop_complete_iff fl (x.pilot.order.length + 1) 0 x.pilot.order s₀
      (by rw [hpilot]; rfl) (by omega) (by
        intro u m hm
        rw [hstore, LocalStore.get_clear] at hm
        contradiction) halive
    rw [hpilot] at hloop
    have hrun : copyFromPilot fl (x.start slow) = (0, standardAbsCloseDbAndPurgeLocal
        (forEachByIndex fl (copyFromPilotBody fl) s₀) true) := by
      refine withOpenDb_closed hopen hpre ?_
        ((copyFromPilotLoop_crashed fl _ _ s₀).trans halive)
      rw [← hs₀]
      simp only [hwipe, Bool.false_eq_true, if_false]
      rfl
    rw [hrun, succeedsOnlyWhen_of_closed]
    unfold CopiedFromPilot forEachByIndex
    rw [hpilot]
    simp only [inStore_close]
    rw [← hloop]
    constructor
    · intro h i _ d hd hlive
      exact h i d hd hlive
    · intro h i d hd hlive
      exact h i ((x.pilot.mem_order i).2 (by simp [hd])) d hd hlive
  · have hearly : SucceedsOnlyWhen (CopiedFromPilot x) (copyFromPilot fl (x.start slow)) := by
      refine succeedsOnlyWhen_of_early rfl fun hopen hpre => ?_
      have hwipe : fl.deleteAll = true := by
        simpa [Faults.preparesCopy, hopen, hpre] using hprep
      exact ⟨-3, .deleteAll false, by decide, nofun, by simp [hwipe]⟩
    simp [hearly, hprep]

/-- After a successful opening and wipe, a copy that promises what it did needs every
transfer of a live record to succeed, and copies with IDs of their own. -/
theorem copy_succeedsOnlyWhen_iff (fl : Faults) (x : Replicas α) (slow : Bool) :
    SucceedsOnlyWhen (CopiedToPilot x) (copyToPilot fl (x.start slow)) ∧
        SucceedsOnlyWhen (CopiedFromPilot x) (copyFromPilot fl (x.start slow)) ↔
      (fl.preparesCopy fl.deleteAllRecords →
        (∀ u l, x.store.get u = some l → l.live = true → fl.sparesTransfer u) ∧
          x.copyIDs.Nodup) ∧
      (fl.preparesCopy fl.deleteAll → ∀ k i d, x.pilot.order[k]? = some i →
        x.pilot.get i = some d → d.live = true → fl.sparesRead 0 k i) :=
  and_congr (copyToPilot_sound_iff fl x slow) (copyFromPilot_sound_iff fl x slow)

-- the ID given to the first record is the one that the second has from another pilot
example : ¬ (Replicas.ofLists [⟨.new, false, false, 0, 1⟩, ⟨.nothing, false, false, 10, 2⟩] []
    10 (by decide)).copyIDs.Nodup := by
  decide

def oneRecordEach : Replicas Nat :=
  .ofLists [⟨.nothing, false, false, 5, 1⟩] [(6, ⟨false, false, false, false, 2⟩)] 7 (by decide)

/-- The destination is wiped, the one record is not transmitted or not stored, and the
copy is reported as a success with the sync flags reset. -/
theorem failed_copies_succeed :
    let fl : Faults :=
      { Faults.none with transmit := fun u => u = 0, storeRemote := fun i => i = 6 }
    let (result, s) := copyToPilot fl (oneRecordEach.start false)
    let (result', s') := copyFromPilot fl (oneRecordEach.start false)
    oneRecordEach.store.get 0 = some ⟨.nothing, false, false, 5, 1⟩ ∧
      result = 0 ∧ .resetSyncFlags ∈ s.calls ∧ s.pilot.order = [] ∧
      oneRecordEach.pilot.get 6 = some ⟨false, false, false, false, 2⟩ ∧
      result' = 0 ∧ .resetSyncFlags ∈ s'.calls ∧ s'.store.get 0 = none ∧ s'.store.size = 1 := by
  decide

end GnomePilot.Sync
