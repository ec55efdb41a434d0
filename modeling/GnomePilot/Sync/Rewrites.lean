import GnomePilot.Sync.Pair

/-!
# One call changes one pair

`Rewrites s s' u i p` says that `s'` is `s` with slot `u` and the pilot record of
ID `i` replaced by the pair `p`, all other slots, records, archive entries and
ignored IDs being those of `s`.  Every action of a branch keeps this relation and
moves the pair as `Pair.perform` says, hence so does a whole branch.
-/

namespace GnomePilot.Sync

variable {α : Type}

def SyncState.archivedAt (s : SyncState α) (i : Nat) : List α :=
  (s.archive.filter (fun a => a.ID = i)).map ArchivedRecord.content

/-- The part of a state that belongs to an ID. -/
def SyncState.pair (s : SyncState α) (i : Nat) : Pair α where
  loc := s.store.recordAt i
  rem := s.pilot.get i
  arch := s.archivedAt i
  ignored := i ∈ s.recordIdsToIgnore

structure Rewrites (s s' : SyncState α) (u i : Nat) (p : Pair α) : Prop where
  loc : ∀ v, s'.store.get v = if v = u then p.loc else s.store.get v
  rem : ∀ j, s'.pilot.get j = if j = i then p.rem else s.pilot.get j
  arch : ∀ j, s'.archivedAt j = if j = i then p.arch else s.archivedAt j
  ignored : ∀ j, j ∈ s'.recordIdsToIgnore ↔
    if j = i then p.ignored = true else j ∈ s.recordIdsToIgnore
  order : (s.pilot.get i).isSome →
    s'.pilot.order = s.pilot.order.filter (fun j => j ≠ i ∨ p.rem.isSome)
  seed : s'.pilot.uniqueIDSeed = s.pilot.uniqueIDSeed
  crashed : s'.crashed = s.crashed

/-- No slot but `u` holds a record with this ID. -/
def OnlyAt (st : LocalStore α) (u i : Nat) : Prop :=
  ∀ v l, st.get v = some l → l.ID = i → v = u

theorem SyncState.archivedAt_cons (s s' : SyncState α) (i : Nat) (x : α)
    (h : s'.archive = ⟨i, x⟩ :: s.archive) (j : Nat) :
    s'.archivedAt j = if j = i then x :: s.archivedAt j else s.archivedAt j := by
  by_cases hj : j = i
  · subst hj
    simp [archivedAt, h]
  · simp [archivedAt, h, hj, Ne.symm hj]

/-- Before anything is done, the pair is the one in place. -/
theorem Rewrites.refl {s : SyncState α} {u i : Nat} {p : Pair α}
    (hloc : s.store.get u = p.loc) (hrem : s.pilot.get i = p.rem) (harch : s.archivedAt i = p.arch)
    (hign : i ∈ s.recordIdsToIgnore ↔ p.ignored = true) : Rewrites s s u i p where
  loc v := by
    by_cases hv : v = u
    · simp [hv, hloc]
    · simp [hv]
  rem j := by
    by_cases hj : j = i
    · simp [hj, hrem]
    · simp [hj]
  arch j := by
    by_cases hj : j = i
    · simp [hj, harch]
    · simp [hj]
  ignored j := by
    by_cases hj : j = i
    · simp [hj, hign]
    · simp [hj]
  order hsome := by
    rw [hrem] at hsome
    simp [hsome]
  seed := rfl
  crashed := rfl

/-- The record in the slot, seen through the pair. -/
theorem Rewrites.get_self {s s' : SyncState α} {u i : Nat} {p : Pair α}
    (h : Rewrites s s' u i p) : s'.store.get u = p.loc := by
  simpa using h.loc u

theorem Rewrites.matchRecord {s s' : SyncState α} {u i : Nat} {p : Pair α}
    (h : Rewrites s s' u i p) (honly : OnlyAt s.store u i) {l : LocalRecord α}
    (hl : p.loc = some l) (hid : l.ID = i) : s'.store.matchRecord i = some u := by
  have hu : s'.store.get u = some l := by rw [h.get_self, hl]
  cases hm : s'.store.matchRecord i with
  | none => exact absurd hid (LocalStore.matchRecord_eq_none.mp hm u l hu)
  | some v =>
      obtain ⟨m, hg, hmid⟩ := LocalStore.matchRecord_some hm
      by_cases hv : v = u
      · rw [hv]
      · rw [h.loc v, if_neg hv] at hg
        exact absurd (honly v m hg hmid) hv

/-! ## Calls that change nothing of the view -/

theorem Rewrites.record {s s' : SyncState α} {u i : Nat} {p : Pair α}
    (h : Rewrites s s' u i p) (c : Call α) : Rewrites s (s'.record c) u i p :=
  ⟨h.loc, h.rem, h.arch, h.ignored, h.order, h.seed, h.crashed⟩

theorem Rewrites.record_left {s s' : SyncState α} {u i : Nat} {p : Pair α} {c : Call α}
    (h : Rewrites (s.record c) s' u i p) : Rewrites s s' u i p :=
  ⟨h.loc, h.rem, h.arch, h.ignored, h.order, h.seed, h.crashed⟩

/-! ## Each action -/

section Actions

variable {s s' : SyncState α} {u i : Nat} {p : Pair α} {r : PilotRecord α}

theorem Rewrites.setStatus (h : Rewrites s s' u i p) (attr : RecordAttr) :
    Rewrites s (s'.setStatus u attr) u i (p.perform r (.setStatus attr)) where
  loc v := by
    by_cases hv : v = u
    · simp [SyncState.setStatus, Pair.perform, hv, h.get_self]
    · simp [SyncState.setStatus, hv, h.loc v]
  rem := h.rem
  arch := h.arch
  ignored := h.ignored
  order := h.order
  seed := h.seed
  crashed := h.crashed

theorem Rewrites.storeRemote (h : Rewrites s s' u i p) (hr : r.ID = i)
    (honly : OnlyAt s.store u i) {l : LocalRecord α} (hl : p.loc = some l) (hid : l.ID = i) :
    Rewrites s (s'.storeRemote .none r) u i (p.perform r .storeRemote) where
  loc v := by
    have hm : s'.store.matchRecord r.ID = some u := by
      rw [hr]
      exact h.matchRecord honly hl hid
    by_cases hv : v = u
    · simp [SyncState.storeRemote, Faults.none, hm, Pair.perform, hv, h.get_self, hl]
    · simp [SyncState.storeRemote, Faults.none, hm, hv, h.loc v]
  rem := h.rem
  arch := h.arch
  ignored := h.ignored
  order := h.order
  seed := h.seed
  crashed := h.crashed

theorem Rewrites.archiveRemote (h : Rewrites s s' u i p) (hr : r.ID = i) :
    Rewrites s (s'.archiveRemote (some u) r.cleared) u i (p.perform r .archiveRemote) where
  loc v := by
    by_cases hv : v = u
    · simp [SyncState.archiveRemote, Pair.perform, hv]
    · simp [SyncState.archiveRemote, hv, h.loc v]
  rem := h.rem
  arch j := by
    rw [SyncState.archivedAt_cons s' _ i r.content (by simp [SyncState.archiveRemote,
      PilotRecord.cleared, hr]), h.arch j]
    by_cases hj : j = i <;> simp [hj, Pair.perform]
  ignored := h.ignored
  order := h.order
  seed := h.seed
  crashed := h.crashed

theorem Rewrites.archiveLocal (h : Rewrites s s' u i p)
    (hloc : ∀ l, p.loc = some l → l.ID = i) :
    Rewrites s (s'.archiveLocal u) u i (p.perform r .archiveLocal) := by
  cases hl : p.loc with
  | none =>
      have hu : s'.store.get u = none := by rw [h.get_self, hl]
      simpa [SyncState.archiveLocal, hu, Pair.perform, hl] using h
  | some l =>
      have hu : s'.store.get u = some l := by rw [h.get_self, hl]
      have hid := hloc l hl
      simp only [SyncState.archiveLocal, hu, Pair.perform, hl]
      refine ⟨?_, h.rem, ?_, h.ignored, h.order, h.seed, h.crashed⟩
      · intro v
        by_cases hv : v = u
        · simp [hv]
        · simp [hv, h.loc v]
      · intro j
        rw [SyncState.archivedAt_cons s' _ i l.content (by simp [hid]), h.arch j]
        by_cases hj : j = i <;> simp [hj]

theorem Rewrites.deleteFromPilot (h : Rewrites s s' u i p) :
    Rewrites s (standardAbsDeleteFromPilot s' i) u i (p.perform r .deleteFromPilot) where
  loc := h.loc
  rem j := by
    by_cases hj : j = i
    · simp [standardAbsDeleteFromPilot, SyncState.deleteRecord, SyncState.ignoreRecord,
        Pair.perform, hj]
    · simp [standardAbsDeleteFromPilot, SyncState.deleteRecord, SyncState.ignoreRecord, hj,
        h.rem j]
  arch := h.arch
  ignored j := by
    have hj := h.ignored j
    by_cases hji : j = i
    · simp [standardAbsDeleteFromPilot, SyncState.ignoreRecord, Pair.perform, hji]
    · simp only [hji, if_false] at hj
      simp [standardAbsDeleteFromPilot, SyncState.ignoreRecord, SyncState.deleteRecord, hji, hj]
  order hsome := by
    have ho := h.order hsome
    simp only [standardAbsDeleteFromPilot, SyncState.deleteRecord, SyncState.ignoreRecord,
      PilotDB.order_dlpDeleteRecord, ho, List.filter_filter, Pair.perform]
    apply List.filter_congr
    intro j _
    by_cases hj : j = i <;> simp [hj]
  seed := h.seed
  crashed := h.crashed

theorem Rewrites.addToPilot (h : Rewrites s s' u i p) (hi : i ≠ 0)
    (hseed : i < s.pilot.uniqueIDSeed) (hloc : ∀ l, p.loc = some l → l.ID = i)
    (hkept : (s.pilot.get i).isSome → p.rem.isSome) :
    Rewrites s (standardAbsAddToPilot .none s' u).2 u i (p.perform r .addToPilot) := by
  cases hl : p.loc with
  | none =>
      have hu : s'.store.get u = none := by rw [h.get_self, hl]
      simpa [standardAbsAddToPilot, hu, Pair.perform, hl] using h
  | some l =>
      have hu : s'.store.get u = some l := by rw [h.get_self, hl]
      have hid : l.ID = i := hloc l hl
      have hass : s'.pilot.assignedID l.ID = i := by
        rw [hid]
        exact PilotDB.assignedID_of_ne_zero _ hi
      have hset : s'.pilot.uniqueIDSeed = s.pilot.uniqueIDSeed := h.seed
      have hwseed := PilotDB.seed_dlpWriteRecord_of_issued s'.pilot l.secret l.content hi
        (by omega : i < s'.pilot.uniqueIDSeed)
      simp only [standardAbsAddToPilot, hu, Faults.none, Pair.perform, hl, Bool.false_eq_true,
        if_false]
      refine ⟨?_, ?_, h.arch, ?_, ?_, ?_, h.crashed⟩
      · intro v
        by_cases hv : v = u
        · simp [SyncState.ignoreRecord, SyncState.setStatus, SyncState.record, hv, hu]
        · simp [SyncState.ignoreRecord, SyncState.setStatus, SyncState.record, hv, h.loc v]
      · intro j
        by_cases hj : j = i
        · simp [SyncState.ignoreRecord, SyncState.setStatus, SyncState.record, hj, hass]
        · simp [SyncState.ignoreRecord, SyncState.setStatus, SyncState.record, hj, hass, h.rem j]
      · intro j
        have hjg := h.ignored j
        by_cases hj : j = i
        · simp [SyncState.ignoreRecord, SyncState.setStatus, SyncState.record, hj, hass]
        · simp only [hj, if_false] at hjg
          simp [SyncState.ignoreRecord, SyncState.setStatus, SyncState.record, hj, hass, hjg]
      · intro hsome
        have ho := h.order hsome
        have hrem := hkept hsome
        have hmem : i ∈ s'.pilot.order := by
          rw [s'.pilot.mem_order, h.rem i, if_pos rfl]
          exact hrem
        simp only [SyncState.ignoreRecord, SyncState.setStatus, SyncState.record,
          PilotDB.dlpWriteRecord]
        rw [PilotDB.order_put_of_mem _ _ _ (by rw [hass]; exact hmem), ho]
        simp [hrem]
      · simpa [SyncState.ignoreRecord, SyncState.setStatus, SyncState.record, hid, hset]
          using hwseed

end Actions

/-! ## A whole branch -/

/-- The ID of the local record never changes within a branch. -/
theorem Pair.perform_ID {r : PilotRecord α} {i : Nat} (hr : r.ID = i) {p : Pair α}
    (hloc : ∀ l, p.loc = some l → l.ID = i) (a : SyncAction) :
    ∀ l, (p.perform r a).loc = some l → l.ID = i := by
  intro l hl
  cases a with
  | addToPilot =>
      cases hp : p.loc with
      | none => simp [Pair.perform, hp] at hl
      | some m =>
          simp only [Pair.perform, hp, Option.some.injEq] at hl
          rw [← hl]
          exact hloc m hp
  | storeRemote =>
      simp only [Pair.perform, Option.some.injEq] at hl
      rw [← hl]
      exact hr
  | archiveRemote => simp [Pair.perform] at hl
  | archiveLocal =>
      cases hp : p.loc with
      | none => simp [Pair.perform, hp] at hl
      | some m => simp [Pair.perform, hp] at hl
  | deleteFromPilot => exact hloc l hl
  | setStatus attr =>
      cases hp : p.loc with
      | none => simp [Pair.perform, hp] at hl
      | some m =>
          simp only [Pair.perform, hp, Option.map_some, Option.some.injEq] at hl
          rw [← hl]
          exact hloc m hp
  | log text => exact hloc l hl

/-- `present` bounds the local record from below, `kept` the pilot record; both
follow the calls made so far. -/
theorem runActions_rewrites {s s' : SyncState α} {u i : Nat} {p : Pair α} {r : PilotRecord α}
    (h : Rewrites s s' u i p) (hr : r.ID = i) (hi : i ≠ 0) (hseed : i < s.pilot.uniqueIDSeed)
    (honly : OnlyAt s.store u i) (halive : s.crashed = false)
    (hloc : ∀ l, p.loc = some l → l.ID = i)
    (present kept : Bool) (hpresent : present = true → p.loc.isSome)
    (hkept : kept = true → (s.pilot.get i).isSome → p.rem.isSome)
    (acts : List SyncAction) (hacts : wellOrdered present kept acts = true) :
    Rewrites s (runActions .none u r s' acts) u i (acts.foldl (Pair.perform r) p) := by
  induction acts generalizing s' p present kept with
  | nil => exact h
  | cons a acts ih =>
      have hs' : s'.crashed = false := by rw [h.crashed, halive]
      have hid := Pair.perform_ID hr hloc a
      have hrun : runActions .none u r s' (a :: acts) =
          runActions .none u r (perform .none u r s' a) acts :=
        runActions_cons .none hs' a acts
      rw [hrun, List.foldl_cons]
      cases a with
      | addToPilot =>
          simp only [wellOrdered, Bool.and_eq_true] at hacts
          refine ih (h.addToPilot hi hseed hloc (hkept hacts.1)) hid present kept ?_ ?_ hacts.2
          · intro hp
            obtain ⟨l, hl⟩ := Option.isSome_iff_exists.mp (hpresent hp)
            simp [Pair.perform, hl]
          · intro hk hsome
            cases hl : p.loc with
            | none => simpa [Pair.perform, hl] using hkept hk hsome
            | some l => simp [Pair.perform, hl]
      | storeRemote =>
          simp only [wellOrdered, Bool.and_eq_true] at hacts
          obtain ⟨l, hl⟩ := Option.isSome_iff_exists.mp (hpresent hacts.1)
          exact ih (h.storeRemote hr honly hl (hloc l hl)) hid present kept (fun _ => rfl) hkept
            hacts.2
      | archiveRemote =>
          exact ih (h.archiveRemote hr) hid false kept (fun hf => by contradiction) hkept hacts
      | archiveLocal =>
          refine ih (h.archiveLocal hloc) hid false kept (fun hf => by contradiction) ?_ hacts
          intro hk hsome
          cases hl : p.loc <;> simpa [Pair.perform, hl] using hkept hk hsome
      | deleteFromPilot =>
          rw [← hr] at h
          have hd := h.deleteFromPilot (r := r)
          rw [hr] at hd
          refine ih (by simpa [perform, hr] using hd) hid present false hpresent
            (fun hf => by contradiction) hacts
      | setStatus attr =>
          refine ih (h.setStatus attr) hid present kept ?_ hkept hacts
          intro hp
          simpa [Pair.perform] using hpresent hp
      | log text =>
          exact ih ((h.record _).record _) hid present kept hpresent hkept hacts

end GnomePilot.Sync
