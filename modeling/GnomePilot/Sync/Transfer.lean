import GnomePilot.Sync.Pair

/-!
# Transfers to the pilot

A run in which the conduit may fail to transmit a record and the device to write
one.  Every attempt is in the call log, so what a run has tried, what came
through and what it still holds can be read off its last state.  `Tracks` is the
invariant that ties the log to the stores, `Step` what an operation is made of.
-/

namespace GnomePilot.Sync

variable {α : Type}

/-- Only `transmit` and `dlp_WriteRecord` may fail. -/
def Faults.sending (transmit writeRecord : Nat → Bool) : Faults :=
  { Faults.none with transmit := transmit, writeRecord := writeRecord }

section Faults

variable (t w : Nat → Bool)

@[simp] theorem Faults.sending_transmit : (sending t w).transmit = t := rfl
@[simp] theorem Faults.sending_writeRecord : (sending t w).writeRecord = w := rfl

end Faults

def Attempted (u : Nat) (s : SyncState α) : Prop := ∃ ok, Call.transmit u ok ∈ s.calls

def Written (u : Nat) (c : α) (s : SyncState α) : Prop :=
  ∃ i, Call.writeRecord u i c true ∈ s.calls

def Kept (u : Nat) (l : LocalRecord α) (s : SyncState α) : Prop :=
  ∃ m, s.store.get u = some m ∧ m.attr.changed = true ∧ m.ID = l.ID ∧ m.content = l.content

def Call.transfers : Call α → Bool
  | .transmit _ _ | .writeRecord _ _ _ _ => true
  | _ => false

/-! ## The invariant -/

/-- The log against the local store: `st` is the store the operation started with. -/
structure Logged (t w : Nat → Bool) (st : LocalStore α) (s : SyncState α) : Prop where
  pristine : ∀ u m, s.store.get u = some m → m.attr.changed = true → st.get u = some m
  cleared : ∀ u m, Attempted u s → s.store.get u = some m → m.attr.changed = false
  transmitted : ∀ u ok, .transmit u ok ∈ s.calls →
    ok = !t u ∧ ∃ l, st.get u = some l ∧ l.attr.changed = true
  followed : ∀ u, .transmit u true ∈ s.calls → ∃ i c, .writeRecord u i c (!w u) ∈ s.calls
  written : ∀ u i c ok, .writeRecord u i c ok ∈ s.calls →
    ok = !w u ∧ .transmit u true ∈ s.calls ∧ ∃ l, st.get u = some l ∧ l.ID = i

/-- The log against the pilot: `base` is the seed the operation started with. -/
structure Delivered (base : Nat) (s : SyncState α) : Prop where
  seed : base ≤ s.pilot.uniqueIDSeed
  onPilot : ∀ u i c, .writeRecord u i c true ∈ s.calls → i ≠ 0 →
    i ∈ s.recordIdsToIgnore ∧ ∃ d, s.pilot.get i = some d ∧ d.live = true ∧ d.content = c
  sentFor : ∀ i, i < base → i ∈ s.recordIdsToIgnore → (s.pilot.get i).isSome →
    ∃ u c, .writeRecord u i c true ∈ s.calls

structure Tracks (t w : Nat → Bool) (st : LocalStore α) (base : Nat) (s : SyncState α) :
    Prop where
  logged : Logged t w st s
  delivered : Delivered base s

/-- Nothing is transferred, and what was stays where it is. -/
structure Frame (s s' : SyncState α) : Prop where
  store : ∀ v m, s'.store.get v = some m → m.attr.changed = true → s.store.get v = some m
  calls : ∀ c, c.transfers = true → (c ∈ s'.calls ↔ c ∈ s.calls)
  grows : ∀ c, c ∈ s.calls → c ∈ s'.calls
  seed : s'.pilot.uniqueIDSeed = s.pilot.uniqueIDSeed
  kept : ∀ u i c d, .writeRecord u i c true ∈ s.calls → i ≠ 0 → s.pilot.get i = some d →
    d.live = true → ∃ d', s'.pilot.get i = some d' ∧ d'.live = true ∧ d'.content = d.content
  present : ∀ i, (s'.pilot.get i).isSome → (s.pilot.get i).isSome
  ignored : ∀ i, i ∈ s.recordIdsToIgnore → i ∈ s'.recordIdsToIgnore
  ignores : ∀ i, i ∈ s'.recordIdsToIgnore → (s'.pilot.get i).isSome → i ∈ s.recordIdsToIgnore

theorem Frame.refl (s : SyncState α) : Frame s s where
  store _ _ h _ := h
  calls _ _ := Iff.rfl
  grows _ h := h
  seed := rfl
  kept _ _ _ d _ _ hd hlive := ⟨d, hd, hlive, rfl⟩
  present _ h := h
  ignored _ h := h
  ignores _ h _ := h

section Frames

variable {t w : Nat → Bool} {st : LocalStore α} {base : Nat} {s s' : SyncState α}

theorem Frame.attempted (h : Frame s s') (u : Nat) : Attempted u s' ↔ Attempted u s := by
  unfold Attempted
  exact exists_congr fun ok => h.calls _ rfl

theorem Frame.written (h : Frame s s') (u : Nat) (c : α) : Written u c s' ↔ Written u c s := by
  unfold Written
  exact exists_congr fun i => h.calls _ rfl

theorem Logged.frame (h : Logged t w st s) (hf : Frame s s') : Logged t w st s' where
  pristine u m hm hch := h.pristine u m (hf.store u m hm hch) hch
  cleared u m hu hm := by
    by_contra hch
    rw [Bool.not_eq_false] at hch
    have hclear := h.cleared u m ((hf.attempted u).1 hu) (hf.store u m hm hch)
    rw [hch] at hclear
    contradiction
  transmitted u ok hu := h.transmitted u ok ((hf.calls _ rfl).1 hu)
  followed u hu := by
    obtain ⟨i, c, hc⟩ := h.followed u ((hf.calls _ rfl).1 hu)
    exact ⟨i, c, (hf.calls _ rfl).2 hc⟩
  written u i c ok hu := by
    obtain ⟨hok, htr, hl⟩ := h.written u i c ok ((hf.calls _ rfl).1 hu)
    exact ⟨hok, (hf.calls _ rfl).2 htr, hl⟩

theorem Delivered.frame (h : Delivered base s) (hf : Frame s s') : Delivered base s' where
  seed := by
    rw [hf.seed]
    exact h.seed
  onPilot u i c hu h0 := by
    have hu' := (hf.calls _ rfl).1 hu
    obtain ⟨hign, d, hd, hlive, hc⟩ := h.onPilot u i c hu' h0
    obtain ⟨d', hd', hlive', hc'⟩ := hf.kept u i c d hu' h0 hd hlive
    exact ⟨hf.ignored i hign, d', hd', hlive', hc'.trans hc⟩
  sentFor i hi hign hsome := by
    obtain ⟨u, c, hu⟩ := h.sentFor i hi (hf.ignores i hign hsome) (hf.present i hsome)
    exact ⟨u, c, (hf.calls _ rfl).2 hu⟩

theorem Tracks.frame (h : Tracks t w st base s) (hf : Frame s s') : Tracks t w st base s' :=
  ⟨h.logged.frame hf, h.delivered.frame hf⟩

theorem Frame.of_store (cs : List (Call α))
    (hstore : ∀ v m, s'.store.get v = some m → m.attr.changed = true →
      s.store.get v = some m)
    (hpilot : s'.pilot = s.pilot) (hign : s'.recordIdsToIgnore = s.recordIdsToIgnore)
    (hcalls : s'.calls = cs ++ s.calls)
    (hcs : ∀ c ∈ cs, c.transfers = false) : Frame s s' where
  store := hstore
  calls c hc := by
    rw [hcalls, List.mem_append]
    refine or_iff_right ?_
    intro hmem
    rw [hcs c hmem] at hc
    contradiction
  grows c hc := by
    rw [hcalls]
    exact List.mem_append_right cs hc
  seed := by rw [hpilot]
  kept _ _ _ d _ _ hd hlive := ⟨d, by rw [hpilot, hd], hlive, rfl⟩
  present i h := by rwa [hpilot] at h
  ignored i h := by rwa [hign]
  ignores i h _ := by rwa [hign] at h

theorem Frame.record {c : Call α} (hc : c.transfers = false) : Frame s (s.record c) :=
  .of_store [c] (fun _ _ h _ => h) rfl rfl rfl (by simpa using hc)

end Frames

/-! ## Actions that transfer nothing -/

section Actions

variable {t w : Nat → Bool} {s : SyncState α} {u : Nat} {r : PilotRecord α}

theorem Frame.setStatus {attr : RecordAttr} (hattr : attr.changed = false) :
    Frame s (s.setStatus u attr) := by
  refine .of_store [.setStatus u attr] ?_ rfl rfl rfl (by simp [Call.transfers])
  intro v m hm hch
  rw [SyncState.setStatus, LocalStore.get_modify] at hm
  by_cases hv : v = u
  · rw [if_pos hv] at hm
    obtain ⟨l, -, rfl⟩ := Option.map_eq_some_iff.mp hm
    rw [hattr] at hch
    contradiction
  · rwa [if_neg hv] at hm

/-- What `store_remote` writes has the ID of the pilot record and no change flag. -/
theorem get_storeRemote {v : Nat} {m : LocalRecord α}
    (h : (s.storeRemote (.sending t w) r).store.get v = some m) :
    (m.ID = r.ID ∧ m.attr = .nothing) ∨ s.store.get v = some m := by
  simp only [SyncState.storeRemote, Faults.sending, Faults.none_storeRemote, Bool.false_eq_true,
    if_false] at h
  cases hmatch : s.store.matchRecord r.ID with
  | none =>
      simp only [hmatch, LocalStore.get_insert] at h
      split at h
      · cases h
        exact Or.inl ⟨rfl, rfl⟩
      · exact Or.inr h
  | some x =>
      simp only [hmatch, LocalStore.get_modify] at h
      split at h
      · obtain ⟨l, -, rfl⟩ := Option.map_eq_some_iff.mp h
        exact Or.inl ⟨rfl, rfl⟩
      · exact Or.inr h

theorem Frame.storeRemote : Frame s (s.storeRemote (.sending t w) r) := by
  refine .of_store [.storeRemote r.ID] ?_ rfl rfl rfl (by simp [Call.transfers])
  intro v m hm hch
  rcases get_storeRemote hm with ⟨-, hattr⟩ | h
  · rw [hattr] at hch
    contradiction
  · exact h

theorem get_of_get_remove {st : LocalStore α} {u v : Nat} {m : LocalRecord α}
    (h : (st.remove u).get v = some m) : st.get v = some m := by
  rw [LocalStore.get_remove] at h
  split at h
  · contradiction
  · exact h

theorem Frame.archiveRemote (o : Option Nat) : Frame s (s.archiveRemote o r) := by
  refine .of_store [.archiveRemote r.ID] ?_ rfl rfl rfl (by simp [Call.transfers])
  intro v m hm _
  cases o with
  | none => exact hm
  | some x => exact get_of_get_remove hm

theorem Frame.archiveLocal : Frame s (s.archiveLocal u) := by
  unfold SyncState.archiveLocal
  cases hu : s.store.get u with
  | none => exact .refl s
  | some l =>
      refine .of_store [.archiveLocal u] ?_ rfl rfl rfl (by simp [Call.transfers])
      intro v m hm _
      exact get_of_get_remove hm

theorem Frame.deleteFromPilot {id : Nat}
    (h : id ≠ 0 → ∀ v c, .writeRecord v id c true ∉ s.calls) :
    Frame s (standardAbsDeleteFromPilot s id) where
  store _ _ hm _ := hm
  calls c hc := by
    cases c <;> simp [standardAbsDeleteFromPilot, SyncState.deleteRecord, SyncState.ignoreRecord,
      Call.transfers] at hc ⊢
  grows _ hc := List.mem_cons_of_mem _ hc
  seed := rfl
  kept v i c d hw h0 hd hlive := by
    have hi : i ≠ id := by
      rintro rfl
      exact h h0 v c hw
    refine ⟨d, ?_, hlive, rfl⟩
    simpa [standardAbsDeleteFromPilot, SyncState.deleteRecord, SyncState.ignoreRecord, hi] using hd
  present i hsome := by
    by_cases hi : i = id <;>
      simp_all [standardAbsDeleteFromPilot, SyncState.deleteRecord, SyncState.ignoreRecord]
  ignored _ hi := List.mem_cons_of_mem _ hi
  ignores i hi hsome := by
    rcases List.mem_cons.mp hi with rfl | hi
    · simp [standardAbsDeleteFromPilot, SyncState.deleteRecord, SyncState.ignoreRecord] at hsome
    · exact hi

theorem Frame.trans {s₁ s₂ : SyncState α} (h : Frame s s₁) (h' : Frame s₁ s₂) : Frame s s₂ where
  store v m hm hch := h.store v m (h'.store v m hm hch) hch
  calls c hc := (h'.calls c hc).trans (h.calls c hc)
  grows c hc := h'.grows c (h.grows c hc)
  seed := h'.seed.trans h.seed
  kept u i c d hw h0 hd hlive := by
    obtain ⟨d₁, hd₁, hlive₁, hc₁⟩ := h.kept u i c d hw h0 hd hlive
    obtain ⟨d₂, hd₂, hlive₂, hc₂⟩ := h'.kept u i c d₁ ((h.calls _ rfl).2 hw) h0 hd₁ hlive₁
    exact ⟨d₂, hd₂, hlive₂, hc₂.trans hc₁⟩
  present i hi := h.present i (h'.present i hi)
  ignored i hi := h'.ignored i (h.ignored i hi)
  ignores i hi hsome := h.ignores i (h'.ignores i hi hsome) (h'.present i hsome)

theorem Frame.logConflict (text : String) : Frame s (s.logConflict text) :=
  (Frame.record rfl).trans (Frame.record rfl)

def SyncAction.clears : SyncAction → Bool
  | .setStatus attr => !attr.changed
  | _ => true

theorem Frame.perform {a : SyncAction} (hadd : a ≠ .addToPilot) (hclears : a.clears = true)
    (hdel : a = .deleteFromPilot → r.ID ≠ 0 → ∀ v c, .writeRecord v r.ID c true ∉ s.calls) :
    Frame s (perform (.sending t w) u r s a) := by
  cases a with
  | addToPilot => contradiction
  | storeRemote => exact .storeRemote
  | archiveRemote => exact .archiveRemote (some u)
  | archiveLocal => exact .archiveLocal
  | deleteFromPilot => exact .deleteFromPilot (hdel rfl)
  | setStatus attr => exact .setStatus (by simpa [SyncAction.clears] using hclears)
  | log text => exact .logConflict text

end Actions

/-! ## Sending a record -/

/-- Slot `u` holds, or held, a changed record with ID `i` that was not sent yet. -/
structure Ready (st : LocalStore α) (u i : Nat) (s : SyncState α) : Prop where
  original : ∃ l, st.get u = some l ∧ l.attr.changed = true ∧ l.ID = i
  slot : ∀ m, s.store.get u = some m → m.ID = i
  unsent : ¬ Attempted u s

section Sending

variable {t w : Nat → Bool} {st : LocalStore α} {base : Nat} {s s' : SyncState α} {u i : Nat}

theorem Logged.attempt (h : Logged t w st s) (hready : Ready st u i s) (c₀ : α)
    (hstore : ∀ v m, s'.store.get v = some m → m.attr.changed = true → v ≠ u ∧
      s.store.get v = some m)
    (htransmit : ∀ v ok, .transmit v ok ∈ s'.calls ↔
      (v = u ∧ ok = !t u) ∨ .transmit v ok ∈ s.calls)
    (hwrite : ∀ v j c ok, .writeRecord v j c ok ∈ s'.calls ↔
      (t u = false ∧ v = u ∧ j = i ∧ c = c₀ ∧ ok = !w u) ∨ .writeRecord v j c ok ∈ s.calls) :
    Logged t w st s' where
  pristine v m hm hch := h.pristine v m (hstore v m hm hch).2 hch
  cleared v m hv hm := by
    obtain ⟨ok, hv⟩ := hv
    by_contra hch
    rw [Bool.not_eq_false] at hch
    obtain ⟨hvu, hm'⟩ := hstore v m hm hch
    rcases (htransmit v ok).1 hv with ⟨rfl, -⟩ | hv
    · exact hvu rfl
    · rw [h.cleared v m ⟨ok, hv⟩ hm'] at hch
      contradiction
  transmitted v ok hv := by
    rcases (htransmit v ok).1 hv with ⟨rfl, rfl⟩ | hv
    · obtain ⟨l, hl, hch, -⟩ := hready.original
      exact ⟨rfl, l, hl, hch⟩
    · exact h.transmitted v ok hv
  followed v hv := by
    rcases (htransmit v true).1 hv with ⟨rfl, ht⟩ | hv
    · exact ⟨i, c₀, (hwrite _ _ _ _).2 (Or.inl ⟨by simpa using ht, rfl, rfl, rfl, rfl⟩)⟩
    · obtain ⟨j, c, hc⟩ := h.followed v hv
      exact ⟨j, c, (hwrite _ _ _ _).2 (Or.inr hc)⟩
  written v j c ok hv := by
    rcases (hwrite v j c ok).1 hv with ⟨ht, rfl, rfl, rfl, rfl⟩ | hv
    · obtain ⟨l, hl, -, hid⟩ := hready.original
      exact ⟨rfl, (htransmit _ _).2 (Or.inl ⟨rfl, by simp [ht]⟩), l, hl, hid⟩
    · obtain ⟨hok, htr, hl⟩ := h.written v j c ok hv
      exact ⟨hok, (htransmit _ _).2 (Or.inr htr), hl⟩

/-- Nothing was written, and the pilot is as it was. -/
theorem Delivered.of_failed (h : Delivered base s) (hpilot : s'.pilot = s.pilot)
    (hign : s'.recordIdsToIgnore = s.recordIdsToIgnore)
    (hwrite : ∀ v j c, .writeRecord v j c true ∈ s'.calls ↔ .writeRecord v j c true ∈ s.calls) :
    Delivered base s' where
  seed := by
    rw [hpilot]
    exact h.seed
  onPilot v j c hv h0 := by
    rw [hign, hpilot]
    exact h.onPilot v j c ((hwrite v j c).1 hv) h0
  sentFor j hj hmem hsome := by
    rw [hign] at hmem
    rw [hpilot] at hsome
    obtain ⟨v, c, hv⟩ := h.sentFor j hj hmem hsome
    exact ⟨v, c, (hwrite v j c).2 hv⟩

theorem Delivered.of_written (h : Delivered base s) {secret : Bool} (u : Nat) (c₀ : α)
    (hfresh : i ≠ 0 → ∀ v c, .writeRecord v i c true ∉ s.calls)
    (hpilot : s'.pilot = s.pilot.dlpWriteRecord secret i c₀)
    (hign : s'.recordIdsToIgnore = s.pilot.assignedID i :: s.recordIdsToIgnore)
    (hwrite : ∀ v j c, .writeRecord v j c true ∈ s'.calls ↔
      (v = u ∧ j = i ∧ c = c₀) ∨ .writeRecord v j c true ∈ s.calls) : Delivered base s' where
  seed := by
    rw [hpilot, PilotDB.dlpWriteRecord, PilotDB.seed_put]
    exact Nat.le_trans h.seed (Nat.le_max_left _ _)
  onPilot v j c hv h0 := by
    rw [hign, hpilot]
    rcases (hwrite v j c).1 hv with ⟨rfl, rfl, rfl⟩ | hv
    · rw [PilotDB.assignedID_of_ne_zero _ h0]
      exact ⟨List.mem_cons_self, PilotDB.written secret c,
        by simp [PilotDB.assignedID_of_ne_zero _ h0], rfl, rfl⟩
    · obtain ⟨hmem, d, hd, hlive, hc⟩ := h.onPilot v j c hv h0
      -- the ID written to is another one, or one handed out just now
      have hj : j ≠ s.pilot.assignedID i := by
        by_cases hi : i = 0
        · have := PilotDB.get_issued hd
          rw [hi, PilotDB.assignedID_zero]
          omega
        · rw [PilotDB.assignedID_of_ne_zero _ hi]
          rintro rfl
          exact hfresh hi v c hv
      exact ⟨List.mem_cons_of_mem _ hmem, d, by simp [hj, hd], hlive, hc⟩
  sentFor j hj hmem hsome := by
    rw [hign, List.mem_cons] at hmem
    by_cases hja : j = s.pilot.assignedID i
    · have hi : i ≠ 0 := by
        rintro rfl
        have := h.seed
        rw [PilotDB.assignedID_zero] at hja
        omega
      rw [PilotDB.assignedID_of_ne_zero _ hi] at hja
      exact ⟨u, c₀, (hwrite _ _ _).2 (Or.inl ⟨rfl, hja, rfl⟩)⟩
    · rw [hpilot] at hsome
      simp only [PilotDB.get_dlpWriteRecord, hja, if_false] at hsome
      obtain ⟨v, c, hv⟩ := h.sentFor j hj (hmem.resolve_left hja) hsome
      exact ⟨v, c, (hwrite _ _ _).2 (Or.inr hv)⟩

/-- Nothing was written yet to the ID of a record that is ready. -/
theorem Ready.fresh (hk : st.Keyed) (h : Logged t w st s) (hready : Ready st u i s)
    (hi : i ≠ 0) (v : Nat) (c : α) : .writeRecord v i c true ∉ s.calls := by
  intro hv
  obtain ⟨-, htr, l, hl, hid⟩ := h.written v i c true hv
  obtain ⟨l₀, hl₀, -, hid₀⟩ := hready.original
  obtain rfl := hk v u l l₀ hl hl₀ (hid.trans hid₀.symm) (by omega)
  exact hready.unsent ⟨true, htr⟩

theorem Tracks.addToPilot (hk : st.Keyed) (h : Tracks t w st base s) (hready : Ready st u i s) :
    Tracks t w st base (standardAbsAddToPilot (.sending t w) s u).2 := by
  unfold standardAbsAddToPilot
  cases hu : s.store.get u with
  | none => exact h
  | some m =>
      have hid := hready.slot m hu
      subst hid
      have hstore : ∀ s' : SyncState α,
          s'.store = s.store.modify u (fun l => { l with attr := .nothing }) →
          ∀ v m, s'.store.get v = some m → m.attr.changed = true → v ≠ u ∧
            s.store.get v = some m := by
        intro s' hs' v m' hm hch
        rw [hs', LocalStore.get_modify] at hm
        by_cases hv : v = u
        · rw [if_pos hv, hu, Option.map_some, Option.some.injEq] at hm
          rw [← hm] at hch
          contradiction
        · rw [if_neg hv] at hm
          exact ⟨hv, hm⟩
      dsimp only
      rw [Faults.sending_transmit, Faults.sending_writeRecord]
      by_cases ht : t u = true
      · rw [if_pos ht]
        refine ⟨h.logged.attempt hready m.content (hstore _ rfl) ?_ ?_,
          h.delivered.of_failed rfl rfl ?_⟩ <;>
          simp [SyncState.setStatus, SyncState.record, SyncState.crash, ht]
      · rw [if_neg ht]
        by_cases hw : w u = true
        · rw [if_pos hw]
          refine ⟨h.logged.attempt hready m.content (hstore _ rfl) ?_ ?_,
            h.delivered.of_failed rfl rfl ?_⟩ <;>
            simp [SyncState.setStatus, SyncState.record, ht, hw]
        · rw [if_neg hw]
          refine ⟨h.logged.attempt hready m.content (hstore _ rfl) ?_ ?_,
            h.delivered.of_written u m.content (fun hi => hready.fresh hk h.logged hi) rfl rfl
              ?_⟩ <;>
            simp [SyncState.setStatus, SyncState.record, SyncState.ignoreRecord, ht, hw]

end Sending

/-! ## A branch -/

theorem SyncCase.actions_nodup (dir : SyncDirection) (c : SyncCase) : (c.actions dir).Nodup := by
  rcases dir with ⟨_ | _, _ | _⟩ <;> cases c <;> decide

theorem SyncCase.actions_clear (dir : SyncDirection) (c : SyncCase) :
    ∀ a ∈ c.actions dir, a.clears = true := by
  rcases dir with ⟨_ | _, _ | _⟩ <;> cases c <;> decide

/-- No branch sends a record and deletes it. -/
theorem SyncCase.add_of_delete (dir : SyncDirection) (c : SyncCase)
    (h : .deleteFromPilot ∈ c.actions dir) : .addToPilot ∉ c.actions dir := by
  revert h
  rcases dir with ⟨_ | _, _ | _⟩ <;> cases c <;> decide

theorem SyncCase.sends_of_add {dir : SyncDirection} {c : SyncCase}
    (h : .addToPilot ∈ c.actions dir) : dir.toRemote = true ∧ c.sends = true := by
  revert h
  rcases dir with ⟨_ | _, _ | _⟩ <;> cases c <;> decide

theorem modified_of_sends [DecidableEq α] {l : LocalRecord α} {r : PilotRecord α}
    (h : (syncCase l r).sends = true) : l.attr = .modified := by
  unfold syncCase at h
  cases hl : l.attr with
  | modified => rfl
  | _ =>
      simp only [hl] at h
      repeat' split at h
      all_goals contradiction

section Branch

variable {t w : Nat → Bool} {st : LocalStore α} {base : Nat} {s : SyncState α} {u : Nat}
  {r : PilotRecord α}

/-- What precedes the sending of a record leaves it ready. -/
theorem Ready.perform {i : Nat} (hready : Ready st u i s) (hr : r.ID = i) {a : SyncAction}
    (hf : Frame s (perform (.sending t w) u r s a)) (hadd : a ≠ .addToPilot) :
    Ready st u i (Sync.perform (.sending t w) u r s a) where
  original := hready.original
  unsent h := hready.unsent ((hf.attempted u).1 h)
  slot m hm := by
    cases a with
    | addToPilot => contradiction
    | storeRemote =>
        rcases get_storeRemote hm with ⟨h, -⟩ | h
        · exact h.trans hr
        · exact hready.slot m h
    | archiveRemote => exact hready.slot m (get_of_get_remove hm)
    | archiveLocal =>
        refine hready.slot m ?_
        simp only [Sync.perform, SyncState.archiveLocal] at hm
        split at hm
        · exact hm
        · exact get_of_get_remove hm
    | deleteFromPilot => exact hready.slot m hm
    | setStatus attr =>
        simp only [Sync.perform, SyncState.setStatus, LocalStore.get_modify, if_true] at hm
        obtain ⟨l, hl, rfl⟩ := Option.map_eq_some_iff.mp hm
        exact hready.slot l hl
    | log text => exact hready.slot m hm

theorem runActions_crashed (fl : Faults) (hcr : s.crashed = true) (acts : List SyncAction) :
    runActions fl u r s acts = s := by
  unfold runActions
  induction acts with
  | nil => rfl
  | cons a acts ih => simpa [hcr] using ih

theorem Tracks.runActions (hk : st.Keyed) (acts : List SyncAction) (hnodup : acts.Nodup)
    (hclear : ∀ a ∈ acts, a.clears = true)
    (hdel : .deleteFromPilot ∈ acts → .addToPilot ∉ acts)
    (h : Tracks t w st base s) (hready : .addToPilot ∈ acts → Ready st u r.ID s)
    (hnew : .deleteFromPilot ∈ acts → r.ID ≠ 0 → ∀ v c, .writeRecord v r.ID c true ∉ s.calls) :
    Tracks t w st base (runActions (.sending t w) u r s acts) := by
  induction acts generalizing s with
  | nil => exact h
  | cons a acts ih =>
      cases hcr : s.crashed with
      | true =>
          rw [runActions_crashed _ hcr]
          exact h
      | false =>
          rw [runActions_cons _ hcr]
          obtain ⟨ha, hrest⟩ := List.nodup_cons.mp hnodup
          have hclear' : ∀ b ∈ acts, b.clears = true :=
            fun b hb => hclear b (List.mem_cons_of_mem a hb)
          have hdel' : .deleteFromPilot ∈ acts → .addToPilot ∉ acts := fun hd hadd =>
            hdel (List.mem_cons_of_mem a hd) (List.mem_cons_of_mem a hadd)
          by_cases hadd : a = .addToPilot
          · subst hadd
            refine ih hrest hclear' hdel' (h.addToPilot hk (hready List.mem_cons_self)) ?_ ?_
            · exact fun hmem => absurd hmem ha
            · exact fun hmem => absurd List.mem_cons_self (hdel (List.mem_cons_of_mem _ hmem))
          · have hf : Frame s (perform (.sending t w) u r s a) := by
              refine .perform hadd (hclear a List.mem_cons_self) ?_
              rintro rfl
              exact hnew List.mem_cons_self
            refine ih hrest hclear' hdel' (h.frame hf) ?_ ?_
            · exact fun hmem => (hready (List.mem_cons_of_mem a hmem)).perform rfl hf hadd
            · intro hmem h0 v c
              rw [hf.calls _ rfl]
              exact hnew (List.mem_cons_of_mem a hmem) h0 v c

variable {l : LocalRecord α}

/-- A record that still carries its change flag is ready. -/
theorem Logged.ready (h : Logged t w st s) (hl : s.store.get u = some l)
    (hch : l.attr.changed = true) : Ready st u l.ID s where
  original := ⟨l, h.pristine u l hl hch, hch, rfl⟩
  slot m hm := by
    rw [hl] at hm
    cases hm
    rfl
  unsent hu := by
    rw [h.cleared u l hu hl] at hch
    contradiction

theorem Tracks.syncPair [DecidableEq α] (hk : st.Keyed) (h : Tracks t w st base s)
    (hl : s.store.get u = some l) (hid : r.ID = l.ID) (hign : r.ID ∉ s.recordIdsToIgnore)
    (dir : SyncDirection) : Tracks t w st base (syncPair (.sending t w) s u l r dir) := by
  refine h.runActions hk _ (SyncCase.actions_nodup dir _) (SyncCase.actions_clear dir _)
    (SyncCase.add_of_delete dir _) ?_ ?_
  · intro hadd
    rw [hid]
    refine h.logged.ready hl ?_
    rw [modified_of_sends (SyncCase.sends_of_add hadd).2]
    rfl
  · intro _ h0 v c hw
    exact hign (h.delivered.onPilot v r.ID c hw h0).1

theorem Frame.syncRemoteOnly (dir : SyncDirection) :
    Frame s (syncRemoteOnly (.sending t w) s r dir) := by
  unfold Sync.syncRemoteOnly
  by_cases harch : r.archived = true <;> by_cases hdir : dir.toLocal = true <;>
    simp only [harch, hdir, if_true, if_false, Bool.false_eq_true]
  · exact .archiveRemote none
  · exact .refl s
  · split
    · exact Frame.storeRemote.trans (.setStatus rfl)
    · exact .storeRemote
  · exact .refl s

/-- After the attempt the record carries no change flag. -/
theorem get_addToPilot {fl : Faults} {m : LocalRecord α}
    (hm : (standardAbsAddToPilot fl s u).2.store.get u = some m) : m.attr.changed = false := by
  unfold standardAbsAddToPilot at hm
  cases hu : s.store.get u with
  | none =>
      rw [hu] at hm
      dsimp only at hm
      rw [hu] at hm
      contradiction
  | some l =>
      rw [hu] at hm
      dsimp only at hm
      split at hm
      · simp only [SyncState.crash, SyncState.setStatus, SyncState.record, LocalStore.get_modify,
          if_true, hu, Option.map_some, Option.some.injEq] at hm
        rw [← hm]
        rfl
      · split at hm <;>
        · simp only [SyncState.ignoreRecord, SyncState.setStatus, SyncState.record,
            LocalStore.get_modify, if_true, hu, Option.map_some, Option.some.injEq] at hm
          rw [← hm]
          rfl

theorem Tracks.installNew (hk : st.Keyed) (h : Tracks t w st base s)
    (hl : s.store.get u = some l) (hch : l.attr.changed = true) :
    Tracks t w st base (installNew (.sending t w) s u) := by
  have hadd := h.addToPilot hk (h.logged.ready hl hch)
  unfold Sync.installNew
  dsimp only
  split
  · exact hadd
  · refine hadd.frame (.of_store [.setPilotId u _] ?_ rfl rfl rfl
      (by simp [Call.transfers]))
    intro v m hm hchm
    rw [SyncState.setPilotId, LocalStore.get_modify] at hm
    by_cases hv : v = u
    · rw [if_pos hv] at hm
      obtain ⟨l', hl', rfl⟩ := Option.map_eq_some_iff.mp hm
      rw [get_addToPilot hl'] at hchm
      contradiction
    · rwa [if_neg hv] at hm

/-- Closing the operation keeps what was written. -/
theorem Frame.close (clean : Bool) : Frame s (standardAbsCloseDbAndPurgeLocal s clean) := by
  cases clean with
  | false => exact .record rfl
  | true =>
      refine ⟨?_, ?_, ?_, rfl, ?_, ?_, fun _ h => h, fun _ h _ => h⟩
      · intro v m hm _
        exact (Option.filter_eq_some_iff.mp hm).1
      · intro c hc
        cases c <;> simp [standardAbsCloseDbAndPurgeLocal, SyncState.record,
          SyncState.cleanUpDatabase, SyncState.purge, SyncState.resetSyncFlags,
          Call.transfers] at hc ⊢
      · intro c hc
        simp [standardAbsCloseDbAndPurgeLocal, SyncState.record, SyncState.cleanUpDatabase,
          SyncState.purge, SyncState.resetSyncFlags, hc]
      · intro v i c d _ _ hd hlive
        refine ⟨{ d with dirty := false }, ?_, hlive, rfl⟩
        simp [standardAbsCloseDbAndPurgeLocal, SyncState.record, SyncState.cleanUpDatabase,
          SyncState.purge, SyncState.resetSyncFlags, hd, Option.filter, hlive]
      · intro i hi
        revert hi
        simp only [standardAbsCloseDbAndPurgeLocal, SyncState.record, SyncState.cleanUpDatabase,
          SyncState.purge, SyncState.resetSyncFlags, if_true, PilotDB.get_dlpResetSyncFlags,
          PilotDB.get_dlpCleanUpDatabase, Option.isSome_map]
        cases s.pilot.get i with
        | none => exact fun h => h
        | some d => exact fun _ => rfl

end Branch

end GnomePilot.Sync
