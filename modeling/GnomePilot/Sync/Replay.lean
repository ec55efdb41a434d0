import GnomePilot.Lib.Loop
import GnomePilot.Sync.Transfer

/-!
# Runs that differ in failures

The outcome of a transfer matters only where the transfer is attempted: a run is
repeated call by call under any failures that agree on the records it tried to
send.  `Regular` says this of a part of the engine together with the invariant
of `GnomePilot.Sync.Transfer`, and parts compose.
-/

namespace GnomePilot.Sync

variable {α : Type}

/-- The failures `t'`, `w'` are those of `t`, `w` for every record tried in `s`. -/
def Agree (t w t' w' : Nat → Bool) (s : SyncState α) : Prop :=
  ∀ u, Attempted u s → t' u = t u ∧ w' u = w u

structure Regular (F : Faults → SyncState α → SyncState α) : Prop where
  tracks : ∀ {t w st base s}, st.Keyed → Tracks t w st base s →
    Tracks t w st base (F (.sending t w) s)
  grows : ∀ t w {s c}, c ∈ s.calls → c ∈ (F (.sending t w) s).calls
  replays : ∀ {t w t' w' s}, Agree t w t' w' (F (.sending t w) s) →
    F (.sending t' w') s = F (.sending t w) s

theorem Agree.of_grows {t w t' w' : Nat → Bool} {s s' : SyncState α} (h : Agree t w t' w' s')
    (hgrows : ∀ c, c ∈ s.calls → c ∈ s'.calls) : Agree t w t' w' s := by
  intro u hu
  obtain ⟨ok, hu⟩ := hu
  exact h u ⟨ok, hgrows _ hu⟩

/-! ## Composition -/

namespace Regular

variable {F G : Faults → SyncState α → SyncState α}

theorem of_frame {f : SyncState α → SyncState α} (hf : ∀ s, Frame s (f s)) :
    Regular (fun _ s => f s) where
  tracks _ h := h.frame (hf _)
  grows _ _ _ _ h := (hf _).grows _ h
  replays _ := rfl

theorem comp (hF : Regular F) (hG : Regular G) : Regular (fun fl s => G fl (F fl s)) where
  tracks hk h := hG.tracks hk (hF.tracks hk h)
  grows t w _ _ h := hG.grows t w (hF.grows t w h)
  replays {t w t' w' s} hagree := by
    rw [hF.replays (hagree.of_grows fun _ h => hG.grows t w h)]
    exact hG.replays hagree

theorem ite {P : SyncState α → Prop} [DecidablePred P] (hF : Regular F) (hG : Regular G) :
    Regular (fun fl s => if P s then F fl s else G fl s) where
  tracks {t w st base s} hk h := by
    split
    · exact hF.tracks hk h
    · exact hG.tracks hk h
  grows t w s c h := by
    split
    · exact hF.grows t w h
    · exact hG.grows t w h
  replays {t w t' w' s} hagree := by
    split
    · rename_i hP
      rw [if_pos hP] at hagree
      exact hF.replays hagree
    · rename_i hP
      rw [if_neg hP] at hagree
      exact hG.replays hagree

/-- A loop over keys the state it starts in gives. -/
theorem foldl {κ : Type} {f : Faults → SyncState α → κ → SyncState α}
    (hf : ∀ k, Regular (fun fl s => f fl s k)) (ks : List κ) :
    Regular (fun fl s => ks.foldl (f fl) s) := by
  induction ks with
  | nil => exact of_frame Frame.refl
  | cons k ks ih => exact (hf k).comp ih

theorem of_state {κ : Type} {f : κ → Faults → SyncState α → SyncState α}
    (hf : ∀ k, Regular (f k)) (key : SyncState α → κ) : Regular (fun fl s => f (key s) fl s) where
  tracks hk h := (hf _).tracks hk h
  grows t w _ _ h := (hf _).grows t w h
  replays hagree := (hf _).replays hagree

theorem congr (hG : Regular G) (h : ∀ t w s, F (.sending t w) s = G (.sending t w) s) :
    Regular F where
  tracks {t w st base s} hk ht := by
    rw [h]
    exact hG.tracks hk ht
  grows t w s c hc := by
    rw [h]
    exact hG.grows t w hc
  replays {t w t' w' s} hagree := by
    rw [h] at hagree
    rw [h, h]
    exact hG.replays hagree

end Regular

/-! ## One record -/

section Record

variable {t w t' w' : Nat → Bool} {s : SyncState α} {u : Nat} {r : PilotRecord α}

theorem addToPilot_grows (fl : Faults) {c : Call α} (hc : c ∈ s.calls) :
    c ∈ (standardAbsAddToPilot fl s u).2.calls := by
  unfold standardAbsAddToPilot
  cases s.store.get u with
  | none => exact hc
  | some l =>
      dsimp only
      split
      · simp [SyncState.crash, SyncState.setStatus, SyncState.record, hc]
      · split <;> simp [SyncState.setStatus, SyncState.record, SyncState.ignoreRecord, hc]

theorem addToPilot_attempted (fl : Faults) {l : LocalRecord α} (hl : s.store.get u = some l) :
    Attempted u (standardAbsAddToPilot fl s u).2 := by
  unfold standardAbsAddToPilot Attempted
  rw [hl]
  dsimp only
  split
  · exact ⟨false, by simp [SyncState.crash, SyncState.setStatus, SyncState.record]⟩
  · refine ⟨true, ?_⟩
    split <;> simp [SyncState.setStatus, SyncState.record, SyncState.ignoreRecord]

theorem addToPilot_replays
    (hagree : Agree t w t' w' (standardAbsAddToPilot (.sending t w) s u).2) :
    standardAbsAddToPilot (.sending t' w') s u = standardAbsAddToPilot (.sending t w) s u := by
  cases hu : s.store.get u with
  | none => simp [standardAbsAddToPilot, hu]
  | some l =>
      obtain ⟨ht, hw⟩ := hagree u (addToPilot_attempted _ hu)
      by_cases ht' : t u = true <;> by_cases hw' : w u = true <;>
        simp [standardAbsAddToPilot, hu, ht, hw, ht', hw']

theorem perform_grows (a : SyncAction) {c : Call α} (hc : c ∈ s.calls) :
    c ∈ (perform (.sending t w) u r s a).calls := by
  cases a with
  | addToPilot => exact addToPilot_grows _ hc
  | deleteFromPilot => exact List.mem_cons_of_mem _ hc
  | setStatus attr => exact List.mem_cons_of_mem _ hc
  | _ => exact (Frame.perform (by simp) rfl (by simp)).grows c hc

theorem runActions_grows (acts : List SyncAction) {c : Call α} (hc : c ∈ s.calls) :
    c ∈ (runActions (.sending t w) u r s acts).calls := by
  refine Loop.foldl_inv (fun s => c ∈ s.calls) _ ?_ acts s hc
  intro s a hs
  split
  · exact hs
  · exact perform_grows a hs

theorem runActions_replays (acts : List SyncAction)
    (hagree : Agree t w t' w' (runActions (.sending t w) u r s acts)) :
    runActions (.sending t' w') u r s acts = runActions (.sending t w) u r s acts := by
  induction acts generalizing s with
  | nil => rfl
  | cons a acts ih =>
      cases hcr : s.crashed with
      | true => rw [runActions_crashed _ hcr, runActions_crashed _ hcr]
      | false =>
          rw [runActions_cons _ hcr] at hagree ⊢
          rw [runActions_cons _ hcr]
          have hsame : perform (.sending t' w') u r s a = perform (.sending t w) u r s a := by
            have hfirst := hagree.of_grows fun _ => runActions_grows acts
            cases a with
            | addToPilot => exact congrArg Prod.snd (addToPilot_replays hfirst)
            | _ => rfl
          rw [hsame]
          exact ih hagree

variable [DecidableEq α]

theorem syncRecordRemote_regular (r : PilotRecord α) (dir : SyncDirection) :
    Regular (fun fl s => syncRecordRemote fl s r dir) where
  tracks {t w st base s} hk h := by
    unfold syncRecordRemote
    split
    · exact h
    · split
      · exact h
      · rename_i hign
        split
        · exact h.frame (.syncRemoteOnly dir)
        · rename_i u hmatch
          obtain ⟨l, hl, hid⟩ := LocalStore.matchRecord_some hmatch
          simp only [hl]
          exact h.syncPair hk hl hid.symm hign dir
  grows t w s c hc := by
    unfold syncRecordRemote
    split
    · exact hc
    · split
      · exact hc
      · split
        · exact (Frame.syncRemoteOnly dir).grows c hc
        · split
          · exact hc
          · exact runActions_grows _ hc
  replays {t w t' w' s} hagree := by
    unfold syncRecordRemote at hagree ⊢
    split
    · rfl
    · rename_i hcr
      rw [if_neg hcr] at hagree
      split
      · rfl
      · rename_i hign
        rw [if_neg hign] at hagree
        cases hmatch : s.store.matchRecord r.ID with
        | none => rfl
        | some u =>
            rw [hmatch] at hagree
            dsimp only at hagree ⊢
            cases hl : s.store.get u with
            | none => rfl
            | some l =>
                rw [hl] at hagree
                exact runActions_replays _ hagree

theorem syncRecordLocal_regular [Inhabited α] (u : Nat) (dir : SyncDirection) :
    Regular (fun fl (s : SyncState α) => syncRecordLocal fl s u dir) where
  tracks {t w st base s} hk h := by
    unfold syncRecordLocal
    split
    · exact h
    · cases hl : s.store.get u with
      | none => exact h
      | some l =>
          dsimp only
          split
          · exact h
          · rename_i hign
            have hid : (readRecordById (.sending t w) s l.ID).ID = l.ID := by
              unfold readRecordById
              split
              · rfl
              · cases s.pilot.get l.ID <;> rfl
            refine (h.frame (.record rfl)).syncPair hk hl hid ?_ dir
            rw [hid]
            exact hign
  grows t w s c hc := by
    unfold syncRecordLocal
    split
    · exact hc
    · split
      · exact hc
      · split
        · exact hc
        · exact runActions_grows _ (List.mem_cons_of_mem _ hc)
  replays {t w t' w' s} hagree := by
    unfold syncRecordLocal at hagree ⊢
    split
    · rfl
    · rename_i hcr
      rw [if_neg hcr] at hagree
      cases hl : s.store.get u with
      | none => rfl
      | some l =>
          rw [hl] at hagree
          dsimp only at hagree ⊢
          split
          · rfl
          · rename_i hign
            rw [if_neg hign] at hagree
            exact runActions_replays _ hagree

end Record

/-! ## The loops -/

section Loops

/-- A turn of a loop over local records, whose body needs the record to be one the
loop selects. -/
theorem iterateSpecific_regular {flag : RecordAttr} {u : Nat}
    {body : Faults → SyncState α → Nat → SyncState α}
    (htracks : ∀ {t w st base s l}, st.Keyed → Tracks t w st base s → s.store.get u = some l →
      l.attr = flag → Tracks t w st base (body (.sending t w) s u))
    (hgrows : ∀ t w {s c}, c ∈ s.calls → c ∈ (body (.sending t w) s u).calls)
    (hreplays : ∀ {t w t' w' s}, Agree t w t' w' (body (.sending t w) s u) →
      body (.sending t' w') s u = body (.sending t w) s u) :
    Regular (fun fl s => iterateSpecific flag (body fl) s u) where
  tracks {t w st base s} hk h := by
    unfold iterateSpecific
    split
    · exact h
    · split
      · rename_i l hl
        split
        · rename_i hsel
          exact htracks hk h hl hsel.1
        · exact h
      · exact h
  grows t w s c hc := by
    unfold iterateSpecific
    split
    · exact hc
    · split
      · split
        · exact hgrows t w hc
        · exact hc
      · exact hc
  replays {t w t' w' s} hagree := by
    unfold iterateSpecific at hagree ⊢
    split
    · rfl
    · rename_i hcr
      rw [if_neg hcr] at hagree
      cases hl : s.store.get u with
      | none => rfl
      | some l =>
          rw [hl] at hagree
          dsimp only at hagree ⊢
          split
          · rename_i hsel
            rw [if_pos hsel] at hagree
            exact hreplays hagree
          · rfl

theorem forEachSpecific_regular {flag : RecordAttr}
    (body : Faults → SyncState α → Nat → SyncState α)
    (hturn : ∀ u, Regular (fun fl s => iterateSpecific flag (body fl) s u)) :
    Regular (fun fl s => forEachSpecific flag (body fl) s) :=
  Regular.of_state (f := fun n fl s => (List.range n).foldl (iterateSpecific flag (body fl)) s)
    (fun n => Regular.foldl hturn (List.range n)) (fun s => s.store.size)

theorem installNew_regular (u : Nat) :
    Regular (fun fl (s : SyncState α) => iterateSpecific .new (installNew fl) s u) := by
  have hsetId : ∀ (p : Nat × SyncState α) {c : Call α}, c ∈ p.2.calls →
      c ∈ (if p.2.crashed then p.2 else p.2.setPilotId u p.1).calls := by
    intro p c hc
    split
    · exact hc
    · exact List.mem_cons_of_mem _ hc
  refine iterateSpecific_regular ?_ ?_ ?_
  · intro t w st base s l hk h hl hattr
    refine h.installNew hk hl ?_
    rw [hattr]
    rfl
  · intro t w s c hc
    exact hsetId _ (addToPilot_grows _ hc)
  · intro t w t' w' s hagree
    have hsame := addToPilot_replays (hagree.of_grows fun _ hc => hsetId _ hc)
    unfold installNew
    rw [hsame]

variable {body : Faults → SyncState α → PilotRecord α → SyncState α}

theorem readByIndexLoop_regular (hbody : ∀ r, Regular (fun fl s => body fl s r))
    (fuel index : Nat) : Regular (fun fl s => readByIndexLoop fl (body fl) fuel index s) := by
  induction fuel generalizing index with
  | zero => exact .of_frame Frame.refl
  | succ fuel ih =>
      have hread := Regular.of_frame fun s : SyncState α =>
        Frame.record (s := s) (c := .readRecordByIndex index) rfl
      have hturn : ∀ o : Option (Nat × DlpRecord α), Regular (fun fl s =>
          match o with
          | none => s.record (.readRecordByIndex index)
          | some (i, d) =>
            readByIndexLoop fl (body fl) fuel (index + 1)
              (body fl (s.record (.readRecordByIndex index))
                (standardAbsComputeAttrField i d))) := by
        intro o
        cases o with
        | none => exact hread
        | some e => exact (hread.comp (hbody _)).comp (ih (index + 1))
      refine ((Regular.of_frame Frame.refl).ite (P := fun s => s.crashed = true)
        (Regular.of_state hturn fun s => s.pilot.dlpReadRecordByIndex index)).congr ?_
      intro t w s
      have hok : (Faults.sending t w).readRecordByIndex index = false := rfl
      simp only [readByIndexLoop, hok, Bool.false_eq_true, if_false]
      cases s.pilot.dlpReadRecordByIndex index <;> rfl

theorem forEachByIndex_regular (hbody : ∀ r, Regular (fun fl s => body fl s r)) :
    Regular (fun fl s => forEachByIndex fl (body fl) s) :=
  Regular.of_state (fun n => readByIndexLoop_regular hbody n 0)
    (fun s => s.pilot.order.length + 1)

theorem readNextModifiedLoop_regular (hbody : ∀ r, Regular (fun fl s => body fl s r))
    (ids : List Nat) : Regular (fun fl s => readNextModifiedLoop fl (body fl) ids s) := by
  have hread := Regular.of_frame fun s : SyncState α =>
    Frame.record (s := s) (c := .readNextModifiedRec) rfl
  induction ids with
  | nil => exact hread
  | cons i ids ih =>
      have hturn : ∀ o : Option (DlpRecord α), Regular (fun fl s =>
          match o with
          | none => readNextModifiedLoop fl (body fl) ids s
          | some d =>
            if d.flagged then
              readNextModifiedLoop fl (body fl) ids
                (body fl (s.record .readNextModifiedRec) (standardAbsComputeAttrField i d))
            else readNextModifiedLoop fl (body fl) ids s) := by
        intro o
        cases o with
        | none => exact ih
        | some d =>
            cases hflag : d.flagged with
            | true => simpa [hflag] using (hread.comp (hbody _)).comp ih
            | false => simpa [hflag] using ih
      refine ((Regular.of_frame Frame.refl).ite (P := fun s => s.crashed = true)
        (Regular.of_state hturn fun s => s.pilot.get i)).congr ?_
      intro t w s
      have hok : (Faults.sending t w).readNextModifiedRec i = false := rfl
      simp only [readNextModifiedLoop, hok, Bool.false_eq_true, if_false]
      cases s.pilot.get i <;> rfl

end Loops

/-! ## The operations -/

section Operations

variable [DecidableEq α]

theorem FastSync_regular : Regular (FastSync (α := α)) :=
  Regular.of_state (fun ids => readNextModifiedLoop_regular
    (fun r => syncRecordRemote_regular r SyncBothWays) ids) (fun s => s.pilot.order)

theorem SlowSync_regular : Regular (SlowSync (α := α)) :=
  forEachByIndex_regular fun r => syncRecordRemote_regular r SyncBothWays

variable [Inhabited α]

theorem resolve_regular (flag : RecordAttr) (dir : SyncDirection) :
    Regular (fun fl (s : SyncState α) =>
      forEachSpecific flag (fun s u => syncRecordLocal fl s u dir) s) := by
  refine forEachSpecific_regular (fun fl s u => syncRecordLocal fl s u dir) ?_
  intro u
  have hlocal := syncRecordLocal_regular (α := α) u dir
  exact iterateSpecific_regular (fun hk h _ _ => hlocal.tracks hk h) (fun t w _ _ h =>
    hlocal.grows t w h) (fun h => hlocal.replays h)

theorem standardAbsMergeToRemote_regular (toLocal : Bool) :
    Regular (fun fl (s : SyncState α) => standardAbsMergeToRemote fl s ⟨true, toLocal⟩) :=
  (forEachSpecific_regular installNew installNew_regular).comp
    (resolve_regular .modified ⟨true, toLocal⟩)

omit [DecidableEq α] [Inhabited α] in
theorem finish_regular : Regular (fun _ (s : SyncState α) => (finish 0 s).2) := by
  refine .of_frame fun s => ?_
  unfold finish
  split
  · exact .refl s
  · exact .close true

theorem synchronize_regular (dbinfo : DBInfo) :
    Regular (fun fl (s : SyncState α) => (synchronize fl dbinfo s).2) := by
  have hopen : Regular (fun _ (s : SyncState α) =>
      ((s.record (.openDB true)).record .readOpenDBInfo).record (.preSync true)) :=
    .of_frame fun s => ((Frame.record rfl).trans (Frame.record rfl)).trans (Frame.record rfl)
  have hmain := Regular.ite
    (P := fun s : SyncState α => s.slow = false ∧ gpilotSyncPcMatch dbinfo = true)
    FastSync_regular SlowSync_regular
  have hslow : Regular (fun _ (s : SyncState α) => { s with slow := false }) :=
    .of_frame fun s => .of_store [] (fun _ _ h _ => h) rfl rfl rfl (by simp)
  exact (((((hopen.comp hmain).comp hslow).comp (standardAbsMergeToRemote_regular true)).comp
    (resolve_regular .deleted SyncBothWays)).comp finish_regular).congr fun _ _ _ => rfl

end Operations

end GnomePilot.Sync
