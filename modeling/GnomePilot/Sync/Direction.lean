import GnomePilot.Sync.Steps

/-!
# One-way passes

`merge_to_remote` towards the pilot leaves the local records and the archive as
they are, `merge_to_local` towards the desktop leaves the database as it is.
The status and the pilot ID of a local record are the pilot's business and
change with every record sent.
-/

namespace GnomePilot.Sync

variable {α : Type}

/-- The callbacks that change what a local record holds, that add or remove one,
or that write to the archive. -/
def Call.changesLocal : Call α → Bool
  | .deleteAll _ | .storeRemote _ | .archiveRemote _ | .archiveLocal _ | .purge => true
  | _ => false

def Call.changesPilot : Call α → Bool
  | .deleteAllRecords _ | .deleteRecord _ | .writeRecord _ _ _ _ | .cleanUpDatabase
  | .resetSyncFlags => true
  | _ => false

/-- What the conduit keeps in a record besides its status and pilot ID. -/
structure LocalData (α : Type) where
  archived : Bool
  secret : Bool
  content : α
  deriving DecidableEq, Repr

def localData (l : LocalRecord α) : LocalData α := ⟨l.archived, l.secret, l.content⟩

/-- The local side has not been touched. -/
structure LocalKept (s t : SyncState α) : Prop where
  calls : Makes (fun c => c.changesLocal = false) s t
  archive : t.archive = s.archive
  size : t.store.size = s.store.size
  records : ∀ u, (t.store.get u).map localData = (s.store.get u).map localData

/-- The database has not been touched. -/
structure PilotKept (s t : SyncState α) : Prop where
  calls : Makes (fun c => c.changesPilot = false) s t
  pilot : t.pilot = s.pilot

section Kept

variable {s t v : SyncState α}

theorem LocalKept.refl (s : SyncState α) : LocalKept s s :=
  ⟨.none rfl, rfl, rfl, fun _ => rfl⟩

theorem LocalKept.trans (h : LocalKept s t) (h' : LocalKept t v) : LocalKept s v where
  calls := h.calls.trans h'.calls
  archive := h'.archive.trans h.archive
  size := h'.size.trans h.size
  records u := (h'.records u).trans (h.records u)

theorem LocalKept.one {c : Call α} (hc : c.changesLocal = false) (hcalls : t.calls = c :: s.calls)
    (hstore : t.store = s.store) (harchive : t.archive = s.archive) : LocalKept s t where
  calls := .one hc hcalls
  archive := harchive
  size := by rw [hstore]
  records u := by rw [hstore]

/-- A callback that sets header fields only. -/
theorem LocalKept.modify (u : Nat) (f : LocalRecord α → LocalRecord α)
    (hf : ∀ l, localData (f l) = localData l) {c : Call α} (hc : c.changesLocal = false)
    (hcalls : t.calls = c :: s.calls) (hstore : t.store = s.store.modify u f)
    (harchive : t.archive = s.archive) : LocalKept s t where
  calls := .one hc hcalls
  archive := harchive
  size := by rw [hstore, LocalStore.size_modify]
  records v := by
    rw [hstore, LocalStore.get_modify]
    split
    next hv =>
      subst hv
      cases s.store.get v with
      | none => rfl
      | some l => simp [hf]
    next => rfl

theorem PilotKept.refl (s : SyncState α) : PilotKept s s := ⟨.none rfl, rfl⟩

theorem PilotKept.trans (h : PilotKept s t) (h' : PilotKept t v) : PilotKept s v :=
  ⟨h.calls.trans h'.calls, h'.pilot.trans h.pilot⟩

theorem PilotKept.one {c : Call α} (hc : c.changesPilot = false) (hcalls : t.calls = c :: s.calls)
    (hpilot : t.pilot = s.pilot) : PilotKept s t :=
  ⟨.one hc hcalls, hpilot⟩

end Kept

/-! ## Towards the pilot -/

section ToRemote

variable (fl : Faults) (s : SyncState α)

theorem setStatus_localKept (u : Nat) (attr : RecordAttr) : LocalKept s (s.setStatus u attr) :=
  .modify u (fun l => { l with attr := attr }) (fun _ => rfl) rfl rfl rfl rfl

theorem addToPilot_localKept (u : Nat) : LocalKept s (standardAbsAddToPilot fl s u).2 := by
  have hsent : ∀ ok, LocalKept s ((s.record (.transmit u ok)).setStatus u .nothing) := by
    intro ok
    have htransmit : LocalKept s (s.record (.transmit u ok)) := .one rfl rfl rfl rfl
    have hset := setStatus_localKept (s.record (.transmit u ok)) u .nothing
    exact htransmit.trans hset
  unfold standardAbsAddToPilot
  split
  · exact .refl s
  · split
    · exact .trans (hsent false) ⟨.none rfl, rfl, rfl, fun _ => rfl⟩
    · dsimp only
      split
      · exact .trans (hsent true) (.one rfl rfl rfl rfl)
      · exact .trans (hsent true) (.one rfl rfl rfl rfl)

theorem logConflict_localKept (text : String) : LocalKept s (s.logConflict text) :=
  .trans (t := s.record (.addSyncLogEntry text)) (.one rfl rfl rfl rfl) (.one rfl rfl rfl rfl)

/-- No call made towards the pilot touches the local side. -/
theorem localKept_toRemote : KeptBy (α := α) fl SyncToRemote LocalKept where
  refl := .refl
  trans := .trans
  finds s c hc := .one (by cases c <;> simp_all [Call.finds, Call.changesLocal]) rfl rfl rfl
  addToPilot _ s u := addToPilot_localKept fl s u
  setPilotId _ s u id :=
    .modify u (fun l => { l with ID := id }) (fun _ => rfl) rfl rfl rfl rfl
  storeRemote h := nomatch h
  archiveRemote h := nomatch h
  archiveLocal h := nomatch h
  deleteFromPilot _ _ _ := .one rfl rfl rfl rfl
  setStatus h := nomatch h
  log s text := logConflict_localKept s text

end ToRemote

/-! ## Towards the desktop -/

section ToLocal

variable (fl : Faults) (s : SyncState α)

theorem storeRemote_pilotKept (r : PilotRecord α) : PilotKept s (s.storeRemote fl r) := by
  unfold SyncState.storeRemote
  split
  · exact .one rfl rfl rfl
  · exact .one rfl rfl rfl

theorem archiveLocal_pilotKept (u : Nat) : PilotKept s (s.archiveLocal u) := by
  unfold SyncState.archiveLocal
  split
  · exact .refl s
  · exact .one rfl rfl rfl

theorem logConflict_pilotKept (text : String) : PilotKept s (s.logConflict text) :=
  .trans (t := s.record (.addSyncLogEntry text)) (.one rfl rfl rfl) (.one rfl rfl rfl)

/-- No call made towards the desktop touches the database. -/
theorem pilotKept_toLocal : KeptBy (α := α) fl SyncToLocal PilotKept where
  refl := .refl
  trans := .trans
  finds s c hc := .one (by cases c <;> simp_all [Call.finds, Call.changesPilot]) rfl rfl
  addToPilot h := nomatch h
  setPilotId h := nomatch h
  storeRemote _ s r := storeRemote_pilotKept fl s r
  archiveRemote _ _ _ _ := .one rfl rfl rfl
  archiveLocal _ s u := archiveLocal_pilotKept s u
  deleteFromPilot h := nomatch h
  setStatus _ _ _ _ := .one rfl rfl rfl
  log s text := logConflict_pilotKept s text

end ToLocal

/-- A one-way pass, and every `sync_record` call in its direction, leaves the
side it reads from alone. -/
theorem one_way [DecidableEq α] [Inhabited α] (fl : Faults) (s : SyncState α) :
    (LocalKept s (standardAbsMergeToRemote fl s SyncToRemote) ∧
      (∀ u, LocalKept s (syncRecordLocal fl s u SyncToRemote)) ∧
      ∀ r, LocalKept s (syncRecordRemote fl s r SyncToRemote)) ∧
    PilotKept s (standardAbsMergeToLocal fl s SyncToLocal) ∧
      (∀ r, PilotKept s (syncRecordRemote fl s r SyncToLocal)) ∧
      ∀ u, PilotKept s (syncRecordLocal fl s u SyncToLocal) := by
  have hremote := localKept_toRemote (α := α) fl
  have hlocal := pilotKept_toLocal (α := α) fl
  refine ⟨⟨?_, ?_, ?_⟩, ?_, ?_, ?_⟩
  · exact hremote.mergeToRemote s
  · exact hremote.syncRecordLocal s
  · exact hremote.syncRecordRemote s
  · exact hlocal.mergeToLocal s
  · exact hlocal.syncRecordRemote s
  · exact hlocal.syncRecordLocal s

end GnomePilot.Sync
