import GnomePilot.Lib.Loop
import GnomePilot.Sync.Engine

/-!
# What every step keeps

The operations are loops over `standard_abs_sync_record`, and that function is a
list of calls picked by the direction.  A relation between the state before and
after that composes, and that every such call keeps in a given direction, is kept
by the passes in that direction.  What a pass never does is shown this way once
for each call.
-/

namespace GnomePilot.Sync

variable {α : Type}

/-- The reads a pass makes to find its records. -/
def Call.finds : Call α → Bool
  | .readRecordById _ | .readRecordByIndex _ | .readNextModifiedRec => true
  | _ => false

/-- Every call made on the way from `s` to `t` satisfies `P`. -/
def Makes (P : Call α → Prop) (s t : SyncState α) : Prop :=
  ∃ made, t.calls = made ++ s.calls ∧ ∀ c ∈ made, P c

section Makes

variable {P : Call α → Prop} {s t v : SyncState α}

theorem Makes.none (h : t.calls = s.calls) : Makes P s t :=
  ⟨[], by simpa using h, by simp⟩

theorem Makes.one {c : Call α} (hc : P c) (h : t.calls = c :: s.calls) : Makes P s t :=
  ⟨[c], h, by simpa using hc⟩

theorem Makes.trans (h : Makes P s t) (h' : Makes P t v) : Makes P s v := by
  obtain ⟨first, hfirst, hP⟩ := h
  obtain ⟨next, hnext, hP'⟩ := h'
  refine ⟨next ++ first, by rw [hnext, hfirst, List.append_assoc], ?_⟩
  intro c hc
  rcases List.mem_append.mp hc with hc | hc
  · exact hP' c hc
  · exact hP c hc

end Makes

/-- Kept by every call made in direction `dir`. -/
structure KeptBy (fl : Faults) (dir : SyncDirection)
    (R : SyncState α → SyncState α → Prop) : Prop where
  refl : ∀ s, R s s
  trans : ∀ {s t v}, R s t → R t v → R s v
  finds : ∀ s c, c.finds = true → R s (s.record c)
  addToPilot : dir.toRemote = true → ∀ s u, R s (standardAbsAddToPilot fl s u).2
  setPilotId : dir.toRemote = true → ∀ s u id, R s (s.setPilotId u id)
  storeRemote : dir.toLocal = true → ∀ s r, R s (s.storeRemote fl r)
  archiveRemote : dir.toLocal = true → ∀ s u r, R s (s.archiveRemote u r)
  archiveLocal : dir.toLocal = true → ∀ s u, R s (s.archiveLocal u)
  deleteFromPilot : dir.toRemote = true → ∀ s id, R s (standardAbsDeleteFromPilot s id)
  setStatus : dir.toLocal = true → ∀ s u attr, R s (s.setStatus u attr)
  log : ∀ s text, R s (s.logConflict text)

/-- The direction a call of the decision table needs. -/
def SyncAction.allowed (dir : SyncDirection) : SyncAction → Bool
  | .addToPilot | .deleteFromPilot => dir.toRemote
  | .storeRemote | .archiveRemote | .archiveLocal | .setStatus _ => dir.toLocal
  | .log _ => true

/-- Every branch of the decision table asks for its direction first. -/
theorem SyncCase.actions_allowed (dir : SyncDirection) (c : SyncCase) {a : SyncAction}
    (h : a ∈ c.actions dir) : a.allowed dir = true := by
  cases c <;>
    simp only [SyncCase.actions, SyncDirection.ifRemote, SyncDirection.ifLocal] at h <;>
    grind [SyncAction.allowed]

namespace KeptBy

variable {fl : Faults} {dir : SyncDirection} {R : SyncState α → SyncState α → Prop}

theorem perform (h : KeptBy fl dir R) {a : SyncAction} (ha : a.allowed dir = true) (u : Nat)
    (r : PilotRecord α) (s : SyncState α) : R s (perform fl u r s a) := by
  cases a with
  | addToPilot => exact h.addToPilot ha s u
  | storeRemote => exact h.storeRemote ha s r
  | archiveRemote => exact h.archiveRemote ha s (some u) r.cleared
  | archiveLocal => exact h.archiveLocal ha s u
  | deleteFromPilot => exact h.deleteFromPilot ha s r.ID
  | setStatus attr => exact h.setStatus ha s u attr
  | log text => exact h.log s text

theorem runActions (h : KeptBy fl dir R) {acts : List SyncAction}
    (hacts : ∀ a ∈ acts, a.allowed dir = true) (u : Nat) (r : PilotRecord α)
    (s : SyncState α) : R s (runActions fl u r s acts) := by
  induction acts generalizing s with
  | nil => exact h.refl s
  | cons a acts ih =>
      have hrest := ih (fun b hb => hacts b (List.mem_cons_of_mem a hb))
      by_cases hcr : s.crashed
      · have heq : Sync.runActions fl u r s (a :: acts) = Sync.runActions fl u r s acts := by
          simp [Sync.runActions, hcr]
        rw [heq]
        exact hrest s
      · rw [runActions_cons fl (by simpa using hcr)]
        exact h.trans (h.perform (hacts a List.mem_cons_self) u r s) (hrest _)

/-! ## The loops -/

theorem forEachSpecific (h : KeptBy fl dir R) (flag : RecordAttr)
    {body : SyncState α → Nat → SyncState α} (hbody : ∀ s u, R s (body s u))
    (s : SyncState α) : R s (forEachSpecific flag body s) := by
  refine Loop.foldl_inv (R s) _ ?_ _ s (h.refl s)
  intro t u ht
  refine h.trans ht ?_
  unfold iterateSpecific
  split
  · exact h.refl t
  · split
    · split
      · exact hbody t u
      · exact h.refl t
    · exact h.refl t

theorem readByIndexLoop (h : KeptBy fl dir R) {body : SyncState α → PilotRecord α → SyncState α}
    (hbody : ∀ s r, R s (body s r)) (fuel index : Nat) (s : SyncState α) :
    R s (readByIndexLoop fl body fuel index s) := by
  induction fuel generalizing index s with
  | zero => exact h.refl s
  | succ fuel ih =>
      have hread := h.finds s (.readRecordByIndex index) rfl
      unfold Sync.readByIndexLoop
      split
      · exact h.refl s
      · split
        · exact hread
        · split
          · exact hread
          · exact h.trans hread (h.trans (hbody _ _) (ih (index + 1) _))

theorem readNextModifiedLoop (h : KeptBy fl dir R)
    {body : SyncState α → PilotRecord α → SyncState α} (hbody : ∀ s r, R s (body s r))
    (ids : List Nat) (s : SyncState α) : R s (readNextModifiedLoop fl body ids s) := by
  induction ids generalizing s with
  | nil => exact h.finds s .readNextModifiedRec rfl
  | cons i ids ih =>
      have hread := h.finds s .readNextModifiedRec rfl
      unfold Sync.readNextModifiedLoop
      split
      · exact h.refl s
      · split
        · exact ih s
        · split
          · split
            · exact hread
            · exact h.trans hread (h.trans (hbody _ _) (ih _))
          · exact ih s

/-! ## One record -/

theorem syncPair [DecidableEq α] (h : KeptBy fl dir R) (s : SyncState α) (u : Nat)
    (l : LocalRecord α) (r : PilotRecord α) : R s (syncPair fl s u l r dir) :=
  h.runActions (fun _ ha => SyncCase.actions_allowed dir _ ha) u r s

theorem syncRemoteOnly (h : KeptBy fl dir R) (s : SyncState α) (r : PilotRecord α) :
    R s (syncRemoteOnly fl s r dir) := by
  unfold Sync.syncRemoteOnly
  by_cases hdir : dir.toLocal = true
  · by_cases har : r.archived = true
    · rw [if_pos har, if_pos hdir]
      exact h.archiveRemote hdir s none r.cleared
    · rw [if_neg har, if_pos hdir]
      have hstore := h.storeRemote hdir s r
      dsimp only
      split
      · exact h.trans hstore (h.setStatus hdir _ _ .nothing)
      · exact hstore
  · simp only [hdir, Bool.false_eq_true, if_false, ite_self]
    exact h.refl s

theorem syncRecordRemote [DecidableEq α] (h : KeptBy fl dir R) (s : SyncState α)
    (r : PilotRecord α) : R s (syncRecordRemote fl s r dir) := by
  unfold Sync.syncRecordRemote
  split
  · exact h.refl s
  · split
    · exact h.refl s
    · split
      · exact h.syncRemoteOnly s r
      · split
        · exact h.refl s
        · exact h.syncPair s _ _ r

theorem mergeToLocal [DecidableEq α] (h : KeptBy fl dir R) (s : SyncState α) :
    R s (standardAbsMergeToLocal fl s dir) := by
  refine h.readByIndexLoop ?_ _ 0 s
  intro t r
  unfold mergeLocalBody
  split
  · exact h.syncRecordRemote t r
  · exact h.refl t

theorem slowSync [DecidableEq α] (h : KeptBy fl SyncBothWays R) (s : SyncState α) :
    R s (SlowSync fl s) :=
  h.readByIndexLoop (fun s r => h.syncRecordRemote s r) _ 0 s

theorem fastSync [DecidableEq α] (h : KeptBy fl SyncBothWays R) (s : SyncState α) :
    R s (FastSync fl s) :=
  h.readNextModifiedLoop (fun s r => h.syncRecordRemote s r) s.pilot.order s

variable [DecidableEq α] [Inhabited α]

theorem syncRecordLocal (h : KeptBy fl dir R) (s : SyncState α) (u : Nat) :
    R s (syncRecordLocal fl s u dir) := by
  unfold Sync.syncRecordLocal
  split
  · exact h.refl s
  · split
    · exact h.refl s
    · split
      · exact h.refl s
      · exact h.trans (h.finds s _ rfl) (h.syncPair _ u _ _)

/-! ## The passes -/

theorem mergeToRemote (h : KeptBy fl dir R) (s : SyncState α) :
    R s (standardAbsMergeToRemote fl s dir) := by
  have hmod : ∀ t, R t (Sync.forEachSpecific .modified
      (fun s u => Sync.syncRecordLocal fl s u dir) t) :=
    h.forEachSpecific .modified fun s u => h.syncRecordLocal s u
  unfold standardAbsMergeToRemote
  split
  next hdir =>
    refine h.trans (h.forEachSpecific .new ?_ s) (hmod _)
    intro t u
    have hadd := h.addToPilot hdir t u
    unfold installNew
    dsimp only
    split
    · exact hadd
    · exact h.trans hadd (h.setPilotId hdir _ u _)
  next => exact hmod s

theorem checkLocallyDeletedRecords (h : KeptBy fl dir R) (s : SyncState α) :
    R s (standardAbsCheckLocallyDeletedRecords fl s dir) :=
  h.forEachSpecific .deleted (fun s u => h.syncRecordLocal s u) s

end KeptBy

end GnomePilot.Sync
