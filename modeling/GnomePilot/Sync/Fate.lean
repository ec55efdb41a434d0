import GnomePilot.Sync.Fresh
import GnomePilot.Sync.Outcome

/-!
# What becomes of a changed record

A new or modified local record is sent to the pilot, settled by its branch
without a transfer, or left as it is.  `Fate` says which, from the two records
and the direction; `Pair.shows` is what the pair looks like afterwards.
-/

namespace GnomePilot.Sync

variable {α : Type}

/-- `overwritten` is the record of case 20: by the time it is sent its slot holds
the pilot's content. -/
inductive Fate where
  | sent
  | overwritten
  | settled
  | untouched
  deriving DecidableEq, Repr

/-- In the local direction the branch replaces, archives or clears a changed
local record. -/
def SyncCase.settles : SyncCase → Bool
  | .case9 | .case10 | .case14 | .case15 | .case16 | .case17 | .case19 | .case20 => true
  | _ => false

def SyncCase.fate (dir : SyncDirection) (c : SyncCase) : Fate :=
  if dir.toRemote && c.sends then
    if dir.toLocal && c = .case20 then .overwritten else .sent
  else if dir.toLocal && c.settles then .settled
  else .untouched

/-- The fate of a changed record in `merge_to_remote`, after a main loop that
handed its pilot record over or not. -/
def fate [DecidableEq α] (visited : Bool) (dir : SyncDirection) (l : LocalRecord α)
    (r : PilotRecord α) : Fate :=
  if l.attr = .new ∧ l.archived = false then .sent
  else if visited || revisited l then (syncCase l r).fate dir
  else .untouched

def Pair.shows (l : LocalRecord α) (q : Pair α) : Fate → Prop
  | .sent =>
    (q.ignored = true ∧ ∃ d, q.rem = some d ∧ d.live = true ∧ d.content = l.content) ∧
      ∀ m, q.loc = some m → m.attr.changed = false
  | .overwritten =>
    (q.ignored = true ∧ ∃ d, q.rem = some d ∧ d.live = true ∧ d.content ≠ l.content) ∧
      ∀ m, q.loc = some m → m.attr.changed = false
  | .settled => (q.ignored = true → q.rem = none) ∧ ∀ m, q.loc = some m → m.attr.changed = false
  | .untouched => (q.ignored = true → q.rem = none) ∧ q.loc = some l

/-! ## The branches for a changed record -/

def SyncCase.ofChanged : SyncCase → Bool
  | .case5 | .case8 | .case9 | .case10 | .case13 | .case14 | .case15 | .case16 | .case17
  | .case19 | .case20 | .unhandled => true
  | _ => false

section Branches

variable [DecidableEq α] {l : LocalRecord α} {r : PilotRecord α}

theorem syncCase_ofChanged (hch : l.attr.changed = true) (r : PilotRecord α) :
    (syncCase l r).ofChanged = true := by
  unfold syncCase
  cases hl : l.attr with
  | new =>
      dsimp only
      repeat' split
      all_goals rfl
  | modified =>
      dsimp only
      repeat' split
      all_goals rfl
  | _ => simp [hl, RecordAttr.changed] at hch

theorem contents_of_case20 (h : syncCase l r = .case20) : l.content ≠ r.content := by
  intro heq
  unfold syncCase compare at h
  rw [if_pos heq] at h
  repeat' split at h
  all_goals contradiction

/-- No arm is missing for a modified record. -/
theorem handled_of_modified (hl : l.attr = .modified)
    (hr : r.attr = .nothing ∨ r.attr = .modified ∨ r.attr = .deleted) :
    syncCase l r ≠ .unhandled := by
  unfold syncCase
  rw [hl]
  rcases hr with hr | hr | hr <;>
    · rw [hr]
      dsimp only
      repeat' split
      all_goals decide

omit [DecidableEq α] in
theorem readBack_attr [Inhabited α] (i : Nat) (p : Pair α) :
    (p.readBack i).attr = .nothing ∨ (p.readBack i).attr = .modified ∨
      (p.readBack i).attr = .deleted := by
  unfold Pair.readBack
  cases p.rem with
  | none => exact Or.inl rfl
  | some d => cases hdel : d.deleted <;> cases hdirty : d.dirty <;>
      simp [standardAbsComputeAttrField, hdel, hdirty]

theorem branch_shows (hch : l.attr.changed = true) (rem : Option (DlpRecord α))
    (dir : SyncDirection) :
    (((syncCase l r).actions dir).foldl (Pair.perform r) (.start (some l) rem)).shows l
      ((syncCase l r).fate dir) := by
  have hof := syncCase_ofChanged hch r
  have h20 : syncCase l r = .case20 → r.content ≠ l.content :=
    fun h => (contents_of_case20 h).symm
  generalize syncCase l r = c at hof h20
  rcases dir with ⟨_ | _, _ | _⟩ <;> cases c <;>
    simp [SyncCase.ofChanged] at hof h20 <;>
    simp [SyncCase.actions, SyncCase.fate, SyncCase.sends, SyncCase.settles, Pair.shows,
      SyncDirection.ifRemote, SyncDirection.ifLocal, Pair.perform, Pair.start, PilotDB.written,
      DlpRecord.live, SyncState.storedRecord, RecordAttr.changed, h20]

theorem branch_modified_quiet (hl : l.attr = .modified)
    (hr : r.attr = .nothing ∨ r.attr = .modified ∨ r.attr = .deleted)
    (rem : Option (DlpRecord α)) :
    (((syncCase l r).actions SyncBothWays).foldl (Pair.perform r) (.start (some l) rem)).quiet := by
  have hof := syncCase_ofChanged (show l.attr.changed = true by rw [hl]; rfl) r
  have hne := handled_of_modified hl hr
  generalize syncCase l r = c at hof hne
  intro m hm
  cases c <;> simp [SyncCase.ofChanged] at hof hne <;>
    simp [SyncCase.actions, SyncBothWays, SyncDirection.ifRemote, SyncDirection.ifLocal,
      Pair.perform, Pair.start, SyncState.storedRecord] at hm <;>
    simp [← hm]

end Branches

/-! ## The passes for a changed record -/

section Passes

variable {l : LocalRecord α} {q : Pair α} {f : Fate}

theorem shows_close (hch : l.attr.changed = true) (h : q.shows l f) : q.close.shows l f := by
  have hkeep : ∀ m, q.close.loc = some m → q.loc = some m :=
    fun m hm => (Option.filter_eq_some_iff.mp hm).1
  have hrem : ∀ d, q.rem = some d → d.live = true →
      q.close.rem = some { d with dirty := false } := by
    intro d hd hlive
    simp [Pair.close, hd, Option.filter, hlive]
  have hgone : q.rem = none → q.close.rem = none := by
    intro hnone
    simp [Pair.close, hnone]
  cases f with
  | sent =>
      obtain ⟨⟨hign, d, hd, hlive, hc⟩, hloc⟩ := h
      exact ⟨⟨hign, _, hrem d hd hlive, hlive, hc⟩, fun m hm => hloc m (hkeep m hm)⟩
  | overwritten =>
      obtain ⟨⟨hign, d, hd, hlive, hc⟩, hloc⟩ := h
      exact ⟨⟨hign, _, hrem d hd hlive, hlive, hc⟩, fun m hm => hloc m (hkeep m hm)⟩
  | settled =>
      obtain ⟨hign, hloc⟩ := h
      exact ⟨fun hi => hgone (hign hi), fun m hm => hloc m (hkeep m hm)⟩
  | untouched =>
      obtain ⟨hign, hloc⟩ := h
      have hne : l.attr ≠ .deleted := by
        intro hdel
        rw [hdel] at hch
        contradiction
      exact ⟨fun hi => hgone (hign hi), by simp [Pair.close, hloc, Option.filter, hne]⟩

theorem shows_start (l : LocalRecord α) (rem : Option (DlpRecord α)) :
    (Pair.start (some l) rem).shows l .untouched :=
  ⟨fun h => by contradiction, rfl⟩

theorem newPass_start (hattr : l.attr = .new) (harch : l.archived = false)
    (rem : Option (DlpRecord α)) : (Pair.start (some l) rem).newPass =
      { loc := some { l with attr := .nothing },
        rem := some (PilotDB.written l.secret l.content), arch := [], ignored := true } := by
  simp [Pair.newPass, Pair.selected, hattr, harch, Pair.start]

theorem newPass_quiet (hattr : l.attr = .new) (harch : l.archived = false)
    (rem : Option (DlpRecord α)) : (Pair.start (some l) rem).newPass.quiet := by
  rw [newPass_start hattr harch]
  intro m hm
  cases hm
  exact Or.inl rfl

theorem newPass_shows (hattr : l.attr = .new) (harch : l.archived = false)
    (rem : Option (DlpRecord α)) : (Pair.start (some l) rem).newPass.shows l .sent := by
  rw [newPass_start hattr harch]
  exact ⟨⟨rfl, _, rfl, rfl, rfl⟩, fun m hm => by cases hm; rfl⟩

theorem unselected_of_archived (harch : l.archived = true) (flag : RecordAttr)
    (rem : Option (DlpRecord α)) : (Pair.start (some l) rem).selected flag = false := by
  rw [selected_start, harch]
  simp

theorem revisited_eq (hch : l.attr.changed = true) (hnew : ¬ (l.attr = .new ∧ l.archived = false)) :
    revisited l = !l.archived := by
  unfold revisited
  cases hl : l.attr <;> simp [hl, RecordAttr.changed] at hch hnew ⊢
  simp [hnew]

variable [DecidableEq α] [Inhabited α]

/-- A record that is not for the new pass comes to its branch unless it is archived. -/
theorem mergeToRemote_old (hch : l.attr.changed = true)
    (hnew : ¬ (l.attr = .new ∧ l.archived = false)) (i : Nat) (toLocal : Bool)
    (rem : Option (DlpRecord α)) :
    (Pair.start (some l) rem).mergeToRemote i ⟨true, toLocal⟩ =
      if l.archived then .start (some l) rem
      else (Pair.start (some l) rem).resolve i ⟨true, toLocal⟩ := by
  have hsel : (Pair.start (some l) rem).selected .new = false := by
    rw [selected_start]
    simpa using hnew
  unfold Pair.mergeToRemote
  rw [if_pos rfl, Pair.newPass_unselected hsel]
  cases harch : l.archived with
  | true => exact Pair.resolvePass_unselected (unselected_of_archived harch _ _)
  | false =>
      have hmod : l.attr = .modified := by
        cases hl : l.attr <;> simp [hl, harch, RecordAttr.changed] at hch hnew ⊢
      simp [Pair.resolvePass, selected_start, hmod, harch]

theorem mergeToRemote_shows (hch : l.attr.changed = true) (i : Nat) (toLocal : Bool)
    (rem : Option (DlpRecord α)) :
    ((Pair.start (some l) rem).mergeToRemote i ⟨true, toLocal⟩).shows l
      (fate false ⟨true, toLocal⟩ l ((Pair.start (some l) rem).readBack i)) := by
  unfold fate
  by_cases hnew : l.attr = .new ∧ l.archived = false
  · rw [if_pos hnew, Pair.mergeToRemote, if_pos rfl,
      (newPass_quiet hnew.1 hnew.2 rem).resolvePass (by decide)]
    exact newPass_shows hnew.1 hnew.2 rem
  · rw [if_neg hnew, revisited_eq hch hnew, mergeToRemote_old hch hnew]
    cases l.archived with
    | true => exact shows_start l rem
    | false => exact branch_shows hch rem ⟨true, toLocal⟩

omit [Inhabited α] in
/-- The main loop does not touch a new record that the new pass is to send. -/
theorem visit_new (hattr : l.attr = .new) (harch : l.archived = false) (i : Nat)
    (rem : Option (DlpRecord α)) :
    (Pair.start (some l) rem).visit i SyncBothWays = .start (some l) rem := by
  cases rem with
  | none => rfl
  | some d =>
      rw [visit_start, syncCase_new hattr harch]
      rfl

def Pair.finished (l : LocalRecord α) (q : Pair α) : Prop :=
  q.quiet ∨ ∃ rem, q = .start (some l) rem ∧ l.archived = true

theorem Pair.finished.passes (h : q.finished l) (i : Nat) :
    q.mergeToRemote i SyncBothWays = q ∧ q.resolvePass .deleted i SyncBothWays = q := by
  rcases h with h | ⟨rem, rfl, harch⟩
  · refine ⟨?_, h.resolvePass (by decide) i _⟩
    unfold Pair.mergeToRemote
    rw [h.newPass, ite_self, h.resolvePass (by decide)]
  · have hun := unselected_of_archived (l := l) harch
    refine ⟨?_, Pair.resolvePass_unselected (hun _ _)⟩
    unfold Pair.mergeToRemote
    rw [Pair.newPass_unselected (hun _ _), ite_self, Pair.resolvePass_unselected (hun _ _)]

theorem resolve_finished (hch : l.attr.changed = true)
    (hnew : ¬ (l.attr = .new ∧ l.archived = false)) (i : Nat) (rem : Option (DlpRecord α)) :
    ((Pair.start (some l) rem).resolve i SyncBothWays).finished l := by
  have hr := readBack_attr i (Pair.start (some l) rem)
  cases hl : l.attr with
  | modified => exact Or.inl (branch_modified_quiet hl hr rem)
  | new =>
      have harch : l.archived = true := by simpa [hl] using hnew
      have hcase : ∀ r : PilotRecord α,
          syncCase l r = .case16 ∨ syncCase l r = .case17 ∨ syncCase l r = .unhandled := by
        intro r
        unfold syncCase
        rw [hl, harch]
        dsimp only
        repeat' split
        all_goals simp
      change Pair.finished l (((syncCase l _).actions SyncBothWays).foldl (Pair.perform _)
        (.start (some l) rem))
      generalize (Pair.start (some l) rem).readBack i = r
      rcases hcase r with h | h | h <;> rw [h]
      · exact Or.inl fun m hm => nomatch hm
      · exact Or.inl fun m hm => nomatch hm
      · exact Or.inr ⟨rem, rfl, harch⟩
  | _ => simp [hl, RecordAttr.changed] at hch

theorem synchronize_shows (hch : l.attr.changed = true) (i : Nat) {visited : Bool}
    {rem : Option (DlpRecord α)} (hvisited : visited = true → rem.isSome) :
    ((Pair.start (some l) rem).synchronize i visited).shows l
      (fate visited SyncBothWays l ((Pair.start (some l) rem).readBack i)) := by
  refine shows_close hch ?_
  by_cases hnew : l.attr = .new ∧ l.archived = false
  · have hquiet := newPass_quiet hnew.1 hnew.2 rem
    have hmerge : (Pair.start (some l) rem).mergeToRemote i SyncBothWays =
        (Pair.start (some l) rem).newPass := by
      simp [Pair.mergeToRemote, SyncBothWays, hquiet.resolvePass]
    rw [visit_new hnew.1 hnew.2, ite_self, hmerge, hquiet.resolvePass (by decide)]
    unfold fate
    rw [if_pos hnew]
    exact newPass_shows hnew.1 hnew.2 rem
  · have hfinished := resolve_finished hch hnew i rem
    cases hvis : visited with
    | false =>
        have hmerge : (Pair.start (some l) rem).mergeToRemote i SyncBothWays = _ :=
          mergeToRemote_old hch hnew i true rem
        have hdone : ((Pair.start (some l) rem).mergeToRemote i SyncBothWays).finished l := by
          rw [hmerge]
          cases harch : l.archived with
          | true => exact Or.inr ⟨rem, rfl, harch⟩
          | false => exact hfinished
        rw [if_neg (by decide), (hdone.passes i).2]
        exact mergeToRemote_shows hch i true rem
    | true =>
        obtain ⟨d, rfl⟩ := Option.isSome_iff_exists.mp (hvisited hvis)
        have hvisit : (Pair.start (some l) (some d)).visit i SyncBothWays =
            (Pair.start (some l) (some d)).resolve i SyncBothWays := rfl
        rw [if_pos rfl, hvisit, (hfinished.passes i).1, (hfinished.passes i).2]
        unfold fate
        rw [if_neg hnew]
        exact branch_shows hch (some d) SyncBothWays

end Passes

end GnomePilot.Sync
