import GnomePilot.Sync.Run

/-!
# What a session makes of a pair

The branch taken decides what becomes of the two records.  `Outcome` names the
possibilities and `synchronize_both` says which one a pair has after a two-way
session, over all statuses, flags and archive bits.
-/

namespace GnomePilot.Sync

variable {α : Type}

/-- The pair once the session is over and the conduit gone. -/
def Pair.atRest (p : Pair α) : Pair α := { p with ignored := false }

inductive Outcome where
  | untouched
  | cleared
  | sent
  | stored
  | swapped
  | deleted
  | archivedLocal
  | archivedRemote
  deriving DecidableEq, Repr

def settled (secret : Bool) (content : α) : DlpRecord α :=
  { secret := secret, dirty := false, deleted := false, archived := false, content := content }

/-- The two records of ID `i` after the session. -/
def Outcome.result (i : Nat) (l : LocalRecord α) (d : DlpRecord α) : Outcome → Pair α
  | .untouched => (Pair.start (some l) (some d)).close
  | .cleared => .start (some { l with attr := .nothing }) (some { d with dirty := false })
  | .sent => .start (some { l with attr := .nothing }) (some (settled l.secret l.content))
  | .stored =>
    .start (some (SyncState.storedRecord (standardAbsComputeAttrField i d)))
      (some (settled d.secret d.content))
  | .swapped =>
    .start (some (SyncState.storedRecord (standardAbsComputeAttrField i d)))
      (some (settled l.secret l.content))
  | .deleted => .start none none
  | .archivedLocal => { Pair.start none none with arch := [l.content] }
  | .archivedRemote => { Pair.start none none with arch := [d.content] }

/-- In case 20 the transmit follows the store, and the slot holds the pilot
record by then: both sides end with the pilot's content. -/
def SyncCase.outcome : SyncCase → Outcome
  | .case10 | .case15 => .swapped
  | .case5 | .case8 | .case13 => .sent
  | .case6 | .case7 | .case18 | .case20 => .stored
  | .case9 => .cleared
  | .case3 | .case4 => .deleted
  | .case16 | .case17 | .case19 => .archivedLocal
  | .case11 | .case12 | .case14 => .archivedRemote
  | .bothDeleted | .caseE1 | .unhandled => .untouched

/-- The later passes come to the record although the main loop did not. -/
def revisited (l : LocalRecord α) : Bool :=
  (l.attr = .modified || l.attr = .deleted) && !l.archived

def outcome [DecidableEq α] (i : Nat) (visited : Bool) (l : LocalRecord α) (d : DlpRecord α) :
    Outcome :=
  if l.attr = .new ∧ l.archived = false then .sent
  else if visited || revisited l then (syncCase l (standardAbsComputeAttrField i d)).outcome
  else .untouched

/-! ## A branch and what follows it -/

/-- No later pass has anything to do. -/
def Pair.quiet (p : Pair α) : Prop :=
  ∀ l, p.loc = some l → l.attr = .nothing ∨ (l.attr ≠ .new ∧ p.ignored = true)

theorem Pair.quiet.newPass {p : Pair α} (h : p.quiet) : p.newPass = p := by
  apply Pair.newPass_unselected
  unfold Pair.selected
  cases hl : p.loc with
  | none => rfl
  | some l =>
      rcases h l hl with h | ⟨h, _⟩ <;> simp [h]

theorem selected_start (flag : RecordAttr) (l : LocalRecord α) (o : Option (DlpRecord α)) :
    (Pair.start (some l) o).selected flag = (l.attr = flag && !l.archived : Bool) := rfl

section Passes

variable [DecidableEq α] [Inhabited α]

theorem Pair.quiet.resolvePass {p : Pair α} (h : p.quiet) {flag : RecordAttr}
    (hflag : flag ≠ .nothing) (i : Nat) (dir : SyncDirection) :
    p.resolvePass flag i dir = p := by
  unfold Pair.resolvePass Pair.selected Pair.resolve
  cases hl : p.loc with
  | none => simp
  | some l =>
      rcases h l hl with h | ⟨_, h⟩
      · simp [h, Ne.symm hflag]
      · simp [h]

theorem Pair.quiet.passes {p : Pair α} (h : p.quiet) (i : Nat) :
    (p.mergeToRemote i SyncBothWays).resolvePass .deleted i SyncBothWays = p := by
  have hm : p.mergeToRemote i SyncBothWays = p := by
    unfold Pair.mergeToRemote
    rw [h.newPass]
    simp [h.resolvePass]
  rw [hm, h.resolvePass (by decide)]

end Passes

/-- The branch taken on a fresh pair. -/
def branch (c : SyncCase) (i : Nat) (l : LocalRecord α) (d : DlpRecord α) : Pair α :=
  (c.actions SyncBothWays).foldl (Pair.perform (standardAbsComputeAttrField i d))
    (.start (some l) (some d))

theorem branch_quiet {c : SyncCase} (hc : c.outcome ≠ .untouched) (i : Nat) (l : LocalRecord α)
    (d : DlpRecord α) : (branch c i l d).quiet := by
  intro m hm
  cases c <;>
    simp [branch, SyncCase.actions, SyncBothWays, SyncDirection.ifRemote, SyncDirection.ifLocal,
      Pair.perform, Pair.start, SyncState.storedRecord, SyncCase.outcome] at hm hc ⊢ <;>
    simp [← hm]

theorem branch_untouched {c : SyncCase} (hc : c.outcome = .untouched) (i : Nat)
    (l : LocalRecord α) (d : DlpRecord α) : branch c i l d = .start (some l) (some d) := by
  cases c <;> first | rfl | simp [SyncCase.outcome] at hc

/-- What the flags of the pilot record were, where the branch leaves it to the
closing to settle it. -/
def SyncCase.leavesLive : SyncCase → Option Bool
  | .case6 | .case7 | .case9 | .case18 => some true
  | .case11 | .case12 => some false
  | _ => none

theorem syncCase_leavesLive [DecidableEq α] {l : LocalRecord α} {i : Nat} {d : DlpRecord α}
    {b : Bool} (h : (syncCase l (standardAbsComputeAttrField i d)).leavesLive = some b) :
    d.live = b := by
  obtain ⟨_, dirty, deleted, archived, _⟩ := d
  unfold syncCase at h
  cases archived <;> cases deleted <;> cases dirty <;>
    simp only [standardAbsComputeAttrField, DlpRecord.live] at h ⊢ <;>
    (repeat' split at h) <;> simp_all [SyncCase.leavesLive]

theorem branch_result {c : SyncCase} {i : Nat} {l : LocalRecord α} {d : DlpRecord α}
    (hlive : ∀ b, c.leavesLive = some b → d.live = b) :
    (branch c i l d).close.atRest = c.outcome.result i l d := by
  obtain ⟨_, dirty, deleted, archived, _⟩ := d
  cases c <;>
    simp [branch, SyncCase.actions, SyncBothWays, SyncDirection.ifRemote, SyncDirection.ifLocal,
      Pair.perform, Pair.start, SyncState.storedRecord, SyncCase.outcome, Outcome.result,
      Pair.close, Pair.atRest, settled, PilotDB.written, DlpRecord.live, SyncCase.leavesLive,
      Option.filter, standardAbsComputeAttrField] at hlive ⊢ <;>
    simp_all

/-! ## Both records present -/

section Both

variable [DecidableEq α] [Inhabited α] {i : Nat} {l : LocalRecord α} {d : DlpRecord α}

omit [Inhabited α] in
theorem visit_start :
    (Pair.start (some l) (some d)).visit i SyncBothWays =
      branch (syncCase l (standardAbsComputeAttrField i d)) i l d :=
  Pair.visit_both rfl rfl rfl

theorem resolve_start :
    (Pair.start (some l) (some d)).resolve i SyncBothWays =
      branch (syncCase l (standardAbsComputeAttrField i d)) i l d := rfl

/-- The later passes on a pair the main loop left as it was. -/
theorem passes_start (hnew : ¬ (l.attr = .new ∧ l.archived = false)) :
    ((Pair.start (some l) (some d)).mergeToRemote i SyncBothWays).resolvePass .deleted i
      SyncBothWays =
      if revisited l then branch (syncCase l (standardAbsComputeAttrField i d)) i l d
      else .start (some l) (some d) := by
  have hn : (Pair.start (some l) (some d)).newPass = .start (some l) (some d) := by
    apply Pair.newPass_unselected
    rw [selected_start]
    simpa using hnew
  have hmerge : (Pair.start (some l) (some d)).mergeToRemote i SyncBothWays =
      (Pair.start (some l) (some d)).resolvePass .modified i SyncBothWays := by
    simp [Pair.mergeToRemote, SyncBothWays, hn]
  rw [hmerge]
  by_cases hmod : l.attr = .modified ∧ l.archived = false
  · have hrev : revisited l = true := by simp [revisited, hmod]
    have hpass : (Pair.start (some l) (some d)).resolvePass .modified i SyncBothWays =
        branch (syncCase l (standardAbsComputeAttrField i d)) i l d := by
      rw [← resolve_start]
      simp [Pair.resolvePass, selected_start, hmod]
    rw [hpass, if_pos hrev]
    by_cases hc : (syncCase l (standardAbsComputeAttrField i d)).outcome = .untouched
    · rw [branch_untouched hc]
      apply Pair.resolvePass_unselected
      rw [selected_start]
      simp [hmod]
    · exact (branch_quiet hc i l d).resolvePass (by decide) i SyncBothWays
  · have hpass : (Pair.start (some l) (some d)).resolvePass .modified i SyncBothWays =
        .start (some l) (some d) := by
      apply Pair.resolvePass_unselected
      rw [selected_start]
      simpa using hmod
    rw [hpass]
    by_cases hdel : l.attr = .deleted ∧ l.archived = false
    · have hrev : revisited l = true := by simp [revisited, hdel]
      rw [if_pos hrev, ← resolve_start]
      simp [Pair.resolvePass, selected_start, hdel]
    · have hrev : revisited l = false := by
        rw [Bool.eq_false_iff]
        intro h
        simp only [revisited, Bool.and_eq_true, Bool.or_eq_true, decide_eq_true_eq,
          Bool.not_eq_true'] at h
        rcases h.1 with ha | ha
        · exact hmod ⟨ha, h.2⟩
        · exact hdel ⟨ha, h.2⟩
      rw [hrev, if_neg (by decide)]
      apply Pair.resolvePass_unselected
      rw [selected_start]
      simpa using hdel

omit [Inhabited α] in
/-- A new record is not handled by any branch that keeps it, so it is installed
over the pilot record that has its ID. -/
theorem syncCase_new (hattr : l.attr = .new) (harch : l.archived = false) (r : PilotRecord α) :
    syncCase l r = .unhandled := by
  unfold syncCase
  rw [hattr, harch]
  cases r.archived <;> cases r.attr <;> rfl

theorem synchronize_new (hattr : l.attr = .new) (harch : l.archived = false) (visited : Bool)
    (rem : Option (DlpRecord α)) :
    ((Pair.start (some l) rem).synchronize i visited).atRest =
      .start (some { l with attr := .nothing }) (some (settled l.secret l.content)) := by
  have hvisit : (if visited then (Pair.start (some l) rem).visit i SyncBothWays
      else .start (some l) rem) = .start (some l) rem := by
    cases visited with
    | false => rfl
    | true =>
        cases rem with
        | none => rfl
        | some d =>
            rw [if_pos rfl, visit_start, syncCase_new hattr harch]
            rfl
  unfold Pair.synchronize
  rw [hvisit]
  have hnew : (Pair.start (some l) rem).newPass =
      { loc := some { l with attr := .nothing },
        rem := some (PilotDB.written l.secret l.content), arch := [], ignored := true } := by
    simp [Pair.newPass, Pair.selected, hattr, harch, Pair.start]
  have hquiet : (Pair.start (some l) rem).newPass.quiet := by
    rw [hnew]
    intro m hm
    simp only [Option.some.injEq] at hm
    simp [← hm]
  have hmerge : (Pair.start (some l) rem).mergeToRemote i SyncBothWays =
      (Pair.start (some l) rem).newPass := by
    simp [Pair.mergeToRemote, SyncBothWays, hquiet.resolvePass]
  rw [hmerge, hquiet.resolvePass (by decide), hnew]
  simp [Pair.close, Pair.atRest, Pair.start, settled, PilotDB.written, Option.filter,
    DlpRecord.live]

omit [Inhabited α] in
theorem branch_eq_result :
    (branch (syncCase l (standardAbsComputeAttrField i d)) i l d).close.atRest =
      (syncCase l (standardAbsComputeAttrField i d)).outcome.result i l d :=
  branch_result (fun _ h => syncCase_leavesLive h)

theorem synchronize_both (i : Nat) (visited : Bool) (l : LocalRecord α) (d : DlpRecord α) :
    ((Pair.start (some l) (some d)).synchronize i visited).atRest =
      (outcome i visited l d).result i l d := by
  unfold outcome
  by_cases hnew : l.attr = .new ∧ l.archived = false
  · rw [if_pos hnew, synchronize_new hnew.1 hnew.2]
    rfl
  · rw [if_neg hnew]
    unfold Pair.synchronize
    cases visited with
    | false =>
        simp only [Bool.false_eq_true, if_false, Bool.false_or]
        rw [passes_start hnew]
        cases revisited l with
        | false => rfl
        | true => exact branch_eq_result
    | true =>
        simp only [if_true, Bool.true_or]
        rw [visit_start]
        by_cases hc : (syncCase l (standardAbsComputeAttrField i d)).outcome = .untouched
        · rw [branch_untouched hc, passes_start hnew, branch_untouched hc, ite_self, hc]
          rfl
        · rw [(branch_quiet hc i l d).passes]
          exact branch_eq_result

/-! ## One record only -/

/-- Without a local record the pilot record is archived or stored, whether it is
deleted on the pilot or not, but only by the main loop. -/
theorem synchronize_remote_only (i : Nat) (visited : Bool) (d : DlpRecord α) :
    ((Pair.start none (some d)).synchronize i visited).atRest =
      if visited then
        if d.archived then { Pair.start none none with arch := [d.content] }
        else { (Pair.start none (some d)).close with
          loc := some (SyncState.storedRecord (standardAbsComputeAttrField i d)) }
      else (Pair.start none (some d)).close := by
  have hquiet : ∀ p : Pair α, (∀ l, p.loc = some l → l.attr = .nothing) → p.quiet :=
    fun p h l hl => Or.inl (h l hl)
  unfold Pair.synchronize
  cases visited with
  | false =>
      simp only [Bool.false_eq_true, if_false]
      rw [(hquiet _ (by simp [Pair.start])).passes]
      rfl
  | true =>
      simp only [if_true]
      rw [Pair.visit_remote_only rfl rfl rfl]
      by_cases harch : d.archived = true
      · simp only [SyncBothWays, if_true, harch]
        rw [show SyncDirection.mk true true = SyncBothWays from rfl,
          (hquiet _ (by simp [Pair.start])).passes]
        simp [Pair.close, Pair.atRest, Pair.start, Option.filter, DlpRecord.live, harch]
      · simp only [SyncBothWays, if_true, harch, if_false, Bool.false_eq_true]
        rw [show SyncDirection.mk true true = SyncBothWays from rfl,
          (hquiet _ (by simp [SyncState.storedRecord])).passes]
        simp [Pair.close, Pair.atRest, Pair.start, SyncState.storedRecord]

/-- Without a pilot record a changed local record is sent, a deleted one dropped
and any other left alone. -/
theorem synchronize_local_only (i : Nat) (visited : Bool) (l : LocalRecord α) :
    ((Pair.start (some l) none).synchronize i visited).atRest =
      if l.attr.changed && !l.archived then
        .start (some { l with attr := .nothing }) (some (settled l.secret l.content))
      else .start ((some l).filter (fun l => l.attr ≠ .deleted)) none := by
  by_cases hnew : l.attr = .new ∧ l.archived = false
  · rw [synchronize_new hnew.1 hnew.2]
    simp [RecordAttr.changed, hnew]
  · have hvisit : (if visited then (Pair.start (some l) (none : Option (DlpRecord α))).visit i
        SyncBothWays else .start (some l) none) = .start (some l) none := by
      cases visited <;> rfl
    unfold Pair.synchronize
    rw [hvisit]
    obtain ⟨attr, archived, secret, ID, content⟩ := l
    -- the read by ID finds nothing, which the branches take for an unchanged record
    cases archived <;> cases attr <;>
      simp [Pair.mergeToRemote, SyncBothWays, Pair.resolvePass, Pair.newPass, Pair.close,
        Pair.atRest, RecordAttr.changed, Pair.resolve, Pair.start, Pair.readBack, unreadRecord,
        syncCase, SyncCase.actions, SyncDirection.ifRemote, SyncDirection.ifLocal,
        Pair.perform, settled, PilotDB.written, DlpRecord.live, Option.filter, Pair.selected]
        at hnew ⊢

end Both

/-! ## Which pairs the main loop reaches -/

section Reach

variable [DecidableEq α]

omit [DecidableEq α] in
theorem branch_rem_isNone (c : SyncCase) (i : Nat) (l : LocalRecord α) (d : DlpRecord α) :
    (branch c i l d).rem.isNone = c.deletes := by
  cases c <;> rfl

def Replicas.deletesAt (x : Replicas α) (i : Nat) : Bool :=
  match x.store.recordAt i, x.pilot.get i with
  | some l, some d => (syncCase l (standardAbsComputeAttrField i d)).deletes
  | _, _ => false

/-- `FastSync` reaches the flagged records, `SlowSync` every record but those that
follow one it deleted. -/
def Replicas.reaches (x : Replicas α) (fast : Bool) (i : Nat) : Bool :=
  if fast then (x.pilot.get i).any DlpRecord.flagged
  else i ∈ indexVisits x.deletesAt false x.pilot.order

theorem Replicas.mem_visits (x : Replicas α) (fast : Bool) (i : Nat) :
    i ∈ x.visits fast ↔ x.reaches fast i = true := by
  unfold visits mainVisits reaches
  cases fast with
  | true =>
      simp only [if_true, start, SyncState.start, List.mem_filter, x.pilot.mem_order]
      cases x.pilot.get i <;> simp
  | false =>
      simp only [Bool.false_eq_true, if_false, decide_eq_true_eq]
      rw [indexVisits_congr x.deletesAt false]
      · rfl
      · intro j hj
        have hsome : (x.pilot.get j).isSome := (x.pilot.mem_order j).1 hj
        obtain ⟨d, hd⟩ := Option.isSome_iff_exists.mp hsome
        rw [start_pair]
        unfold pair deletesAt
        rw [hd]
        cases hl : x.store.recordAt j with
        | none =>
            rw [Pair.visit_remote_only rfl rfl rfl]
            by_cases harch : d.archived = true <;> simp [SyncBothWays, harch, Pair.start]
        | some l => rw [visit_start, branch_rem_isNone]

/-- The main loop reaches records of the pilot only. -/
theorem Replicas.reaches_eq_false {x : Replicas α} {i : Nat} (h : x.pilot.get i = none)
    (fast : Bool) : x.reaches fast i = false := by
  rw [Bool.eq_false_iff]
  intro hreach
  have hmem : i ∈ x.visits fast := (x.mem_visits fast i).2 hreach
  have hord : i ∈ x.pilot.order := by
    unfold visits mainVisits at hmem
    cases fast with
    | true => exact (List.mem_filter.mp hmem).1
    | false => exact mem_of_mem_indexVisits hmem
  rw [x.pilot.mem_order, h] at hord
  contradiction

/-- The pair after the session, by what the main loop reaches. -/
theorem synchronize_pair [Inhabited α] (x : Replicas α) (slow : Bool) (dbinfo : DBInfo)
    {i : Nat} (h0 : 0 < i) (hb : i < x.pilot.uniqueIDSeed) :
    (synchronize .none dbinfo (x.start slow)).2.pair i =
      (x.pair i).synchronize i (x.reaches (choosesFast slow dbinfo) i) := by
  rw [(synchronize_passed x slow dbinfo).2.pair i h0 hb, x.start_pair]
  congr 1
  rw [Bool.eq_iff_iff, decide_eq_true_eq]
  exact x.mem_visits _ i

end Reach

end GnomePilot.Sync
