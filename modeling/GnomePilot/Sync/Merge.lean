import GnomePilot.Sync.Fresh
import GnomePilot.Sync.Outcome
import GnomePilot.Sync.Steps

/-!
# A merge and the next two-way session

`merge_to_pilot` and `merge_from_pilot` carry changes in one direction, but they
close the database as a two-way session does.  Afterwards no pilot record is
flagged and no local one marked deleted, so the next `FastSync` visits nothing.
-/

namespace GnomePilot.Sync

variable {α : Type}

/-! ## The merges on the pairs -/

section Merges

theorem foldl_perform_rem {r : PilotRecord α} (acts : List SyncAction)
    (hsend : .addToPilot ∉ acts) (hdel : .deleteFromPilot ∉ acts) (p : Pair α) :
    (acts.foldl (Pair.perform r) p).rem = p.rem := by
  induction acts generalizing p with
  | nil => rfl
  | cons a acts ih =>
      rw [List.mem_cons, not_or] at hsend hdel
      rw [List.foldl_cons, ih hsend.2 hdel.2]
      cases a with
      | addToPilot => exact absurd rfl hsend.1
      | deleteFromPilot => exact absurd rfl hdel.1
      | archiveLocal => cases hl : p.loc <;> simp [Pair.perform, hl]
      | _ => rfl

variable [DecidableEq α]

/-- `standard_abs_merge_to_local` on a pair. -/
def Pair.mergeToLocal (i : Nat) (p : Pair α) : Pair α :=
  match p.rem with
  | none => p
  | some d => if d.dirty && !d.deleted then p.visit i SyncToLocal else p

/-- A visit in the direction of the PC leaves the pilot record alone. -/
theorem visit_toLocal_rem (i : Nat) (p : Pair α) : (p.visit i SyncToLocal).rem = p.rem := by
  unfold Pair.visit
  cases hd : p.rem with
  | none => exact hd
  | some d =>
      by_cases hign : p.ignored = true
      · simp [hign, hd]
      · simp only [hign, Bool.false_eq_true, if_false]
        cases p.loc with
        | none => cases d.archived <;> simp [SyncToLocal]
        | some l =>
            simp only
            rw [foldl_perform_rem, hd] <;>
              cases syncCase l (standardAbsComputeAttrField i d) <;> decide

theorem mergeToLocal_rem (i : Nat) (p : Pair α) : (p.mergeToLocal i).rem = p.rem := by
  unfold Pair.mergeToLocal
  cases hd : p.rem with
  | none => exact hd
  | some d =>
      by_cases h : (d.dirty && !d.deleted) = true
      · simp only [h, if_true]
        rw [visit_toLocal_rem, hd]
      · simp [h, hd]

theorem mergeLocalBody_actsOn (base : Nat) :
    ActsOn base (mergeLocalBody (α := α) .none SyncToLocal) Pair.mergeToLocal := by
  intro s i d hwf hd hib
  have hrem : (s.pair i).rem = some d := hd
  unfold mergeLocalBody Pair.mergeToLocal
  rw [hrem]
  by_cases h : (d.dirty && !d.deleted) = true
  · have hattr : (standardAbsComputeAttrField i d).attr = .modified := by
      simp only [Bool.and_eq_true, Bool.not_eq_true'] at h
      simp [standardAbsComputeAttrField, h]
    simp only [hattr, or_true, if_true, h]
    exact syncRecordRemote_acts hwf hd hib SyncToLocal
  · have hattr : ¬ ((standardAbsComputeAttrField i d).attr = .new ∨
        (standardAbsComputeAttrField i d).attr = .modified) := by
      cases hdel : d.deleted <;> cases hdirty : d.dirty <;>
        simp [standardAbsComputeAttrField, hdel, hdirty] at h ⊢
    simp only [hattr, if_false, h]
    exact Acts.refl hwf i

/-- `merge_from_pilot` acts on every pair; no record is deleted, so the index loop
passes none over. -/
theorem mergeFromPilot_passed (x : Replicas α) (slow : Bool) :
    (mergeFromPilot .none (x.start slow)).1 = 0 ∧
      Passed x.pilot.uniqueIDSeed (fun i p => (p.mergeToLocal i).close) Loose.close
        (x.start slow) (mergeFromPilot .none (x.start slow)).2 := by
  have hvisited := forEachByIndex_visited (mergeLocalBody_actsOn x.pilot.uniqueIDSeed)
    (x.opened_wf slow) (order_lt_seed x)
  have hall : indexVisits (fun i => (((opened (x.start slow)).pair i).mergeToLocal i).rem.isNone)
      false (opened (x.start slow)).pilot.order = x.pilot.order := by
    apply indexVisits_eq_self
    intro i hi
    rw [mergeToLocal_rem]
    have hsome : (x.pilot.get i).isSome := (x.pilot.mem_order i).1 hi
    change (x.pilot.get i).isNone = false
    cases h : x.pilot.get i <;> simp [h] at hsome ⊢
  rw [hall] at hvisited
  have hpassed := hvisited.passed
  obtain ⟨hresult, h⟩ := withOpenDb_passed (s := x.start slow)
    (fun s => (0, standardAbsMergeToLocal .none s SyncToLocal)) rfl hpassed
  refine ⟨hresult, h.wf, ?_, h.loose⟩
  intro i h0 hb
  refine (h.pair i h0 hb).trans ?_
  simp only [x.start_pair]
  by_cases hi : i ∈ x.pilot.order
  · rw [if_pos hi]
  · have hnone : (x.pair i).rem = none := by
      rw [x.pilot.mem_order] at hi
      simpa [Replicas.pair, Pair.start] using hi
    rw [if_neg hi]
    simp [Pair.mergeToLocal, hnone]

variable [Inhabited α]

theorem mergeToPilot_passed (x : Replicas α) (slow : Bool) :
    (mergeToPilot .none (x.start slow)).1 = 0 ∧
      Passed x.pilot.uniqueIDSeed (fun i p => (p.mergeToRemote i SyncToRemote).close)
        (fun L => (L.mergeToRemote x.store.size).close) (x.start slow)
        (mergeToPilot .none (x.start slow)).2 :=
  withOpenDb_passed (fun s => (0, standardAbsMergeToRemote .none s SyncToRemote)) rfl
    (standardAbsMergeToRemote_passed (x.opened_wf slow) SyncToRemote rfl (x.opened_bounded slow))

end Merges

/-! ## What a session leaves for the next one -/

/-- The replicas as a run left them. -/
def Replicas.after {s : SyncState α} (h : s.store.Keyed) : Replicas α where
  store := s.store
  pilot := s.pilot
  keyed := h

theorem Replicas.after_issued {base : Nat} {s : SyncState α} (hwf : Wf base s)
    (h : (s.loose base).Apart) : (Replicas.after (hwf.keyed_of_apart h)).Issued :=
  fun _ _ hl => hwf.issued_of_apart h hl

theorem close_rem_unflagged {p : Pair α} {d : DlpRecord α} (h : p.close.rem = some d) :
    d.flagged = false := by
  simp only [Pair.close, Option.map_eq_some_iff, Option.filter_eq_some_iff] at h
  obtain ⟨e, ⟨-, hlive⟩, rfl⟩ := h
  simp only [DlpRecord.live, Bool.and_eq_true, Bool.not_eq_true'] at hlive
  simp [DlpRecord.flagged, hlive]

theorem close_loc_ne_deleted {p : Pair α} {l : LocalRecord α} (h : p.close.loc = some l) :
    l.attr ≠ .deleted := by
  simp only [Pair.close, Option.filter_eq_some_iff] at h
  simpa using h.2

/-- Both merges end with no record flagged. -/
theorem passed_clean {base : Nat} {f : Nat → Pair α → Pair α} {g : Loose α → Loose α}
    {s s' : SyncState α} (h : Passed base (fun i p => (f i p).close) (fun L => (g L).close) s s') :
    ∀ i d, s'.pilot.get i = some d → d.flagged = false := by
  intro i d hd
  have h0 := (PilotDB.get_issued hd).1
  by_cases hb : i < base
  · have hpair := h.pair i h0 hb
    have hrem : (s'.pair i).rem = some d := hd
    rw [hpair] at hrem
    exact close_rem_unflagged hrem
  · have hrem : (s'.loose base).rem i = some d := by simp [SyncState.loose, Nat.not_lt.mp hb, hd]
    rw [h.loose] at hrem
    simp only [Loose.close, Option.map_eq_some_iff, Option.filter_eq_some_iff] at hrem
    obtain ⟨e, ⟨-, hlive⟩, rfl⟩ := hrem
    simp only [DlpRecord.live, Bool.and_eq_true, Bool.not_eq_true'] at hlive
    simp [DlpRecord.flagged, hlive]

def Pair.nextRem (q : Pair α) : Option α :=
  match q.loc with
  | some l => if l.attr.changed && !l.archived then some l.content
      else q.rem.map DlpRecord.content
  | none => q.rem.map DlpRecord.content

section Next

variable [DecidableEq α] [Inhabited α]

/-- A pair without a flag on the pilot, in a session that does not visit it: the
local content stays, and is sent if the local record is new or modified. -/
theorem synchronize_unflagged {i : Nat} (loc : Option (LocalRecord α))
    (rem : Option (DlpRecord α)) (hloc : ∀ l, loc = some l → l.attr ≠ .deleted)
    (hrem : ∀ d, rem = some d → d.flagged = false) :
    ((Pair.start loc rem).synchronize i false).loc.map LocalRecord.content =
        loc.map LocalRecord.content ∧
      ((Pair.start loc rem).synchronize i false).rem.map DlpRecord.content =
        (Pair.start loc rem).nextRem ∧
      ((Pair.start loc rem).synchronize i false).arch = [] := by
  have hrest : ∀ p : Pair α, p.loc = p.atRest.loc ∧ p.rem = p.atRest.rem ∧
      p.arch = p.atRest.arch := fun _ => ⟨rfl, rfl, rfl⟩
  obtain ⟨h₁, h₂, h₃⟩ := hrest ((Pair.start loc rem).synchronize i false)
  rw [h₁, h₂, h₃]
  have hkeep : ∀ d, rem = some d → d.live = true := by
    intro d hd
    have hflag := hrem d hd
    simp only [DlpRecord.flagged, Bool.or_eq_false_iff] at hflag
    simp [DlpRecord.live, hflag]
  cases loc with
  | none =>
      cases rem with
      | none =>
          simp [Pair.synchronize, Pair.mergeToRemote, Pair.newPass, Pair.resolvePass,
            Pair.selected, Pair.start, Pair.close, Pair.atRest, SyncBothWays, Pair.nextRem]
      | some d =>
          rw [synchronize_remote_only]
          simp [Pair.start, Pair.close, Option.filter, hkeep d rfl, Pair.nextRem]
  | some l =>
      have hne := hloc l rfl
      cases rem with
      | none =>
          rw [synchronize_local_only]
          by_cases hch : (l.attr.changed && !l.archived) = true <;>
            simp [hch, Pair.start, Option.filter, hne, settled, Pair.nextRem]
      | some d =>
          rw [synchronize_both]
          have hlive := hkeep d rfl
          have hflag := hrem d rfl
          obtain ⟨secret, dirty, deleted, archived, content⟩ := d
          simp only [DlpRecord.flagged, Bool.or_eq_false_iff] at hflag
          obtain ⟨⟨rfl, rfl⟩, rfl⟩ := hflag
          obtain ⟨attr, larchived, lsecret, ID, lcontent⟩ := l
          cases attr <;> cases larchived <;>
            simp [outcome, revisited, syncCase, standardAbsComputeAttrField, SyncCase.outcome,
              Outcome.result, Pair.start, Pair.close, Option.filter, RecordAttr.changed, settled,
              DlpRecord.live, Pair.nextRem] at hne ⊢

/-- In the session after a run that closed successfully no record is flagged, so
`FastSync` reaches none. -/
theorem next_pair {s : SyncState α} (hkeyed : s.store.Keyed)
    (hclean : ∀ i d, s.pilot.get i = some d → d.flagged = false) (slow : Bool) (dbinfo : DBInfo)
    (hfast : choosesFast slow dbinfo = true) {i : Nat} (h0 : 0 < i)
    (hb : i < s.pilot.uniqueIDSeed) :
    (synchronize .none dbinfo ((Replicas.after hkeyed).start slow)).2.pair i =
      (Pair.start (s.pair i).loc (s.pair i).rem).synchronize i false := by
  rw [synchronize_pair _ slow dbinfo h0 hb, hfast]
  have hreach : (Replicas.after hkeyed).reaches true i = false := by
    simp only [Replicas.reaches, if_true]
    cases hd : s.pilot.get i with
    | none => simp [Replicas.after, hd]
    | some d => simp [Replicas.after, hd, hclean i d hd]
  rw [hreach]
  rfl

end Next

/-! ## merge_to_pilot, then synchronize -/

theorem mem_archive_iff {s : SyncState α} {i : Nat} {c : α} :
    ⟨i, c⟩ ∈ s.archive ↔ c ∈ s.archivedAt i := by
  simp only [SyncState.archivedAt, List.mem_map, List.mem_filter, decide_eq_true_eq]
  constructor
  · intro h
    exact ⟨_, ⟨h, rfl⟩, rfl⟩
  · rintro ⟨a, ⟨ha, rfl⟩, rfl⟩
    exact ha

theorem actions_toRemote (c : SyncCase) {a : SyncAction} (h : a ∈ c.actions SyncToRemote) :
    a = .addToPilot ∨ a = .deleteFromPilot ∨ ∃ text, a = .log text := by
  have hallowed := c.actions_allowed SyncToRemote h
  cases a with
  | addToPilot => exact Or.inl rfl
  | deleteFromPilot => exact Or.inr (Or.inl rfl)
  | log text => exact Or.inr (Or.inr ⟨text, rfl⟩)
  | _ => exact absurd hallowed Bool.false_ne_true

/-- In the direction of the pilot a branch at most clears the local status. -/
theorem foldl_perform_toRemote {r : PilotRecord α} {acts : List SyncAction}
    (hacts : ∀ a ∈ acts, a = .addToPilot ∨ a = .deleteFromPilot ∨ ∃ text, a = .log text)
    (p : Pair α) :
    (acts.foldl (Pair.perform r) p).arch = p.arch ∧
      ((acts.foldl (Pair.perform r) p).loc = p.loc ∨
        (acts.foldl (Pair.perform r) p).loc = p.loc.map (fun l => { l with attr := .nothing })) := by
  induction acts generalizing p with
  | nil => exact ⟨rfl, Or.inl rfl⟩
  | cons a acts ih =>
      have ih' := ih (fun b hb => hacts b (List.mem_cons_of_mem a hb)) (p.perform r a)
      rw [List.foldl_cons]
      rcases hacts a List.mem_cons_self with rfl | rfl | ⟨text, rfl⟩
      · cases hl : p.loc with
        | none => simpa [Pair.perform, hl] using ih'
        | some l =>
            have hself : p.perform r .addToPilot = { p with
              loc := some { l with attr := .nothing }
              rem := some (PilotDB.written l.secret l.content)
              ignored := true } := by simp [Pair.perform, hl]
            rw [hself] at ih' ⊢
            refine ⟨ih'.1, Or.inr ?_⟩
            rcases ih'.2 with h | h <;> simp [h]
      · exact ih'
      · exact ih'

section ToPilot

variable [DecidableEq α] [Inhabited α]

theorem mergeToRemote_toRemote (i : Nat) (loc : Option (LocalRecord α))
    (rem : Option (DlpRecord α)) :
    (((Pair.start loc rem).mergeToRemote i SyncToRemote).close.loc).map LocalRecord.content =
        (loc.filter (fun l => l.attr ≠ .deleted)).map LocalRecord.content ∧
      ((Pair.start loc rem).mergeToRemote i SyncToRemote).close.arch = [] := by
  cases loc with
  | none =>
      simp [Pair.mergeToRemote, SyncToRemote, Pair.newPass, Pair.resolvePass, Pair.selected,
        Pair.start, Pair.close]
  | some l =>
      by_cases hnew : l.attr = .new ∧ l.archived = false
      · -- installed, and clean when the modified pass comes to it
        simp [Pair.mergeToRemote, SyncToRemote, Pair.newPass, Pair.resolvePass, Pair.selected,
          Pair.start, Pair.close, hnew, Option.filter]
      · have hn : (Pair.start (some l) rem).newPass = .start (some l) rem := by
          apply Pair.newPass_unselected
          rw [selected_start]
          simpa using hnew
        have hmerge : (Pair.start (some l) rem).mergeToRemote i SyncToRemote =
            (Pair.start (some l) rem).resolvePass .modified i SyncToRemote := by
          simp only [Pair.mergeToRemote, SyncToRemote, if_true, hn]
        rw [hmerge]
        by_cases hmod : l.attr = .modified ∧ l.archived = false
        · have hpass : (Pair.start (some l) rem).resolvePass .modified i SyncToRemote =
              ((syncCase l ((Pair.start (some l) rem).readBack i)).actions SyncToRemote).foldl
                (Pair.perform ((Pair.start (some l) rem).readBack i)) (.start (some l) rem) := by
            unfold Pair.resolvePass
            rw [if_pos (by rw [selected_start]; simp [hmod])]
            rfl
          rw [hpass]
          obtain ⟨harch, hloc⟩ := foldl_perform_toRemote (fun a => actions_toRemote
            (syncCase l ((Pair.start (some l) rem).readBack i)) (a := a)) (.start (some l) rem)
          generalize ((syncCase l ((Pair.start (some l) rem).readBack i)).actions
            SyncToRemote).foldl (Pair.perform ((Pair.start (some l) rem).readBack i))
            (.start (some l) rem) = q at harch hloc
          refine ⟨?_, harch⟩
          rcases hloc with h | h <;> simp [Pair.close, h, Pair.start, Option.filter, hmod]
        · rw [Pair.resolvePass_unselected (by rw [selected_start]; simpa using hmod)]
          simp [Pair.close, Pair.start]

/-- The changes pending on the pilot have arrived: the content of each dirty or
archived record is in the local store or in an archive, each deleted record is
gone from the local store. -/
structure PilotChangesApplied (x : Replicas α) (s₁ s₂ : SyncState α) : Prop where
  content : ∀ i d, x.pilot.get i = some d → d.archived = true ∨ d.dirty = true ∧ d.deleted = false →
    (∃ u l, s₂.store.get u = some l ∧ l.ID = i ∧ l.content = d.content) ∨
      ⟨i, d.content⟩ ∈ s₁.archive ∨ ⟨i, d.content⟩ ∈ s₂.archive
  deletion : ∀ i d, x.pilot.get i = some d → d.deleted = true → d.archived = false →
    ∀ u l, s₂.store.get u = some l → l.ID ≠ i

/-- The local store has the pending pilot changes already. -/
structure PilotChangesKnown (x : Replicas α) : Prop where
  content : ∀ i d, x.pilot.get i = some d → d.archived = true ∨ d.dirty = true ∧ d.deleted = false →
    ∃ l, x.store.recordAt i = some l ∧ l.attr ≠ .deleted ∧ l.content = d.content
  deletion : ∀ i d, x.pilot.get i = some d → d.deleted = true → d.archived = false →
    ∀ l, x.store.recordAt i = some l → l.attr = .deleted

/-- The pilot handed out every local ID, so the IDs it hands out in the merge are new ones. -/
theorem mergeToPilot_apart {x : Replicas α} (hissued : x.Issued) (slow : Bool) :
    ((mergeToPilot .none (x.start slow)).2.loose x.pilot.uniqueIDSeed).Apart := by
  rw [(mergeToPilot_passed x slow).2.loose, x.start_loose]
  exact (hissued.apart.mergeToRemote _).close

/-- The records of an ID after `merge_to_pilot` and the next session of the same PC:
the local content is the one from before, unless that was marked deleted. -/
theorem toPilot_pair {x : Replicas α} (hissued : x.Issued) (slow : Bool) (pc : Nat) {i : Nat}
    (h0 : 0 < i) (hb : i < x.pilot.uniqueIDSeed) :
    ((synchronize .none ⟨pc, pc⟩ (SyncState.start (mergeToPilot .none (x.start slow)).2.store
        (mergeToPilot .none (x.start slow)).2.pilot false)).2.pair i).loc.map LocalRecord.content =
        ((x.store.recordAt i).filter (fun l => l.attr ≠ .deleted)).map LocalRecord.content ∧
      ((synchronize .none ⟨pc, pc⟩ (SyncState.start (mergeToPilot .none (x.start slow)).2.store
        (mergeToPilot .none (x.start slow)).2.pilot false)).2.pair i).arch = [] ∧
      ((mergeToPilot .none (x.start slow)).2.pair i).arch = [] := by
  obtain ⟨-, hpassed⟩ := mergeToPilot_passed x slow
  have hclean := passed_clean hpassed
  have hle := hpassed.wf.base_le
  have hpair := hpassed.pair i h0 hb
  rw [x.start_pair] at hpair
  obtain ⟨hloc, harch⟩ := mergeToRemote_toRemote i (x.store.recordAt i) (x.pilot.get i)
  have hkeyed := hpassed.wf.keyed_of_apart (mergeToPilot_apart hissued slow)
  have hnext := next_pair hkeyed hclean false ⟨pc, pc⟩
    (by simp [choosesFast, gpilotSyncPcMatch]) h0 (by omega)
  have hrest := synchronize_unflagged (i := i)
    ((mergeToPilot .none (x.start slow)).2.pair i).loc
    ((mergeToPilot .none (x.start slow)).2.pair i).rem
    (fun l hl => close_loc_ne_deleted (p := (x.pair i).mergeToRemote i SyncToRemote)
      (by rw [← hpair]; exact hl))
    (fun d hd => hclean i d hd)
  rw [show SyncState.start (mergeToPilot .none (x.start slow)).2.store
    (mergeToPilot .none (x.start slow)).2.pilot false = (Replicas.after hkeyed).start false
    from rfl, hnext]
  refine ⟨hrest.1.trans ?_, hrest.2.2, ?_⟩
  · rw [hpair]
    exact hloc
  · rw [hpair]
    exact harch

/-- Both runs return 0, and the changes pending on the pilot arrive exactly when
they had arrived before. -/
theorem mergeToPilot_then_synchronize {x : Replicas α} (hissued : x.Issued) (slow : Bool)
    (pc : Nat) :
    (mergeToPilot .none (x.start slow)).1 = 0 ∧
    (synchronize .none ⟨pc, pc⟩ (SyncState.start (mergeToPilot .none (x.start slow)).2.store
      (mergeToPilot .none (x.start slow)).2.pilot false)).1 = 0 ∧
    (PilotChangesApplied x (mergeToPilot .none (x.start slow)).2
      (synchronize .none ⟨pc, pc⟩ (SyncState.start (mergeToPilot .none (x.start slow)).2.store
        (mergeToPilot .none (x.start slow)).2.pilot false)).2 ↔ PilotChangesKnown x) := by
  obtain ⟨hresult, hpassed⟩ := mergeToPilot_passed x slow
  obtain ⟨hresult', hpassed'⟩ := synchronize_passed
    (Replicas.after (hpassed.wf.keyed_of_apart (mergeToPilot_apart hissued slow))) false ⟨pc, pc⟩
  refine ⟨hresult, hresult', ?_⟩
  have hpair := fun i => toPilot_pair hissued slow pc (i := i)
  have hkeyed : (synchronize .none ⟨pc, pc⟩ (SyncState.start (mergeToPilot .none
      (x.start slow)).2.store
      (mergeToPilot .none (x.start slow)).2.pilot false)).2.store.KeyedBelow
        x.pilot.uniqueIDSeed :=
    hpassed'.wf.keyed.mono hpassed.wf.base_le
  generalize (synchronize .none ⟨pc, pc⟩ (SyncState.start (mergeToPilot .none
    (x.start slow)).2.store (mergeToPilot .none (x.start slow)).2.pilot false)).2 = s₂
    at hpair hkeyed
  generalize (mergeToPilot .none (x.start slow)).2 = s₁ at hpair
  -- the final local record, by the one from before
  have hlocal : ∀ i, 0 < i → i < x.pilot.uniqueIDSeed → ∀ c,
      (∃ u l, s₂.store.get u = some l ∧ l.ID = i ∧ l.content = c) ↔
        ∃ l, x.store.recordAt i = some l ∧ l.attr ≠ .deleted ∧ l.content = c := by
    intro i h0 hb c
    have hloc := (hpair i h0 hb).1
    constructor
    · rintro ⟨u, l, hl, hid, hc⟩
      have hat := (hkeyed.recordAt_eq_some (by omega) hb).2 ⟨u, hl, hid⟩
      rw [show (s₂.pair i).loc = some l from hat, Option.map_some] at hloc
      obtain ⟨m, hm, hmc⟩ := Option.map_eq_some_iff.mp hloc.symm
      obtain ⟨hm, hattr⟩ := Option.filter_eq_some_iff.mp hm
      exact ⟨m, hm, by simpa using hattr, hmc.trans hc⟩
    · rintro ⟨l, hl, hattr, hc⟩
      rw [hl] at hloc
      simp only [Option.filter, hattr, ne_eq, not_false_eq_true, decide_true, if_true,
        Option.map_some] at hloc
      obtain ⟨m, hm, hmc⟩ := Option.map_eq_some_iff.mp hloc
      obtain ⟨u, hu, hid⟩ := (hkeyed.recordAt_eq_some (by omega) hb).1 hm
      exact ⟨u, m, hu, hid, hmc.trans hc⟩
  have harchive : ∀ i, 0 < i → i < x.pilot.uniqueIDSeed → ∀ c,
      ¬ (⟨i, c⟩ ∈ s₁.archive ∨ ⟨i, c⟩ ∈ s₂.archive) := by
    intro i h0 hb c
    obtain ⟨-, h₂, h₁⟩ := hpair i h0 hb
    rw [mem_archive_iff, mem_archive_iff, show s₁.archivedAt i = [] from h₁,
      show s₂.archivedAt i = [] from h₂]
    simp
  constructor
  · intro h
    refine ⟨?_, ?_⟩
    · intro i d hd hpending
      obtain ⟨h0, hb⟩ := PilotDB.get_issued hd
      rcases h.content i d hd hpending with hl | ha
      · exact (hlocal i h0 hb d.content).1 hl
      · exact absurd ha (harchive i h0 hb d.content)
    · intro i d hd hdel harch l hl
      obtain ⟨h0, hb⟩ := PilotDB.get_issued hd
      by_contra hattr
      obtain ⟨u, m, hm, hid, -⟩ := (hlocal i h0 hb l.content).2 ⟨l, hl, hattr, rfl⟩
      exact h.deletion i d hd hdel harch u m hm hid
  · intro h
    refine ⟨?_, ?_⟩
    · intro i d hd hpending
      obtain ⟨h0, hb⟩ := PilotDB.get_issued hd
      exact Or.inl ((hlocal i h0 hb d.content).2 (h.content i d hd hpending))
    · intro i d hd hdel harch u m hm hid
      obtain ⟨h0, hb⟩ := PilotDB.get_issued hd
      obtain ⟨l, hl, hattr, -⟩ := (hlocal i h0 hb m.content).1 ⟨u, m, hm, hid, rfl⟩
      exact hattr (h.deletion i d hd hdel harch l hl)

end ToPilot

/-! ## merge_from_pilot, then synchronize -/

/-- The pending local change of a pair is safe from `merge_from_pilot`: a new or
modified record is not replaced or archived, an archived one is on the pilot
already, a deleted one is off the pilot with the clean-up. -/
def SafeFromPilot (l : LocalRecord α) (rem : Option (DlpRecord α)) : Prop :=
  match l.attr with
  | .new => l.archived = true → ∃ d, rem = some d ∧ d.live = true ∧ d.content = l.content
  | .modified =>
    if l.archived then ∃ d, rem = some d ∧ d.live = true ∧ d.content = l.content
    else ∀ d, rem = some d → d.dirty = true → d.deleted = false →
      d.archived = false ∧ d.content = l.content
  | .deleted => ∀ d, rem = some d → d.live = false
  | _ => True

def ReachedPilot (l : LocalRecord α) (c : Option α) : Prop :=
  match l.attr with
  | .new | .modified => c = some l.content
  | .deleted => c = none
  | _ => True

section FromPilot

theorem nextRem_unmerged (l : LocalRecord α) (rem : Option (DlpRecord α))
    (h : ∀ d, rem = some d → (d.dirty && !d.deleted) = false) :
    ReachedPilot l (Pair.start (some l) rem).close.nextRem ↔ SafeFromPilot l rem := by
  obtain ⟨attr, archived, secret, ID, content⟩ := l
  cases rem with
  | none => cases attr <;> cases archived <;> simp [ReachedPilot, SafeFromPilot, Pair.nextRem,
      Pair.start, Pair.close, RecordAttr.changed, Option.filter]
  | some d =>
      obtain ⟨dsecret, dirty, deleted, darchived, dcontent⟩ := d
      have hd := h _ rfl
      cases deleted <;> cases dirty <;> simp at hd <;>
        cases darchived <;> cases attr <;> cases archived <;>
        simp [ReachedPilot, SafeFromPilot, Pair.nextRem, Pair.start, Pair.close,
          RecordAttr.changed, Option.filter, DlpRecord.live]

variable [DecidableEq α]

theorem nextRem_merged (i : Nat) (l : LocalRecord α) {d : DlpRecord α} (hdirty : d.dirty = true)
    (hdel : d.deleted = false) :
    ReachedPilot l ((Pair.start (some l) (some d)).visit i SyncToLocal).close.nextRem ↔
      SafeFromPilot l (some d) := by
  obtain ⟨attr, archived, secret, ID, content⟩ := l
  obtain ⟨dsecret, dirty, deleted, darchived, dcontent⟩ := d
  simp only at hdirty hdel
  subst hdirty hdel
  rw [Pair.visit_both rfl rfl rfl]
  unfold syncCase
  cases darchived <;> cases attr <;> cases archived <;> by_cases h : content = dcontent <;>
    simp [standardAbsComputeAttrField, compare, SyncCase.actions, SyncToLocal,
      SyncDirection.ifRemote, SyncDirection.ifLocal, Pair.perform, Pair.start, ReachedPilot,
      SafeFromPilot, Pair.nextRem, Pair.close, RecordAttr.changed, Option.filter, DlpRecord.live,
      SyncState.storedRecord, h, eq_comm (a := dcontent)]

theorem nextRem_iff (i : Nat) (l : LocalRecord α) (rem : Option (DlpRecord α)) :
    ReachedPilot l ((Pair.start (some l) rem).mergeToLocal i).close.nextRem ↔
      SafeFromPilot l rem := by
  cases rem with
  | none => exact nextRem_unmerged l none (by simp)
  | some d =>
      have hmerge : (Pair.start (some l) (some d)).mergeToLocal i =
          if d.dirty && !d.deleted then (Pair.start (some l) (some d)).visit i SyncToLocal
          else .start (some l) (some d) := rfl
      rw [hmerge]
      by_cases h : (d.dirty && !d.deleted) = true
      · rw [if_pos h]
        simp only [Bool.and_eq_true, Bool.not_eq_true'] at h
        exact nextRem_merged i l h.1 h.2
      · rw [if_neg h]
        apply nextRem_unmerged
        intro e he
        cases he
        simpa using h

/-- The changes pending locally have reached the pilot; a record without an ID has
a pilot record with its content and is not pending any more. -/
structure LocalChangesApplied (x : Replicas α) (s : SyncState α) : Prop where
  numbered : ∀ u l, x.store.get u = some l → l.ID ≠ 0 →
    ReachedPilot l ((s.pilot.get l.ID).map DlpRecord.content)
  unnumbered : ∀ u l, x.store.get u = some l → l.ID = 0 → l.attr.changed = true →
    (∃ m, s.store.get u = some m ∧ m.attr.changed = false) ∧
      ∃ k d, x.pilot.uniqueIDSeed ≤ k ∧ s.pilot.get k = some d ∧ d.content = l.content

/-- Every pending local change is safe from `merge_from_pilot`. -/
structure LocalChangesSafe (x : Replicas α) : Prop where
  numbered : ∀ u l, x.store.get u = some l → l.ID ≠ 0 → SafeFromPilot l (x.pilot.get l.ID)
  unnumbered : ∀ u l, x.store.get u = some l → l.ID = 0 → l.attr.changed = true →
    l.archived = false

variable [Inhabited α]

omit [Inhabited α] in
theorem mergeFromPilot_apart {x : Replicas α} (hissued : x.Issued) (slow : Bool) :
    ((mergeFromPilot .none (x.start slow)).2.loose x.pilot.uniqueIDSeed).Apart := by
  rw [(mergeFromPilot_passed x slow).2.loose, x.start_loose]
  exact hissued.apart.close

theorem fromPilot_pair {x : Replicas α} (hissued : x.Issued) (slow : Bool) (pc : Nat) {i : Nat}
    (h0 : 0 < i) (hb : i < x.pilot.uniqueIDSeed) :
    ((synchronize .none ⟨pc, pc⟩ (SyncState.start (mergeFromPilot .none (x.start slow)).2.store
        (mergeFromPilot .none (x.start slow)).2.pilot false)).2.pilot.get i).map
          DlpRecord.content =
      ((x.pair i).mergeToLocal i).close.nextRem := by
  obtain ⟨-, hpassed⟩ := mergeFromPilot_passed x slow
  have hclean := passed_clean hpassed
  have hle := hpassed.wf.base_le
  have hpair := hpassed.pair i h0 hb
  rw [x.start_pair] at hpair
  have hnext := next_pair (hpassed.wf.keyed_of_apart (mergeFromPilot_apart hissued slow)) hclean
    false ⟨pc, pc⟩ (by simp [choosesFast, gpilotSyncPcMatch]) h0 (by omega)
  have hrest := synchronize_unflagged (i := i)
    ((mergeFromPilot .none (x.start slow)).2.pair i).loc
    ((mergeFromPilot .none (x.start slow)).2.pair i).rem
    (fun l hl => close_loc_ne_deleted (p := (x.pair i).mergeToLocal i)
      (by rw [← hpair]; exact hl))
    (fun d hd => hclean i d hd)
  rw [← hnext] at hrest
  refine hrest.2.1.trans ?_
  rw [hpair]
  rfl

/-- A record without an ID goes through `merge_from_pilot` untouched and is treated
as any other in the next session. -/
theorem fromPilot_unnumbered {x : Replicas α} (hissued : x.Issued) (slow : Bool) (pc : Nat)
    {u : Nat} {l : LocalRecord α} (hl : x.store.get u = some l) (h0 : l.ID = 0)
    (hch : l.attr.changed = true) :
    ((∃ m, (synchronize .none ⟨pc, pc⟩ (SyncState.start (mergeFromPilot .none
        (x.start slow)).2.store (mergeFromPilot .none (x.start slow)).2.pilot false)).2.store.get u =
          some m ∧ m.attr.changed = false) ∧
      ∃ k d, x.pilot.uniqueIDSeed ≤ k ∧ (synchronize .none ⟨pc, pc⟩ (SyncState.start
        (mergeFromPilot .none (x.start slow)).2.store
        (mergeFromPilot .none (x.start slow)).2.pilot false)).2.pilot.get k = some d ∧
          d.content = l.content) ↔ l.archived = false := by
  obtain ⟨-, hpassed⟩ := mergeFromPilot_passed x slow
  have hne : l.attr ≠ .deleted := by
    rintro h
    simp [h, RecordAttr.changed] at hch
  have hslot₁ : (mergeFromPilot .none (x.start slow)).2.store.get u = some l := by
    have hslot := congrFun (congrArg Loose.slot hpassed.loose) u
    rw [x.start_loose] at hslot
    have hx : x.loose.close.slot u = some l := by
      simp [Loose.close, hissued.loose_slot.2 ⟨hl, h0⟩, Option.filter, hne]
    rw [hx] at hslot
    exact store_of_loose _ hslot
  have hle := hpassed.wf.base_le
  have hapart := mergeFromPilot_apart hissued slow
  have hyissued := Replicas.after_issued hpassed.wf hapart
  generalize hy : Replicas.after (hpassed.wf.keyed_of_apart hapart) = y at hyissued
  have hystart : SyncState.start (mergeFromPilot .none (x.start slow)).2.store
      (mergeFromPilot .none (x.start slow)).2.pilot false = y.start false := by rw [← hy]; rfl
  have hyslot : y.loose.slot u = some l := by
    rw [hyissued.loose_slot, ← hy]
    exact ⟨hslot₁, h0⟩
  have hyle : x.pilot.uniqueIDSeed ≤ y.pilot.uniqueIDSeed := by
    rw [← hy]
    exact hle
  rw [hystart]
  have hloose := (synchronize_passed y false ⟨pc, pc⟩).2.loose
  rw [y.start_loose] at hloose
  generalize (synchronize .none ⟨pc, pc⟩ (y.start false)).2 = s at hloose
  have hget : ∀ {m}, (y.loose.synchronize y.store.size).slot u = some m →
      s.store.get u = some m := by
    intro m hm
    rw [← hloose] at hm
    exact store_of_loose _ hm
  have hrem : ∀ {k d}, (y.loose.synchronize y.store.size).rem k = some d →
      s.pilot.get k = some d := by
    intro k d hd
    rw [← hloose] at hd
    exact (pilot_of_loose _ hd).2
  have hmerged := hyissued.loose_merged
  cases harch : l.archived with
  | true =>
      simp only [Bool.true_eq_false, iff_false]
      rintro ⟨⟨m, hm, hclean⟩, -⟩
      have hstay := hmerged.slot_of_unsent hyslot (by simp [harch])
      rw [hget (Loose.synchronize_slot_eq hstay hne)] at hm
      cases hm
      rw [hch] at hclean
      contradiction
  | false =>
      simp only [iff_true]
      cases hattr : l.attr with
      | new =>
          obtain ⟨k, hk, hs, hr⟩ := hmerged.new u l hyslot hattr harch
          have hs' := Loose.synchronize_slot_eq hs (by simp)
          have hr' := Loose.synchronize_rem_written hr
          exact ⟨⟨_, hget hs', rfl⟩, k, _, Nat.le_trans hyle hk, hrem hr', rfl⟩
      | modified =>
          obtain ⟨hs, k, hk, hr⟩ := hmerged.modified u l hyslot hattr harch
          have hs' := Loose.synchronize_slot_eq hs (by simp)
          have hr' := Loose.synchronize_rem_written hr
          exact ⟨⟨_, hget hs', rfl⟩, k, _, Nat.le_trans hyle hk, hrem hr', rfl⟩
      | _ => simp [hattr, RecordAttr.changed] at hch

/-- Both runs return 0, and the changes pending locally reach the pilot exactly when
all of them are safe. -/
theorem mergeFromPilot_then_synchronize {x : Replicas α} (hissued : x.Issued) (slow : Bool)
    (pc : Nat) :
    (mergeFromPilot .none (x.start slow)).1 = 0 ∧
    (synchronize .none ⟨pc, pc⟩ (SyncState.start (mergeFromPilot .none (x.start slow)).2.store
      (mergeFromPilot .none (x.start slow)).2.pilot false)).1 = 0 ∧
    (LocalChangesApplied x (synchronize .none ⟨pc, pc⟩ (SyncState.start
      (mergeFromPilot .none (x.start slow)).2.store
      (mergeFromPilot .none (x.start slow)).2.pilot false)).2 ↔ LocalChangesSafe x) := by
  obtain ⟨hresult, hpassed⟩ := mergeFromPilot_passed x slow
  obtain ⟨hresult', -⟩ := synchronize_passed
    (Replicas.after (hpassed.wf.keyed_of_apart (mergeFromPilot_apart hissued slow))) false ⟨pc, pc⟩
  refine ⟨hresult, hresult', ?_⟩
  have hpair : ∀ u l, x.store.get u = some l → l.ID ≠ 0 →
      (ReachedPilot l (((synchronize .none ⟨pc, pc⟩ (SyncState.start (mergeFromPilot .none
        (x.start slow)).2.store (mergeFromPilot .none (x.start slow)).2.pilot false)).2.pilot.get
          l.ID).map DlpRecord.content) ↔ SafeFromPilot l (x.pilot.get l.ID)) := by
    intro u l hl h0
    have hx : x.pair l.ID = .start (some l) (x.pilot.get l.ID) := by
      simp only [Replicas.pair, (x.keyed.recordAt_eq_some h0).2 ⟨u, hl, rfl⟩]
    rw [fromPilot_pair hissued slow pc (by omega) (hissued u l hl), hx]
    exact nextRem_iff l.ID l (x.pilot.get l.ID)
  have hfresh := fun u l => fromPilot_unnumbered hissued slow pc (u := u) (l := l)
  constructor
  · intro h
    exact ⟨fun u l hl h0 => (hpair u l hl h0).1 (h.numbered u l hl h0),
      fun u l hl h0 hch => (hfresh u l hl h0 hch).1 (h.unnumbered u l hl h0 hch)⟩
  · intro h
    exact ⟨fun u l hl h0 => (hpair u l hl h0).2 (h.numbered u l hl h0),
      fun u l hl h0 hch => (hfresh u l hl h0 hch).2 (h.unnumbered u l hl h0 hch)⟩

end FromPilot

/-! ## Both merges -/

section Merges

variable [DecidableEq α] [Inhabited α]

/-- After a merge and a session of the same PC the changes of the side that was not
propagated have arrived exactly when the merge could not lose them.  The pilot handed
out every local ID. -/
theorem merge_then_synchronize (x : Replicas α) (hissued : x.Issued) (slow : Bool) (pc : Nat) :
    ((mergeToPilot .none (x.start slow)).1 = 0 ∧
      (synchronize .none ⟨pc, pc⟩ (SyncState.start (mergeToPilot .none (x.start slow)).2.store
        (mergeToPilot .none (x.start slow)).2.pilot false)).1 = 0 ∧
      (PilotChangesApplied x (mergeToPilot .none (x.start slow)).2
        (synchronize .none ⟨pc, pc⟩ (SyncState.start (mergeToPilot .none (x.start slow)).2.store
          (mergeToPilot .none (x.start slow)).2.pilot false)).2 ↔ PilotChangesKnown x)) ∧
    ((mergeFromPilot .none (x.start slow)).1 = 0 ∧
      (synchronize .none ⟨pc, pc⟩ (SyncState.start (mergeFromPilot .none (x.start slow)).2.store
        (mergeFromPilot .none (x.start slow)).2.pilot false)).1 = 0 ∧
      (LocalChangesApplied x (synchronize .none ⟨pc, pc⟩ (SyncState.start
        (mergeFromPilot .none (x.start slow)).2.store
        (mergeFromPilot .none (x.start slow)).2.pilot false)).2 ↔ LocalChangesSafe x)) :=
  ⟨mergeToPilot_then_synchronize hissued slow pc,
    mergeFromPilot_then_synchronize hissued slow pc⟩

end Merges

/-- One record modified locally, another without an ID, and nothing pending on the pilot. -/
def pendingLocally : Replicas Nat :=
  .ofLists [⟨.modified, false, false, 5, 1⟩, ⟨.new, false, false, 0, 3⟩]
    [(5, ⟨false, false, false, false, 2⟩)] 7 (by decide)

/-- Both merges are safe there. -/
theorem pendingLocally_arrives :
    PilotChangesApplied pendingLocally (mergeToPilot .none (pendingLocally.start false)).2
        (synchronize .none ⟨1, 1⟩ (SyncState.start
          (mergeToPilot .none (pendingLocally.start false)).2.store
          (mergeToPilot .none (pendingLocally.start false)).2.pilot false)).2 ∧
      LocalChangesApplied pendingLocally (synchronize .none ⟨1, 1⟩ (SyncState.start
        (mergeFromPilot .none (pendingLocally.start false)).2.store
        (mergeFromPilot .none (pendingLocally.start false)).2.pilot false)).2 := by
  obtain ⟨⟨-, -, hto⟩, -, -, hfrom⟩ := merge_then_synchronize pendingLocally
    (Replicas.issued_ofLists (by decide)) false 1
  have hlocal : ∀ u l, pendingLocally.store.get u = some l →
      l = ⟨.modified, false, false, 5, 1⟩ ∨ l = ⟨.new, false, false, 0, 3⟩ := by
    intro u l hl
    have hmem : l ∈ [(⟨.modified, false, false, 5, 1⟩ : LocalRecord Nat),
        ⟨.new, false, false, 0, 3⟩] := List.mem_of_getElem? hl
    simpa using hmem
  have hremote : ∀ i d, pendingLocally.pilot.get i = some d →
      d = ⟨false, false, false, false, 2⟩ := by
    intro i d hd
    have hmem := PilotDB.mem_of_get_ofList hd
    simp only [List.mem_singleton, Prod.mk.injEq] at hmem
    exact hmem.2
  refine ⟨hto.2 ⟨?_, ?_⟩, hfrom.2 ⟨?_, ?_⟩⟩
  · intro i d hd hpending
    simp [hremote i d hd] at hpending
  · intro i d hd hdel
    simp [hremote i d hd] at hdel
  · intro u l hl h0
    rcases hlocal u l hl with rfl | rfl
    · intro d hd hdirty
      simp [hremote _ d hd] at hdirty
    · contradiction
  · intro u l hl h0 _
    rcases hlocal u l hl with rfl | rfl <;> rfl

/-- One record modified on the pilot, another deleted locally. -/
def pendingOnBoth : Replicas Nat :=
  .ofLists [⟨.nothing, false, false, 5, 1⟩, ⟨.deleted, false, false, 6, 3⟩]
    [(5, ⟨false, true, false, false, 2⟩), (6, ⟨false, false, false, false, 3⟩)] 7 (by decide)

theorem pendingOnBoth_issued : pendingOnBoth.Issued :=
  Replicas.issued_ofLists (by decide)

/-- After `merge_to_pilot` and a session the modification is neither in the local
store nor archived; after `merge_from_pilot` and a session the deleted record is
still on the pilot. -/
theorem pendingOnBoth_forgotten :
    ((synchronize .none ⟨1, 1⟩ (SyncState.start
        (mergeToPilot .none (pendingOnBoth.start false)).2.store
        (mergeToPilot .none (pendingOnBoth.start false)).2.pilot false)).2.store.recordAt 5 =
          some ⟨.nothing, false, false, 5, 1⟩ ∧
      ¬ PilotChangesApplied pendingOnBoth (mergeToPilot .none (pendingOnBoth.start false)).2
        (synchronize .none ⟨1, 1⟩ (SyncState.start
          (mergeToPilot .none (pendingOnBoth.start false)).2.store
          (mergeToPilot .none (pendingOnBoth.start false)).2.pilot false)).2) ∧
    (synchronize .none ⟨1, 1⟩ (SyncState.start
        (mergeFromPilot .none (pendingOnBoth.start false)).2.store
        (mergeFromPilot .none (pendingOnBoth.start false)).2.pilot false)).2.pilot.get 6 =
          some ⟨false, false, false, false, 3⟩ ∧
      ¬ LocalChangesApplied pendingOnBoth (synchronize .none ⟨1, 1⟩ (SyncState.start
        (mergeFromPilot .none (pendingOnBoth.start false)).2.store
        (mergeFromPilot .none (pendingOnBoth.start false)).2.pilot false)).2 := by
  refine ⟨⟨by decide, ?_⟩, by decide, ?_⟩
  · rw [(mergeToPilot_then_synchronize pendingOnBoth_issued false 1).2.2]
    intro h
    obtain ⟨l, hl, -, hc⟩ := h.content 5 ⟨false, true, false, false, 2⟩ (by decide) (by decide)
    have hat : pendingOnBoth.store.recordAt 5 = some ⟨.nothing, false, false, 5, 1⟩ := by decide
    rw [hat, Option.some.injEq] at hl
    rw [← hl] at hc
    contradiction
  · intro h
    have hdel : Option.map DlpRecord.content _ = none :=
      h.numbered 1 ⟨.deleted, false, false, 6, 3⟩ (by decide) (by decide)
    revert hdel
    decide

end GnomePilot.Sync
