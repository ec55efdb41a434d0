import GnomePilot.Sync.Fresh
import GnomePilot.Sync.Outcome

/-!
# The decision table

The table above `standard_abs_sync_record`, row by row, and what a two-way
session makes of the pairs that have a row.  In rows 10, 15 and 20 the table adds
each record to the other side; the code replaces, and swaps the two records.
-/

namespace GnomePilot.Sync

variable {α : Type}

/-! ## The columns -/

inductive PilotState where
  | noRecord | noModify | modify | delete | archiveWithNoModify | archiveAfterModify
  deriving DecidableEq, Repr

/-- The column "PC State"; Pending and archived new or deleted records have none. -/
inductive PCState where
  | noRecord | noModify | add | modify | delete | archiveWithNoModify | archiveAfterModify
  | unlisted
  deriving DecidableEq, Repr

def pilotState : Option (DlpRecord α) → PilotState
  | none => .noRecord
  | some d =>
    if d.archived then
      if d.dirty && !d.deleted then .archiveAfterModify else .archiveWithNoModify
    else if d.deleted then .delete
    else if d.dirty then .modify
    else .noModify

def pcState : Option (LocalRecord α) → PCState
  | none => .noRecord
  | some l =>
    match l.attr, l.archived with
    | .nothing, false => .noModify
    | .new, false => .add
    | .modified, false => .modify
    | .deleted, false => .delete
    | .nothing, true => .archiveWithNoModify
    | .modified, true => .archiveAfterModify
    | _, _ => .unlisted

/-! ## The rows -/

/-- What the rows ask for.  `swap` stands for the rows that add each record to the
other side. -/
inductive Action where
  | usePilot
  | usePC
  | delete
  | nothing
  | swap
  | archivePilot
  | archivePC
  deriving DecidableEq, Repr

/-- The number of the row for two states; `same` tells identical changes from
different ones. -/
def row (same : Bool) : PilotState → PCState → Option Nat
  | .modify, .noRecord => some 1
  | .noRecord, .add => some 2
  | .delete, .noModify => some 3
  | .noModify, .delete => some 4
  | .delete, .modify => some 5
  | .modify, .delete => some 6
  | .modify, .noModify => some 7
  | .noModify, .modify => some 8
  | .modify, .modify => if same then some 9 else some 10
  | .archiveWithNoModify, .noRecord | .archiveWithNoModify, .noModify
  | .archiveAfterModify, .noRecord | .archiveAfterModify, .noModify => some 11
  | .archiveWithNoModify, .delete | .archiveAfterModify, .delete => some 12
  | .archiveWithNoModify, .modify => some 13
  | .archiveAfterModify, .modify => if same then some 14 else some 15
  | .noRecord, .archiveWithNoModify | .noRecord, .archiveAfterModify
  | .noModify, .archiveWithNoModify | .noModify, .archiveAfterModify => some 16
  | .delete, .archiveWithNoModify | .delete, .archiveAfterModify => some 17
  | .modify, .archiveWithNoModify => some 18
  | .modify, .archiveAfterModify => if same then some 19 else some 20
  | _, _ => none

def rowAction : Nat → Action
  | 1 | 6 | 7 | 18 => .usePilot
  | 2 | 5 | 8 | 13 => .usePC
  | 3 | 4 => .delete
  | 9 => .nothing
  | 11 | 12 | 14 => .archivePilot
  | 16 | 17 | 19 => .archivePC
  | _ => .swap

def Pair.row [DecidableEq α] (p : Pair α) : Option Nat :=
  Sync.row (p.loc.map LocalRecord.content = p.rem.map DlpRecord.content) (pilotState p.rem)
    (pcState p.loc)

/-- Both sides have the content, live and with no change flag set. -/
def Pair.agreed (p : Pair α) (c : α) : Prop :=
  (∃ l, p.loc = some l ∧ l.content = c ∧ l.attr = .nothing ∧ l.archived = false) ∧
    ∃ d, p.rem = some d ∧ d.content = c ∧ d.flagged = false

/-- The action was carried out on `p`, with `q` the pair after the session. -/
def Action.done (p q : Pair α) : Action → Prop
  | .usePilot => q.arch = [] ∧ ∃ d, p.rem = some d ∧ q.agreed d.content
  | .usePC => q.arch = [] ∧ ∃ l, p.loc = some l ∧ q.agreed l.content
  | .delete => q.loc = none ∧ q.rem = none ∧ q.arch = []
  | .nothing => q.arch = [] ∧ ∃ l d, p.loc = some l ∧ p.rem = some d ∧ q.agreed l.content ∧
      q.agreed d.content
  | .swap => q.arch = [] ∧ ∃ l d m e, p.loc = some l ∧ p.rem = some d ∧ q.loc = some m ∧
      q.rem = some e ∧ m.content = d.content ∧ e.content = l.content ∧ m.attr = .nothing ∧
      e.flagged = false
  | .archivePilot => q.loc = none ∧ q.rem = none ∧ ∃ d, p.rem = some d ∧ q.arch = [d.content]
  | .archivePC => q.loc = none ∧ q.rem = none ∧ ∃ l, p.loc = some l ∧ q.arch = [l.content]

section Pairs

variable [DecidableEq α]

theorem branch_done {i n : Nat} {l : LocalRecord α} {d : DlpRecord α}
    (hrow : (Pair.start (some l) (some d)).row = some n) (hn : n ≠ 20) :
    (rowAction n).done (.start (some l) (some d))
      ((syncCase l (standardAbsComputeAttrField i d)).outcome.result i l d) := by
  obtain ⟨attr, archived, secret, ID, content⟩ := l
  obtain ⟨dsecret, dirty, deleted, darchived, dcontent⟩ := d
  unfold syncCase
  unfold Pair.row at hrow
  cases attr <;> cases archived <;> cases darchived <;> cases deleted <;> cases dirty <;>
    by_cases h : content = dcontent <;>
    simp [Pair.start, pilotState, pcState, row, h] at hrow <;>
    (subst hrow; simp [standardAbsComputeAttrField, compare, SyncCase.outcome, Outcome.result,
      rowAction, Action.done, Pair.agreed, Pair.start, DlpRecord.flagged, SyncState.storedRecord,
      settled, h] at hn ⊢)

theorem not_new_of_row {n : Nat} {l : LocalRecord α} {d : DlpRecord α}
    (hrow : (Pair.start (some l) (some d)).row = some n) :
    ¬ (l.attr = .new ∧ l.archived = false) := by
  rintro ⟨hattr, harch⟩
  have hpilot : pilotState (some d) ≠ .noRecord := by
    simp only [pilotState]
    split_ifs <;> decide
  unfold Pair.row at hrow
  simp only [Pair.start, pcState, hattr, harch] at hrow
  cases hp : pilotState (some d) <;> simp [row, hp] at hrow hpilot

variable [Inhabited α]

theorem both_done {i n : Nat} {visited : Bool} {l : LocalRecord α} {d : DlpRecord α}
    (hrow : (Pair.start (some l) (some d)).row = some n) (hn : n ≠ 20)
    (hhandled : visited = true ∨ revisited l = true) :
    (rowAction n).done (.start (some l) (some d))
      ((Pair.start (some l) (some d)).synchronize i visited).atRest := by
  rw [synchronize_both]
  unfold outcome
  rw [if_neg (not_new_of_row hrow), if_pos (by simpa using hhandled)]
  exact branch_done hrow hn

/-- Rows 1 and 11: the pilot record alone. -/
theorem remote_only_done {i n : Nat} {d : DlpRecord α}
    (hrow : (Pair.start none (some d)).row = some n) :
    (rowAction n).done (.start none (some d))
      ((Pair.start none (some d)).synchronize i true).atRest := by
  rw [synchronize_remote_only]
  obtain ⟨secret, dirty, deleted, archived, content⟩ := d
  unfold Pair.row at hrow
  cases archived <;> cases deleted <;> cases dirty <;>
    simp [Pair.start, pilotState, pcState, row] at hrow <;>
    (subst hrow; simp [rowAction, Action.done, Pair.agreed, Pair.start, Pair.close, DlpRecord.live,
      DlpRecord.flagged, SyncState.storedRecord, standardAbsComputeAttrField, Option.filter])

/-- Row 2: the local record alone.  Row 16 without a pilot record is reached by
no loop. -/
theorem local_only_done {i n : Nat} {visited : Bool} {l : LocalRecord α}
    (hrow : (Pair.start (some l) (none : Option (DlpRecord α))).row = some n)
    (hnew : revisited l = true ∨ l.attr = .new ∧ l.archived = false) :
    (rowAction n).done (.start (some l) none)
      ((Pair.start (some l) none).synchronize i visited).atRest := by
  rw [synchronize_local_only]
  obtain ⟨attr, archived, secret, ID, content⟩ := l
  unfold Pair.row at hrow
  cases attr <;> cases archived <;> simp [Pair.start, pilotState, pcState, row] at hrow <;>
    simp [revisited] at hnew
  subst hrow
  simp [rowAction, Action.done, Pair.agreed, Pair.start, RecordAttr.changed, DlpRecord.flagged,
    settled]

end Pairs

/-! ## Agreement of the two sides -/

/-- The live records of the two sides are the same, and no change flag is set. -/
structure Converged (s : SyncState α) : Prop where
  live : ∀ i c, (∃ u l, s.store.get u = some l ∧ l.ID = i ∧ l.live = true ∧ l.content = c) ↔
    ∃ d, s.pilot.get i = some d ∧ d.live = true ∧ d.content = c
  loc : ∀ u l, s.store.get u = some l → l.attr = .nothing
  rem : ∀ i d, s.pilot.get i = some d → d.flagged = false

/-- What a settled pair looks like: both records live and alike, or none live, and no
flag set. -/
def Pair.atPeace (q : Pair α) : Prop :=
  match q.loc, q.rem with
  | none, none => True
  | none, some _ => False
  | some l, none => l.attr = .nothing ∧ l.archived = true
  | some l, some d =>
    l.attr = .nothing ∧ l.archived = false ∧ d.flagged = false ∧ l.content = d.content

theorem live_of_unflagged {d : DlpRecord α} (h : d.flagged = false) : d.live = true := by
  simp only [DlpRecord.flagged, Bool.or_eq_false_iff] at h
  simp [DlpRecord.live, h]

theorem atPeace_live {q : Pair α} (h : q.atPeace) (c : α) :
    (∃ l, q.loc = some l ∧ l.live = true ∧ l.content = c) ↔
      ∃ d, q.rem = some d ∧ d.live = true ∧ d.content = c := by
  unfold Pair.atPeace at h
  cases hl : q.loc with
  | none => cases hd : q.rem <;> simp [hl, hd] at h ⊢
  | some l =>
      cases hd : q.rem with
      | none =>
          simp only [hl, hd] at h
          simp [LocalRecord.live, h]
      | some d =>
          simp only [hl, hd] at h
          obtain ⟨hattr, harch, hflag, hc⟩ := h
          simp [LocalRecord.live, hattr, harch, live_of_unflagged hflag, hc]

theorem atPeace_clean {q : Pair α} (h : q.atPeace) :
    (∀ l, q.loc = some l → l.attr = .nothing) ∧ ∀ d, q.rem = some d → d.flagged = false := by
  unfold Pair.atPeace at h
  cases hl : q.loc with
  | none => cases hd : q.rem <;> simp [hl, hd] at h ⊢
  | some l =>
      cases hd : q.rem with
      | none => simpa [hl, hd] using And.left (by simpa [hl, hd] using h)
      | some d =>
          simp only [hl, hd] at h
          simp [h]

/-! ### The pairs that end apart -/

/-- Modified on both sides with different contents: the branch swaps the two.  If the
local record is archived, so is the pilot record. -/
def Pair.conflict (p : Pair α) : Prop :=
  ∃ l d, p.loc = some l ∧ p.rem = some d ∧ l.attr = .modified ∧
    (l.archived = true → d.archived = true) ∧ d.dirty = true ∧ d.deleted = false ∧
      l.content ≠ d.content

/-- The two sides differ and no flag tells so. -/
def Pair.outOfStep (visited : Bool) (p : Pair α) : Prop :=
  match p.loc, p.rem with
  | none, none => False
  | none, some d => visited = false ∧ d.flagged = false
  | some l, none => l.attr = .nothing ∧ l.archived = false
  | some l, some d =>
    l.attr = .nothing ∧ l.archived = false ∧ d.flagged = false ∧ l.content ≠ d.content

/-- A flag is set and the two sides stay apart: a deleted pilot record without a partner
is stored, no loop comes to the records, the branches have no arm for the local status,
or case 13 leaves the archive bit. -/
def Pair.unattended (visited : Bool) (p : Pair α) : Prop :=
  match p.loc, p.rem with
  | none, none => False
  | none, some d =>
    if visited then d.deleted = true ∧ d.archived = false else d.live = true ∧ d.flagged = true
  | some l, none => l.attr = .pending ∨ l.attr.changed = true ∧ l.archived = true
  | some l, some d =>
    if l.archived then
      if visited then
        l.attr = .modified ∧ d.archived = true ∧ (d.dirty = true → d.deleted = true) ∨
          (l.attr = .pending ∨ l.attr = .new) ∧
            (d.archived = true ∨ d.dirty = true ∧ d.deleted = false)
      else l.attr = .pending ∨ l.attr.changed = true ∨ d.live = true
    else
      l.attr = .pending ∨ visited = false ∧ l.attr = .nothing ∧ d.flagged = true ∧
        (d.live = true → l.content ≠ d.content)

/-- None of these. -/
structure Pair.settles (visited : Bool) (p : Pair α) : Prop where
  agreed : ¬ p.conflict
  inStep : ¬ p.outOfStep visited
  attended : ¬ p.unattended visited

theorem Pair.settles_iff {visited : Bool} {p : Pair α} :
    p.settles visited ↔ ¬ p.conflict ∧ ¬ p.outOfStep visited ∧ ¬ p.unattended visited :=
  ⟨fun h => ⟨h.agreed, h.inStep, h.attended⟩, fun h => ⟨h.1, h.2.1, h.2.2⟩⟩

theorem conflict_both {l : LocalRecord α} {d : DlpRecord α} :
    (Pair.start (some l) (some d)).conflict ↔ l.attr = .modified ∧
      (l.archived = true → d.archived = true) ∧ d.dirty = true ∧ d.deleted = false ∧
        l.content ≠ d.content := by
  constructor
  · rintro ⟨m, e, hm, he, h⟩
    cases hm
    cases he
    exact h
  · exact fun h => ⟨l, d, rfl, rfl, h⟩

section Settles

theorem result_atPeace (o : Outcome) (i : Nat) (l : LocalRecord α) (d : DlpRecord α) :
    (o.result i l d).atPeace ↔
      match o with
      | .untouched =>
        if l.attr = .deleted then d.live = false
        else l.attr = .nothing ∧
          if d.live then l.archived = false ∧ l.content = d.content else l.archived = true
      | .cleared => l.archived = false ∧ d.deleted = false ∧ d.archived = false ∧
          l.content = d.content
      | .sent => l.archived = false
      | .stored => d.archived = false
      | .swapped => d.archived = false ∧ d.content = l.content
      | _ => True := by
  cases o with
  | untouched =>
      cases hd : d.live <;> by_cases h : l.attr = .deleted <;>
        simp [Outcome.result, Pair.start, Pair.close, Pair.atPeace, Option.filter, h, hd]
      simp only [DlpRecord.live, Bool.and_eq_true, Bool.not_eq_true'] at hd
      simp [DlpRecord.flagged, hd]
  | cleared =>
      simp [Outcome.result, Pair.start, Pair.atPeace, DlpRecord.flagged, and_assoc]
  | _ =>
      simp [Outcome.result, Pair.start, Pair.atPeace, DlpRecord.flagged, settled,
        SyncState.storedRecord, standardAbsComputeAttrField]

variable [DecidableEq α] [Inhabited α]

theorem both_atPeace_iff (i : Nat) (visited : Bool) (l : LocalRecord α) (d : DlpRecord α) :
    ((Pair.start (some l) (some d)).synchronize i visited).atRest.atPeace ↔
      (Pair.start (some l) (some d)).settles visited := by
  rw [synchronize_both, result_atPeace, Pair.settles_iff, conflict_both]
  obtain ⟨attr, archived, secret, ID, content⟩ := l
  obtain ⟨dsecret, dirty, deleted, darchived, dcontent⟩ := d
  unfold outcome syncCase Pair.outOfStep Pair.unattended
  cases attr <;> cases archived <;> cases darchived <;> cases deleted <;> cases dirty <;>
    cases visited <;> by_cases h : content = dcontent <;>
    simp [revisited, standardAbsComputeAttrField, compare, SyncCase.outcome, Pair.start,
      DlpRecord.live, DlpRecord.flagged, RecordAttr.changed, h, eq_comm (a := dcontent)]

theorem remote_only_atPeace_iff (i : Nat) (visited : Bool) (d : DlpRecord α) :
    ((Pair.start none (some d)).synchronize i visited).atRest.atPeace ↔
      (Pair.start none (some d)).settles visited := by
  rw [synchronize_remote_only, Pair.settles_iff]
  obtain ⟨secret, dirty, deleted, archived, content⟩ := d
  cases visited <;> cases archived <;> cases deleted <;> cases dirty <;>
    simp [Pair.atPeace, Pair.start, Pair.close, Option.filter, DlpRecord.live, DlpRecord.flagged,
      SyncState.storedRecord, standardAbsComputeAttrField, Pair.conflict, Pair.outOfStep,
      Pair.unattended]

theorem local_only_atPeace_iff (i : Nat) (visited : Bool) (l : LocalRecord α) :
    ((Pair.start (some l) none).synchronize i visited).atRest.atPeace ↔
      (Pair.start (some l) none).settles visited := by
  rw [synchronize_local_only, Pair.settles_iff]
  obtain ⟨attr, archived, secret, ID, content⟩ := l
  cases attr <;> cases archived <;>
    simp [Pair.atPeace, Pair.start, Option.filter, DlpRecord.flagged, settled, RecordAttr.changed,
      Pair.conflict, Pair.outOfStep, Pair.unattended]

/-- A pair is at peace after a session exactly when it is none of those that end apart. -/
theorem synchronize_atPeace_iff (i : Nat) (visited : Bool) (loc : Option (LocalRecord α))
    (rem : Option (DlpRecord α)) :
    ((Pair.start loc rem).synchronize i visited).atRest.atPeace ↔
      (Pair.start loc rem).settles visited := by
  cases loc with
  | none =>
      cases rem with
      | none =>
          rw [Pair.settles_iff]
          cases visited <;>
            simp [Pair.synchronize, Pair.visit, Pair.mergeToRemote, Pair.newPass,
              Pair.resolvePass, Pair.selected, Pair.start, Pair.close, Pair.atRest, SyncBothWays,
              Pair.atPeace, Pair.conflict, Pair.outOfStep, Pair.unattended]
      | some d => exact remote_only_atPeace_iff i visited d
  | some l =>
      cases rem with
      | none => exact local_only_atPeace_iff i visited l
      | some d => exact both_atPeace_iff i visited l d

end Settles

/-! ### The records without an ID -/

/-- What has no ID and leaves the two sides alike: a new record, a deleted one, and one
archived with no flag set. -/
def Unnumbered (l : LocalRecord α) : Prop :=
  l.attr = .new ∧ l.archived = false ∨ l.attr = .deleted ∨ l.attr = .nothing ∧ l.archived = true

/-- The records without an ID, after a session: each live one has an ID of its own
and a pilot record with its content, and there is nothing else on the pilot. -/
structure FreshAgreed (L : Loose α) : Prop where
  attr : ∀ u l, L.slot u = some l → l.attr = .nothing
  slot : ∀ u l, L.slot u = some l → l.archived = false →
    ∃ d, L.rem l.ID = some d ∧ d.content = l.content ∧ d.flagged = false
  rem : ∀ k d, L.rem k = some d → ∃ u l, L.slot u = some l ∧ l.ID = k ∧ l.content = d.content ∧
    d.flagged = false ∧ l.attr = .nothing ∧ l.archived = false

theorem freshAgreed {x : Replicas α} (hissued : x.Issued)
    (h : ∀ u l, x.store.get u = some l → l.ID = 0 → Unnumbered l) :
    FreshAgreed (x.loose.synchronize x.store.size) := by
  have hmerged := hissued.loose_merged
  have hkind : ∀ u l, x.loose.slot u = some l → Unnumbered l := by
    intro u l hl
    obtain ⟨hget, h0⟩ := hissued.loose_slot.1 hl
    exact h u l hget h0
  -- what is in a slot in the end was written there or is the archived record
  have hslot : ∀ u m, (x.loose.synchronize x.store.size).slot u = some m → m.attr = .nothing ∧
      (m.archived = false →
        ∃ d, (x.loose.synchronize x.store.size).rem m.ID = some d ∧ d.content = m.content ∧
          d.flagged = false) := by
    intro u m hm
    rw [Loose.synchronize_slot, Option.filter_eq_some_iff] at hm
    obtain ⟨hm, hne⟩ := hm
    cases hl : x.loose.slot u with
    | none =>
        have hslot := hmerged.other u (by simp [hl])
        rw [hm, hl] at hslot
        contradiction
    | some l =>
        have hunsent : l.attr.changed = false → l = m := by
          intro hch
          have hslot := hmerged.slot_of_unsent hl (by simp [hch])
          rw [hm, Option.some.injEq] at hslot
          exact hslot.symm
        rcases hkind u l hl with ⟨hattr, harch⟩ | hattr | ⟨hattr, harch⟩
        · obtain ⟨k, hk, hs, hr⟩ := hmerged.new u l hl hattr harch
          rw [hs, Option.some.injEq] at hm
          rw [← hm]
          exact ⟨rfl, fun _ => ⟨_, Loose.synchronize_rem_written hr, rfl, rfl⟩⟩
        · rw [← hunsent (by rw [hattr]; rfl), hattr] at hne
          simp at hne
        · rw [← hunsent (by rw [hattr]; rfl)]
          refine ⟨hattr, fun h => ?_⟩
          rw [harch] at h
          contradiction
  refine ⟨fun u m hm => (hslot u m hm).1, fun u m hm => (hslot u m hm).2, ?_⟩
  intro k d hd
  rw [Loose.synchronize_rem, Option.map_eq_some_iff] at hd
  obtain ⟨e, he, rfl⟩ := hd
  obtain ⟨he, -⟩ := Option.filter_eq_some_iff.mp he
  obtain ⟨-, u, l, hl, harch, rfl, hcase⟩ := hmerged.rem k e he
  rcases hcase with ⟨hattr, hs⟩ | ⟨hattr, -⟩
  · exact ⟨u, _, Loose.synchronize_slot_eq hs (by simp), rfl, rfl, rfl, rfl, harch⟩
  · rcases hkind u l hl with ⟨h', -⟩ | h' | ⟨h', -⟩ <;> rw [hattr] at h' <;> contradiction

/-! ## When both sides are the same -/

/-- If the pairs are at peace and the records with new IDs agree, the two sides are the
same. -/
theorem converged_of_atPeace {base : Nat} {s : SyncState α} (hwf : Wf base s)
    (hpeace : ∀ i, 0 < i → i < base → (s.pair i).atRest.atPeace)
    (hagreed : FreshAgreed (s.loose base)) : Converged s := by
  have hloose : ∀ {u l}, s.store.get u = some l → Unissued base l.ID →
      (s.loose base).slot u = some l := by
    intro u l hl hun
    simp [SyncState.loose, hl, Option.filter, hun]
  refine ⟨?_, ?_, ?_⟩
  · intro i c
    by_cases hun : Unissued base i
    · constructor
      · rintro ⟨u, l, hl, rfl, hlive, hc⟩
        have harch : l.archived = false := by
          simp only [LocalRecord.live, Bool.and_eq_true, Bool.not_eq_true'] at hlive
          exact hlive.2
        obtain ⟨d, hd, hdc, hflag⟩ := hagreed.slot u l (hloose hl hun) harch
        exact ⟨d, (pilot_of_loose base hd).2, live_of_unflagged hflag, hdc.trans hc⟩
      · rintro ⟨d, hd, -, hc⟩
        have hi : base ≤ i := by
          have := (PilotDB.get_issued hd).1
          exact hun.resolve_left (by omega)
        obtain ⟨u, l, hl, hlid, hlc, -, hattr, harch⟩ := hagreed.rem i d (by
          simp [SyncState.loose, hi, hd])
        exact ⟨u, l, store_of_loose base hl, hlid, by simp [LocalRecord.live, hattr, harch],
          hlc.trans hc⟩
    · obtain ⟨h0, hb⟩ := not_unissued.mp hun
      have hlive := atPeace_live (hpeace i h0 hb) c
      refine Iff.trans ?_ hlive
      constructor
      · rintro ⟨u, l, hl, rfl, hc⟩
        exact ⟨l, hwf.pair_loc hl (by omega) hb, hc⟩
      · rintro ⟨l, hl, hc⟩
        obtain ⟨u, hu, hid⟩ := (hwf.keyed.recordAt_eq_some (by omega) hb).1 hl
        exact ⟨u, l, hu, hid, hc⟩
  · intro u l hl
    by_cases hun : Unissued base l.ID
    · exact hagreed.attr u l (hloose hl hun)
    · obtain ⟨h0, hb⟩ := not_unissued.mp hun
      exact (atPeace_clean (hpeace l.ID h0 hb)).1 l (hwf.pair_loc hl (by omega) hb)
  · intro i d hd
    have h0 := (PilotDB.get_issued hd).1
    by_cases hb : i < base
    · exact (atPeace_clean (hpeace i h0 hb)).2 d hd
    · obtain ⟨u, l, -, -, -, hflag, -⟩ := hagreed.rem i d (by
        simp [SyncState.loose, Nat.not_lt.mp hb, hd])
      exact hflag

/-! ## The whole session -/

section Session

variable [DecidableEq α]

/-- A loop comes to the pair: the main loop, or a later one because of the local
status. -/
def Replicas.handles (x : Replicas α) (fast : Bool) (i : Nat) : Prop :=
  x.reaches fast i = true ∨
    ∃ l, x.store.recordAt i = some l ∧
      (revisited l = true ∨ l.attr = .new ∧ l.archived = false)

variable [Inhabited α]

theorem pair_done {x : Replicas α} {fast : Bool} {i n : Nat} (hrow : (x.pair i).row = some n)
    (hn : n ≠ 20) (hhandled : x.handles fast i) :
    (rowAction n).done (x.pair i) ((x.pair i).synchronize i (x.reaches fast i)).atRest := by
  unfold Replicas.pair at hrow ⊢
  unfold Replicas.handles at hhandled
  cases hd : x.pilot.get i with
  | none =>
      rw [hd] at hrow
      have hno := Replicas.reaches_eq_false hd fast
      rcases hhandled with h | ⟨l, hl, h⟩
      · rw [hno] at h
        contradiction
      · rw [hl] at hrow ⊢
        exact local_only_done hrow h
  | some d =>
      rw [hd] at hrow
      cases hl : x.store.recordAt i with
      | none =>
          rw [hl] at hrow
          rcases hhandled with h | ⟨l, hl', -⟩
          · rw [h]
            exact remote_only_done hrow
          · rw [hl] at hl'
            contradiction
      | some l =>
          rw [hl] at hrow
          refine both_done hrow hn ?_
          rcases hhandled with h | ⟨m, hm, h⟩
          · exact Or.inl h
          · rw [hl] at hm
            cases hm
            rcases h with h | h
            · exact Or.inr h
            · exact absurd h (not_new_of_row hrow)

/-- A two-way session returns 0 and carries out the row of every pair that has one
other than 20 and that a loop comes to; a new record without an ID is added to the
pilot under an ID of its own.  If all pairs settle, the two sides end the same.  The
pilot handed out every local ID. -/
theorem synchronize_table (x : Replicas α) (hissued : x.Issued) (slow : Bool) (dbinfo : DBInfo) :
    (synchronize .none dbinfo (x.start slow)).1 = 0 ∧
    (∀ i n, 0 < i → i < x.pilot.uniqueIDSeed → (x.pair i).row = some n → n ≠ 20 →
      x.handles (choosesFast slow dbinfo) i →
      (rowAction n).done (x.pair i) ((synchronize .none dbinfo (x.start slow)).2.pair i).atRest) ∧
    (∀ u l, x.store.get u = some l → l.ID = 0 → l.attr = .new → l.archived = false →
      ∃ k, x.pilot.uniqueIDSeed ≤ k ∧
        (synchronize .none dbinfo (x.start slow)).2.store.get u =
          some { l with attr := .nothing, ID := k } ∧
        (synchronize .none dbinfo (x.start slow)).2.pilot.get k =
          some (settled l.secret l.content)) ∧
    ((∀ i, 0 < i → i < x.pilot.uniqueIDSeed →
        (x.pair i).settles (x.reaches (choosesFast slow dbinfo) i)) →
      (∀ u l, x.store.get u = some l → l.ID = 0 → Unnumbered l) →
      Converged (synchronize .none dbinfo (x.start slow)).2) := by
  obtain ⟨hresult, hpassed⟩ := synchronize_passed x slow dbinfo
  have hpair := fun i => synchronize_pair x slow dbinfo (i := i)
  have hloose := hpassed.loose
  rw [x.start_loose] at hloose
  generalize (synchronize .none dbinfo (x.start slow)).2 = s at hpassed hpair hloose
  generalize choosesFast slow dbinfo = fast at hpair
  refine ⟨hresult, ?_, ?_, ?_⟩
  · intro i n h0 hb hrow hn hhandled
    rw [hpair i h0 hb]
    exact pair_done hrow hn hhandled
  · intro u l hl h0 hattr harch
    obtain ⟨k, hk, hs, hr⟩ := hissued.loose_merged.new u l (hissued.loose_slot.2 ⟨hl, h0⟩) hattr
      harch
    refine ⟨k, hk, store_of_loose x.pilot.uniqueIDSeed ?_,
      (pilot_of_loose x.pilot.uniqueIDSeed ?_).2⟩
    · rw [hloose]
      exact Loose.synchronize_slot_eq hs (by simp)
    · rw [hloose]
      exact Loose.synchronize_rem_written hr
  · intro hsettles hfresh
    have hagreed := freshAgreed hissued hfresh
    rw [← hloose] at hagreed
    refine converged_of_atPeace hpassed.wf (fun i h0 hb => ?_) hagreed
    rw [hpair i h0 hb]
    exact (synchronize_atPeace_iff i _ _ _).2 (hsettles i h0 hb)

end Session

-- The ID 6 is not one this pilot handed out: the new record is written under it, and then
-- the other record over the new one.
example :
    let s := (synchronize .none ⟨1, 1⟩ ((Replicas.ofLists
      [⟨.new, false, false, 0, 1⟩, ⟨.new, false, false, 6, 2⟩] [] 6 (by decide)).start false)).2
    s.store.get 0 = some ⟨.nothing, false, false, 6, 1⟩ ∧
      (s.pilot.get 6).map (·.content) = some 2 := by decide

/-- A record modified on the pilot, one deleted on both sides and one the pilot has
not seen. -/
def modifiedAndNew : Replicas Nat :=
  .ofLists [⟨.nothing, false, false, 5, 1⟩, ⟨.deleted, false, false, 4, 7⟩,
      ⟨.new, false, false, 0, 3⟩]
    [(5, ⟨false, true, false, false, 2⟩), (4, ⟨false, false, true, false, 7⟩)] 6 (by decide)

theorem modifiedAndNew_converges :
    (rowAction 7).done (modifiedAndNew.pair 5)
        ((synchronize .none ⟨1, 1⟩ (modifiedAndNew.start false)).2.pair 5).atRest ∧
      Converged (synchronize .none ⟨1, 1⟩ (modifiedAndNew.start false)).2 := by
  obtain ⟨-, hrows, -, hall⟩ := synchronize_table modifiedAndNew
    (Replicas.issued_ofLists (by decide)) false ⟨1, 1⟩
  have hhandled : modifiedAndNew.handles true 5 := Or.inl (by decide)
  refine ⟨hrows 5 7 (by decide) (by decide) (by decide) (by decide) hhandled, hall ?_ ?_⟩
  · intro i h0 hb
    change i < 6 at hb
    have hcases : i = 1 ∨ i = 2 ∨ i = 3 ∨ i = 4 ∨ i = 5 := by omega
    have hnone : ∀ j ∈ [1, 2, 3], modifiedAndNew.pair j = .start none none := by decide
    have h4 : modifiedAndNew.pair 4 = .start (some ⟨.deleted, false, false, 4, 7⟩)
        (some ⟨false, false, true, false, 7⟩) := by decide
    have h5 : modifiedAndNew.pair 5 = .start (some ⟨.nothing, false, false, 5, 1⟩)
        (some ⟨false, true, false, false, 2⟩) := by decide
    have hreach : modifiedAndNew.reaches (choosesFast false ⟨1, 1⟩) 4 = true ∧
        modifiedAndNew.reaches (choosesFast false ⟨1, 1⟩) 5 = true := by decide
    rcases hcases with rfl | rfl | rfl | rfl | rfl
    · rw [hnone 1 (by decide)]
      simp [Pair.settles_iff, Pair.conflict, Pair.outOfStep, Pair.unattended, Pair.start]
    · rw [hnone 2 (by decide)]
      simp [Pair.settles_iff, Pair.conflict, Pair.outOfStep, Pair.unattended, Pair.start]
    · rw [hnone 3 (by decide)]
      simp [Pair.settles_iff, Pair.conflict, Pair.outOfStep, Pair.unattended, Pair.start]
    · rw [h4, hreach.1, Pair.settles_iff, conflict_both]
      simp [Pair.outOfStep, Pair.unattended, Pair.start]
    · rw [h5, hreach.2, Pair.settles_iff, conflict_both]
      simp [Pair.outOfStep, Pair.unattended, Pair.start, DlpRecord.flagged]
  · intro u l hl h0
    have hmem : l ∈ [(⟨.nothing, false, false, 5, 1⟩ : LocalRecord Nat),
        ⟨.deleted, false, false, 4, 7⟩, ⟨.new, false, false, 0, 3⟩] := List.mem_of_getElem? hl
    simp only [List.mem_cons, List.not_mem_nil, or_false] at hmem
    rcases hmem with rfl | rfl | rfl
    · contradiction
    · contradiction
    · exact Or.inl ⟨rfl, rfl⟩

/-- A record modified on both sides. -/
def modifiedOnBoth : Replicas Nat :=
  .ofLists [⟨.modified, false, false, 5, 1⟩] [(5, ⟨false, true, false, false, 2⟩)] 6 (by decide)

/-- Row 10: neither side ends with both contents, and the two sides differ with all
flags cleared. -/
theorem modifiedOnBoth_swaps :
    (modifiedOnBoth.pair 5).row = some 10 ∧
      (synchronize .none ⟨1, 1⟩ (modifiedOnBoth.start false)).1 = 0 ∧
      (synchronize .none ⟨1, 1⟩ (modifiedOnBoth.start false)).2.pair 5 =
        ⟨some ⟨.nothing, false, false, 5, 2⟩, some ⟨false, false, false, false, 1⟩, [], true⟩ ∧
      ¬ Converged (synchronize .none ⟨1, 1⟩ (modifiedOnBoth.start false)).2 := by
  refine ⟨by decide, by decide, by decide, ?_⟩
  intro h
  obtain ⟨d, hd, -, hc⟩ := (h.live 5 2).1 ⟨0, ⟨.nothing, false, false, 5, 2⟩, by decide⟩
  have hpilot : (synchronize .none ⟨1, 1⟩ (modifiedOnBoth.start false)).2.pilot.get 5 =
      some ⟨false, false, false, false, 1⟩ := by decide
  rw [hpilot, Option.some.injEq] at hd
  rw [← hd] at hc
  contradiction

end GnomePilot.Sync
