import GnomePilot.Lib.Bracket
import GnomePilot.Sync.Steps

/-!
# Opening and closing the database

Where the five operations open, use and close their database.  `Finish` closes
it on every way out of the `do` block, also on the way out taken because the open
failed; and a record `standard_abs_add_to_pilot` did not get ends the process
before `Finish`.
-/

namespace GnomePilot.Sync

open GnomePilot.Bracket

variable {α : Type}

/-- The calls under `dbinfo->db_handle`. -/
def Call.role : Call α → Role
  | .openDB ok => if ok then .opens else .other
  | .closeDB => .closes
  | .readOpenDBInfo | .deleteAllRecords _ | .deleteRecord _ | .writeRecord _ _ _ _
  | .readRecordById _ | .readRecordByIndex _ | .readNextModifiedRec | .cleanUpDatabase
  | .resetSyncFlags => .uses
  | .preSync _ | .addSyncLogEntry _ | .deleteAll _ | .transmit _ _ | .setStatus _ _
  | .setPilotId _ _ | .storeRemote _ | .archiveRemote _ | .archiveLocal _ | .purge
  | .sendMessage _ => .other

/-- The calls made on the way from `s` to `t` open, use and close the database in
this order. -/
def BracketedFrom (s t : SyncState α) : Prop :=
  ∃ made, t.calls = made ++ s.calls ∧ Bracketed Call.role made.reverse

/-- The conduit returned every record it was asked for. -/
def RecordsReturned (s t : SyncState α) : Prop :=
  ∃ made, t.calls = made ++ s.calls ∧ ∀ u, .transmit u false ∉ made

def Call.unreturned : Call α → Bool
  | .transmit _ ok => !ok
  | _ => false

/-- Between the open and the close.  The process is gone as soon as a record asked
for was not returned. -/
def Inside (s t : SyncState α) : Prop :=
  ∃ made, t.calls = made ++ s.calls ∧ (∀ c ∈ made, c.role.inside = true) ∧
    t.crashed = (s.crashed || made.any Call.unreturned)

/-- Between the open and the close, and the process lives on. -/
def Survives (s t : SyncState α) : Prop :=
  Makes (fun c => c.role.inside = true) s t ∧ t.crashed = s.crashed

/-- Nothing is asked of the conduit in vain either. -/
def Quiet (s t : SyncState α) : Prop :=
  Makes (fun c => c.role.inside = true ∧ c.unreturned = false) s t ∧ t.crashed = s.crashed

section Inside

variable {s t v : SyncState α}

theorem Inside.refl (s : SyncState α) : Inside s s := ⟨[], rfl, by simp, by simp⟩

theorem Inside.trans (h : Inside s t) (h' : Inside t v) : Inside s v := by
  obtain ⟨first, hfirst, hin, hcr⟩ := h
  obtain ⟨next, hnext, hin', hcr'⟩ := h'
  refine ⟨next ++ first, by rw [hnext, hfirst, List.append_assoc], ?_, ?_⟩
  · intro c hc
    rcases List.mem_append.mp hc with hc | hc
    · exact hin' c hc
    · exact hin c hc
  · rw [hcr', hcr, List.any_append, Bool.or_assoc, Bool.or_comm (next.any _)]

theorem Inside.one {c : Call α} (hc : c.role.inside = true) (hcalls : t.calls = c :: s.calls)
    (hcr : t.crashed = (s.crashed || c.unreturned)) : Inside s t :=
  ⟨[c], hcalls, by simpa using hc, by simpa using hcr⟩

theorem Survives.refl (s : SyncState α) : Survives s s := ⟨.none rfl, rfl⟩

theorem Survives.trans (h : Survives s t) (h' : Survives t v) : Survives s v :=
  ⟨h.1.trans h'.1, h'.2.trans h.2⟩

theorem Survives.one {c : Call α} (hc : c.role.inside = true) (hcalls : t.calls = c :: s.calls)
    (hcr : t.crashed = s.crashed) : Survives s t :=
  ⟨.one hc hcalls, hcr⟩

theorem Quiet.refl (s : SyncState α) : Quiet s s := ⟨.none rfl, rfl⟩

theorem Quiet.trans (h : Quiet s t) (h' : Quiet t v) : Quiet s v :=
  ⟨h.1.trans h'.1, h'.2.trans h.2⟩

theorem Quiet.one {c : Call α} (hc : c.role.inside = true) (hret : c.unreturned = false)
    (hcalls : t.calls = c :: s.calls) (hcr : t.crashed = s.crashed) : Quiet s t :=
  ⟨.one ⟨hc, hret⟩ hcalls, hcr⟩

theorem Quiet.survives (h : Quiet s t) : Survives s t := by
  obtain ⟨⟨made, hmade, hin⟩, hcr⟩ := h
  exact ⟨⟨made, hmade, fun c hc => (hin c hc).1⟩, hcr⟩

theorem Quiet.inside (h : Quiet s t) : Inside s t := by
  obtain ⟨⟨made, hmade, hin⟩, hcr⟩ := h
  refine ⟨made, hmade, fun c hc => (hin c hc).1, ?_⟩
  have hnone : made.any Call.unreturned = false := by
    rw [List.any_eq_false]
    intro c hc
    simp [(hin c hc).2]
  rw [hcr, hnone, Bool.or_false]

/-- Where nothing was asked of the conduit in vain the process lives on. -/
theorem Inside.crashed_iff (h : Inside s t) (hs : s.crashed = false) :
    t.crashed = false ↔ RecordsReturned s t := by
  obtain ⟨made, hmade, -, hcr⟩ := h
  rw [hcr, hs, Bool.false_or, List.any_eq_false]
  constructor
  · intro hnone
    refine ⟨made, hmade, ?_⟩
    intro u hu
    exact hnone _ hu rfl
  · rintro ⟨made', hmade', hret⟩ c hc
    obtain rfl := List.append_cancel_right (hmade.symm.trans hmade')
    cases c <;> simp_all [Call.unreturned]
    next u ok => cases ok <;> simp_all

end Inside

/-! ## What the passes do under the handle -/

section Passes

variable (fl : Faults) (s : SyncState α)

theorem addToPilot_inside (u : Nat) : Inside s (standardAbsAddToPilot fl s u).2 := by
  have hset : ∀ t : SyncState α, Inside t (t.setStatus u .nothing) := fun t =>
    .one rfl rfl (by simp [SyncState.setStatus, Call.unreturned])
  have htrue : Inside s (s.record (.transmit u true)) := .one rfl rfl (by simp [SyncState.record,
    Call.unreturned])
  unfold standardAbsAddToPilot
  split
  · exact .refl s
  · split
    · -- the record is dereferenced all the same
      refine ⟨[.setStatus u .nothing, .transmit u false], rfl, ?_, ?_⟩
      · simp [Call.role, Role.inside]
      · simp [SyncState.crash, Call.unreturned]
    · dsimp only
      split
      · refine (htrue.trans (hset _)).trans (.one rfl rfl ?_)
        simp [SyncState.record, Call.unreturned]
      · refine (htrue.trans (hset _)).trans (.one rfl rfl ?_)
        simp [SyncState.ignoreRecord, Call.unreturned]

theorem storeRemote_quiet (r : PilotRecord α) : Quiet s (s.storeRemote fl r) := by
  unfold SyncState.storeRemote
  split
  · exact .one rfl rfl rfl rfl
  · exact .one rfl rfl rfl rfl

theorem archiveLocal_quiet (u : Nat) : Quiet s (s.archiveLocal u) := by
  unfold SyncState.archiveLocal
  split
  · exact .refl s
  · exact .one rfl rfl rfl rfl

theorem logConflict_quiet (text : String) : Quiet s (s.logConflict text) := by
  have hentry : Quiet s (s.record (.addSyncLogEntry text)) := .one rfl rfl rfl rfl
  exact hentry.trans (.one rfl rfl rfl rfl)

theorem finds_quiet {c : Call α} (hc : c.finds = true) : Quiet s (s.record c) := by
  cases c with
  | readRecordById id => exact .one rfl rfl rfl rfl
  | readRecordByIndex index => exact .one rfl rfl rfl rfl
  | readNextModifiedRec => exact .one rfl rfl rfl rfl
  | _ => nomatch hc

/-- Towards the desktop nothing is asked of the conduit. -/
theorem quiet_toLocal : KeptBy (α := α) fl SyncToLocal Quiet where
  refl := .refl
  trans := .trans
  finds s _ hc := finds_quiet s hc
  addToPilot h := nomatch h
  setPilotId h := nomatch h
  storeRemote _ s r := storeRemote_quiet fl s r
  archiveRemote _ _ _ _ := .one rfl rfl rfl rfl
  archiveLocal _ s u := archiveLocal_quiet s u
  deleteFromPilot h := nomatch h
  setStatus _ _ _ _ := .one rfl rfl rfl rfl
  log s text := logConflict_quiet s text

theorem inside_anyway (dir : SyncDirection) : KeptBy (α := α) fl dir Inside where
  refl := .refl
  trans := .trans
  finds s _ hc := (finds_quiet s hc).inside
  addToPilot _ s u := addToPilot_inside fl s u
  setPilotId _ s u id := by
    have h : Quiet s (s.setPilotId u id) := .one rfl rfl rfl rfl
    exact h.inside
  storeRemote _ s r := (storeRemote_quiet fl s r).inside
  archiveRemote _ s u r := by
    have h : Quiet s (s.archiveRemote u r) := .one rfl rfl rfl rfl
    exact h.inside
  archiveLocal _ s u := (archiveLocal_quiet s u).inside
  deleteFromPilot _ s id := by
    have h : Quiet s (standardAbsDeleteFromPilot s id) := .one rfl rfl rfl rfl
    exact h.inside
  setStatus _ s u attr := by
    have h : Quiet s (s.setStatus u attr) := .one rfl rfl rfl rfl
    exact h.inside
  log s text := (logConflict_quiet s text).inside

end Passes

/-! ## The copies -/

section Copies

variable (fl : Faults)

/-- The loop stops at a record the conduit does not return. -/
theorem copyToPilotLoop_survives (us : List Nat) (s : SyncState α) :
    Survives s (copyToPilotLoop fl us s) := by
  induction us generalizing s with
  | nil => exact .refl s
  | cons u us ih =>
      have htransmit : ∀ ok, Survives s (s.record (.transmit u ok)) := fun _ => .one rfl rfl rfl
      have hset : Survives s ((s.record (.transmit u true)).setStatus u .nothing) :=
        (htransmit true).trans (.one rfl rfl rfl)
      unfold copyToPilotLoop
      split
      · exact ih s
      · split
        · exact (archiveLocal_quiet s u).survives.trans (ih _)
        · split
          · split
            · exact htransmit false
            · dsimp only
              split
              · refine Survives.trans ?_ (ih _)
                exact hset.trans (.one rfl rfl rfl)
              · refine Survives.trans ?_ (ih _)
                refine .trans ?_ (.one rfl rfl rfl)
                exact hset.trans (.one rfl rfl rfl)
          · exact ih s

theorem copyFromPilotBody_quiet (s : SyncState α) (r : PilotRecord α) :
    Quiet s (copyFromPilotBody fl s r) := by
  unfold copyFromPilotBody
  split
  · exact .one rfl rfl rfl rfl
  · split
    · exact storeRemote_quiet fl s r.cleared
    · exact .refl s

end Copies

/-! ## The operations -/

section Operations

variable {fl : Faults} {s : SyncState α}

theorem bracketedFrom_iff {t : SyncState α} {made : List (Call α)}
    (h : t.calls = made ++ s.calls) : BracketedFrom s t ↔ Bracketed Call.role made.reverse := by
  constructor
  · rintro ⟨made', hmade', hb⟩
    rwa [List.append_cancel_right (h.symm.trans hmade')]
  · intro hb
    exact ⟨made, h, hb⟩

/-- What `Finish` adds before the close is done under the handle. -/
theorem finish_calls (result : Int) {t : SyncState α} (ht : t.crashed = false) :
    ∃ tidied, (finish result t).2.calls = .closeDB :: (tidied ++ t.calls) ∧
      (∀ c ∈ tidied, c.role.inside = true) ∧ ∀ u, .transmit u false ∉ tidied := by
  by_cases hr : result = 0
  · refine ⟨[.resetSyncFlags, .purge, .cleanUpDatabase], ?_, ?_, by simp⟩
    · simp [finish, ht, hr, standardAbsCloseDbAndPurgeLocal, SyncState.record,
        SyncState.resetSyncFlags, SyncState.purge, SyncState.cleanUpDatabase]
    · simp [Call.role, Role.inside]
  · refine ⟨[], ?_, by simp, by simp⟩
    simp [finish, ht, hr, standardAbsCloseDbAndPurgeLocal, SyncState.record]

/-- The state `pre_sync` succeeded in. -/
def prepared (s : SyncState α) : SyncState α :=
  ((s.record (.openDB true)).record .readOpenDBInfo).record (.preSync true)

theorem withOpenDb_failed (hopen : fl.openDB = true) (hs : s.crashed = false)
    (body : SyncState α → Int × SyncState α) :
    (withOpenDb fl s body).2.calls = [.closeDB, .openDB false] ++ s.calls := by
  simp [withOpenDb, standardAbsOpenDb, hopen, finish, SyncState.record, hs,
    standardAbsCloseDbAndPurgeLocal]

theorem withOpenDb_unprepared (hopen : fl.openDB = false) (hpre : fl.preSync = true)
    (hs : s.crashed = false) (body : SyncState α → Int × SyncState α) :
    (withOpenDb fl s body).2.calls =
      [.closeDB, .preSync false, .readOpenDBInfo, .openDB true] ++ s.calls := by
  simp [withOpenDb, standardAbsOpenDb, preSync, hopen, hpre, finish, SyncState.record, hs,
    standardAbsCloseDbAndPurgeLocal]

theorem withOpenDb_prepared (hopen : fl.openDB = false) (hpre : fl.preSync = false)
    (body : SyncState α → Int × SyncState α) :
    withOpenDb fl s body = finish (body (prepared s)).1 (body (prepared s)).2 := by
  simp [withOpenDb, standardAbsOpenDb, preSync, hopen, hpre, prepared]

/-- An operation whose body stays under the handle is bracketed when the open
succeeds and the body comes back. -/
theorem withOpenDb_bracketed_iff {body : SyncState α → Int × SyncState α}
    (hs : s.crashed = false)
    (hbody : Makes (fun c => c.role.inside = true) (prepared s) (body (prepared s)).2) :
    BracketedFrom s (withOpenDb fl s body).2 ↔
      fl.openDB = false ∧ (fl.preSync = true ∨ (body (prepared s)).2.crashed = false) := by
  cases hopen : fl.openDB with
  | true =>
      rw [bracketedFrom_iff (withOpenDb_failed hopen hs body)]
      simp [Bracketed, held, Call.role]
  | false =>
      cases hpre : fl.preSync with
      | true =>
          rw [bracketedFrom_iff (withOpenDb_unprepared hopen hpre hs body)]
          simp [Bracketed, held, Call.role]
      | false =>
          rw [withOpenDb_prepared hopen hpre]
          obtain ⟨made, hmade, hin⟩ := hbody
          have hpreamble : ∀ c ∈ [.readOpenDBInfo, .preSync true] ++ made.reverse,
              (Call.role c).inside = true := by
            intro c hc
            simp only [List.mem_append, List.mem_reverse] at hc
            rcases hc with hc | hc
            · simp only [List.mem_cons, List.not_mem_nil, or_false] at hc
              rcases hc with rfl | rfl <;> rfl
            · exact hin c hc
          have hcalls : (body (prepared s)).2.calls =
              (made ++ [.preSync true, .readOpenDBInfo, .openDB true]) ++ s.calls := by
            rw [hmade]
            simp [prepared, SyncState.record]
          cases hcr : (body (prepared s)).2.crashed with
          | true =>
              rw [finish, if_pos hcr, bracketedFrom_iff hcalls]
              have hopened := not_bracketed_open hpreamble (o := .openDB true) rfl
              simpa using hopened
          | false =>
              obtain ⟨tidied, hfin, htidied, -⟩ := finish_calls (body (prepared s)).1 hcr
              rw [hcalls, ← List.append_assoc, ← List.cons_append] at hfin
              rw [bracketedFrom_iff hfin]
              have hmid : ∀ c ∈ ([.readOpenDBInfo, .preSync true] ++ made.reverse) ++
                  tidied.reverse, (Call.role c).inside = true := by
                intro c hc
                rcases List.mem_append.mp hc with hc | hc
                · exact hpreamble c hc
                · exact htidied c (List.mem_reverse.mp hc)
              have hclosed := bracketed_closed hmid (o := .openDB true) (c := .closeDB) rfl rfl
              simpa using hclosed

theorem recordsReturned_iff {t : SyncState α} {made : List (Call α)}
    (h : t.calls = made ++ s.calls) : RecordsReturned s t ↔ ∀ u, .transmit u false ∉ made := by
  constructor
  · rintro ⟨made', hmade', hret⟩
    rwa [List.append_cancel_right (h.symm.trans hmade')]
  · intro hret
    exact ⟨made, h, hret⟩

theorem finish_returned_iff {t : SyncState α} (h : Inside (prepared s) t) (hs : s.crashed = false)
    (result : Int) : RecordsReturned s (finish result t).2 ↔ t.crashed = false := by
  have hbody := h.crashed_iff hs
  obtain ⟨made, hmade, -⟩ := h
  have hcalls : t.calls =
      (made ++ [.preSync true, .readOpenDBInfo, .openDB true]) ++ s.calls := by
    rw [hmade]
    simp [prepared, SyncState.record]
  rw [recordsReturned_iff hmade] at hbody
  cases hcr : t.crashed with
  | true =>
      rw [finish, if_pos hcr, recordsReturned_iff hcalls]
      rw [hcr] at hbody
      simpa using hbody
  | false =>
      obtain ⟨tidied, hfin, -, htidied⟩ := finish_calls result hcr
      rw [hcalls, ← List.append_assoc, ← List.cons_append] at hfin
      rw [recordsReturned_iff hfin]
      have hret := hbody.mp hcr
      simpa [htidied] using hret

/-- An operation that asks the conduit for records as it goes. -/
theorem withOpenDb_returned_iff {body : SyncState α → Int × SyncState α}
    (hs : s.crashed = false) (hbody : Inside (prepared s) (body (prepared s)).2) :
    BracketedFrom s (withOpenDb fl s body).2 ↔
      fl.openDB = false ∧ RecordsReturned s (withOpenDb fl s body).2 := by
  have hmakes : Makes (fun c => c.role.inside = true) (prepared s) (body (prepared s)).2 := by
    obtain ⟨made, hmade, hin, -⟩ := hbody
    exact ⟨made, hmade, hin⟩
  rw [withOpenDb_bracketed_iff hs hmakes]
  cases hopen : fl.openDB with
  | true => simp
  | false =>
      cases hpre : fl.preSync with
      | true =>
          rw [recordsReturned_iff (withOpenDb_unprepared hopen hpre hs body)]
          simp
      | false =>
          rw [withOpenDb_prepared hopen hpre, finish_returned_iff hbody hs]
          simp

/-- An operation that comes back whatever the conduit answers. -/
theorem withOpenDb_survives_iff {body : SyncState α → Int × SyncState α}
    (hs : s.crashed = false) (hbody : Survives (prepared s) (body (prepared s)).2) :
    BracketedFrom s (withOpenDb fl s body).2 ↔ fl.openDB = false := by
  rw [withOpenDb_bracketed_iff hs hbody.1, hbody.2]
  simp [prepared, SyncState.record, hs]

variable [DecidableEq α] [Inhabited α]

theorem synchronize_inside (dbinfo : DBInfo) (t : SyncState α) :
    Inside t (standardAbsCheckLocallyDeletedRecords fl (standardAbsMergeToRemote fl
      { (if t.slow = false ∧ gpilotSyncPcMatch dbinfo = true then FastSync fl t
          else SlowSync fl t) with slow := false } SyncBothWays) SyncBothWays) := by
  have hkept := inside_anyway (α := α) fl SyncBothWays
  have hsync : Inside t (if t.slow = false ∧ gpilotSyncPcMatch dbinfo = true then FastSync fl t
      else SlowSync fl t) := by
    split
    · exact hkept.fastSync t
    · exact hkept.slowSync t
  obtain ⟨made, hmade, hin, hcr⟩ := hsync
  refine Inside.trans ?_ (hkept.checkLocallyDeletedRecords _)
  refine Inside.trans ?_ (hkept.mergeToRemote _)
  exact ⟨made, hmade, hin, hcr⟩

/-- The five operations are bracketed when the database could be opened and, for
the two that send records through `standard_abs_add_to_pilot`, the conduit
returned every record it was asked for. -/
theorem bracketed_iff (fl : Faults) (dbinfo : DBInfo) (s : SyncState α)
    (hs : s.crashed = false) :
    (BracketedFrom s (copyToPilot fl s).2 ↔ fl.openDB = false) ∧
    (BracketedFrom s (copyFromPilot fl s).2 ↔ fl.openDB = false) ∧
    (BracketedFrom s (mergeFromPilot fl s).2 ↔ fl.openDB = false) ∧
    (BracketedFrom s (mergeToPilot fl s).2 ↔
      fl.openDB = false ∧ RecordsReturned s (mergeToPilot fl s).2) ∧
    (BracketedFrom s (synchronize fl dbinfo s).2 ↔
      fl.openDB = false ∧ RecordsReturned s (synchronize fl dbinfo s).2) := by
  refine ⟨?_, ?_, ?_, ?_, ?_⟩
  · refine withOpenDb_survives_iff hs ?_
    split
    · exact .one rfl rfl rfl
    · refine Survives.trans ?_ (copyToPilotLoop_survives fl _ _)
      exact .one rfl rfl rfl
  · refine withOpenDb_survives_iff hs ?_
    split
    · exact .one rfl rfl rfl
    · refine Survives.trans ?_
        ((quiet_toLocal fl).readByIndexLoop (copyFromPilotBody_quiet fl) _ _ _).survives
      exact .one rfl rfl rfl
  · refine withOpenDb_survives_iff hs ?_
    exact ((quiet_toLocal fl).mergeToLocal _).survives
  · refine withOpenDb_returned_iff hs ?_
    exact (inside_anyway fl SyncToRemote).mergeToRemote _
  · refine withOpenDb_returned_iff hs ?_
    exact synchronize_inside dbinfo _

end Operations

def oneNewRecord : SyncState Nat :=
  .start (.ofList [⟨.new, false, false, 0, 1⟩])
    (.ofList [] 1 (by decide) (by decide) (by decide)) false

/-- A session in which every call succeeds is bracketed. -/
theorem oneNewRecord_bracketed :
    BracketedFrom oneNewRecord (synchronize .none ⟨1, 1⟩ oneNewRecord).2 := by
  refine (bracketed_iff .none ⟨1, 1⟩ oneNewRecord rfl).2.2.2.2.mpr ⟨rfl, ?_⟩
  refine ⟨(synchronize .none ⟨1, 1⟩ oneNewRecord).2.calls, (List.append_nil _).symm, ?_⟩
  have hcalls : (synchronize .none ⟨1, 1⟩ oneNewRecord).2.calls.any Call.unreturned = false := by
    decide
  intro u hu
  exact List.any_eq_false.mp hcalls _ hu rfl

/-- The handle of a database that did not open is closed, and the one opened for a
record the conduit does not return is not. -/
theorem oneNewRecord_unbracketed :
    (mergeToPilot { Faults.none with openDB := true } oneNewRecord).2.calls =
        [.closeDB, .openDB false] ∧
      ¬ BracketedFrom oneNewRecord
        (mergeToPilot { Faults.none with openDB := true } oneNewRecord).2 ∧
      .closeDB ∉ (mergeToPilot { Faults.none with transmit := fun _ => true }
        oneNewRecord).2.calls ∧
      ¬ BracketedFrom oneNewRecord
        (mergeToPilot { Faults.none with transmit := fun _ => true } oneNewRecord).2 := by
  have hself : ∀ t : SyncState Nat, t.calls = t.calls ++ oneNewRecord.calls := fun t =>
    (List.append_nil _).symm
  refine ⟨by decide, ?_, by decide, ?_⟩
  · rw [bracketedFrom_iff (hself _)]
    decide
  · rw [bracketedFrom_iff (hself _)]
    decide

end GnomePilot.Sync
