import GnomePilot.Lib.History
import GnomePilot.Daemon.Conduits
import GnomePilot.Sync.Run

/-!
# The sync stamp of a pilot shared by several PCs

`do_sync` runs the conduits of a session and then writes the PC's ID to the pilot as
`lastSyncPC`.  The next session of the same PC takes that as the promise that no
other PC has cleared the dirty flags since.  `fastSync_sound` says under which
conditions on the sessions the promise is kept.
-/

namespace GnomePilot.Daemon

open Queue

/-! ## Sessions -/

/-- What the pilot stores about its PCs: the last stamp, and for each database the PC
whose session cleared its dirty flags last. -/
structure PilotStamp where
  lastSyncPC : Nat
  clearedBy : String → Option Nat

/-- How a run of a standard conduit went: whether the database was opened, whether
`set_slow` forced a slow sync, and whether the closing reset the flags. -/
structure RunOutcome where
  opened : Bool
  slow : Bool
  cleared : Bool
  deriving DecidableEq, Repr

/-- A session with the PC `sync_PC_Id`.  `syncstamp` is what `carrier.syncstamp` points
to while the requests are run; nothing sets it.  A session that breaks off has fewer
outcomes than calls, and `written` says whether `dlp_WriteUserInfo` succeeds. -/
structure Session where
  sync_PC_Id : Nat
  userID : UInt32
  env : Environment
  kf : KeyFile
  syncstamp : Nat
  outcomes : List RunOutcome
  written : Bool

namespace Session

/-- The conduit requests the session takes from the queue. -/
def requests (x : Session) : List GPilotRequest := (takeRequests x.env x.kf x.userID).conduit

/-- The runs `do_sync` makes: those requested, or the normal ones. -/
def calls (x : Session) : List ConduitCall :=
  let (normal, processed) := gpilotInitialSynchronizeOperations x.env x.syncstamp x.kf x.userID
  processed.flatMap Prod.snd ++ if normal then gpilotSyncDefault x.env x.sync_PC_Id else []

def runs (x : Session) : List (ConduitCall × RunOutcome) := x.calls.zip x.outcomes

end Session

/-- The run takes the `FastSync` path: `pu->lastSyncPC` is what the pilot had at the
start of the session. -/
def takesFastSync (lastSyncPC : Nat) (run : ConduitCall × RunOutcome) : Bool :=
  run.1.operation = .synchronize ∧ run.2.opened ∧
    Sync.choosesFast run.2.slow ⟨run.1.stamp, lastSyncPC⟩

def finishRun (pc : Nat) (p : PilotStamp) (run : ConduitCall × RunOutcome) : PilotStamp :=
  if run.2.cleared then
    { p with clearedBy := Function.update p.clearedBy run.1.database (some pc) }
  else p

def writeSyncStamp (x : Session) (p : PilotStamp) : PilotStamp :=
  if x.written then { p with lastSyncPC := x.sync_PC_Id } else p

def doSync (p : PilotStamp) (x : Session) : PilotStamp :=
  writeSyncStamp x (x.runs.foldl (finishRun x.sync_PC_Id) p)

/-- A pilot whose databases no PC has cleared. -/
def PilotStamp.fresh (lastSyncPC : Nat) : PilotStamp := ⟨lastSyncPC, fun _ => none⟩

/-- Whenever a run of the session takes the `FastSync` path, its database was cleared
last by this PC, if at all. -/
def FastSyncSound (p : PilotStamp) (x : Session) : Prop :=
  ∀ before run after, x.runs = before ++ run :: after → takesFastSync p.lastSyncPC run = true →
    ∀ q, (before.foldl (finishRun x.sync_PC_Id) p).clearedBy run.1.database = some q →
      q = x.sync_PC_Id

def Session.clears (x : Session) (db : String) : Prop :=
  ∃ run ∈ x.runs, run.1.database = db ∧ run.2.cleared = true

/-- Requests are run with the session's own stamp, if there are any. -/
def Session.OwnStamp (x : Session) : Prop := x.requests = [] ∨ x.syncstamp = x.sync_PC_Id

/-- A session that writes its stamp clears every database another PC cleared; one that
does not write it clears none or is one of the last PC. -/
structure Covers (p : PilotStamp) (x : Session) : Prop where
  written : x.written = true → ∀ db q, p.clearedBy db = some q → q ≠ x.sync_PC_Id → x.clears db
  unwritten : x.written = false → x.sync_PC_Id = p.lastSyncPC ∨ ∀ db, ¬ x.clears db

/-! ## Stamps of the calls -/

theorem stamp_of_mem_iterateDbs {stamp : Nat} {conlist : List Conduit}
    {iter : Conduit → Option Operation} {dbs : List DBEntry} {call : ConduitCall}
    (h : call ∈ iterateDbs stamp conlist iter dbs) : call.stamp = stamp := by
  induction dbs with
  | nil => simp [iterateDbs] at h
  | cons db dbs ih =>
      unfold iterateDbs at h
      split at h
      · simp at h
      · split at h
        · exact ih h
        · split at h
          · exact ih h
          · split at h
            · exact ih h
            · rcases List.mem_cons.mp h with rfl | h
              · rfl
              · exact ih h

theorem stamp_of_mem_requested {syncstamp : Nat} {conlist : List Conduit} {dbs : List DBEntry}
    {name : String} {call : ConduitCall}
    (h : call ∈ runConduitSyncForeach syncstamp conlist dbs name) : call.stamp = syncstamp := by
  unfold runConduitSyncForeach at h
  split at h
  · simp at h
  · split at h
    · exact stamp_of_mem_iterateDbs h
    · exact stamp_of_mem_iterateDbs h
    · simp at h

theorem Session.OwnStamp.stamp_eq {x : Session} (h : x.OwnStamp) {call : ConduitCall}
    (hcall : call ∈ x.calls) : call.stamp = x.sync_PC_Id := by
  rcases List.mem_append.mp hcall with hreq | hnormal
  · obtain ⟨processed, hproc, hmem⟩ := List.mem_flatMap.mp hreq
    obtain ⟨req, hreq, rfl⟩ := List.mem_map.mp hproc
    have hstamp : x.syncstamp = x.sync_PC_Id := by
      rcases h with hnone | heq
      · change req ∈ x.requests at hreq
        rw [hnone] at hreq
        exact absurd hreq List.not_mem_nil
      · exact heq
    dsimp only at hmem
    split at hmem
    · rw [← hstamp]
      exact stamp_of_mem_requested hmem
    · exact absurd hmem List.not_mem_nil
  · split at hnormal
    · exact stamp_of_mem_iterateDbs hnormal
    · exact absurd hnormal List.not_mem_nil

/-! ## One session -/

def StampSound (p : PilotStamp) : Prop :=
  ∀ db q, p.clearedBy db = some q → q = p.lastSyncPC

theorem lastSyncPC_foldl (pc : Nat) (p : PilotStamp) (runs : List (ConduitCall × RunOutcome)) :
    (runs.foldl (finishRun pc) p).lastSyncPC = p.lastSyncPC := by
  induction runs generalizing p with
  | nil => rfl
  | cons run runs ih =>
      rw [List.foldl_cons, ih]
      unfold finishRun
      split <;> rfl

/-- Who cleared a database last: this session's PC if one of the runs did. -/
theorem clearedBy_foldl (pc : Nat) (p : PilotStamp) (runs : List (ConduitCall × RunOutcome))
    (db : String) : (runs.foldl (finishRun pc) p).clearedBy db =
      if ∃ run ∈ runs, run.1.database = db ∧ run.2.cleared = true then some pc
      else p.clearedBy db := by
  induction runs generalizing p with
  | nil => simp
  | cons run runs ih =>
      rw [List.foldl_cons, ih]
      simp only [List.exists_mem_cons_iff]
      by_cases hrest : ∃ run ∈ runs, run.1.database = db ∧ run.2.cleared = true
      · rw [if_pos hrest, if_pos (Or.inr hrest)]
      · rw [if_neg hrest]
        simp only [hrest, or_false]
        unfold finishRun
        by_cases hclear : run.2.cleared = true
        · rw [if_pos hclear]
          by_cases hdb : run.1.database = db
          · rw [if_pos ⟨hdb, hclear⟩, ← hdb]
            exact Function.update_self _ _ _
          · rw [if_neg fun h => hdb h.1]
            exact Function.update_of_ne (fun h => hdb h.symm) _ _
        · rw [if_neg hclear, if_neg fun h => hclear h.2]

theorem clearedBy_doSync (p : PilotStamp) (x : Session) (db : String) [Decidable (x.clears db)] :
    (doSync p x).clearedBy db = if x.clears db then some x.sync_PC_Id else p.clearedBy db := by
  have hwrite : (doSync p x).clearedBy db =
      (x.runs.foldl (finishRun x.sync_PC_Id) p).clearedBy db := by
    unfold doSync
    generalize x.runs.foldl (finishRun x.sync_PC_Id) p = p'
    unfold writeSyncStamp
    split <;> rfl
  rw [hwrite, clearedBy_foldl]
  by_cases h : x.clears db
  · rw [if_pos h]
    exact if_pos h
  · rw [if_neg h]
    exact if_neg h

theorem lastSyncPC_doSync (p : PilotStamp) (x : Session) :
    (doSync p x).lastSyncPC = if x.written then x.sync_PC_Id else p.lastSyncPC := by
  unfold doSync writeSyncStamp
  split
  · rfl
  · exact lastSyncPC_foldl _ _ _

/-- From a truthful stamp a session leaves a truthful one exactly when it covers what
the stamp promises. -/
theorem stampSound_doSync_iff {p : PilotStamp} (hp : StampSound p) (x : Session) :
    StampSound (doSync p x) ↔ Covers p x := by
  classical
  have hcovers : Covers p x ↔
      (x.written = true → ∀ db q, p.clearedBy db = some q → q ≠ x.sync_PC_Id → x.clears db) ∧
        (x.written = false → x.sync_PC_Id = p.lastSyncPC ∨ ∀ db, ¬ x.clears db) :=
    ⟨fun h => ⟨h.written, h.unwritten⟩, fun h => ⟨h.1, h.2⟩⟩
  rw [hcovers]
  unfold StampSound
  simp only [clearedBy_doSync, lastSyncPC_doSync]
  cases hw : x.written with
  | true =>
      simp only [if_true, forall_const, Bool.true_eq_false, false_implies, and_true]
      constructor
      · intro h db q hq hne
        by_contra hclear
        exact hne (h db q (by rw [if_neg hclear, hq]))
      · intro h db q hq
        by_cases hclear : x.clears db
        · rw [if_pos hclear, Option.some.injEq] at hq
          exact hq.symm
        · rw [if_neg hclear] at hq
          by_contra hne
          exact hclear (h db q hq hne)
  | false =>
      simp only [Bool.false_eq_true, if_false, false_implies, true_and, forall_const]
      constructor
      · intro h
        by_cases hany : ∃ db, x.clears db
        · obtain ⟨db, hclear⟩ := hany
          exact Or.inl (h db x.sync_PC_Id (by rw [if_pos hclear]))
        · exact Or.inr fun db hclear => hany ⟨db, hclear⟩
      · intro h db q hq
        by_cases hclear : x.clears db
        · rw [if_pos hclear, Option.some.injEq] at hq
          rcases h with h | h
          · rw [← hq, h]
          · exact absurd hclear (h db)
        · rw [if_neg hclear] at hq
          exact hp db q hq

/-- With a truthful stamp and its own stamp in every call, a session takes the
`FastSync` path for its own databases only. -/
theorem StampSound.fastSyncSound {p : PilotStamp} (hp : StampSound p) {x : Session}
    (hx : x.OwnStamp) : FastSyncSound p x := by
  intro before run after hruns hfast q hq
  have hmem : run.1 ∈ x.calls := by
    have hrun : run ∈ x.runs := by
      rw [hruns]
      exact List.mem_append_right _ List.mem_cons_self
    exact (List.of_mem_zip (show (run.1, run.2) ∈ _ from hrun)).1
  have hstamp := hx.stamp_eq hmem
  have hmatch : run.1.stamp = p.lastSyncPC := by
    simp only [takesFastSync, Sync.choosesFast, Sync.gpilotSyncPcMatch, decide_eq_true_eq] at hfast
    simpa using hfast.2.2.2
  rw [clearedBy_foldl] at hq
  split at hq
  · exact (Option.some.inj hq).symm
  · rw [hp _ q hq, ← hmatch, hstamp]

def NeverDeceives (p : PilotStamp) : Prop := ∀ x : Session, x.OwnStamp → FastSyncSound p x

def singleSession (pc : Nat) (db : String) : Session where
  sync_PC_Id := pc
  userID := 1
  env :=
    { conduitList := [⟨db, .standard 0 db, .synchronize, .notSet⟩]
      backupConduitList := []
      fileConduitList := []
      databases := [⟨db, 0, false, true⟩]
      databasesFor _ := []
      gdbusConnection := true }
  kf := .empty
  syncstamp := pc
  outcomes := [⟨true, false, true⟩]
  written := true

theorem runs_singleSession (pc : Nat) (db : String) : (singleSession pc db).runs =
    [(⟨db, db, .synchronize, pc⟩, ⟨true, false, true⟩)] := by
  have hrequests : ∀ env, takeRequests env .empty 1 = ⟨[], [], .empty⟩ := fun _ => rfl
  have hcalls : (singleSession pc db).calls = [⟨db, db, .synchronize, pc⟩] := by
    simp [Session.calls, gpilotInitialSynchronizeOperations, singleSession, hrequests,
      Requests.doNormalSyncStuff, gpilotSyncDefault, iterateDbs_singleton, conduitSyncDefault, syncTypeOperation,
      conduitDatabases, Conduit.matchesDB]
  rw [Session.runs, hcalls]
  exact List.zip_cons_cons

/-- A stamp that tells the truth is one that deceives no session. -/
theorem neverDeceives_iff (p : PilotStamp) : NeverDeceives p ↔ StampSound p := by
  constructor
  · intro h db q hq
    have hsession := h (singleSession p.lastSyncPC db) (Or.inr rfl) []
      (⟨db, db, .synchronize, p.lastSyncPC⟩, ⟨true, false, true⟩) []
      (runs_singleSession p.lastSyncPC db)
      (by simp [takesFastSync, Sync.choosesFast, Sync.gpilotSyncPcMatch])
    exact hsession q hq
  · exact fun h x hx => h.fastSyncSound hx

/-! ## Any number of sessions -/

theorem stampSound_fresh (lastSyncPC : Nat) : StampSound (.fresh lastSyncPC) := by
  intro db q hq
  contradiction

/-- A sequence of sessions never leaves a pilot that deceives a later one exactly when
each session covers what the stamp promises; and sessions that do, and run their
requests with their own stamp, take the `FastSync` path only for databases their own
PC cleared last. -/
theorem fastSync_sound (lastSyncPC : Nat) (sessions : List Session) :
    (History.Always doSync NeverDeceives (.fresh lastSyncPC) sessions ↔
      History.Allowed doSync Covers (.fresh lastSyncPC) sessions) ∧
    (History.Allowed doSync (fun p x => Covers p x ∧ x.OwnStamp) (.fresh lastSyncPC) sessions →
      History.Allowed doSync FastSyncSound (.fresh lastSyncPC) sessions) := by
  constructor
  · apply History.always_iff_allowed StampSound
    · intro p hp
      exact (neverDeceives_iff p).2 hp
    · intro p x hp hx
      exact (stampSound_doSync_iff hp x).2 hx
    · intro p x hp hx hnever
      exact hx ((stampSound_doSync_iff hp x).1 ((neverDeceives_iff _).1 hnever))
    · exact stampSound_fresh lastSyncPC
  · intro hallowed
    have hsound := stampSound_fresh lastSyncPC
    generalize PilotStamp.fresh lastSyncPC = p at hallowed hsound
    induction sessions generalizing p with
    | nil => trivial
    | cons x sessions ih =>
        obtain ⟨⟨hcovers, hown⟩, hrest⟩ := hallowed
        exact ⟨hsound.fastSyncSound hown,
          ih _ hrest ((stampSound_doSync_iff hsound x).2 hcovers)⟩

def twoDatabases : Environment where
  conduitList := [⟨"Address", .standard 1 "AddressDB", .synchronize, .notSet⟩,
    ⟨"Memo", .standard 2 "MemoDB", .synchronize, .notSet⟩]
  backupConduitList := []
  fileConduitList := []
  databases := [⟨"AddressDB", 1, false, true⟩, ⟨"MemoDB", 2, false, true⟩]
  databasesFor _ := [⟨"AddressDB", 1, false, true⟩, ⟨"MemoDB", 2, false, true⟩]
  gdbusConnection := true

/-- A complete session, or one with a request for the address conduit in the queue. -/
def twoDatabasesSession (pc : Nat) (kf : KeyFile) : Session where
  sync_PC_Id := pc
  userID := 5
  env := twoDatabases
  kf := kf
  syncstamp := pc
  outcomes := [⟨true, false, true⟩, ⟨true, false, true⟩]
  written := true

def addressQueue : KeyFile :=
  (conduitQueue 5 (by decide) .empty [⟨"Address", .synchronize, true, 0⟩]).kf

theorem samePC_sound :
    History.Allowed doSync FastSyncSound (.fresh 1)
      [twoDatabasesSession 1 .empty, twoDatabasesSession 1 addressQueue] := by
  have hfirst : Covers (.fresh 1) (twoDatabasesSession 1 .empty) :=
    ⟨fun _ db q hq => (Option.some_ne_none q hq.symm).elim, fun hw => Bool.noConfusion hw⟩
  have hsound := (stampSound_doSync_iff (stampSound_fresh 1) _).2 hfirst
  have hsecond : Covers (doSync (.fresh 1) (twoDatabasesSession 1 .empty))
      (twoDatabasesSession 1 addressQueue) :=
    ⟨fun _ db q hq hne => absurd (hsound db q hq) hne, fun hw => Bool.noConfusion hw⟩
  exact (fastSync_sound 1 [twoDatabasesSession 1 .empty, twoDatabasesSession 1 addressQueue]).2
    ⟨⟨hfirst, Or.inr rfl⟩, ⟨hsecond, Or.inr rfl⟩, trivial⟩

/-- PC 2 runs one requested conduit and writes its stamp; its next session takes the
`FastSync` path for the other database, which PC 1 cleared. -/
theorem requestSession_deceives :
    (twoDatabasesSession 2 .empty).runs =
        [(⟨"Address", "AddressDB", .synchronize, 2⟩, ⟨true, false, true⟩),
          (⟨"Memo", "MemoDB", .synchronize, 2⟩, ⟨true, false, true⟩)] ∧
      ¬ History.Allowed doSync FastSyncSound (.fresh 1)
        [twoDatabasesSession 1 .empty, twoDatabasesSession 2 addressQueue,
          twoDatabasesSession 2 .empty] := by
  refine ⟨by decide, ?_⟩
  rintro ⟨-, -, hlast, -⟩
  have hpc := hlast [(⟨"Address", "AddressDB", .synchronize, 2⟩, ⟨true, false, true⟩)]
    (⟨"Memo", "MemoDB", .synchronize, 2⟩, ⟨true, false, true⟩) [] (by decide) (by decide) 1
    (by decide)
  contradiction

end GnomePilot.Daemon
