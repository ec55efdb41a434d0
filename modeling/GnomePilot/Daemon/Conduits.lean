import GnomePilot.Daemon.Manager

/-!
# Queued conduit requests

A client asks for an operation of a conduit over D-Bus; the request goes through the
queue to `run_conduit_sync_foreach`.  `runsRequested_iff` says when every request is
answered by exactly the operation it asked for.
-/

namespace GnomePilot.Daemon

open Queue

/-! ## Requesting a conduit -/

/-- `GNOME_Pilot_ConduitOperation` -/
inductive ConduitOperation where
  | synchronize | copyFromPilot | copyToPilot | mergeFromPilot | mergeToPilot | conduitDefault
  deriving DecidableEq, Repr

/-- The `switch` of `gpilot_daemon_request_conduit`. -/
def ConduitOperation.syncType : ConduitOperation → SyncType
  | .synchronize => .synchronize
  | .copyFromPilot => .copyFromPilot
  | .copyToPilot => .copyToPilot
  | .mergeFromPilot => .mergeFromPilot
  | .mergeToPilot => .mergeToPilot
  | .conduitDefault => .custom

/-- The arguments of a D-Bus call; a persistent request has no timeout. -/
structure ConduitRequest where
  conduitName : String
  operation : ConduitOperation
  persistent : Bool
  timeout : UInt32
  deriving DecidableEq, Repr

/-- The request `gpilot_daemon_request_conduit` stores for a known pilot. -/
def conduitRequest (pilotId : UInt32) (hpilot : pilotId ≠ 0) (r : ConduitRequest) :
    DaemonRequest where
  pilotId := pilotId
  handle := 0
  timeout := if r.persistent then 0 else r.timeout
  cradle := none
  clientId := some ""
  parameters := .conduit (some r.conduitName) r.operation.syncType
  sectionName := none
  wellFormed := by
    refine ⟨?_, fun _ => ⟨hpilot, rfl⟩, by simp⟩
    simp [GPilotRequest.type, Parameters.type, isSystemRelated]

/-- `gpilot_daemon_request_conduit`; an unknown pilot has ID 0. -/
def gpilotDaemonRequestConduit (s : QueueState) (pilotId : UInt32) (r : ConduitRequest) :
    Option QueueState :=
  if hpilot : pilotId = 0 then none
  else some (s.step (.store (conduitRequest pilotId hpilot r)))

def conduitQueue (pilotId : UInt32) (hpilot : pilotId ≠ 0) (s : QueueState)
    (rs : List ConduitRequest) : QueueState :=
  rs.foldl (fun s r => s.step (.store (conduitRequest pilotId hpilot r))) s

theorem requestConduits_eq {pilotId : UInt32} (hpilot : pilotId ≠ 0) (s : QueueState)
    (rs : List ConduitRequest) :
    rs.foldlM (fun s r => gpilotDaemonRequestConduit s pilotId r) s =
      some (conduitQueue pilotId hpilot s rs) := by
  induction rs generalizing s with
  | nil => rfl
  | cons r rs ih =>
      have hstore : gpilotDaemonRequestConduit s pilotId r =
          some (s.step (.store (conduitRequest pilotId hpilot r))) := dif_neg hpilot
      rw [List.foldlM_cons, hstore]
      exact ih _

/-! ## The requests arrive -/

/-- Only conduit requests are queued for the pilot, and a load returns all of them,
the latest first. -/
structure OnlyConduits (pilotId : UInt32) (s : QueueState) : Prop extends Numbered s where
  type : ∀ e ∈ s.pending, e.req.type = .conduit
  loaded : gpcQueueLoadRequests s.kf pilotId .conduit false = s.pending.map Entry.loaded

theorem onlyConduits_empty (pilotId : UInt32) : OnlyConduits pilotId .empty where
  toNumbered := numbered_empty
  type := by simp [QueueState.empty]
  loaded := rfl

theorem OnlyConduits.store {pilotId : UInt32} (hpilot : pilotId ≠ 0) {s : QueueState}
    (h : OnlyConduits pilotId s) (r : ConduitRequest)
    (hroom : (counter s.kf pilotId .conduit).toNat + 1 < 2 ^ 31) :
    OnlyConduits pilotId (s.step (.store (conduitRequest pilotId hpilot r))) where
  toNumbered := h.toNumbered.store (conduitRequest pilotId hpilot r) hroom
  type e he := by
    rcases List.mem_cons.mp he with rfl | he
    · rfl
    · exact h.type e he
  loaded := by
    have hload := loadRequests_store h.toNumbered (conduitRequest pilotId hpilot r) hroom false
    refine hload.trans ?_
    exact congrArg _ h.loaded

theorem counter_step_store (pilotId : UInt32) (hpilot : pilotId ≠ 0) (s : QueueState)
    (r : ConduitRequest) (hroom : (counter s.kf pilotId .conduit).toNat + 1 < 2 ^ 31) :
    (counter (s.step (.store (conduitRequest pilotId hpilot r))).kf pilotId .conduit).toNat =
      (counter s.kf pilotId .conduit).toNat + 1 := by
  have hcounter := counter_store s.kf (conduitRequest pilotId hpilot r).toGPilotRequest pilotId
    .conduit
  have hself : setSection pilotId .conduit = setSection (conduitRequest pilotId hpilot r).pilotId
      (conduitRequest pilotId hpilot r).type := rfl
  rw [if_pos hself] at hcounter
  change (counter (gpcQueueStoreRequest s.kf (conduitRequest pilotId hpilot r).toGPilotRequest).2
    pilotId .conduit).toNat = _
  rw [hcounter, UInt32.toNat_add]
  simp only [UInt32.reduceToNat]
  omega

theorem onlyConduits_conduitQueue {pilotId : UInt32} (hpilot : pilotId ≠ 0)
    (rs : List ConduitRequest) {s : QueueState} (h : OnlyConduits pilotId s)
    (hlen : (counter s.kf pilotId .conduit).toNat + rs.length < 2 ^ 31) :
    OnlyConduits pilotId (conduitQueue pilotId hpilot s rs) := by
  induction rs generalizing s with
  | nil => exact h
  | cons r rs ih =>
      have hroom : (counter s.kf pilotId .conduit).toNat + 1 < 2 ^ 31 := by
        rw [List.length_cons] at hlen
        omega
      apply ih (h.store hpilot r hroom)
      rw [counter_step_store pilotId hpilot s r hroom]
      rw [List.length_cons] at hlen
      omega

theorem takeRequests_conduit {pilotId : UInt32} {s : QueueState} (h : OnlyConduits pilotId s)
    (env : Environment) : (takeRequests env s.kf pilotId).restore = [] ∧
      (takeRequests env s.kf pilotId).conduit = s.pending.map Entry.loaded := by
  have hrestore : gpcQueueLoadRequests s.kf pilotId .restore false = [] := by
    rw [List.eq_nil_iff_forall_not_mem]
    intro req hreq
    obtain ⟨htype, k, hk, hkle, hload⟩ := (mem_loadRequests (h.readable _ _)).1 hreq
    obtain ⟨e, he, hlist, hnum⟩ := h.dense pilotId .restore k hk hkle
    have hsec : sectionOf pilotId .restore (.ofNat k) = e.sec := by
      rw [← hnum, UInt32.ofNat_toNat]
      exact (sectionOf_inj.mpr ⟨hlist, rfl⟩).symm
    have hpilot : e.req.pilotId = pilotId :=
      (setSection_inj.mp hlist).2 (by rw [h.type e he]; rfl)
    have hfound := h.found e he
    rw [hpilot, ← hsec, hload, Option.some.injEq] at hfound
    have : req.type = .conduit := by
      rw [hfound]
      exact h.type e he
    rcases htype with htype | hall
    · rw [this] at htype
      contradiction
    · contradiction
  refine ⟨hrestore, ?_⟩
  change gpcQueueLoadRequests (List.foldl _ s.kf (gpcQueueLoadRequests s.kf pilotId .restore false))
    pilotId .conduit false = _
  rw [hrestore]
  exact h.loaded

/-! ## What a request asks for -/

def conduitDatabases (c : Conduit) (dbs : List DBEntry) : List DBEntry :=
  (dbs.takeWhile DBEntry.opens).filter (fun db => !db.excludeFromSync && c.matchesDB db)

/-- `CONDUIT_DEFAULT` asks for the configured operation. -/
def requestedOperation (how : SyncType) (c : Conduit) : Option Operation :=
  if how = .custom then conduitSyncDefault c else syncTypeOperation how

/-- The calls a request for an enabled standard conduit asks for: its operation on the
conduit's database, with the session's stamp. -/
def requestedCalls (env : Environment) (stamp : Nat) (req : GPilotRequest) : List ConduitCall :=
  match req.parameters with
  | .conduit (some name) how =>
    match findMatchingConduitName env.allConduits name with
    | none => []
    | some c =>
      match c.kind, requestedOperation how c with
      | .standard _ _, some operation =>
        (conduitDatabases c (env.databasesFor req)).map
          (fun db => ⟨c.name, db.name, operation, stamp⟩)
      | _, _ => []
  | _ => []

/-- Every request of the queue is processed, and the calls made for it are the ones
it asks for. -/
def RunsRequested (env : Environment) (stamp : Nat) (queued : List GPilotRequest)
    (processed : List (GPilotRequest × List ConduitCall)) : Prop :=
  processed = queued.map (fun req => (req, requestedCalls env stamp req))

/-- The conduit's configured operation is the one requested, and the carrier holds the
session's stamp, unless nothing is to be run. -/
def Obeyed (env : Environment) (stamp syncstamp : Nat) (req : GPilotRequest) : Prop :=
  match req.parameters with
  | .conduit (some name) how =>
    match findMatchingConduitName env.allConduits name with
    | none => True
    | some c =>
      match c.kind with
      | .standard _ _ =>
        conduitDatabases c (env.databasesFor req) = [] ∨
          conduitSyncDefault c = requestedOperation how c ∧
            (conduitSyncDefault c = none ∨ syncstamp = stamp)
      | _ => True
  | _ => True

/-! ## What is run -/

theorem iterateDbs_singleton (stamp : Nat) (c : Conduit) (iter : Conduit → Option Operation)
    (dbs : List DBEntry) : iterateDbs stamp [c] iter dbs =
      match iter c with
      | some operation =>
        (conduitDatabases c dbs).map (fun db => ⟨c.name, db.name, operation, stamp⟩)
      | none => [] := by
  induction dbs with
  | nil => cases iter c <;> rfl
  | cons db dbs ih =>
      unfold iterateDbs conduitDatabases
      cases hopen : db.opens with
      | false => cases hiter : iter c <;> simp [hopen]
      | true =>
          rw [if_neg (by decide), ih]
          cases hex : db.excludeFromSync with
          | true => cases hiter : iter c <;> simp [conduitDatabases, hopen, hex]
          | false =>
              cases hmatch : c.matchesDB db <;> cases hiter : iter c <;>
                simp [findMatchingConduit, conduitDatabases, hopen, hex, hmatch, hiter]

theorem iterateDbs_nil (stamp : Nat) (iter : Conduit → Option Operation) (dbs : List DBEntry) :
    iterateDbs stamp [] iter dbs = [] := by
  induction dbs with
  | nil => rfl
  | cons db dbs ih => simp [iterateDbs, findMatchingConduit, ih]

def madeCalls (env : Environment) (syncstamp : Nat) (req : GPilotRequest) : List ConduitCall :=
  match requestedName req with
  | some name => runConduitSyncForeach syncstamp env.allConduits (env.databasesFor req) name
  | none => []

theorem map_call_eq_iff {c : Conduit} {dbs : List DBEntry} {o o' : Operation} {n n' : Nat} :
    dbs.map (fun db => (⟨c.name, db.name, o, n⟩ : ConduitCall)) =
        dbs.map (fun db => ⟨c.name, db.name, o', n'⟩) ↔ dbs = [] ∨ o = o' ∧ n = n' := by
  cases dbs with
  | nil => simp
  | cons db dbs => simp +contextual [List.map_inj_left]

/-- A request gets what it asks for exactly when it is obeyed. -/
theorem madeCalls_eq_iff (env : Environment) (stamp syncstamp : Nat) (req : GPilotRequest) :
    madeCalls env syncstamp req = requestedCalls env stamp req ↔
      Obeyed env stamp syncstamp req := by
  unfold madeCalls requestedCalls Obeyed requestedName
  cases hparam : req.parameters with
  | conduit name how =>
      cases name with
      | none => simp
      | some name =>
          unfold runConduitSyncForeach
          cases hfind : findMatchingConduitName env.allConduits name with
          | none => simp [hfind]
          | some c =>
              cases hkind : c.kind with
              | backup => simp [hfind, hkind, iterateDbs_nil]
              | file => simp [hfind, hkind]
              | standard creatorId dbName =>
                  simp only [hfind, hkind, iterateDbs_singleton]
                  cases hmade : conduitSyncDefault c with
                  | none => cases requestedOperation how c <;> simp [List.nil_eq]
                  | some made =>
                      cases requestedOperation how c with
                      | none => simp
                      | some asked =>
                          dsimp only
                          rw [map_call_eq_iff]
                          simp
  | _ => simp

/-- Every queued conduit request is answered by the operation it asked for, with the
session's stamp and on its conduit's database, exactly when each is obeyed. -/
theorem runsRequested_iff (env : Environment) (stamp syncstamp : Nat) (pilotId : UInt32)
    (hpilot : pilotId ≠ 0) (rs : List ConduitRequest) (hlen : rs.length < 2 ^ 31) :
    RunsRequested env stamp ((conduitQueue pilotId hpilot .empty rs).pending.map Entry.loaded)
        (gpilotInitialSynchronizeOperations env syncstamp
          (conduitQueue pilotId hpilot .empty rs).kf pilotId).2 ↔
      ∀ e ∈ (conduitQueue pilotId hpilot .empty rs).pending,
        Obeyed env stamp syncstamp e.loaded := by
  have hqueue := onlyConduits_conduitQueue hpilot rs (onlyConduits_empty pilotId)
    (by
      have hzero : (counter QueueState.empty.kf pilotId .conduit).toNat = 0 := rfl
      omega)
  have htaken := (takeRequests_conduit hqueue env).2
  have hprocessed : (gpilotInitialSynchronizeOperations env syncstamp
      (conduitQueue pilotId hpilot .empty rs).kf pilotId).2 =
        ((conduitQueue pilotId hpilot .empty rs).pending.map Entry.loaded).map
          (fun req => (req, madeCalls env syncstamp req)) := by
    rw [← htaken]
    rfl
  unfold RunsRequested
  rw [hprocessed, List.map_inj_left]
  constructor
  · intro h e he
    have hpair := h e.loaded (List.mem_map_of_mem he)
    exact (madeCalls_eq_iff env stamp syncstamp e.loaded).1 (Prod.mk.inj hpair).2
  · intro h req hreq
    obtain ⟨e, he, rfl⟩ := List.mem_map.mp hreq
    rw [(madeCalls_eq_iff env stamp syncstamp e.loaded).2 (h e he)]

def addressEnvironment : Environment where
  conduitList := [⟨"Address", .standard 1 "AddressDB", .synchronize, .notSet⟩]
  backupConduitList := []
  fileConduitList := []
  databases := [⟨"AddressDB", 1, false, true⟩]
  databasesFor _ := [⟨"AddressDB", 1, false, true⟩]
  gdbusConnection := true

theorem synchronizeRequest_runs :
    RunsRequested addressEnvironment 7
      ((conduitQueue 5 (by decide) .empty [⟨"Address", .synchronize, true, 0⟩]).pending.map
        Entry.loaded)
      (gpilotInitialSynchronizeOperations addressEnvironment 7
        (conduitQueue 5 (by decide) .empty [⟨"Address", .synchronize, true, 0⟩]).kf 5).2 := by
  refine (runsRequested_iff addressEnvironment 7 7 5 (by decide)
    [⟨"Address", .synchronize, true, 0⟩] (by decide)).2 ?_
  intro e he
  obtain rfl := List.mem_singleton.mp he
  exact Or.inr ⟨rfl, Or.inr rfl⟩

/-- A request to copy from the pilot is answered by a synchronisation, with a stamp
that is not the session's. -/
theorem copyRequest_synchronizes :
    let s := conduitQueue 5 (by decide) .empty [⟨"Address", .copyFromPilot, true, 0⟩]
    (gpilotInitialSynchronizeOperations addressEnvironment 3 s.kf 5).2.map Prod.snd =
        [[⟨"Address", "AddressDB", .synchronize, 3⟩]] ∧
      s.pending.map (fun e => requestedCalls addressEnvironment 7 e.loaded) =
        [[⟨"Address", "AddressDB", .copyFromPilot, 7⟩]] ∧
      ¬ RunsRequested addressEnvironment 7 (s.pending.map Entry.loaded)
        (gpilotInitialSynchronizeOperations addressEnvironment 3 s.kf 5).2 := by
  unfold RunsRequested
  decide

end GnomePilot.Daemon
