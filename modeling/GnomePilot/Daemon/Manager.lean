import GnomePilot.Queue.Pending

/-!
# Dispatching conduits

`manager.c`: which standard conduit is run on which database, with which operation
and which sync stamp, for queued conduit requests and for a normal synchronisation.
The runs themselves are the operations of a standard conduit; here they are the
calls the manager makes.
-/

namespace GnomePilot.Daemon

open Queue

/-! ## Conduits and databases -/

/-- `GNOME_IS_PILOT_CONDUIT_…`; a standard conduit names its database. -/
inductive ConduitKind where
  | standard (creatorId : Nat) (dbName : String)
  | backup
  | file
  deriving DecidableEq, Repr

/-- A loaded conduit with its `GnomePilotConduitConfig`. -/
structure Conduit where
  name : String
  kind : ConduitKind
  syncType : SyncType
  firstSyncType : SyncType
  deriving DecidableEq, Repr

/-- An entry of `dlp_ReadDBList`, whether it is excluded from syncs, and whether
`dlp_OpenConduit` succeeds when its turn comes. -/
structure DBEntry where
  name : String
  creator : Nat
  excludeFromSync : Bool
  opens : Bool
  deriving DecidableEq, Repr

/-- The operations of a standard conduit. -/
inductive Operation where
  | synchronize | copyToPilot | copyFromPilot | mergeToPilot | mergeFromPilot
  deriving DecidableEq, Repr

/-- One run of a standard conduit: its name, the database, the operation and the
`sync_PC_Id` of the stamp in `manager_data`. -/
structure ConduitCall where
  conduit : String
  database : String
  operation : Operation
  stamp : Nat
  deriving DecidableEq, Repr

/-- `find_matching_conduit_compare_func` -/
def Conduit.matchesDB (c : Conduit) (db : DBEntry) : Bool :=
  match c.kind with
  | .standard creatorId dbName => creatorId = db.creator ∧ dbName = db.name
  | _ => false

def findMatchingConduit (conlist : List Conduit) (db : DBEntry) : Option Conduit :=
  conlist.find? (fun c => c.matchesDB db)

def findMatchingConduitName (conlist : List Conduit) (name : String) : Option Conduit :=
  conlist.find? (fun c => c.name = name)

/-! ## Runs -/

/-- What a sync type does in `conduit_sync_default`; an unknown one runs nothing. -/
def syncTypeOperation : SyncType → Option Operation
  | .synchronize | .custom => some .synchronize
  | .copyToPilot => some .copyToPilot
  | .copyFromPilot => some .copyFromPilot
  | .mergeToPilot => some .mergeToPilot
  | .mergeFromPilot => some .mergeFromPilot
  | .notSet => none

def conduitSyncDefault (c : Conduit) : Option Operation :=
  if c.firstSyncType ≠ .notSet then syncTypeOperation c.firstSyncType
  else syncTypeOperation c.syncType

/-- `iterate_dbs`; it stops at the first database `dlp_OpenConduit` fails for. -/
def iterateDbs (stamp : Nat) (conlist : List Conduit) (iter : Conduit → Option Operation) :
    List DBEntry → List ConduitCall
  | [] => []
  | db :: rest =>
    if db.opens = false then []
    else if db.excludeFromSync then iterateDbs stamp conlist iter rest
    else
      match findMatchingConduit conlist db with
      | none => iterateDbs stamp conlist iter rest
      | some c =>
        match iter c with
        | none => iterateDbs stamp conlist iter rest
        | some operation =>
          ⟨c.name, db.name, operation, stamp⟩ :: iterateDbs stamp conlist iter rest

/-- `run_conduit_sync_foreach`: `syncstamp` is what the carrier's field points to. -/
def runConduitSyncForeach (syncstamp : Nat) (conduitList : List Conduit) (dbs : List DBEntry)
    (name : String) : List ConduitCall :=
  match findMatchingConduitName conduitList name with
  | none => []
  | some c =>
    match c.kind with
    | .backup => iterateDbs syncstamp [] conduitSyncDefault dbs
    | .standard _ _ => iterateDbs syncstamp [c] conduitSyncDefault dbs
    | .file => []

def requestedName (req : GPilotRequest) : Option String :=
  match req.parameters with
  | .conduit name _ => name
  | _ => none

/-- What a session finds: the conduit lists, the databases listed while a request is
processed, and whether `dbus_notify_completion` has a connection. -/
structure Environment where
  conduitList : List Conduit
  backupConduitList : List Conduit
  fileConduitList : List Conduit
  databases : List DBEntry
  databasesFor : GPilotRequest → List DBEntry
  gdbusConnection : Bool

/-- The list `run_conduit_sync_foreach` looks a name up in. -/
def Environment.allConduits (env : Environment) : List Conduit :=
  env.conduitList ++ env.backupConduitList ++ env.fileConduitList

def dbusNotifyCompletion (env : Environment) (kf : KeyFile) (req : GPilotRequest) : KeyFile :=
  if env.gdbusConnection then gpcQueuePurgeRequest kf req else kf

def asksForFiles (env : Environment) (req : GPilotRequest) : Bool :=
  match (requestedName req).bind (findMatchingConduitName env.allConduits) with
  | some conduit => decide (conduit.kind = .file)
  | none => false

/-- The queue side of `install_foreach`. -/
def completeInstalls (env : Environment) (userID : UInt32) (kf : KeyFile) : KeyFile :=
  (gpcQueueLoadRequests kf userID .install false).foldl (dbusNotifyCompletion env) kf

/-- The queue side of `run_conduit_sync_foreach`. -/
def completeConduitSync (env : Environment) (userID : UInt32) (kf : KeyFile)
    (req : GPilotRequest) : KeyFile :=
  dbusNotifyCompletion env (if asksForFiles env req then completeInstalls env userID kf else kf) req

/-- The requests a session takes from the queue, and the file it leaves. -/
structure Requests where
  restore : List GPilotRequest
  conduit : List GPilotRequest
  kf : KeyFile

def Requests.doNormalSyncStuff (requests : Requests) : Bool :=
  requests.restore.isEmpty && requests.conduit.isEmpty

/-- The queue side of `gpilot_initial_synchronize_operations`: every request is
completed after it was processed. -/
def takeRequests (env : Environment) (kf : KeyFile) (userID : UInt32) : Requests :=
  let restore := gpcQueueLoadRequests kf userID .restore false
  let kf := restore.foldl (dbusNotifyCompletion env) kf
  let conduit := gpcQueueLoadRequests kf userID .conduit false
  { restore := restore
    conduit := conduit
    kf := conduit.foldl (completeConduitSync env userID) kf }

def gpilotInitialSynchronizeOperations (env : Environment) (syncstamp : Nat) (kf : KeyFile)
    (userID : UInt32) : Bool × List (GPilotRequest × List ConduitCall) :=
  let requests := takeRequests env kf userID
  (requests.doNormalSyncStuff,
    requests.conduit.map fun req =>
      (req, match requestedName req with
        | some name => runConduitSyncForeach syncstamp env.allConduits (env.databasesFor req) name
        | none => []))

def gpilotSyncDefault (env : Environment) (stamp : Nat) : List ConduitCall :=
  iterateDbs stamp env.conduitList conduitSyncDefault env.databases

end GnomePilot.Daemon
