import GnomePilot.Sync.Record

/-!
# The conduit operations

The loops over pilot and local records, the open and close paths, and the five
operations of `GnomePilotConduitStandardAbs`.  `iterate` and `iterate_specific`
walk the local store once, so the loops over local records take the slots in
order and look at each record when its slot is reached.
-/

namespace GnomePilot.Sync

variable {α : Type} [DecidableEq α] [Inhabited α]

/-! ## Loops over local records -/

/-- One turn of a `while (iterate_specific (…, flag, 0))` loop. -/
def iterateSpecific (flag : RecordAttr) (body : SyncState α → Nat → SyncState α)
    (s : SyncState α) (u : Nat) : SyncState α :=
  if s.crashed then s
  else
    match s.store.get u with
    | some l => if l.attr = flag ∧ l.archived = false then body s u else s
    | none => s

def forEachSpecific (flag : RecordAttr) (body : SyncState α → Nat → SyncState α)
    (s : SyncState α) : SyncState α :=
  (List.range s.store.size).foldl (iterateSpecific flag body) s

def installNew (fl : Faults) (s : SyncState α) (u : Nat) : SyncState α :=
  let (assigned, s) := standardAbsAddToPilot fl s u
  if s.crashed then s else s.setPilotId u assigned

def standardAbsMergeToRemote (fl : Faults) (s : SyncState α) (dir : SyncDirection) :
    SyncState α :=
  let s := if dir.toRemote then forEachSpecific .new (installNew fl) s else s
  forEachSpecific .modified (fun s u => syncRecordLocal fl s u dir) s

def standardAbsCheckLocallyDeletedRecords (fl : Faults) (s : SyncState α) (dir : SyncDirection) :
    SyncState α :=
  forEachSpecific .deleted (fun s u => syncRecordLocal fl s u dir) s

/-! ## Loops over pilot records -/

/-- `while (dlp_ReadRecordByIndex (…, index, …) >= 0) { body; index++; }` -/
def readByIndexLoop (fl : Faults) (body : SyncState α → PilotRecord α → SyncState α) :
    Nat → Nat → SyncState α → SyncState α
  | 0, _, s => s
  | fuel + 1, index, s =>
    if s.crashed then s
    else if fl.readRecordByIndex index then s.record (.readRecordByIndex index)
    else
      match s.pilot.dlpReadRecordByIndex index with
      | none => s.record (.readRecordByIndex index)
      | some (i, d) =>
        readByIndexLoop fl body fuel (index + 1)
          (body (s.record (.readRecordByIndex index)) (standardAbsComputeAttrField i d))

/-- One more turn than there are records: the last read finds the end. -/
def forEachByIndex (fl : Faults) (body : SyncState α → PilotRecord α → SyncState α)
    (s : SyncState α) : SyncState α :=
  readByIndexLoop fl body (s.pilot.order.length + 1) 0 s

def SlowSync (fl : Faults) (s : SyncState α) : SyncState α :=
  forEachByIndex fl (fun s r => syncRecordRemote fl s r SyncBothWays) s

def readNextModifiedLoop (fl : Faults) (body : SyncState α → PilotRecord α → SyncState α) :
    List Nat → SyncState α → SyncState α
  | [], s => s.record .readNextModifiedRec
  | i :: rest, s =>
    if s.crashed then s
    else
      match s.pilot.get i with
      | none => readNextModifiedLoop fl body rest s
      | some d =>
        if d.flagged then
          if fl.readNextModifiedRec i then s.record .readNextModifiedRec
          else
            readNextModifiedLoop fl body rest
              (body (s.record .readNextModifiedRec) (standardAbsComputeAttrField i d))
        else readNextModifiedLoop fl body rest s

def FastSync (fl : Faults) (s : SyncState α) : SyncState α :=
  readNextModifiedLoop fl (fun s r => syncRecordRemote fl s r SyncBothWays) s.pilot.order s

/-- The body of `standard_abs_merge_to_local`. -/
def mergeLocalBody (fl : Faults) (dir : SyncDirection) (s : SyncState α) (r : PilotRecord α) :
    SyncState α :=
  if r.attr = .new ∨ r.attr = .modified then syncRecordRemote fl s r dir else s

def standardAbsMergeToLocal (fl : Faults) (s : SyncState α) (dir : SyncDirection) :
    SyncState α :=
  forEachByIndex fl (mergeLocalBody fl dir) s

/-! ## Open and close -/

/-- `manager_data` and `pu` of `GnomePilotDBInfo`, as far as the engine reads them. -/
structure DBInfo where
  sync_PC_Id : Nat
  lastSyncPC : Nat
  deriving DecidableEq, Repr

def gpilotSyncPcMatch (dbinfo : DBInfo) : Bool :=
  dbinfo.sync_PC_Id = dbinfo.lastSyncPC

/-- `standard_abs_open_db`: negative when `dlp_OpenDB` failed. -/
def standardAbsOpenDb (fl : Faults) (s : SyncState α) : Int × SyncState α :=
  if fl.openDB then (-1, s.record (.openDB false))
  else (0, (s.record (.openDB true)).record .readOpenDBInfo)

/-- The `pre_sync` callback. -/
def preSync (fl : Faults) (s : SyncState α) : Int × SyncState α :=
  if fl.preSync then (-1, s.record (.preSync false)) else (0, s.record (.preSync true))

def standardAbsCloseDbAndPurgeLocal (s : SyncState α) (clean : Bool) : SyncState α :=
  let s := if clean then s.cleanUpDatabase.purge.resetSyncFlags else s
  s.record .closeDB

/-- The `Finish` macro. -/
def finish (result : Int) (s : SyncState α) : Int × SyncState α :=
  if s.crashed then (result, s)
  else if result = 0 then (result, standardAbsCloseDbAndPurgeLocal s true)
  else (result, standardAbsCloseDbAndPurgeLocal s false)

/-- The opening common to the five operations: open the database, prepare the
conduit, run the body, finish. -/
def withOpenDb (fl : Faults) (s : SyncState α) (body : SyncState α → Int × SyncState α) :
    Int × SyncState α :=
  let (err, s) := standardAbsOpenDb fl s
  if err < 0 then finish (-1) s
  else
    let (err, s) := preSync fl s
    if err ≠ 0 then finish (-2) s
    else
      let (result, s) := body s
      finish result s

/-! ## The operations -/

/-- `gnome_pilot_conduit_standard_real_synchronize` -/
def synchronize (fl : Faults) (dbinfo : DBInfo) (s : SyncState α) : Int × SyncState α :=
  withOpenDb fl s fun s =>
    let s :=
      if s.slow = false ∧ gpilotSyncPcMatch dbinfo = true then FastSync fl s else SlowSync fl s
    let s := { s with slow := false }
    let s := standardAbsMergeToRemote fl s SyncBothWays
    (0, standardAbsCheckLocallyDeletedRecords fl s SyncBothWays)

/-- `gnome_pilot_conduit_standard_real_merge_to_pilot` -/
def mergeToPilot (fl : Faults) (s : SyncState α) : Int × SyncState α :=
  withOpenDb fl s fun s => (0, standardAbsMergeToRemote fl s SyncToRemote)

/-- `gnome_pilot_conduit_standard_real_merge_from_pilot` -/
def mergeFromPilot (fl : Faults) (s : SyncState α) : Int × SyncState α :=
  withOpenDb fl s fun s => (0, standardAbsMergeToLocal fl s SyncToLocal)

/-- The loop of `copy_to_pilot` over the local store; it stops at the first
record the conduit does not return. -/
def copyToPilotLoop (fl : Faults) : List Nat → SyncState α → SyncState α
  | [], s => s
  | u :: rest, s =>
    match s.store.get u with
    | none => copyToPilotLoop fl rest s
    | some l =>
      if l.archived then copyToPilotLoop fl rest (s.archiveLocal u)
      else if l.attr ≠ .deleted then
        if fl.transmit u then s.record (.transmit u false)
        else
          let s := (s.record (.transmit u true)).setStatus u .nothing
          if fl.writeRecord u then
            copyToPilotLoop fl rest (s.record (.writeRecord u l.ID l.content false))
          else
            let assigned := s.pilot.assignedID l.ID
            let s := { s with
              pilot := s.pilot.dlpWriteRecord l.secret l.ID l.content
              calls := .writeRecord u l.ID l.content true :: s.calls }
            copyToPilotLoop fl rest (s.setPilotId u assigned)
      else copyToPilotLoop fl rest s

/-- `gnome_pilot_conduit_standard_real_copy_to_pilot` -/
def copyToPilot (fl : Faults) (s : SyncState α) : Int × SyncState α :=
  withOpenDb fl s fun s =>
    if fl.deleteAllRecords then (-4, s.record (.deleteAllRecords false))
    else
      let s := { s with
        pilot := s.pilot.dlpDeleteAll
        calls := .deleteAllRecords true :: s.calls }
      (0, copyToPilotLoop fl (List.range s.store.size) s)

/-- The body of the `copy_from_pilot` loop. -/
def copyFromPilotBody (fl : Faults) (s : SyncState α) (r : PilotRecord α) : SyncState α :=
  if r.archived then s.archiveRemote none r.cleared
  else if r.attr ≠ .deleted then s.storeRemote fl r.cleared
  else s

/-- `gnome_pilot_conduit_standard_real_copy_from_pilot` -/
def copyFromPilot (fl : Faults) (s : SyncState α) : Int × SyncState α :=
  withOpenDb fl s fun s =>
    if fl.deleteAll then (-3, s.record (.deleteAll false))
    else
      let s := { s with
        store := s.store.clear
        calls := .deleteAll true :: s.calls }
      (0, forEachByIndex fl (copyFromPilotBody fl) s)

end GnomePilot.Sync
