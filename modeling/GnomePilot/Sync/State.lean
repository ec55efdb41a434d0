import GnomePilot.Device.Database
import GnomePilot.Device.Store

/-!
# State of a conduit run

What a run of a standard-abs conduit works on: the local store and its archive,
the open database, the list of record IDs to ignore, and the calls made so far.
The conduit callbacks and DLP calls below change exactly the parts they name.
-/

namespace GnomePilot.Sync

variable {α : Type}

/-- The `PilotRecord` the engine hands around, after `compute_attr_field`. -/
structure PilotRecord (α : Type) where
  ID : Nat
  attr : RecordAttr
  archived : Bool
  secret : Bool
  content : α
  deriving DecidableEq, Repr

/-- A record put in the conduit's archive, with the pilot ID it had. -/
structure ArchivedRecord (α : Type) where
  ID : Nat
  content : α
  deriving DecidableEq, Repr

/-- DLP calls and changing conduit callbacks, with their outcome where the
engine looks at it. -/
inductive Call (α : Type) where
  | openDB (ok : Bool)
  | readOpenDBInfo
  | preSync (ok : Bool)
  | deleteAllRecords (ok : Bool)
  | deleteRecord (id : Nat)
  | writeRecord (u id : Nat) (content : α) (ok : Bool)
  | readRecordById (id : Nat)
  | readRecordByIndex (index : Nat)
  | readNextModifiedRec
  | addSyncLogEntry (text : String)
  | cleanUpDatabase
  | resetSyncFlags
  | closeDB
  | deleteAll (ok : Bool)
  | transmit (u : Nat) (ok : Bool)
  | setStatus (u : Nat) (attr : RecordAttr)
  | setPilotId (u id : Nat)
  | storeRemote (id : Nat)
  | archiveRemote (id : Nat)
  | archiveLocal (u : Nat)
  | purge
  | sendMessage (text : String)
  deriving DecidableEq, Repr

/-- Which calls fail.  A record is transmitted and written at most once in a run
and an index or ID is read at most once in a loop, so the call is named by its
record, ID or index. -/
structure Faults where
  openDB : Bool
  preSync : Bool
  deleteAllRecords : Bool
  deleteAll : Bool
  transmit : Nat → Bool
  writeRecord : Nat → Bool
  storeRemote : Nat → Bool
  readRecordById : Nat → Bool
  readRecordByIndex : Nat → Bool
  readNextModifiedRec : Nat → Bool

/-- Every call succeeds. -/
def Faults.none : Faults where
  openDB := false
  preSync := false
  deleteAllRecords := false
  deleteAll := false
  transmit _ := false
  writeRecord _ := false
  storeRemote _ := false
  readRecordById _ := false
  readRecordByIndex _ := false
  readNextModifiedRec _ := false

namespace Faults

@[simp] theorem none_openDB : none.openDB = false := rfl
@[simp] theorem none_preSync : none.preSync = false := rfl
@[simp] theorem none_deleteAllRecords : none.deleteAllRecords = false := rfl
@[simp] theorem none_deleteAll : none.deleteAll = false := rfl
@[simp] theorem none_transmit (u : Nat) : none.transmit u = false := rfl
@[simp] theorem none_writeRecord (u : Nat) : none.writeRecord u = false := rfl
@[simp] theorem none_storeRemote (i : Nat) : none.storeRemote i = false := rfl
@[simp] theorem none_readRecordById (i : Nat) : none.readRecordById i = false := rfl
@[simp] theorem none_readRecordByIndex (n : Nat) : none.readRecordByIndex n = false := rfl
@[simp] theorem none_readNextModifiedRec (i : Nat) : none.readNextModifiedRec i = false := rfl

end Faults

/-- `record_ids_to_ignore` and `slow` are the conduit's fields.  `crashed` is set
when the engine dereferences a record the conduit did not return; nothing runs
after it. -/
structure SyncState (α : Type) where
  store : LocalStore α
  archive : List (ArchivedRecord α)
  pilot : PilotDB α
  recordIdsToIgnore : List Nat
  slow : Bool
  crashed : Bool
  calls : List (Call α)

namespace SyncState

/-- A freshly instantiated conduit on a local store and a database. -/
def start (store : LocalStore α) (pilot : PilotDB α) (slow : Bool) : SyncState α where
  store := store
  archive := []
  pilot := pilot
  recordIdsToIgnore := []
  slow := slow
  crashed := false
  calls := []

def record (s : SyncState α) (c : Call α) : SyncState α := { s with calls := c :: s.calls }

/-! ## Conduit callbacks -/

def setStatus (s : SyncState α) (u : Nat) (attr : RecordAttr) : SyncState α :=
  { s with
    store := s.store.modify u (fun l => { l with attr := attr })
    calls := .setStatus u attr :: s.calls }

def setPilotId (s : SyncState α) (u id : Nat) : SyncState α :=
  { s with
    store := s.store.modify u (fun l => { l with ID := id })
    calls := .setPilotId u id :: s.calls }

/-- The local record `store_remote` leaves behind. -/
def storedRecord (r : PilotRecord α) : LocalRecord α :=
  { attr := .nothing, archived := r.archived, secret := r.secret, ID := r.ID,
    content := r.content }

/-- Replace the record carrying the ID in place, or insert a new one. -/
def storeRemote (fl : Faults) (s : SyncState α) (r : PilotRecord α) : SyncState α :=
  if fl.storeRemote r.ID then s.record (.storeRemote r.ID)
  else
    { s with
      store :=
        match s.store.matchRecord r.ID with
        | some u => s.store.modify u (fun _ => storedRecord r)
        | none => s.store.insert (storedRecord r)
      calls := .storeRemote r.ID :: s.calls }

def archiveRemote (s : SyncState α) (u : Option Nat) (r : PilotRecord α) : SyncState α :=
  { s with
    store := match u with
      | some u => s.store.remove u
      | none => s.store
    archive := ⟨r.ID, r.content⟩ :: s.archive
    calls := .archiveRemote r.ID :: s.calls }

def archiveLocal (s : SyncState α) (u : Nat) : SyncState α :=
  match s.store.get u with
  | none => s
  | some l =>
    { s with
      store := s.store.remove u
      archive := ⟨l.ID, l.content⟩ :: s.archive
      calls := .archiveLocal u :: s.calls }

def purge (s : SyncState α) : SyncState α :=
  { s with store := s.store.purge, calls := .purge :: s.calls }

/-! ## DLP calls -/

def deleteRecord (s : SyncState α) (id : Nat) : SyncState α :=
  { s with pilot := s.pilot.dlpDeleteRecord id, calls := .deleteRecord id :: s.calls }

def cleanUpDatabase (s : SyncState α) : SyncState α :=
  { s with pilot := s.pilot.dlpCleanUpDatabase, calls := .cleanUpDatabase :: s.calls }

def resetSyncFlags (s : SyncState α) : SyncState α :=
  { s with pilot := s.pilot.dlpResetSyncFlags, calls := .resetSyncFlags :: s.calls }

def logConflict (s : SyncState α) (text : String) : SyncState α :=
  (s.record (.addSyncLogEntry text)).record (.sendMessage text)

def ignoreRecord (s : SyncState α) (id : Nat) : SyncState α :=
  { s with recordIdsToIgnore := id :: s.recordIdsToIgnore }

def crash (s : SyncState α) : SyncState α := { s with crashed := true }

end SyncState

def standardAbsComputeAttrField (id : Nat) (d : DlpRecord α) : PilotRecord α where
  ID := id
  attr := if d.deleted then .deleted else if d.dirty then .modified else .nothing
  archived := d.archived
  secret := d.secret
  content := d.content

end GnomePilot.Sync
