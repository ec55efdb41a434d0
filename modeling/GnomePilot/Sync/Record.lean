import GnomePilot.Sync.State

/-!
# Synchronising one record

`standard_abs_sync_record` and its two helpers.  The nested switches read the
two records once and then issue calls, so the function is given in two steps:
`syncCase` finds the branch, `SyncCase.actions` lists the branch's calls in the
source's order, and `runActions` makes them.  The local record stays a pointer
throughout: a transmit after a store sends what the store left in the slot.
-/

namespace GnomePilot.Sync

variable {α : Type}

/-- `StandardAbsSyncDirection` -/
structure SyncDirection where
  toRemote : Bool
  toLocal : Bool
  deriving DecidableEq, Repr

def SyncToRemote : SyncDirection := ⟨true, false⟩
def SyncToLocal : SyncDirection := ⟨false, true⟩
def SyncBothWays : SyncDirection := ⟨true, true⟩

def LOG_CASE5 := "deleted PDA record modified locally, not deleting\n"
def LOG_CASE6 := "deleted local record modified on PDA, not deleting\n"
def LOG_CASE10 := "merge conflict, PDA and local record swapped\n"
def LOG_CASE13 := "archive and change conflict, PDA and local record swapped\n"
def LOG_CASE15 := "archive and change conflict, local record sent to PDA\n"
def LOG_CASE18 := "archive and change conflict, PDA record saved locally\n"
def LOG_CASE20 := "merge conflict, PDA and local record swapped\n"

/-! ## Helpers -/

def standardAbsDeleteFromPilot (s : SyncState α) (id : Nat) : SyncState α :=
  (s.deleteRecord id).ignoreRecord id

/-- `standard_abs_add_to_pilot`: the status is cleared before the write, and a
record the conduit did not return is dereferenced all the same. -/
def standardAbsAddToPilot (fl : Faults) (s : SyncState α) (u : Nat) : Nat × SyncState α :=
  match s.store.get u with
  | none => (0, s)
  | some l =>
    if fl.transmit u then
      (0, ((s.record (.transmit u false)).setStatus u .nothing).crash)
    else
      let s := (s.record (.transmit u true)).setStatus u .nothing
      if fl.writeRecord u then
        (0, s.record (.writeRecord u l.ID l.content false))
      else
        let assigned := s.pilot.assignedID l.ID
        let s := { s with
          pilot := s.pilot.dlpWriteRecord l.secret l.ID l.content
          calls := .writeRecord u l.ID l.content true :: s.calls }
        (assigned, s.ignoreRecord assigned)

/-! ## The branches -/

/-- The branches of `standard_abs_sync_record` with a local record, under the
case numbers of the source. -/
inductive SyncCase where
  | case3 | case4 | case5 | case6 | case7 | case8 | case9 | case10
  | case11 | case12 | case13 | case14 | case15 | case16 | case17 | case18
  | case19 | case20
  | caseE1
  | bothDeleted
  | unhandled
  deriving DecidableEq, Repr

/-- The `compare` callback: nonzero when the contents differ. -/
def compare [DecidableEq α] (l : LocalRecord α) (r : PilotRecord α) : Int :=
  if l.content = r.content then 0 else 1

/-- The nested switches.  A status without an arm ends in `unhandled`: the
archived switch has no default, the others warn. -/
def syncCase [DecidableEq α] (l : LocalRecord α) (r : PilotRecord α) : SyncCase :=
  if r.archived then
    match l.attr with
    | .modified =>
      if r.attr = .modified then
        if compare l r ≠ 0 then .case15 else .case14
      else .case13
    | .nothing => .case11
    | .deleted => .case12
    | _ => .unhandled
  else
    match r.attr with
    | .modified =>
      match l.attr with
      | .modified =>
        if compare l r ≠ 0 then
          if l.archived then .case20 else .case10
        else
          if l.archived then .case19 else .case9
      | .nothing => if l.archived then .case18 else .case7
      | .deleted => .case6
      | _ => .unhandled
    | .deleted =>
      if l.archived then .case17
      else
        match l.attr with
        | .modified => .case5
        | .deleted => .bothDeleted
        | .nothing => .case3
        | _ => .unhandled
    | .nothing =>
      if l.archived then .case16
      else
        match l.attr with
        | .deleted => .case4
        | .modified => .case8
        | .nothing => .caseE1
        | _ => .unhandled
    | _ => .unhandled

/-- The calls a branch makes. -/
inductive SyncAction where
  | addToPilot
  | storeRemote
  | archiveRemote
  | archiveLocal
  | deleteFromPilot
  | setStatus (attr : RecordAttr)
  | log (text : String)
  deriving DecidableEq, Repr

def SyncDirection.ifRemote (dir : SyncDirection) (acts : List SyncAction) : List SyncAction :=
  if dir.toRemote then acts else []

def SyncDirection.ifLocal (dir : SyncDirection) (acts : List SyncAction) : List SyncAction :=
  if dir.toLocal then acts else []

def SyncCase.actions (dir : SyncDirection) : SyncCase → List SyncAction
  | .case15 =>
    dir.ifRemote [.addToPilot] ++ dir.ifLocal [.storeRemote] ++ [.log LOG_CASE15]
  | .case14 => dir.ifLocal [.archiveRemote] ++ dir.ifRemote [.deleteFromPilot]
  | .case13 => dir.ifRemote [.addToPilot, .log LOG_CASE13]
  | .case11 | .case12 => dir.ifLocal [.archiveRemote]
  | .case20 =>
    dir.ifLocal [.storeRemote] ++ dir.ifRemote [.addToPilot] ++ [.log LOG_CASE20]
  | .case10 =>
    dir.ifRemote [.addToPilot] ++ dir.ifLocal [.storeRemote] ++ [.log LOG_CASE10]
  | .case19 => dir.ifLocal [.archiveLocal] ++ dir.ifRemote [.deleteFromPilot]
  | .case9 => dir.ifLocal [.setStatus .nothing]
  | .case18 => dir.ifLocal [.storeRemote, .log LOG_CASE18]
  | .case7 => dir.ifLocal [.storeRemote]
  | .case6 => dir.ifLocal [.storeRemote, .log LOG_CASE6]
  | .case17 => dir.ifLocal [.archiveLocal] ++ dir.ifRemote [.deleteFromPilot]
  | .case5 => dir.ifRemote [.addToPilot, .log LOG_CASE5]
  | .case3 => dir.ifRemote [.deleteFromPilot] ++ dir.ifLocal [.setStatus .deleted]
  | .case16 => dir.ifLocal [.archiveLocal] ++ dir.ifRemote [.deleteFromPilot]
  | .case4 => dir.ifRemote [.deleteFromPilot] ++ dir.ifLocal [.setStatus .deleted]
  | .case8 => dir.ifRemote [.addToPilot]
  | .bothDeleted | .caseE1 | .unhandled => []

def PilotRecord.cleared (r : PilotRecord α) : PilotRecord α :=
  { r with attr := .nothing, archived := false }

def perform (fl : Faults) (u : Nat) (r : PilotRecord α) (s : SyncState α) :
    SyncAction → SyncState α
  | .addToPilot => (standardAbsAddToPilot fl s u).2
  | .storeRemote => s.storeRemote fl r
  | .archiveRemote => s.archiveRemote (some u) r.cleared
  | .archiveLocal => s.archiveLocal u
  | .deleteFromPilot => standardAbsDeleteFromPilot s r.ID
  | .setStatus attr => s.setStatus u attr
  | .log text => s.logConflict text

def runActions (fl : Faults) (u : Nat) (r : PilotRecord α) (s : SyncState α)
    (acts : List SyncAction) : SyncState α :=
  acts.foldl (fun s a => if s.crashed then s else perform fl u r s a) s

theorem runActions_cons (fl : Faults) {u : Nat} {r : PilotRecord α} {s : SyncState α}
    (h : s.crashed = false) (a : SyncAction) (acts : List SyncAction) :
    runActions fl u r s (a :: acts) = runActions fl u r (perform fl u r s a) acts := by
  simp [runActions, h]

@[simp] theorem runActions_nil (fl : Faults) (u : Nat) (r : PilotRecord α) (s : SyncState α) :
    runActions fl u r s [] = s := rfl

/-! ## standard_abs_sync_record -/

def syncPair [DecidableEq α] (fl : Faults) (s : SyncState α) (u : Nat) (l : LocalRecord α)
    (r : PilotRecord α) (dir : SyncDirection) : SyncState α :=
  runActions fl u r s ((syncCase l r).actions dir)

/-- No local record exists: case 11 and case 1. -/
def syncRemoteOnly (fl : Faults) (s : SyncState α) (r : PilotRecord α) (dir : SyncDirection) :
    SyncState α :=
  if r.archived then
    if dir.toLocal then s.archiveRemote none r.cleared else s
  else if dir.toLocal then
    let s := s.storeRemote fl r
    match s.store.matchRecord r.ID with
    | some u => s.setStatus u .nothing
    | none => s
  else s

/-- `standard_abs_sync_record` called with a remote record and no local one. -/
def syncRecordRemote [DecidableEq α] (fl : Faults) (s : SyncState α) (r : PilotRecord α)
    (dir : SyncDirection) : SyncState α :=
  if s.crashed then s
  else if r.ID ∈ s.recordIdsToIgnore then s
  else
    match s.store.matchRecord r.ID with
    | none => syncRemoteOnly fl s r dir
    | some u =>
      match s.store.get u with
      | none => s
      | some l => syncPair fl s u l r dir

/-- The zeroed record `sync_record` works with when the read by ID fails: the
result of `dlp_ReadRecordById` is not looked at. -/
def unreadRecord [Inhabited α] (id : Nat) : PilotRecord α where
  ID := id
  attr := .nothing
  archived := false
  secret := false
  content := default

def readRecordById [Inhabited α] (fl : Faults) (s : SyncState α) (id : Nat) : PilotRecord α :=
  if fl.readRecordById id then unreadRecord id
  else
    match s.pilot.get id with
    | some d => standardAbsComputeAttrField id d
    | none => unreadRecord id

/-- `standard_abs_sync_record` called with a local record and no remote one. -/
def syncRecordLocal [DecidableEq α] [Inhabited α] (fl : Faults) (s : SyncState α) (u : Nat)
    (dir : SyncDirection) : SyncState α :=
  if s.crashed then s
  else
    match s.store.get u with
    | none => s
    | some l =>
      if l.ID ∈ s.recordIdsToIgnore then s
      else
        let r := readRecordById fl s l.ID
        syncPair fl (s.record (.readRecordById l.ID)) u l r dir

end GnomePilot.Sync
