import GnomePilot.Sync.Engine

/-!
# One record pair

The engine's effect on the records of one pilot ID depends on nothing else: the
local record and the pilot record with that ID, what was archived of them, and
whether the ID is to be ignored.  `Pair` is this part of a state, and the
definitions below are the engine's passes on it.  `GnomePilot.Sync.Simulation`
shows that every pass of the engine acts on each pair as stated here.
-/

namespace GnomePilot.Sync

variable {α : Type}

structure Pair (α : Type) where
  loc : Option (LocalRecord α)
  rem : Option (DlpRecord α)
  arch : List α
  ignored : Bool
  deriving DecidableEq, Repr

namespace Pair

/-- A pair before a run. -/
def start (loc : Option (LocalRecord α)) (rem : Option (DlpRecord α)) : Pair α :=
  { loc := loc, rem := rem, arch := [], ignored := false }

def perform (r : PilotRecord α) (p : Pair α) : SyncAction → Pair α
  | .addToPilot =>
    match p.loc with
    | none => p
    | some l =>
      { p with
        loc := some { l with attr := .nothing }
        rem := some (PilotDB.written l.secret l.content)
        ignored := true }
  | .storeRemote => { p with loc := some (SyncState.storedRecord r) }
  | .archiveRemote => { p with loc := none, arch := r.content :: p.arch }
  | .archiveLocal =>
    match p.loc with
    | none => p
    | some l => { p with loc := none, arch := l.content :: p.arch }
  | .deleteFromPilot => { p with rem := none, ignored := true }
  | .setStatus attr => { p with loc := p.loc.map (fun l => { l with attr := attr }) }
  | .log _ => p

/-- A call of `standard_abs_sync_record` with the pilot record of the pair. -/
def visit [DecidableEq α] (i : Nat) (dir : SyncDirection) (p : Pair α) : Pair α :=
  match p.rem with
  | none => p
  | some d =>
    if p.ignored then p
    else
      let r := standardAbsComputeAttrField i d
      match p.loc with
      | some l => ((syncCase l r).actions dir).foldl (perform r) p
      | none =>
        if dir.toLocal then
          if d.archived then { p with arch := d.content :: p.arch }
          else { p with loc := some (SyncState.storedRecord r) }
        else p

theorem visit_ignored [DecidableEq α] {i : Nat} {dir : SyncDirection} {p : Pair α}
    (h : p.ignored = true) : p.visit i dir = p := by
  unfold visit
  cases p.rem <;> simp [h]

theorem visit_both [DecidableEq α] {i : Nat} {dir : SyncDirection} {p : Pair α} {d : DlpRecord α}
    {l : LocalRecord α} (hrem : p.rem = some d) (hign : p.ignored = false)
    (hloc : p.loc = some l) :
    p.visit i dir = ((syncCase l (standardAbsComputeAttrField i d)).actions dir).foldl
      (perform (standardAbsComputeAttrField i d)) p := by
  simp [visit, hrem, hign, hloc]

theorem visit_remote_only [DecidableEq α] {i : Nat} {dir : SyncDirection} {p : Pair α}
    {d : DlpRecord α} (hrem : p.rem = some d) (hign : p.ignored = false) (hloc : p.loc = none) :
    p.visit i dir =
      if dir.toLocal then
        if d.archived then { p with arch := d.content :: p.arch }
        else { p with loc := some (SyncState.storedRecord (standardAbsComputeAttrField i d)) }
      else p := by
  simp [visit, hrem, hign, hloc]

/-- The record `standard_abs_sync_record` reads for a local record. -/
def readBack [Inhabited α] (i : Nat) (p : Pair α) : PilotRecord α :=
  match p.rem with
  | some d => standardAbsComputeAttrField i d
  | none => unreadRecord i

/-- A call of `standard_abs_sync_record` with the local record of the pair. -/
def resolve [DecidableEq α] [Inhabited α] (i : Nat) (dir : SyncDirection) (p : Pair α) : Pair α :=
  match p.loc with
  | none => p
  | some l =>
    if p.ignored then p
    else ((syncCase l (p.readBack i)).actions dir).foldl (perform (p.readBack i)) p

/-- The local record is one `iterate_specific (…, flag, 0)` returns. -/
def selected (flag : RecordAttr) (p : Pair α) : Bool :=
  p.loc.any (fun l => l.attr = flag && !l.archived)

def newPass (p : Pair α) : Pair α :=
  if p.selected .new then
    match p.loc with
    | none => p
    | some l =>
      { p with
        loc := some { l with attr := .nothing }
        rem := some (PilotDB.written l.secret l.content)
        ignored := true }
  else p

variable [DecidableEq α] [Inhabited α]

def resolvePass (flag : RecordAttr) (i : Nat) (dir : SyncDirection) (p : Pair α) : Pair α :=
  if p.selected flag then p.resolve i dir else p

/-- `standard_abs_merge_to_remote` on a pair. -/
def mergeToRemote (i : Nat) (dir : SyncDirection) (p : Pair α) : Pair α :=
  (if dir.toRemote then p.newPass else p).resolvePass .modified i dir

/-- The closing of a successful run on a pair. -/
def close (p : Pair α) : Pair α :=
  { p with
    loc := p.loc.filter (fun l => l.attr ≠ .deleted)
    rem := (p.rem.filter DlpRecord.live).map (fun d => { d with dirty := false }) }

/-- The two-way operation on a pair whose pilot record the main loop does or does
not reach. -/
def synchronize (i : Nat) (visited : Bool) (p : Pair α) : Pair α :=
  (((if visited then p.visit i SyncBothWays else p).mergeToRemote i SyncBothWays).resolvePass
    .deleted i SyncBothWays).close

end Pair

/-! ## Branches by their effect -/

/-- The branch deletes the pilot record in a two-way run. -/
def SyncCase.deletes : SyncCase → Bool
  | .case3 | .case4 | .case14 | .case16 | .case17 | .case19 => true
  | _ => false

/-- The branch sends the local record in a two-way run. -/
def SyncCase.sends : SyncCase → Bool
  | .case5 | .case8 | .case10 | .case13 | .case15 | .case20 => true
  | _ => false

theorem SyncCase.deletes_eq (c : SyncCase) :
    c.deletes = true ↔ .deleteFromPilot ∈ c.actions SyncBothWays := by
  cases c <;> decide

theorem SyncCase.sends_eq (c : SyncCase) :
    c.sends = true ↔ .addToPilot ∈ c.actions SyncBothWays := by
  cases c <;> decide

/-- The order of calls within a branch: a record is stored over a local record
only while that is there, and written only while the pilot record was not deleted. -/
def wellOrdered : Bool → Bool → List SyncAction → Bool
  | _, _, [] => true
  | present, kept, .storeRemote :: acts => present && wellOrdered present kept acts
  | present, kept, .addToPilot :: acts => kept && wellOrdered present kept acts
  | _, kept, .archiveRemote :: acts => wellOrdered false kept acts
  | _, kept, .archiveLocal :: acts => wellOrdered false kept acts
  | present, _, .deleteFromPilot :: acts => wellOrdered present false acts
  | present, kept, .setStatus _ :: acts => wellOrdered present kept acts
  | present, kept, .log _ :: acts => wellOrdered present kept acts

theorem SyncCase.actions_wellOrdered (dir : SyncDirection) (c : SyncCase) :
    wellOrdered true true (c.actions dir) = true := by
  rcases dir with ⟨_ | _, _ | _⟩ <;> cases c <;> rfl

end GnomePilot.Sync
