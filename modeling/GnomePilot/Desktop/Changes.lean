import GnomePilot.Desktop.Server
import GnomePilot.Device.Store
import GnomePilot.PilotMap.File

/-!
# Changes reported by the desktop conduits

The change list a desktop conduit builds in `pre_sync` and the iteration over it.
The to-do, memo and address conduits do the same on their own objects; the
calendar conduit splits events in between (`Desktop/Calendar.lean`).  `pre_sync` is
modelled from the loaded map and the listed objects on.
-/

namespace GnomePilot

variable {α : Type}

/-- `ECalChangeType`, `EBookChangeType`. -/
inductive ChangeType where
  | added
  | modified
  | deleted
  deriving DecidableEq, Repr

/-- `ECalChange`, `EBookChange`. -/
structure Change (α : Type) where
  comp : EdsObject α
  type : ChangeType
  deriving DecidableEq, Repr

/-- What a desktop conduit keeps during a sync.  `iterator` is the static variable
of `for_each_modified`, the rest of the change list from the current change on. -/
structure DesktopContext (α : Type) where
  map : EPilotMap
  comps : List (EdsObject α)
  changed : List (Change α)
  changedHash : AList fun _ : String => Change α
  iterator : List (Change α)
  addRecords : Nat
  modRecords : Nat
  delRecords : Nat
  slow : Bool

/-- The record a desktop conduit hands to the sync engine. -/
structure DesktopLocal (α : Type) where
  comp : EdsObject α
  ID : UInt32
  attr : RecordAttr
  archived : Bool
  secret : Bool
  deriving DecidableEq

/-! ## Building the change list -/

/-- Every listed object counts as modified; the list is built from the front. -/
def buildChanged (comps : List (EdsObject α)) : List (Change α) :=
  comps.foldl (fun changed comp => ⟨comp, .modified⟩ :: changed) []

/-- One turn of the loop that fills `changed_hash` and counts. -/
def hashChange (ctxt : DesktopContext α) (ccc : Change α) : DesktopContext α :=
  if !ePilotMapUidIsArchived ctxt.map ccc.comp.uid then
    let ctxt := { ctxt with changedHash := ctxt.changedHash.insert ccc.comp.uid ccc }
    match ccc.type with
    | .added => { ctxt with addRecords := ctxt.addRecords + 1 }
    | .modified => { ctxt with modRecords := ctxt.modRecords + 1 }
    | .deleted => { ctxt with delRecords := ctxt.delRecords + 1 }
  else if ccc.type = .deleted then
    { ctxt with map := ePilotMapRemoveByUid ctxt.map ccc.comp.uid }
  else ctxt

def hashChanges (map : EPilotMap) (slow : Bool) (comps : List (EdsObject α))
    (changed : List (Change α)) : DesktopContext α :=
  changed.foldl hashChange ⟨map, comps, changed, ∅, [], 0, 0, 0, slow⟩

/-- What `pre_sync` looks at besides the map and the objects: whether the
application block could be read, the conduit's slow flag, the source of this and of
the last sync, and whether the sync only copies. -/
structure PreSyncSettings where
  appBlockRead : Bool
  slow : Bool
  uri : Option String
  lastUri : Option String
  copies : Bool

def PreSyncSettings.otherSource (cfg : PreSyncSettings) : Bool :=
  match cfg.lastUri, cfg.uri with
  | some lastUri, some uri => lastUri ≠ uri
  | _, _ => false

def checkForSlowSetting (cfg : PreSyncSettings) (ctxt : DesktopContext α) : DesktopContext α :=
  let ctxt := if ctxt.map.pidMap.entries.length = 0 then { ctxt with slow := true } else ctxt
  let ctxt := if cfg.otherSource then
      { ctxt with slow := true, map := ePilotMapClear ctxt.map }
    else ctxt
  if ctxt.slow then { ctxt with map := { ctxt.map with writeTouchedOnly := true } } else ctxt

/-- The end of `pre_sync`, common to the conduits. -/
def finishPreSync (cfg : PreSyncSettings) (ctxt : DesktopContext α) :
    Int × DesktopContext α :=
  if cfg.appBlockRead then
    let ctxt := checkForSlowSetting cfg ctxt
    (0, if cfg.copies then { ctxt with map := { ctxt.map with writeTouchedOnly := true } }
      else ctxt)
  else (-1, ctxt)

def todoPreSync (cfg : PreSyncSettings) (map : EPilotMap) (comps : List (EdsObject α)) :
    Int × DesktopContext α :=
  finishPreSync cfg (hashChanges map cfg.slow comps (buildChanged comps))

def memoPreSync (cfg : PreSyncSettings) (map : EPilotMap) (comps : List (EdsObject α)) :
    Int × DesktopContext α :=
  finishPreSync cfg (hashChanges map cfg.slow comps (buildChanged comps))

/-- The address conduit turns its list around once more. -/
def addressPreSync (cfg : PreSyncSettings) (map : EPilotMap) (cards : List (EdsObject α)) :
    Int × DesktopContext α :=
  finishPreSync cfg (hashChanges map cfg.slow cards (buildChanged cards).reverse)

/-! ## Iterating -/

def computeStatus (ctxt : DesktopContext α) (uid : String) : RecordAttr :=
  match ctxt.changedHash.lookup uid with
  | none => .nothing
  | some ccc =>
      match ccc.type with
      | .added => .new
      | .modified => .modified
      | .deleted => .deleted

def localRecordFromComp (ctxt : DesktopContext α) (comp : EdsObject α) :
    DesktopLocal α × DesktopContext α :=
  let (id, map) := ePilotMapLookupPid ctxt.map comp.uid true
  let ctxt := { ctxt with map := map }
  (⟨comp, id, computeStatus ctxt comp.uid, false, false⟩, ctxt)

def nextChangedItem (ctxt : DesktopContext α) (changes : List (Change α)) : List (Change α) :=
  changes.dropWhile fun ccc => (ctxt.changedHash.lookup ccc.comp.uid).isNone

/-- One call, with a null record at first and the last one reported later on. -/
def forEachModified (ctxt : DesktopContext α) (started : Bool) :
    Option (DesktopLocal α) × DesktopContext α :=
  let iterator := nextChangedItem ctxt (if started then ctxt.iterator.tail else ctxt.changed)
  let ctxt := { ctxt with iterator := iterator }
  match iterator with
  | [] => (none, ctxt)
  | ccc :: _ =>
      let (record, ctxt) := localRecordFromComp ctxt ccc.comp
      (some record, ctxt)

def forEachModifiedLoop : Nat → DesktopContext α → Bool → List (DesktopLocal α)
  | 0, _, _ => []
  | fuel + 1, ctxt, started =>
      match forEachModified ctxt started with
      | (none, _) => []
      | (some record, ctxt) => record :: forEachModifiedLoop fuel ctxt true

/-- The records reported as locally changed; every call but the last moves on in
the change list. -/
def modifiedRecords (ctxt : DesktopContext α) : List (DesktopLocal α) :=
  forEachModifiedLoop (ctxt.changed.length + 1) ctxt false

/-- The record the iteration makes of a change. -/
def DesktopContext.recordOf (ctxt : DesktopContext α) (ccc : Change α) : DesktopLocal α :=
  ⟨ccc.comp, ctxt.map.pidOf ccc.comp.uid, computeStatus ctxt ccc.comp.uid, false, false⟩

/-- The change is reported when the iteration comes to it. -/
def DesktopContext.reports (ctxt : DesktopContext α) (ccc : Change α) : Bool :=
  (ctxt.changedHash.lookup ccc.comp.uid).isSome

theorem filter_reports_eq (ctxt : DesktopContext α) (changes : List (Change α)) :
    changes.filter ctxt.reports = match nextChangedItem ctxt changes with
      | [] => []
      | ccc :: rest => ccc :: rest.filter ctxt.reports := by
  induction changes with
  | nil => rfl
  | cons ccc changes ih =>
      cases h : ctxt.changedHash.lookup ccc.comp.uid with
      | none => simpa [nextChangedItem, DesktopContext.reports, h] using ih
      | some c => simp [nextChangedItem, DesktopContext.reports, h]

theorem length_nextChangedItem_le (ctxt : DesktopContext α) (changes : List (Change α)) :
    (nextChangedItem ctxt changes).length ≤ changes.length :=
  (List.dropWhile_sublist _).length_le

theorem forEachModifiedLoop_eq (fuel : Nat) (ctxt : DesktopContext α) (started : Bool)
    {changes : List (Change α)}
    (hchanges : (if started then ctxt.iterator.tail else ctxt.changed) = changes)
    (hfuel : changes.length < fuel) :
    forEachModifiedLoop fuel ctxt started =
      (changes.filter ctxt.reports).map ctxt.recordOf := by
  induction fuel generalizing ctxt started changes with
  | zero => omega
  | succ fuel ih =>
      have hlength := length_nextChangedItem_le ctxt changes
      rw [filter_reports_eq, forEachModifiedLoop, forEachModified, hchanges]
      cases hnext : nextChangedItem ctxt changes with
      | nil => rfl
      | cons ccc rest =>
          rw [hnext, List.length_cons] at hlength
          simp only [List.map_cons, localRecordFromComp]
          congr 1
          · simp [DesktopContext.recordOf, EPilotMap.lookupPid_fst, computeStatus]
          · -- looking up the pilot id touches the map but changes no record
            rw [@ih _ true rest rfl (by omega)]
            congr 1
            funext c
            simp [DesktopContext.recordOf, EPilotMap.pidOf_lookupPid, computeStatus]

theorem modifiedRecords_eq (ctxt : DesktopContext α) :
    modifiedRecords ctxt = (ctxt.changed.filter ctxt.reports).map ctxt.recordOf :=
  forEachModifiedLoop_eq _ ctxt false rfl (by omega)

/-! ## What `pre_sync` leaves behind -/

def lastChange (changed : List (Change α)) (u : String) : Option (Change α) :=
  changed.reverse.find? fun ccc => ccc.comp.uid = u

theorem lastChange_cons (ccc : Change α) (changed : List (Change α)) (u : String) :
    lastChange (ccc :: changed) u =
      (lastChange changed u).or (if ccc.comp.uid = u then some ccc else none) := by
  unfold lastChange
  rw [List.reverse_cons, List.find?_append]
  congr 1
  by_cases h : ccc.comp.uid = u
  · simp [h]
  · simp [h]

/-- Where no archived object is deleted, the loop leaves the map alone and the last
change of every unarchived uid in the hash. -/
theorem foldl_hashChange (changed : List (Change α)) (ctxt : DesktopContext α)
    (h : ∀ ccc ∈ changed, ccc.type = .deleted →
      ePilotMapUidIsArchived ctxt.map ccc.comp.uid = false) :
    (changed.foldl hashChange ctxt).map = ctxt.map ∧
    (changed.foldl hashChange ctxt).changed = ctxt.changed ∧
    (changed.foldl hashChange ctxt).comps = ctxt.comps ∧
    ∀ u, (changed.foldl hashChange ctxt).changedHash.lookup u =
      if ePilotMapUidIsArchived ctxt.map u then ctxt.changedHash.lookup u
      else (lastChange changed u).or (ctxt.changedHash.lookup u) := by
  induction changed generalizing ctxt with
  | nil => simp [lastChange]
  | cons ccc changed ih =>
      have hrest : ∀ c ∈ changed, c.type = .deleted →
          ePilotMapUidIsArchived ctxt.map c.comp.uid = false := fun c hc =>
        h c (by simp [hc])
      rw [List.foldl_cons]
      cases ha : ePilotMapUidIsArchived ctxt.map ccc.comp.uid with
      | true =>
          have hne : ccc.type ≠ .deleted := fun hd => by simp [h ccc (by simp) hd] at ha
          have hstep : hashChange ctxt ccc = ctxt := by simp [hashChange, ha, hne]
          obtain ⟨hmap, hchanged, hcomps, hhash⟩ := ih ctxt hrest
          rw [hstep]
          refine ⟨hmap, hchanged, hcomps, fun u => ?_⟩
          rw [hhash u, lastChange_cons]
          by_cases hu : ccc.comp.uid = u
          · simp [← hu, ha]
          · simp [hu]
      | false =>
          have hstep : (hashChange ctxt ccc).map = ctxt.map ∧
              (hashChange ctxt ccc).changed = ctxt.changed ∧
              (hashChange ctxt ccc).comps = ctxt.comps ∧
              (hashChange ctxt ccc).changedHash = ctxt.changedHash.insert ccc.comp.uid ccc := by
            cases htype : ccc.type with
            | added => simp [hashChange, ha, htype]
            | modified => simp [hashChange, ha, htype]
            | deleted => simp [hashChange, ha, htype]
          obtain ⟨smap, schanged, scomps, shash⟩ := hstep
          obtain ⟨hmap, hchanged, hcomps, hhash⟩ := ih (hashChange ctxt ccc) (by rwa [smap])
          refine ⟨hmap.trans smap, hchanged.trans schanged, hcomps.trans scomps, fun u => ?_⟩
          rw [hhash u, smap, shash, HashTable.lookup_insert_ite, lastChange_cons]
          by_cases hu : u = ccc.comp.uid
          · subst hu
            simp [ha]
          · simp [hu, Ne.symm hu]

theorem checkForSlowSetting_fields (cfg : PreSyncSettings) (ctxt : DesktopContext α) :
    (checkForSlowSetting cfg ctxt).changed = ctxt.changed ∧
    (checkForSlowSetting cfg ctxt).changedHash = ctxt.changedHash ∧
    (checkForSlowSetting cfg ctxt).comps = ctxt.comps ∧
    ((checkForSlowSetting cfg ctxt).map.uidMap =
      if cfg.otherSource then ∅ else ctxt.map.uidMap) ∧
    (checkForSlowSetting cfg ctxt).map.pidMap =
      if cfg.otherSource then ∅ else ctxt.map.pidMap := by
  unfold checkForSlowSetting
  cases cfg.otherSource with
  | true =>
      by_cases h0 : ctxt.map.pidMap.entries.length = 0
      · simp [h0, ePilotMapClear]
      · simp [h0, ePilotMapClear]
  | false =>
      by_cases h0 : ctxt.map.pidMap.entries.length = 0
      · simp [h0]
      · cases hs : ctxt.slow with
        | true => simp [h0, hs]
        | false => simp [h0, hs]

/-- Nothing but the map and the slow flag changes at the end of `pre_sync`, and the
map loses its entries if the source is another one. -/
theorem finishPreSync_fields (cfg : PreSyncSettings) (ctxt : DesktopContext α)
    (happ : cfg.appBlockRead = true) :
    (finishPreSync cfg ctxt).1 = 0 ∧
    (finishPreSync cfg ctxt).2.changed = ctxt.changed ∧
    (finishPreSync cfg ctxt).2.changedHash = ctxt.changedHash ∧
    (finishPreSync cfg ctxt).2.comps = ctxt.comps ∧
    ((finishPreSync cfg ctxt).2.map.uidMap =
      if cfg.otherSource then ∅ else ctxt.map.uidMap) ∧
    (finishPreSync cfg ctxt).2.map.pidMap =
      if cfg.otherSource then ∅ else ctxt.map.pidMap := by
  obtain ⟨hchanged, hhash, hcomps, huid, hpid⟩ := checkForSlowSetting_fields cfg ctxt
  unfold finishPreSync
  cases hc : cfg.copies with
  | true => simp [happ, hchanged, hhash, hcomps, huid, hpid]
  | false => simp [happ, hchanged, hhash, hcomps, huid, hpid]

end GnomePilot
