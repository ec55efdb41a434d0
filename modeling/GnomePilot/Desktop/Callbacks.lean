import GnomePilot.Desktop.Deletions
import GnomePilot.Lib.History

/-!
# The changing callbacks of the desktop conduits

What `add_record`, `replace_record`, `delete_record`, `archive_record` and
`set_pilot_id` do to the pid/uid map and to the server's objects.  The calendar,
to-do and memo conduits do the same to their components; the address conduit looks
at more of the server's answers.
-/

namespace GnomePilot

structure UidGenerator where
  next : List String → String
  fresh : ∀ used, next used ∉ used

/-- The map, the server and the changes of a running conduit.  `stored` has every uid
that an object of the server or an entry of the map has had so far. -/
structure DesktopState (α : Type) where
  map : EPilotMap
  store : EdsStore α
  changedHash : AList fun _ : String => Change α
  stored : List String

structure RemoteRecord (ρ : Type) where
  ID : UInt32
  content : ρ

section Callbacks

variable {α ρ : Type} (gen : UidGenerator) (convert : ρ → Option α → α)

/-- The uids of the objects that are there now count as stored from now on. -/
def DesktopState.note (s : DesktopState α) : DesktopState α :=
  { s with stored := s.stored ++ s.store.objects.map (·.uid) }

/-! ## Calendar, to-do and memo -/

/-- The new component gets a generated uid; under which one it was stored is not asked. -/
def ecalAddRecord (a : EdsAnswer) (s : DesktopState α) (remote : RemoteRecord ρ) :
    Int × DesktopState α :=
  let uid := gen.next s.stored
  match s.store.create a (some uid) (convert remote.content none) with
  | (none, store) => (-1, { s with store := store })
  | (some _, store) =>
      (0, { s with store := store, map := ePilotMapInsert s.map remote.ID uid false })

def ecalReplaceRecord (a : EdsAnswer) (s : DesktopState α) (rec : EdsObject α)
    (remote : RemoteRecord ρ) : Int × DesktopState α :=
  match s.store.modify a ⟨rec.uid, convert remote.content (some rec.content)⟩ with
  | (false, store) => (-1, { s with store := store })
  | (true, store) => (0, { s with store := store })

def ecalDeleteRecord (a : EdsAnswer) (s : DesktopState α) (rec : EdsObject α) :
    Int × DesktopState α :=
  (0, { s with map := ePilotMapRemoveByUid s.map rec.uid, store := (s.store.remove a rec.uid).2 })

def ecalArchiveRecord (s : DesktopState α) (rec : EdsObject α) (id : UInt32) (archive : Bool) :
    Int × DesktopState α :=
  (0, { s with map := ePilotMapInsert s.map id rec.uid archive })

def ecalSetPilotId (s : DesktopState α) (rec : EdsObject α) (id : UInt32) :
    Int × DesktopState α :=
  (0, { s with map := ePilotMapInsert s.map id rec.uid false })

/-! ## Address -/

/-- The new contact has no uid; it is entered under the one the server gave it. -/
def addressAddRecord (a : EdsAnswer) (s : DesktopState α) (remote : RemoteRecord ρ) :
    Int × DesktopState α :=
  match s.store.create a none (convert remote.content none) with
  | (none, store) => (-1, { s with store := store })
  | (some uid, store) =>
      (0, { s with store := store, map := ePilotMapInsert s.map remote.ID uid false })

def addressReplaceRecord (a : EdsAnswer) (s : DesktopState α) (rec : EdsObject α)
    (remote : RemoteRecord ρ) : Int × DesktopState α :=
  let contact : EdsObject α := ⟨rec.uid, convert remote.content (some rec.content)⟩
  let ebc := s.changedHash.lookup rec.uid
  if ebc.any fun ebc => ebc.type = .deleted then
    match s.store.create a (some contact.uid) contact.content with
    | (none, store) => (-1, { s with store := store })
    | (some _, store) =>
        let map := ePilotMapInsert s.map remote.ID contact.uid
          (ePilotMapUidIsArchived s.map contact.uid)
        (0, { s with
          store := store
          map := map
          changedHash := (s.changedHash.erase rec.uid).insert contact.uid ⟨contact, .deleted⟩ })
  else
    match s.store.modify a contact with
    | (false, store) => (-1, { s with store := store })
    | (true, store) => (0, { s with store := store })

/-- The map is changed first; an error other than a missing contact is reported. -/
def addressDeleteRecord (a : EdsAnswer) (s : DesktopState α) (rec : EdsObject α) :
    Int × DesktopState α :=
  let map := ePilotMapRemoveByUid s.map rec.uid
  match s.store.remove a rec.uid with
  | (some .other, store) => (-1, { s with map := map, store := store })
  | (_, store) => (0, { s with map := map, store := store })

def addressArchiveRecord (s : DesktopState α) (rec : EdsObject α) (id : UInt32)
    (archive : Bool) : Int × DesktopState α :=
  (0, { s with map := ePilotMapInsert s.map id rec.uid archive })

def addressSetPilotId (s : DesktopState α) (rec : EdsObject α) (id : UInt32) :
    Int × DesktopState α :=
  (0, { s with map := ePilotMapInsert s.map id rec.uid false })

/-! ## Any of the four -/

inductive DesktopConduit where
  | calendar
  | todo
  | memo
  | address
  deriving DecidableEq, Repr

inductive DesktopCallback (α ρ : Type) where
  | addRecord (remote : RemoteRecord ρ)
  | replaceRecord (rec : EdsObject α) (remote : RemoteRecord ρ)
  | deleteRecord (rec : EdsObject α)
  | archiveRecord (rec : EdsObject α) (id : UInt32) (archive : Bool)
  | setPilotId (rec : EdsObject α) (id : UInt32)

/-- What the three conduits of components do. -/
def ecalCallback (a : EdsAnswer) (s : DesktopState α) : DesktopCallback α ρ → Int × DesktopState α
  | .addRecord remote => ecalAddRecord gen convert a s remote
  | .replaceRecord rec remote => ecalReplaceRecord convert a s rec remote
  | .deleteRecord rec => ecalDeleteRecord a s rec
  | .archiveRecord rec id archive => ecalArchiveRecord s rec id archive
  | .setPilotId rec id => ecalSetPilotId s rec id

def addressCallback (a : EdsAnswer) (s : DesktopState α) :
    DesktopCallback α ρ → Int × DesktopState α
  | .addRecord remote => addressAddRecord convert a s remote
  | .replaceRecord rec remote => addressReplaceRecord convert a s rec remote
  | .deleteRecord rec => addressDeleteRecord a s rec
  | .archiveRecord rec id archive => addressArchiveRecord s rec id archive
  | .setPilotId rec id => addressSetPilotId s rec id

def DesktopConduit.callback (conduit : DesktopConduit) (s : DesktopState α)
    (call : DesktopCallback α ρ × EdsAnswer) : Int × DesktopState α :=
  let (result, s) := match conduit with
    | .calendar | .todo | .memo => ecalCallback gen convert call.2 s call.1
    | .address => addressCallback convert call.2 s call.1
  (result, s.note)

end Callbacks

end GnomePilot
