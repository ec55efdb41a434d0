import Mathlib.Logic.Function.Basic
import Mathlib.Data.List.Nodup

/-!
# The pilot database

A database on the pilot as the DLP calls of the conduits see it: records under
their ID, in index order, each with the attribute bits of its header.  The
device allocates record IDs from a seed that only grows, so an ID is never
handed out twice.
-/

namespace GnomePilot

/-- A record on the pilot: the `dlpRecAttr` bits and the data. -/
structure DlpRecord (α : Type) where
  secret : Bool
  dirty : Bool
  deleted : Bool
  archived : Bool
  content : α
  deriving DecidableEq, Repr

/-- `dlp_ReadNextModifiedRec` returns the records with one of these bits set. -/
def DlpRecord.flagged {α : Type} (d : DlpRecord α) : Bool :=
  d.dirty || d.deleted || d.archived

/-- Neither deleted nor archived: what `dlp_CleanUpDatabase` keeps. -/
def DlpRecord.live {α : Type} (d : DlpRecord α) : Bool :=
  !d.deleted && !d.archived

/-- `order` lists the record IDs by index; every ID was allocated below the seed. -/
structure PilotDB (α : Type) where
  order : List Nat
  get : Nat → Option (DlpRecord α)
  uniqueIDSeed : Nat
  order_nodup : order.Nodup
  mem_order : ∀ i, i ∈ order ↔ (get i).isSome
  order_issued : ∀ i ∈ order, 0 < i ∧ i < uniqueIDSeed
  seed_pos : 0 < uniqueIDSeed

namespace PilotDB

variable {α : Type}

theorem get_issued {db : PilotDB α} {i : Nat} {d : DlpRecord α} (h : db.get i = some d) :
    0 < i ∧ i < db.uniqueIDSeed :=
  db.order_issued i ((db.mem_order i).2 (by simp [h]))

theorem get_eq_none_of_seed_le {db : PilotDB α} {i : Nat} (h : db.uniqueIDSeed ≤ i) :
    db.get i = none := by
  cases hg : db.get i with
  | none => rfl
  | some d =>
      have hi := get_issued hg
      omega

@[simp] theorem get_zero (db : PilotDB α) : db.get 0 = none := by
  cases hg : db.get 0 with
  | none => rfl
  | some d =>
      have hi := get_issued hg
      omega

/-! ## Building a database -/

/-- The database holding `records` in this order. -/
def ofList (records : List (Nat × DlpRecord α)) (seed : Nat)
    (hnodup : (records.map Prod.fst).Nodup)
    (hissued : ∀ i ∈ records.map Prod.fst, 0 < i ∧ i < seed) (hseed : 0 < seed) :
    PilotDB α where
  order := records.map Prod.fst
  get i := (records.find? (fun e => e.1 = i)).map Prod.snd
  uniqueIDSeed := seed
  order_nodup := hnodup
  mem_order i := by
    simp only [List.mem_map, Option.isSome_map, List.find?_isSome, decide_eq_true_eq]
  order_issued := hissued
  seed_pos := hseed

theorem mem_of_get_ofList {records : List (Nat × DlpRecord α)} {seed : Nat}
    {hnodup : (records.map Prod.fst).Nodup}
    {hissued : ∀ i ∈ records.map Prod.fst, 0 < i ∧ i < seed} {hseed : 0 < seed} {i : Nat}
    {d : DlpRecord α} (h : (ofList records seed hnodup hissued hseed).get i = some d) :
    (i, d) ∈ records := by
  obtain ⟨e, he, hd⟩ := Option.map_eq_some_iff.mp h
  have hi : e.1 = i := by simpa using List.find?_some he
  rw [← hi, ← hd]
  exact List.mem_of_find?_eq_some he

/-! ## DLP calls -/

/-- Store a record under a known or new ID; a new one goes to the end. -/
def put (db : PilotDB α) (i : Nat) (hi : 0 < i) (d : DlpRecord α) : PilotDB α where
  order := if i ∈ db.order then db.order else db.order ++ [i]
  get := Function.update db.get i (some d)
  uniqueIDSeed := max db.uniqueIDSeed (i + 1)
  order_nodup := by
    split
    · exact db.order_nodup
    · rename_i hmem
      exact db.order_nodup.append (List.nodup_singleton i) (by simpa using hmem)
  mem_order j := by
    by_cases hj : j = i
    · subst hj
      by_cases hmem : j ∈ db.order <;> simp [hmem]
    · rw [Function.update_of_ne hj, ← db.mem_order j]
      split <;> simp [hj]
  order_issued j hj := by
    have hcase : j ∈ db.order ∨ j = i := by
      by_cases hmem : i ∈ db.order
      · rw [if_pos hmem] at hj
        exact Or.inl hj
      · rw [if_neg hmem] at hj
        simpa using hj
    rcases hcase with hj | rfl
    · have := db.order_issued j hj
      omega
    · omega
  seed_pos := by omega

/-- The ID `dlp_WriteRecord` returns: the given one, or a fresh one for ID 0. -/
def assignedID (db : PilotDB α) (id : Nat) : Nat :=
  if id = 0 then db.uniqueIDSeed else id

theorem assignedID_pos (db : PilotDB α) (id : Nat) : 0 < db.assignedID id := by
  unfold assignedID
  split
  · exact db.seed_pos
  · omega

/-- What a written record looks like: only the secret bit is passed, the device
sets the dirty bit. -/
def written (secret : Bool) (content : α) : DlpRecord α :=
  { secret := secret, dirty := true, deleted := false, archived := false, content := content }

def dlpWriteRecord (db : PilotDB α) (secret : Bool) (id : Nat) (content : α) : PilotDB α :=
  db.put (db.assignedID id) (db.assignedID_pos id) (written secret content)

/-- Later records move one index down; an unknown ID changes nothing. -/
def dlpDeleteRecord (db : PilotDB α) (id : Nat) : PilotDB α where
  order := db.order.filter (fun i => i ≠ id)
  get := Function.update db.get id none
  uniqueIDSeed := db.uniqueIDSeed
  order_nodup := db.order_nodup.filter _
  mem_order j := by
    by_cases hj : j = id
    · simp [hj]
    · simp [hj, db.mem_order]
  order_issued j hj := db.order_issued j (List.mem_filter.mp hj).1
  seed_pos := db.seed_pos

/-- `dlp_DeleteRecord` with its `all` argument set. -/
def dlpDeleteAll (db : PilotDB α) : PilotDB α where
  order := []
  get _ := none
  uniqueIDSeed := db.uniqueIDSeed
  order_nodup := List.nodup_nil
  mem_order _ := by simp
  order_issued _ h := by simp at h
  seed_pos := db.seed_pos

def dlpCleanUpDatabase (db : PilotDB α) : PilotDB α where
  order := db.order.filter (fun i => (db.get i).any DlpRecord.live)
  get i := (db.get i).filter DlpRecord.live
  uniqueIDSeed := db.uniqueIDSeed
  order_nodup := db.order_nodup.filter _
  mem_order j := by
    rw [List.mem_filter, db.mem_order]
    cases db.get j <;> simp [Option.filter]
  order_issued j hj := db.order_issued j (List.mem_filter.mp hj).1
  seed_pos := db.seed_pos

def dlpResetSyncFlags (db : PilotDB α) : PilotDB α where
  order := db.order
  get i := (db.get i).map (fun d => { d with dirty := false })
  uniqueIDSeed := db.uniqueIDSeed
  order_nodup := db.order_nodup
  mem_order j := by simp [db.mem_order]
  order_issued := db.order_issued
  seed_pos := db.seed_pos

/-- `dlp_ReadRecordByIndex`: ID and record at an index, `none` past the end. -/
def dlpReadRecordByIndex (db : PilotDB α) (index : Nat) : Option (Nat × DlpRecord α) := do
  let i ← db.order[index]?
  let d ← db.get i
  return (i, d)

/-! ## What the calls do to the records -/

@[simp] theorem get_put (db : PilotDB α) (i : Nat) (hi : 0 < i) (d : DlpRecord α) (j : Nat) :
    (db.put i hi d).get j = if j = i then some d else db.get j := by
  simp [put, Function.update_apply]

@[simp] theorem seed_put (db : PilotDB α) (i : Nat) (hi : 0 < i) (d : DlpRecord α) :
    (db.put i hi d).uniqueIDSeed = max db.uniqueIDSeed (i + 1) := rfl

theorem order_put_of_mem (db : PilotDB α) {i : Nat} (hi : 0 < i) (d : DlpRecord α)
    (hmem : i ∈ db.order) : (db.put i hi d).order = db.order := by
  simp [put, hmem]

@[simp] theorem get_dlpWriteRecord (db : PilotDB α) (secret : Bool) (id : Nat) (content : α)
    (j : Nat) : (db.dlpWriteRecord secret id content).get j =
      if j = db.assignedID id then some (written secret content) else db.get j := by
  simp [dlpWriteRecord]

@[simp] theorem get_dlpDeleteRecord (db : PilotDB α) (id j : Nat) :
    (db.dlpDeleteRecord id).get j = if j = id then none else db.get j := by
  simp [dlpDeleteRecord, Function.update_apply]

@[simp] theorem seed_dlpDeleteRecord (db : PilotDB α) (id : Nat) :
    (db.dlpDeleteRecord id).uniqueIDSeed = db.uniqueIDSeed := rfl

@[simp] theorem order_dlpDeleteRecord (db : PilotDB α) (id : Nat) :
    (db.dlpDeleteRecord id).order = db.order.filter (fun i => i ≠ id) := rfl

@[simp] theorem get_dlpCleanUpDatabase (db : PilotDB α) (j : Nat) :
    db.dlpCleanUpDatabase.get j = (db.get j).filter DlpRecord.live := rfl

@[simp] theorem get_dlpResetSyncFlags (db : PilotDB α) (j : Nat) :
    db.dlpResetSyncFlags.get j = (db.get j).map (fun d => { d with dirty := false }) := rfl

@[simp] theorem get_dlpDeleteAll (db : PilotDB α) (j : Nat) : db.dlpDeleteAll.get j = none := rfl

@[simp] theorem seed_dlpDeleteAll (db : PilotDB α) :
    db.dlpDeleteAll.uniqueIDSeed = db.uniqueIDSeed := rfl

theorem assignedID_of_ne_zero (db : PilotDB α) {id : Nat} (h : id ≠ 0) :
    db.assignedID id = id := if_neg h

@[simp] theorem assignedID_zero (db : PilotDB α) : db.assignedID 0 = db.uniqueIDSeed := rfl

/-- Writing under an ID already handed out leaves the seed where it is. -/
theorem seed_dlpWriteRecord_of_issued (db : PilotDB α) (secret : Bool) {id : Nat} (content : α)
    (h0 : id ≠ 0) (hlt : id < db.uniqueIDSeed) :
    (db.dlpWriteRecord secret id content).uniqueIDSeed = db.uniqueIDSeed := by
  simp only [dlpWriteRecord, seed_put, assignedID_of_ne_zero db h0]
  omega

@[simp] theorem seed_dlpWriteRecord_zero (db : PilotDB α) (secret : Bool) (content : α) :
    (db.dlpWriteRecord secret 0 content).uniqueIDSeed = db.uniqueIDSeed + 1 := by
  simp only [dlpWriteRecord, seed_put, assignedID_zero]
  omega

/-- A read by index succeeds exactly below the number of records. -/
theorem dlpReadRecordByIndex_eq {db : PilotDB α} {index i : Nat} {d : DlpRecord α}
    (ho : db.order[index]? = some i) (hg : db.get i = some d) :
    db.dlpReadRecordByIndex index = some (i, d) := by
  simp [dlpReadRecordByIndex, ho, hg]

theorem dlpReadRecordByIndex_of_drop {db : PilotDB α} {index i : Nat} {rest : List Nat}
    (h : db.order.drop index = i :: rest) : i ∈ db.order ∧ ∃ d, db.get i = some d ∧
      db.dlpReadRecordByIndex index = some (i, d) := by
  have hget? : db.order[index]? = some i := by
    have h0 := congrArg (fun xs : List Nat => xs[0]?) h
    simpa [List.getElem?_drop] using h0
  have hmem : i ∈ db.order := List.mem_of_getElem? hget?
  obtain ⟨d, hd⟩ := Option.isSome_iff_exists.mp ((db.mem_order i).1 hmem)
  exact ⟨hmem, d, hd, dlpReadRecordByIndex_eq hget? hd⟩

theorem dlpReadRecordByIndex_eq_none {db : PilotDB α} {index : Nat}
    (h : db.order.length ≤ index) : db.dlpReadRecordByIndex index = none := by
  simp [dlpReadRecordByIndex, List.getElem?_eq_none h]

end PilotDB

end GnomePilot
