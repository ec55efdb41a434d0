import Mathlib.Logic.Function.Basic
import Mathlib.Data.List.Nodup

/-!
# The conduit's local store

The records a conduit keeps on the desktop.  The sync engine holds a local
record by pointer; here a pointer is a slot number.  A removed record leaves its
slot empty and a new one goes to the next slot, so a pointer never comes to
mean another record.
-/

namespace GnomePilot

/-- The `GnomePilotRecord…` status values. -/
inductive RecordAttr where
  | nothing
  | new
  | deleted
  | modified
  | pending
  deriving DecidableEq, Repr

/-- The `LocalRecord` header together with the data the conduit keeps for it. -/
structure LocalRecord (α : Type) where
  attr : RecordAttr
  archived : Bool
  secret : Bool
  ID : Nat
  content : α
  deriving DecidableEq, Repr

/-- The status marks a change the pilot has not seen. -/
def RecordAttr.changed : RecordAttr → Bool
  | .new | .modified => true
  | _ => false

/-- Neither deleted nor archived. -/
def LocalRecord.live {α : Type} (l : LocalRecord α) : Bool :=
  l.attr ≠ .deleted && !l.archived

/-- Records by slot; slots from `size` on have not been used yet. -/
structure LocalStore (α : Type) where
  get : Nat → Option (LocalRecord α)
  size : Nat
  bounded : ∀ u, size ≤ u → get u = none

namespace LocalStore

variable {α : Type}

theorem lt_size {st : LocalStore α} {u : Nat} {l : LocalRecord α} (h : st.get u = some l) :
    u < st.size := by
  by_cases hu : st.size ≤ u
  · rw [st.bounded u hu] at h
    contradiction
  · omega

/-- The store holding `records` in this order. -/
def ofList (records : List (LocalRecord α)) : LocalStore α where
  get u := records[u]?
  size := records.length
  bounded _ h := List.getElem?_eq_none h

def modify (st : LocalStore α) (u : Nat) (f : LocalRecord α → LocalRecord α) : LocalStore α where
  get := Function.update st.get u ((st.get u).map f)
  size := st.size
  bounded v hv := by
    by_cases h : v = u
    · subst h
      simp [st.bounded v hv]
    · simp [h, st.bounded v hv]

/-- Remove the record a pointer designates. -/
def remove (st : LocalStore α) (u : Nat) : LocalStore α where
  get := Function.update st.get u none
  size := st.size
  bounded v hv := by
    by_cases h : v = u
    · simp [h]
    · simp [h, st.bounded v hv]

def insert (st : LocalStore α) (l : LocalRecord α) : LocalStore α where
  get := Function.update st.get st.size (some l)
  size := st.size + 1
  bounded v hv := by
    rw [Function.update_of_ne (by omega)]
    exact st.bounded v (by omega)

/-- `delete_all`: the slots stay used, no pointer into them survives. -/
def clear (st : LocalStore α) : LocalStore α where
  get _ := none
  size := st.size
  bounded _ _ := rfl

/-- `purge` drops the records whose status is Deleted. -/
def purge (st : LocalStore α) : LocalStore α where
  get u := (st.get u).filter (fun l => l.attr ≠ .deleted)
  size := st.size
  bounded u hu := by simp [st.bounded u hu]

/-- `match_record`: the slot of the first record with this pilot ID. -/
def matchRecord (st : LocalStore α) (id : Nat) : Option Nat :=
  (List.range st.size).find? (fun u => (st.get u).any (fun l => l.ID = id))

@[simp] theorem get_modify (st : LocalStore α) (u v : Nat) (f : LocalRecord α → LocalRecord α) :
    (st.modify u f).get v = if v = u then (st.get u).map f else st.get v := by
  simp [modify, Function.update_apply]

@[simp] theorem size_modify (st : LocalStore α) (u : Nat) (f : LocalRecord α → LocalRecord α) :
    (st.modify u f).size = st.size := rfl

@[simp] theorem get_remove (st : LocalStore α) (u v : Nat) :
    (st.remove u).get v = if v = u then none else st.get v := by
  simp [remove, Function.update_apply]

@[simp] theorem size_remove (st : LocalStore α) (u : Nat) : (st.remove u).size = st.size := rfl

@[simp] theorem get_insert (st : LocalStore α) (l : LocalRecord α) (v : Nat) :
    (st.insert l).get v = if v = st.size then some l else st.get v := by
  simp [insert, Function.update_apply]

@[simp] theorem size_insert (st : LocalStore α) (l : LocalRecord α) :
    (st.insert l).size = st.size + 1 := rfl

@[simp] theorem get_purge (st : LocalStore α) (u : Nat) :
    st.purge.get u = (st.get u).filter (fun l => l.attr ≠ .deleted) := rfl

@[simp] theorem size_purge (st : LocalStore α) : st.purge.size = st.size := rfl

@[simp] theorem get_clear (st : LocalStore α) (u : Nat) : st.clear.get u = none := rfl

@[simp] theorem size_clear (st : LocalStore α) : st.clear.size = st.size := rfl

@[simp] theorem get_ofList (records : List (LocalRecord α)) (u : Nat) :
    (ofList records).get u = records[u]? := rfl

@[simp] theorem size_ofList (records : List (LocalRecord α)) :
    (ofList records).size = records.length := rfl

/-! ## Records keyed by pilot ID -/

/-- No two records share a pilot ID; ID 0 stands for no ID. -/
def Keyed (st : LocalStore α) : Prop :=
  ∀ u v l m, st.get u = some l → st.get v = some m → l.ID = m.ID → l.ID ≠ 0 → u = v

theorem keyed_ofList {records : List (LocalRecord α)}
    (h : records.Pairwise (fun l m => l.ID = m.ID → l.ID = 0)) : (ofList records).Keyed := by
  intro u v l m hl hm hid h0
  obtain ⟨hu, rfl⟩ := List.getElem?_eq_some_iff.mp hl
  obtain ⟨hv, rfl⟩ := List.getElem?_eq_some_iff.mp hm
  rw [List.pairwise_iff_getElem] at h
  rcases Nat.lt_trichotomy u v with huv | huv | huv
  · exact absurd (h u v hu hv huv hid) h0
  · exact huv
  · exact absurd ((h v u hv hu huv hid.symm)) (by omega)

def recordAt (st : LocalStore α) (id : Nat) : Option (LocalRecord α) :=
  (st.matchRecord id).bind st.get

theorem matchRecord_some {st : LocalStore α} {id u : Nat} (h : st.matchRecord id = some u) :
    ∃ l, st.get u = some l ∧ l.ID = id := by
  have hp := List.find?_some h
  cases hg : st.get u with
  | none => simp [hg] at hp
  | some l =>
      refine ⟨l, rfl, ?_⟩
      simpa [hg] using hp

theorem matchRecord_eq_none {st : LocalStore α} {id : Nat} :
    st.matchRecord id = none ↔ ∀ u l, st.get u = some l → l.ID ≠ id := by
  unfold matchRecord
  rw [List.find?_eq_none]
  constructor
  · intro h u l hl heq
    apply h u (List.mem_range.mpr (lt_size hl))
    simp [hl, heq]
  · intro h u _ hany
    cases hg : st.get u with
    | none => simp [hg] at hany
    | some l => exact h u l hg (by simpa [hg] using hany)

theorem ID_of_recordAt {st : LocalStore α} {id : Nat} {l : LocalRecord α}
    (h : st.recordAt id = some l) : l.ID = id := by
  obtain ⟨u, hm, hg⟩ := Option.bind_eq_some_iff.mp h
  obtain ⟨m, hg', hid⟩ := matchRecord_some hm
  rw [hg] at hg'
  cases hg'
  exact hid

theorem matchRecord_insert {st : LocalStore α} {l : LocalRecord α}
    (h : st.matchRecord l.ID = none) : (st.insert l).matchRecord l.ID = some st.size := by
  cases hm : (st.insert l).matchRecord l.ID with
  | none =>
      exact absurd rfl (matchRecord_eq_none.mp hm st.size l (by simp))
  | some v =>
      obtain ⟨m, hg, hid⟩ := matchRecord_some hm
      by_cases hv : v = st.size
      · rw [hv]
      · rw [get_insert, if_neg hv] at hg
        exact absurd hid (matchRecord_eq_none.mp h v m hg)

/-- No two records share a pilot ID below `base`. -/
def KeyedBelow (base : Nat) (st : LocalStore α) : Prop :=
  ∀ u v l m, st.get u = some l → st.get v = some m → l.ID = m.ID → l.ID ≠ 0 → l.ID < base → u = v

theorem Keyed.below {st : LocalStore α} (hk : st.Keyed) (base : Nat) : st.KeyedBelow base :=
  fun u v l m hl hm hid h0 _ => hk u v l m hl hm hid h0

theorem KeyedBelow.mono {base base' : Nat} {st : LocalStore α} (hk : st.KeyedBelow base')
    (hle : base ≤ base') : st.KeyedBelow base :=
  fun u v l m hl hm hid h0 hb => hk u v l m hl hm hid h0 (Nat.lt_of_lt_of_le hb hle)

theorem KeyedBelow.matchRecord_eq {base : Nat} {st : LocalStore α} (hk : st.KeyedBelow base)
    {u : Nat} {l : LocalRecord α} (hl : st.get u = some l) (h0 : l.ID ≠ 0) (hb : l.ID < base) :
    st.matchRecord l.ID = some u := by
  cases hm : st.matchRecord l.ID with
  | none => exact absurd rfl (matchRecord_eq_none.mp hm u l hl)
  | some v =>
      obtain ⟨m, hg, hid⟩ := matchRecord_some hm
      rw [hk v u m l hg hl hid (by omega) (by omega)]

theorem KeyedBelow.recordAt_eq_some {base : Nat} {st : LocalStore α} (hk : st.KeyedBelow base)
    {id : Nat} (h0 : id ≠ 0) (hb : id < base) {l : LocalRecord α} :
    st.recordAt id = some l ↔ ∃ u, st.get u = some l ∧ l.ID = id := by
  unfold recordAt
  constructor
  · intro h
    obtain ⟨u, hm, hg⟩ := Option.bind_eq_some_iff.mp h
    obtain ⟨m, hg', hid⟩ := matchRecord_some hm
    rw [hg] at hg'
    cases hg'
    exact ⟨u, hg, hid⟩
  · rintro ⟨u, hg, rfl⟩
    rw [hk.matchRecord_eq hg h0 hb]
    exact hg

theorem Keyed.recordAt_eq_some {st : LocalStore α} (hk : st.Keyed) {id : Nat} (h0 : id ≠ 0)
    {l : LocalRecord α} : st.recordAt id = some l ↔ ∃ u, st.get u = some l ∧ l.ID = id :=
  (hk.below (id + 1)).recordAt_eq_some h0 (Nat.lt_succ_self id)

/-- Only the records with the ID count, and of these the first one. -/
theorem recordAt_congr {st st' : LocalStore α} {id : Nat}
    (h : ∀ u l, l.ID = id → (st.get u = some l ↔ st'.get u = some l)) :
    st.recordAt id = st'.recordAt id := by
  have hfind : ∀ {st st' : LocalStore α} {u : Nat},
      (∀ u l, l.ID = id → (st.get u = some l ↔ st'.get u = some l)) →
      st.matchRecord id = some u → st'.matchRecord id = some u := by
    intro st st' u h hm
    unfold matchRecord at hm ⊢
    rw [List.find?_range_eq_some] at hm ⊢
    obtain ⟨hu, -, hfirst⟩ := hm
    have hany : ∀ v, (st.get v).any (fun l => l.ID = id) = (st'.get v).any (fun l => l.ID = id) := by
      intro v
      rw [Bool.eq_iff_iff, Option.any_eq_true, Option.any_eq_true]
      refine exists_congr fun l => ?_
      by_cases hid : l.ID = id
      · simp [hid, h v l hid]
      · simp [hid]
    simp only [hany] at hu hfirst
    refine ⟨hu, List.mem_range.mpr ?_, hfirst⟩
    cases hl : st'.get u with
    | none => simp [hl] at hu
    | some l => exact lt_size hl
  have hmatch : st.matchRecord id = st'.matchRecord id := by
    apply Option.ext
    intro u
    exact ⟨hfind h, hfind fun v l hid => (h v l hid).symm⟩
  unfold recordAt
  rw [← hmatch]
  cases hm : st.matchRecord id with
  | none => rfl
  | some u =>
      obtain ⟨l, hl, hid⟩ := matchRecord_some hm
      rw [Option.bind_some, Option.bind_some, hl, (h u l hid).mp hl]

end LocalStore

end GnomePilot
