import GnomePilot.Lib.HashTable
import GnomePilot.Lib.Pairing

/-!
# The map of pilot ids and desktop uids

`e-pilot-map.c`: two hash tables, one from pilot ids to uids and one back, kept by
the conduits of the desktop applications across sessions.  An entry without a
pilot id (0) is in the table of the uids alone.
-/

namespace GnomePilot

structure EPilotMapPidNode where
  uid : String
  archived : Bool
  touched : Bool
  deriving DecidableEq

structure EPilotMapUidNode where
  pid : UInt32
  archived : Bool
  touched : Bool
  deriving DecidableEq

structure EPilotMap where
  pidMap : AList fun _ : UInt32 => EPilotMapPidNode
  uidMap : AList fun _ : String => EPilotMapUidNode
  since : Int64
  writeTouchedOnly : Bool

/-- What `g_new0` and two new hash tables make. -/
def EPilotMap.empty : EPilotMap := ⟨∅, ∅, 0, false⟩

/-! ## The operations -/

def realEPilotMapInsert (map : EPilotMap) (pid : UInt32) (uid : String) (archived touch : Bool) :
    EPilotMap :=
  { map with
    pidMap := if pid ≠ 0 then map.pidMap.insert pid ⟨uid, archived, touch⟩ else map.pidMap
    uidMap := map.uidMap.insert uid ⟨pid, archived, touch⟩ }

/-- The first eviction of `e_pilot_map_insert`. -/
def evictPid (map : EPilotMap) (pid : UInt32) : EPilotMap :=
  match map.pidMap.lookup pid with
  | some pnode =>
      { map with uidMap := map.uidMap.erase pnode.uid, pidMap := map.pidMap.erase pid }
  | none => map

/-- The second eviction of `e_pilot_map_insert`. -/
def evictUid (map : EPilotMap) (uid : String) : EPilotMap :=
  match map.uidMap.lookup uid with
  | some unode =>
      { map with pidMap := map.pidMap.erase unode.pid, uidMap := map.uidMap.erase uid }
  | none => map

def ePilotMapInsert (map : EPilotMap) (pid : UInt32) (uid : String) (archived : Bool) :
    EPilotMap :=
  realEPilotMapInsert (evictUid (evictPid map pid) uid) pid uid archived true

def ePilotMapRemoveByPid (map : EPilotMap) (pid : UInt32) : EPilotMap :=
  match map.pidMap.lookup pid with
  | none => map
  | some pnode =>
      match map.uidMap.lookup pnode.uid with
      | none => map
      | some _ =>
          { map with uidMap := map.uidMap.erase pnode.uid, pidMap := map.pidMap.erase pid }

def ePilotMapRemoveByUid (map : EPilotMap) (uid : String) : EPilotMap :=
  match map.uidMap.lookup uid with
  | none => map
  | some unode =>
      { map with pidMap := map.pidMap.erase unode.pid, uidMap := map.uidMap.erase uid }

/-- Mark the entry of a pilot id in its table. -/
def touchPid (map : EPilotMap) (pid : UInt32) : EPilotMap :=
  match map.pidMap.lookup pid with
  | some pnode => { map with pidMap := map.pidMap.insert pid { pnode with touched := true } }
  | none => map

def touchUid (map : EPilotMap) (uid : String) : EPilotMap :=
  match map.uidMap.lookup uid with
  | some unode => { map with uidMap := map.uidMap.insert uid { unode with touched := true } }
  | none => map

/-- The pilot id of a uid, 0 when there is none, and the map after the look. -/
def ePilotMapLookupPid (map : EPilotMap) (uid : String) (touch : Bool) : UInt32 × EPilotMap :=
  match map.uidMap.lookup uid with
  | none => (0, map)
  | some unode => (unode.pid, if touch then touchUid (touchPid map unode.pid) uid else map)

def ePilotMapLookupUid (map : EPilotMap) (pid : UInt32) (touch : Bool) :
    Option String × EPilotMap :=
  match map.pidMap.lookup pid with
  | none => (none, map)
  | some pnode =>
      if touch then
        match map.uidMap.lookup pnode.uid with
        | none => (none, map)
        | some _ => (some pnode.uid, touchPid (touchUid map pnode.uid) pid)
      else (some pnode.uid, map)

def ePilotMapPidIsArchived (map : EPilotMap) (pid : UInt32) : Bool :=
  match map.pidMap.lookup pid with
  | none => false
  | some pnode => pnode.archived

def ePilotMapUidIsArchived (map : EPilotMap) (uid : String) : Bool :=
  match map.uidMap.lookup uid with
  | none => false
  | some unode => unode.archived

def ePilotMapClear (map : EPilotMap) : EPilotMap :=
  { map with pidMap := ∅, uidMap := ∅, since := 0, writeTouchedOnly := false }

/-! ## The live part as a pairing -/

/-- What an entry of the table of the pilot ids says. -/
def EPilotMapPidNode.pair (pnode : EPilotMapPidNode) : String × Bool × Bool :=
  (pnode.uid, pnode.archived, pnode.touched)

/-- What an entry of the table of the uids says. -/
def EPilotMapUidNode.pair (unode : EPilotMapUidNode) : UInt32 × Bool × Bool :=
  (unode.pid, unode.archived, unode.touched)

namespace EPilotMap

/-- The entries with a pilot id are the pairs of `t`, in both tables. -/
structure Represents (map : EPilotMap) (t : Pairing UInt32 String (Bool × Bool)) : Prop where
  fwd : ∀ p, (map.pidMap.lookup p).map (·.pair) = t.fwd p
  bwd : ∀ u, ((map.uidMap.lookup u).map (·.pair)).filter (fun n => n.1 ≠ 0) = t.bwd u
  zero : map.pidMap.lookup 0 = none

variable {map : EPilotMap} {t : Pairing UInt32 String (Bool × Bool)}

theorem represents_empty : Represents .empty .empty := ⟨fun _ => rfl, fun _ => rfl, rfl⟩

theorem Represents.of_tables {map' : EPilotMap} (h : map.Represents t)
    (hpid : map'.pidMap = map.pidMap) (huid : map'.uidMap = map.uidMap) : map'.Represents t :=
  ⟨fun p => hpid ▸ h.fwd p, fun u => huid ▸ h.bwd u, hpid ▸ h.zero⟩

namespace Represents

theorem fwd_of_lookup (h : map.Represents t) {p : UInt32} {pnode : EPilotMapPidNode}
    (hp : map.pidMap.lookup p = some pnode) : t.fwd p = some pnode.pair := by
  rw [← h.fwd, hp]
  rfl

theorem fwd_of_none (h : map.Represents t) {p : UInt32} (hp : map.pidMap.lookup p = none) :
    t.fwd p = none := by
  rw [← h.fwd, hp]
  rfl

theorem bwd_of_lookup (h : map.Represents t) {u : String} {unode : EPilotMapUidNode}
    (hu : map.uidMap.lookup u = some unode) (h0 : unode.pid ≠ 0) :
    t.bwd u = some unode.pair := by
  rw [← h.bwd, hu]
  simp [Option.filter, EPilotMapUidNode.pair, h0]

theorem bwd_of_none (h : map.Represents t) {u : String} (hu : map.uidMap.lookup u = none) :
    t.bwd u = none := by
  rw [← h.bwd, hu]
  rfl

theorem bwd_of_zero (h : map.Represents t) {u : String} {unode : EPilotMapUidNode}
    (hu : map.uidMap.lookup u = some unode) (h0 : unode.pid = 0) : t.bwd u = none := by
  rw [← h.bwd, hu]
  simp [Option.filter, EPilotMapUidNode.pair, h0]

theorem lookup_of_fwd (h : map.Represents t) {p : UInt32} {u : String} {f : Bool × Bool}
    (hp : t.fwd p = some (u, f)) : map.pidMap.lookup p = some ⟨u, f.1, f.2⟩ := by
  rw [← h.fwd] at hp
  obtain ⟨pnode, hlookup, hpair⟩ := Option.map_eq_some_iff.mp hp
  simp only [EPilotMapPidNode.pair, Prod.ext_iff] at hpair
  obtain ⟨rfl, hflags⟩ := hpair
  rw [hlookup, ← hflags.1, ← hflags.2]

theorem lookup_of_bwd (h : map.Represents t) {p : UInt32} {u : String} {f : Bool × Bool}
    (hu : t.bwd u = some (p, f)) : map.uidMap.lookup u = some ⟨p, f.1, f.2⟩ ∧ p ≠ 0 := by
  rw [← h.bwd, Option.filter_eq_some_iff] at hu
  obtain ⟨unode, hlookup, hpair⟩ := Option.map_eq_some_iff.mp hu.1
  simp only [EPilotMapUidNode.pair, Prod.ext_iff] at hpair
  obtain ⟨rfl, hflags⟩ := hpair
  refine ⟨by rw [hlookup, ← hflags.1, ← hflags.2], by simpa using hu.2⟩

/-! ## What each operation does to the pairs -/

/-- Erasing the entry of `u` takes out its pair. -/
theorem filter_lookup_erase (h : map.Represents t) (u v : String) :
    (((map.uidMap.erase u).lookup v).map (·.pair)).filter (fun n => n.1 ≠ 0) =
      if v = u then none else t.bwd v := by
  rw [HashTable.lookup_erase_ite]
  by_cases hv : v = u
  · simp [hv]
  · simp only [hv, if_false]
    exact h.bwd v

theorem evictPid (h : map.Represents t) (p : UInt32) :
    (GnomePilot.evictPid map p).Represents (t.unlinkFwd p) := by
  unfold GnomePilot.evictPid
  cases hp : map.pidMap.lookup p with
  | none =>
      rw [Pairing.unlinkFwd_of_none (h.fwd_of_none hp)]
      exact h
  | some pnode =>
      have hpair := h.fwd_of_lookup hp
      refine ⟨fun q => ?_, fun v => ?_, ?_⟩
      · rw [HashTable.lookup_erase_ite]
        by_cases hq : q = p
        · simp [hq, Pairing.unlinkFwd]
        · simpa [hq, Pairing.unlinkFwd] using h.fwd q
      · rw [Pairing.unlinkFwd_eq_unlinkBwd hpair]
        exact h.filter_lookup_erase pnode.uid v
      · rw [HashTable.lookup_erase_ite, h.zero, ite_self]

theorem evictUid (h : map.Represents t) (u : String) :
    (GnomePilot.evictUid map u).Represents (t.unlinkBwd u) := by
  unfold GnomePilot.evictUid
  cases hu : map.uidMap.lookup u with
  | none =>
      rw [Pairing.unlinkBwd_of_none (h.bwd_of_none hu)]
      exact h
  | some unode =>
      refine ⟨fun q => ?_, fun v => h.filter_lookup_erase u v, ?_⟩
      · rw [HashTable.lookup_erase_ite]
        by_cases h0 : unode.pid = 0
        · -- the entry has no pair, and nothing is found under the pilot id 0
          rw [Pairing.unlinkBwd_of_none (h.bwd_of_zero hu h0), h0]
          by_cases hq : q = 0
          · simp [hq, h.fwd_of_none h.zero]
          · simpa [hq] using h.fwd q
        · have hpair := h.bwd_of_lookup hu h0
          rw [← Pairing.unlinkFwd_eq_unlinkBwd ((t.inverse _ _ _).mpr hpair)]
          by_cases hq : q = unode.pid
          · simp [hq, Pairing.unlinkFwd]
          · simpa [hq, Pairing.unlinkFwd] using h.fwd q
      · rw [HashTable.lookup_erase_ite, h.zero, ite_self]

/-- Under a free pilot id and a free uid the insertion joins the two. -/
theorem realInsert (h : map.Represents t) {p : UInt32} {u : String} (a touch : Bool)
    (h0 : p ≠ 0) (hp : t.fwd p = none) (hu : t.bwd u = none) :
    (realEPilotMapInsert map p u a touch).Represents (t.join p u (a, touch) hp hu) := by
  refine ⟨fun q => ?_, fun v => ?_, ?_⟩
  · simp only [realEPilotMapInsert, ne_eq, h0, not_false_eq_true, if_true, Pairing.join]
    rw [HashTable.lookup_insert_ite]
    by_cases hq : q = p
    · simp [hq, EPilotMapPidNode.pair]
    · simpa [hq] using h.fwd q
  · simp only [realEPilotMapInsert, Pairing.join]
    rw [HashTable.lookup_insert_ite]
    by_cases hv : v = u
    · simp [hv, EPilotMapUidNode.pair, Option.filter, h0]
    · simpa [hv] using h.bwd v
  · simp only [realEPilotMapInsert, ne_eq, h0, not_false_eq_true, if_true]
    rw [HashTable.lookup_insert_ite, h.zero, if_neg (Ne.symm h0)]

/-- Without a pilot id the insertion makes no pair. -/
theorem realInsert_zero (h : map.Represents t) {u : String} (a touch : Bool)
    (hu : t.bwd u = none) : (realEPilotMapInsert map 0 u a touch).Represents t := by
  refine ⟨h.fwd, fun v => ?_, h.zero⟩
  simp only [realEPilotMapInsert]
  rw [HashTable.lookup_insert_ite]
  by_cases hv : v = u
  · simp [hv, EPilotMapUidNode.pair, Option.filter, hu]
  · simpa [hv] using h.bwd v

theorem insert (h : map.Represents t) {p : UInt32} (u : String) (a : Bool) (h0 : p ≠ 0) :
    (ePilotMapInsert map p u a).Represents (t.link p u (a, true)) :=
  ((h.evictPid p).evictUid u).realInsert a true h0 _ _

theorem insert_zero (h : map.Represents t) (u : String) (a : Bool) :
    (ePilotMapInsert map 0 u a).Represents (t.unlinkBwd u) := by
  have hevict : GnomePilot.evictPid map 0 = map := by
    unfold GnomePilot.evictPid
    rw [h.zero]
  unfold ePilotMapInsert
  rw [hevict]
  exact (h.evictUid u).realInsert_zero a true (by simp [Pairing.unlinkBwd])

theorem exists_insert (h : map.Represents t) (p : UInt32) (u : String) (a : Bool) :
    ∃ t', (ePilotMapInsert map p u a).Represents t' := by
  by_cases h0 : p = 0
  · exact ⟨_, h0 ▸ h.insert_zero u a⟩
  · exact ⟨_, h.insert u a h0⟩

/-- The uid of a pair is in the table of the uids, so removal by pilot id goes as
the first eviction. -/
theorem removeByPid_eq (h : map.Represents t) (p : UInt32) :
    ePilotMapRemoveByPid map p = GnomePilot.evictPid map p := by
  unfold ePilotMapRemoveByPid GnomePilot.evictPid
  cases hp : map.pidMap.lookup p with
  | none => rfl
  | some pnode =>
      have hu := (h.lookup_of_bwd ((t.inverse _ _ _).mp (h.fwd_of_lookup hp))).1
      simp [hu]

theorem removeByUid_eq (map : EPilotMap) (u : String) :
    ePilotMapRemoveByUid map u = GnomePilot.evictUid map u := by
  unfold ePilotMapRemoveByUid GnomePilot.evictUid
  cases map.uidMap.lookup u with
  | none => rfl
  | some unode => rfl

theorem touch_comm (map : EPilotMap) (p : UInt32) (u : String) :
    touchPid (touchUid map u) p = touchUid (touchPid map p) u := by
  unfold touchPid touchUid
  cases hu : map.uidMap.lookup u with
  | none =>
      cases hp : map.pidMap.lookup p with
      | none => simp [hu]
      | some pnode => simp [hu]
  | some unode =>
      cases hp : map.pidMap.lookup p with
      | none => simp [hu]
      | some pnode => simp [hu]

/-- The label of a pair once it was touched. -/
def marked (f : Bool × Bool) : Bool × Bool := (f.1, true)

/-- Both entries of a pair are marked. -/
theorem touch (h : map.Represents t) {p : UInt32} {u : String} {f : Bool × Bool}
    (hp : t.fwd p = some (u, f)) :
    (touchUid (touchPid map p) u).Represents (t.relabel p marked) := by
  have hbwd := (t.inverse p u f).mp hp
  have hpid := h.lookup_of_fwd hp
  obtain ⟨huid, h0⟩ := h.lookup_of_bwd hbwd
  unfold touchPid touchUid
  rw [hpid]
  simp only [huid]
  refine ⟨fun q => ?_, fun v => ?_, ?_⟩
  · rw [HashTable.lookup_insert_ite]
    by_cases hq : q = p
    · simp [hq, Pairing.relabel, hp, EPilotMapPidNode.pair, marked]
    · simpa [hq, Pairing.relabel] using h.fwd q
  · rw [HashTable.lookup_insert_ite]
    by_cases hv : v = u
    · simp [hv, Pairing.relabel, hbwd, EPilotMapUidNode.pair, marked, Option.filter, h0]
    · -- another uid has another pilot id, so its label stays
      have hother : (t.relabel p marked).bwd v = t.bwd v := by
        cases hw : t.bwd v with
        | none => simp [Pairing.relabel, hw]
        | some n =>
            have hne : n.1 ≠ p := fun heq =>
              hv (Pairing.bwd_injective (x := n.2) (by rw [hw, ← heq]) hbwd)
            simp [Pairing.relabel, hw, hne]
      simpa [hv, hother] using h.bwd v
  · rw [HashTable.lookup_insert_ite, h.zero, if_neg (Ne.symm h0)]

/-- An entry without a pilot id is marked alone. -/
theorem touch_zero (h : map.Represents t) {u : String} {unode : EPilotMapUidNode}
    (hu : map.uidMap.lookup u = some unode) (h0 : unode.pid = 0) :
    (touchUid (touchPid map 0) u).Represents t := by
  have hpid : touchPid map 0 = map := by
    unfold touchPid
    rw [h.zero]
  rw [hpid]
  unfold touchUid
  rw [hu]
  refine ⟨h.fwd, fun v => ?_, h.zero⟩
  simp only
  rw [HashTable.lookup_insert_ite]
  by_cases hv : v = u
  · simp [hv, EPilotMapUidNode.pair, Option.filter, h0, h.bwd_of_zero hu h0]
  · simpa [hv] using h.bwd v

theorem lookupPid (h : map.Represents t) (u : String) (touch : Bool) :
    ∃ t', (ePilotMapLookupPid map u touch).2.Represents t' := by
  unfold ePilotMapLookupPid
  cases hu : map.uidMap.lookup u with
  | none => exact ⟨t, h⟩
  | some unode =>
      cases touch with
      | false => exact ⟨t, h⟩
      | true =>
          by_cases h0 : unode.pid = 0
          · exact ⟨t, by simpa [h0] using h.touch_zero hu h0⟩
          · have hpair := (t.inverse _ _ _).mpr (h.bwd_of_lookup hu h0)
            exact ⟨t.relabel unode.pid marked, h.touch hpair⟩

theorem lookupUid (h : map.Represents t) (p : UInt32) (touch : Bool) :
    ∃ t', (ePilotMapLookupUid map p touch).2.Represents t' := by
  unfold ePilotMapLookupUid
  cases hp : map.pidMap.lookup p with
  | none => exact ⟨t, h⟩
  | some pnode =>
      cases touch with
      | false => exact ⟨t, h⟩
      | true =>
          have hpair := h.fwd_of_lookup hp
          obtain ⟨huid, -⟩ := h.lookup_of_bwd ((t.inverse _ _ _).mp hpair)
          refine ⟨t.relabel p marked, ?_⟩
          simp only [if_true, huid]
          rw [touch_comm]
          exact h.touch hpair

theorem clear (map : EPilotMap) : (ePilotMapClear map).Represents .empty :=
  ⟨fun _ => rfl, fun _ => rfl, rfl⟩

end Represents

/-! ## The table of the uids after an operation -/

/-- An insertion takes the entry of the uid that had the pilot id, and sets its own. -/
theorem lookup_insert (map : EPilotMap) (p : UInt32) (u : String) (a : Bool) (v : String) :
    (ePilotMapInsert map p u a).uidMap.lookup v =
      if v = u then some ⟨p, a, true⟩
      else if (map.pidMap.lookup p).map (·.uid) = some v then none
      else map.uidMap.lookup v := by
  have hpid : (GnomePilot.evictPid map p).uidMap.lookup v =
      if (map.pidMap.lookup p).map (·.uid) = some v then none else map.uidMap.lookup v := by
    unfold GnomePilot.evictPid
    cases map.pidMap.lookup p with
    | none => simp
    | some pnode =>
        simp only [HashTable.lookup_erase_ite, Option.map_some, Option.some.injEq]
        by_cases hv : v = pnode.uid
        · simp [hv]
        · simp [hv, Ne.symm hv]
  have huid : ∀ m : EPilotMap, v ≠ u →
      (GnomePilot.evictUid m u).uidMap.lookup v = m.uidMap.lookup v := by
    intro m hv
    unfold GnomePilot.evictUid
    cases m.uidMap.lookup u with
    | none => rfl
    | some unode => simp [hv]
  unfold ePilotMapInsert realEPilotMapInsert
  simp only [HashTable.lookup_insert_ite]
  by_cases hv : v = u
  · simp [hv]
  · rw [if_neg hv, if_neg hv, huid _ hv, hpid]

theorem lookup_removeByUid (map : EPilotMap) (u v : String) :
    (ePilotMapRemoveByUid map u).uidMap.lookup v =
      if v = u then none else map.uidMap.lookup v := by
  unfold ePilotMapRemoveByUid
  cases hu : map.uidMap.lookup u with
  | none =>
      by_cases hv : v = u
      · subst hv
        simp [hu]
      · simp [hv]
  | some unode => simp [HashTable.lookup_erase_ite]

/-! ## Looking changes no pilot id -/

/-- The pilot id of a uid, 0 when there is none. -/
def pidOf (map : EPilotMap) (u : String) : UInt32 :=
  match map.uidMap.lookup u with
  | some unode => unode.pid
  | none => 0

theorem lookupPid_fst (map : EPilotMap) (u : String) (touch : Bool) :
    (ePilotMapLookupPid map u touch).1 = map.pidOf u := by
  unfold ePilotMapLookupPid pidOf
  cases map.uidMap.lookup u with
  | none => rfl
  | some unode => rfl

theorem uidMap_touchPid (map : EPilotMap) (p : UInt32) :
    (touchPid map p).uidMap = map.uidMap := by
  unfold touchPid
  cases map.pidMap.lookup p with
  | none => rfl
  | some pnode => rfl

theorem pidOf_touchUid (map : EPilotMap) (u v : String) :
    (touchUid map u).pidOf v = map.pidOf v := by
  unfold touchUid pidOf
  cases hu : map.uidMap.lookup u with
  | none => rfl
  | some unode =>
      simp only [HashTable.lookup_insert_ite]
      by_cases hv : v = u
      · subst hv
        simp [hu]
      · simp [hv]

theorem pidOf_lookupPid (map : EPilotMap) (u v : String) (touch : Bool) :
    (ePilotMapLookupPid map u touch).2.pidOf v = map.pidOf v := by
  unfold ePilotMapLookupPid
  cases hu : map.uidMap.lookup u with
  | none => rfl
  | some unode =>
      cases touch with
      | false => rfl
      | true =>
          simp only [if_true, pidOf_touchUid]
          unfold pidOf
          rw [uidMap_touchPid]

end EPilotMap

end GnomePilot
