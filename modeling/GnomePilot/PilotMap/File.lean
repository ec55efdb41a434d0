import GnomePilot.Lib.Loop
import GnomePilot.Lib.Numeral
import GnomePilot.PilotMap.Map

/-!
# The map on disk

`e_pilot_map_write` stores the map as XML, one element for an entry of the table
of the uids; `e_pilot_map_read` fills both tables from the elements.  The XML
library is taken to keep the order of the elements and the text of the attributes.
-/

namespace GnomePilot

structure XmlElement where
  name : String
  attrs : List (String × String)
  deriving DecidableEq

structure XmlDoc where
  root : XmlElement
  children : List XmlElement
  deriving DecidableEq

def XmlDoc.startElements (doc : XmlDoc) : List XmlElement := doc.root :: doc.children

/-- What is found under the name of the map's file. -/
inductive MapFile where
  | missing
  | malformed
  | doc (doc : XmlDoc)

/-! ## Reading -/

/-- The loop over the attributes of the root element. -/
def readSince (since : Int64) (attrs : List (String × String)) : Int64 :=
  attrs.foldl (fun since attr =>
    if attr.1 = "timestamp" then (Numeral.strtoul attr.2).toInt64 else since) since

structure MapAttrs where
  uid : Option String
  pid : UInt32
  archived : Bool

def readMapAttr (m : MapAttrs) (attr : String × String) : MapAttrs :=
  let m := if attr.1 = "uid" then { m with uid := some attr.2 } else m
  let m := if attr.1 = "pilot_id" then { m with pid := (Numeral.strtoul attr.2).toUInt32 } else m
  if attr.1 = "archived" then { m with archived := Numeral.strtoul attr.2 = 1 } else m

/-- The loop over the attributes of the element of an entry. -/
def readMapAttrs (attrs : List (String × String)) : MapAttrs :=
  attrs.foldl readMapAttr ⟨none, 0, false⟩

def mapSaxStartElement (map : EPilotMap) (element : XmlElement) : EPilotMap :=
  let map := if element.name = "PilotMap" then
      { map with since := readSince map.since element.attrs }
    else map
  if element.name = "map" then
    let m := readMapAttrs element.attrs
    match m.uid with
    | none => map
    | some uid =>
        if m.pid ≠ 0 ∨ m.archived = true then
          realEPilotMapInsert map m.pid uid m.archived false
        else map
  else map

def ePilotMapRead : MapFile → Int × Option EPilotMap
  | .missing => (0, some { EPilotMap.empty with writeTouchedOnly := false })
  | .malformed => (-1, none)
  | .doc doc =>
      (0, some { doc.startElements.foldl mapSaxStartElement .empty with
        writeTouchedOnly := false })

/-! ## Writing -/

/-- The element of an entry; none for an untouched one if only touched ones are written. -/
def mapWriteForeach (touchedOnly : Bool) (uid : String) (unode : EPilotMapUidNode) :
    Option XmlElement :=
  if touchedOnly && !unode.touched then none
  else some ⟨"map", ("uid", uid) ::
    if unode.archived then [("archived", "1")]
    else [("pilot_id", toString unode.pid.toInt32.toInt), ("archived", "0")]⟩

/-- An order in which `g_hash_table_foreach` may come to the entries. -/
def EPilotMap.Walk (map : EPilotMap) : Type :=
  { es : List (Σ _ : String, EPilotMapUidNode) // es.Perm map.uidMap.entries }

inductive WriteFailure where
  | noDocument
  | notSaved

/-- The result, the map with its time stamp, and the document if it was saved. -/
def ePilotMapWrite (failure : Option WriteFailure) (now : Int64) (map : EPilotMap)
    (walk : map.Walk) : Int × EPilotMap × Option XmlDoc :=
  match failure with
  | some .noDocument => (-1, map, none)
  | some .notSaved => (-1, { map with since := now }, none)
  | none =>
      (0, { map with since := now },
        some ⟨⟨"PilotMap", [("timestamp", toString now.toInt)]⟩,
          walk.val.filterMap fun e => mapWriteForeach map.writeTouchedOnly e.1 e.2⟩)

/-! ## Maps a conduit can hold -/

/-- What a conduit does with its map between reading and writing it. -/
inductive MapOp where
  | insert (pid : UInt32) (uid : String) (archived : Bool)
  | removeByPid (pid : UInt32)
  | removeByUid (uid : String)
  | lookupPid (uid : String) (touch : Bool)
  | lookupUid (pid : UInt32) (touch : Bool)
  | clear
  | setWriteTouchedOnly (b : Bool)

def MapOp.apply (map : EPilotMap) : MapOp → EPilotMap
  | .insert pid uid archived => ePilotMapInsert map pid uid archived
  | .removeByPid pid => ePilotMapRemoveByPid map pid
  | .removeByUid uid => ePilotMapRemoveByUid map uid
  | .lookupPid uid touch => (ePilotMapLookupPid map uid touch).2
  | .lookupUid pid touch => (ePilotMapLookupUid map pid touch).2
  | .clear => ePilotMapClear map
  | .setWriteTouchedOnly b => { map with writeTouchedOnly := b }

namespace EPilotMap

/-- From the empty map, by operations, writes, and reading back what was written. -/
inductive Reachable : EPilotMap → Prop where
  | empty : Reachable .empty
  | op {map : EPilotMap} (o : MapOp) : Reachable map → Reachable (MapOp.apply map o)
  | write {map : EPilotMap} (failure : Option WriteFailure) (now : Int64) (walk : map.Walk) :
      Reachable map → Reachable (ePilotMapWrite failure now map walk).2.1
  | read {map map' : EPilotMap} {doc : XmlDoc} (now : Int64) (walk : map.Walk) :
      Reachable map → (ePilotMapWrite none now map walk).2.2 = some doc →
      (ePilotMapRead (.doc doc)).2 = some map' → Reachable map'

end EPilotMap

/-! ## Numbers come back -/

/-- `%d` prints an unsigned number of 2^31 and above as a negative one. -/
theorem toInt32_toInt_cases (pid : UInt32) :
    pid.toInt32.toInt = pid.toNat ∨ pid.toInt32.toInt = (pid.toNat : Int) - 2 ^ 32 := by
  have hbmod : pid.toInt32.toInt = (pid.toNat : Int).bmod (2 ^ 32) :=
    BitVec.toInt_eq_toNat_bmod pid.toBitVec
  have hlt := pid.toNat_lt
  rw [hbmod, Int.bmod_def]
  split
  · omega
  · omega

theorem strtoul_pid (pid : UInt32) :
    (Numeral.strtoul (toString pid.toInt32.toInt)).toUInt32 = pid := by
  have hlo := pid.toInt32.le_toInt
  have hhi := pid.toInt32.toInt_lt
  rw [Numeral.strtoul_int (by omega) (by omega)]
  apply UInt32.toNat_inj.mp
  simp only [UInt64.toNat_toUInt32, UInt64.ofInt, UInt64.toNat_ofNat']
  have hlt := pid.toNat_lt
  cases toInt32_toInt_cases pid with
  | inl h =>
      rw [h]
      omega
  | inr h =>
      rw [h]
      omega

theorem strtoul_time (t : Int64) : (Numeral.strtoul (toString t.toInt)).toInt64 = t := by
  have hlo := t.le_toInt
  have hhi := t.toInt_lt
  rw [Numeral.strtoul_int (by omega) (by omega)]
  have hofint : (UInt64.ofInt t.toInt).toInt64 = Int64.ofInt t.toInt := by
    apply Int64.toInt_inj.mp
    have hbmod : (UInt64.ofInt t.toInt).toInt64.toInt =
        ((UInt64.ofInt t.toInt).toNat : Int).bmod (2 ^ 64) :=
      BitVec.toInt_eq_toNat_bmod _
    rw [hbmod, Int64.toInt_ofInt]
    simp only [UInt64.ofInt, UInt64.toNat_ofNat']
    rw [show Int64.size = 2 ^ 64 from rfl]
    have : (((t.toInt % 2 ^ 64).toNat % 2 ^ 64 : Nat) : Int) = t.toInt % 2 ^ 64 := by omega
    rw [this]
    exact Int.emod_bmod t.toInt (2 ^ 64)
  rw [hofint]
  exact Int64.ofInt_toInt t

/-! ## One element -/

/-- What the reader makes of the element of an entry. -/
def readBack (map : EPilotMap) (e : Σ _ : String, EPilotMapUidNode) : EPilotMap :=
  if e.2.archived then realEPilotMapInsert map 0 e.1 true false
  else if e.2.pid ≠ 0 then realEPilotMapInsert map e.2.pid e.1 false false
  else map

/-- The entries that are written. -/
def written (touchedOnly : Bool) (e : Σ _ : String, EPilotMapUidNode) : Bool :=
  !(touchedOnly && !e.2.touched)

theorem isSome_mapWriteForeach (touchedOnly : Bool) (e : Σ _ : String, EPilotMapUidNode) :
    (mapWriteForeach touchedOnly e.1 e.2).isSome = written touchedOnly e := by
  unfold mapWriteForeach written
  cases touchedOnly && !e.2.touched with
  | true => rfl
  | false => rfl

theorem mapSaxStartElement_written (map : EPilotMap) (e : Σ _ : String, EPilotMapUidNode)
    {touchedOnly : Bool} {el : XmlElement}
    (h : mapWriteForeach touchedOnly e.1 e.2 = some el) :
    mapSaxStartElement map el = readBack map e := by
  unfold mapWriteForeach at h
  split at h
  · cases h
  · injection h with h
    subst h
    have h0 : Numeral.strtoul "0" = 0 := by decide
    have h1 : Numeral.strtoul "1" = 1 := by decide
    have hpid := strtoul_pid e.2.pid
    generalize toString e.2.pid.toInt32.toInt = text at hpid
    cases ha : e.2.archived with
    | true => simp [mapSaxStartElement, readBack, ha, readMapAttrs, readMapAttr, h1]
    | false => simp [mapSaxStartElement, readBack, ha, readMapAttrs, readMapAttr, h0, hpid]

theorem foldl_mapSaxStartElement (touchedOnly : Bool)
    (es : List (Σ _ : String, EPilotMapUidNode)) (map : EPilotMap) :
    (es.filterMap fun e => mapWriteForeach touchedOnly e.1 e.2).foldl mapSaxStartElement map =
      (es.filter (written touchedOnly)).foldl readBack map := by
  induction es generalizing map with
  | nil => rfl
  | cons e es ih =>
      have hw := isSome_mapWriteForeach touchedOnly e
      rw [List.filterMap_cons, List.filter_cons]
      cases he : mapWriteForeach touchedOnly e.1 e.2 with
      | none =>
          rw [he] at hw
          simpa [← hw] using ih map
      | some el =>
          rw [he] at hw
          simpa [← hw, mapSaxStartElement_written map e he] using ih (readBack map e)

/-- Reading what was written: the entries in the order of the walk, and the stamp. -/
theorem ePilotMapRead_write {map map' : EPilotMap} {doc : XmlDoc} {now : Int64}
    {walk : map.Walk} (hwrite : (ePilotMapWrite none now map walk).2.2 = some doc)
    (hread : (ePilotMapRead (.doc doc)).2 = some map') :
    map' = { (walk.val.filter (written map.writeTouchedOnly)).foldl readBack
      { EPilotMap.empty with since := now } with writeTouchedOnly := false } := by
  have hdoc : some _ = some doc := hwrite
  have hmap : some _ = some map' := hread
  injection hdoc with hdoc
  injection hmap with hmap
  rw [← hmap, ← hdoc]
  have hroot : mapSaxStartElement .empty ⟨"PilotMap", [("timestamp", toString now.toInt)]⟩ =
      { EPilotMap.empty with since := now } := by
    have htime := strtoul_time now
    generalize toString now.toInt = text at htime
    simp [mapSaxStartElement, readSince, htime]
  rw [XmlDoc.startElements, List.foldl_cons, hroot, foldl_mapSaxStartElement]

/-! ## Reading keeps the tables paired -/

/-- The two entries share no uid and no pilot id. -/
def Separate (e e' : Σ _ : String, EPilotMapUidNode) : Prop :=
  e.1 ≠ e'.1 ∧ (e.2.pid ≠ 0 → e.2.pid ≠ e'.2.pid)

theorem Separate.symm {e e' : Σ _ : String, EPilotMapUidNode} (h : Separate e e') :
    Separate e' e := by
  refine ⟨Ne.symm h.1, fun h0 heq => ?_⟩
  exact h.2 (heq ▸ h0) heq.symm

namespace EPilotMap

variable {map : EPilotMap} {t : Pairing UInt32 String (Bool × Bool)}

theorem lookup_of_mem_entries {e : Σ _ : String, EPilotMapUidNode}
    (he : e ∈ map.uidMap.entries) : map.uidMap.lookup e.1 = some e.2 :=
  List.mem_dlookup map.uidMap.nodupKeys he

theorem Represents.separate (h : map.Represents t) (walk : map.Walk) :
    walk.val.Pairwise Separate := by
  have hentries : map.uidMap.entries.Pairwise Separate := by
    refine (List.nodupKeys_iff_pairwise.mp map.uidMap.nodupKeys).imp_of_mem ?_
    intro e e' he he' hne
    refine ⟨hne, fun h0 heq => hne ?_⟩
    have hb := h.bwd_of_lookup (lookup_of_mem_entries he) h0
    have hb' := h.bwd_of_lookup (lookup_of_mem_entries he') (heq ▸ h0)
    rw [EPilotMapUidNode.pair, ← heq] at hb'
    exact Pairing.bwd_injective hb hb'
  exact (walk.property.pairwise_iff Separate.symm).mpr hentries

theorem Represents.foldl_readBack {es : List (Σ _ : String, EPilotMapUidNode)}
    (hsep : es.Pairwise Separate) (h : map.Represents t)
    (hfree : ∀ e ∈ es, t.bwd e.1 = none ∧ t.fwd e.2.pid = none) :
    ∃ t', (es.foldl readBack map).Represents t' := by
  induction es generalizing map t with
  | nil => exact ⟨t, h⟩
  | cons e es ih =>
      obtain ⟨hhead, htail⟩ := List.pairwise_cons.mp hsep
      obtain ⟨hu, hp⟩ := hfree e (by simp)
      have hrest : ∀ e' ∈ es, t.bwd e'.1 = none ∧ t.fwd e'.2.pid = none := fun e' he' =>
        hfree e' (by simp [he'])
      rw [List.foldl_cons]
      unfold readBack
      by_cases ha : e.2.archived = true
      · rw [if_pos ha]
        exact ih htail (h.realInsert_zero true false hu) hrest
      · rw [if_neg ha]
        by_cases h0 : e.2.pid = 0
        · rw [if_neg (by simpa using h0)]
          exact ih htail h hrest
        · rw [if_pos h0]
          refine ih htail (h.realInsert false false h0 hp hu) fun e' he' => ?_
          obtain ⟨hne, hpid⟩ := hhead e' he'
          have hfree' := hrest e' he'
          have hne' : e'.2.pid ≠ e.2.pid := Ne.symm (hpid h0)
          exact ⟨by simp [Pairing.join, Ne.symm hne, hfree'.1],
            by simp [Pairing.join, hne', hfree'.2]⟩

/-- The tables of a map that can be held are the two sides of a pairing. -/
theorem Reachable.represents (h : Reachable map) : ∃ t, map.Represents t := by
  induction h with
  | empty => exact ⟨.empty, represents_empty⟩
  | @op map o _ ih =>
      obtain ⟨t, ht⟩ := ih
      cases o with
      | insert pid uid archived => exact ht.exists_insert pid uid archived
      | removeByPid pid =>
          exact ⟨_, (ht.removeByPid_eq pid).symm ▸ ht.evictPid pid⟩
      | removeByUid uid =>
          exact ⟨_, (Represents.removeByUid_eq map uid).symm ▸ ht.evictUid uid⟩
      | lookupPid uid touch => exact ht.lookupPid uid touch
      | lookupUid pid touch => exact ht.lookupUid pid touch
      | clear => exact ⟨_, Represents.clear map⟩
      | setWriteTouchedOnly b => exact ⟨t, ht.fwd, ht.bwd, ht.zero⟩
  | write failure now walk _ ih =>
      obtain ⟨t, ht⟩ := ih
      refine ⟨t, ?_⟩
      cases failure with
      | none => exact ⟨ht.fwd, ht.bwd, ht.zero⟩
      | some failure =>
          cases failure with
          | noDocument => exact ht
          | notSaved => exact ⟨ht.fwd, ht.bwd, ht.zero⟩
  | @read map _ _ now walk _ hwrite hread ih =>
      obtain ⟨t, ht⟩ := ih
      have hsep := (ht.separate walk).filter (written map.writeTouchedOnly)
      have hempty : Represents { EPilotMap.empty with since := now } .empty :=
        ⟨fun _ => rfl, fun _ => rfl, rfl⟩
      obtain ⟨t', ht'⟩ := hempty.foldl_readBack hsep fun _ _ => ⟨rfl, rfl⟩
      rw [ePilotMapRead_write hwrite hread]
      exact ⟨t', ht'.fwd, ht'.bwd, ht'.zero⟩

/-- The tables are mutually inverse on the entries with a pilot id. -/
structure Inverse (map : EPilotMap) : Prop where
  lookup : ∀ p u, (∃ pnode, map.pidMap.lookup p = some pnode ∧ pnode.uid = u) ↔
    p ≠ 0 ∧ ∃ unode, map.uidMap.lookup u = some unode ∧ unode.pid = p
  uid_once : ∀ p q pnode qnode, map.pidMap.lookup p = some pnode →
    map.pidMap.lookup q = some qnode → pnode.uid = qnode.uid → p = q
  pid_once : ∀ u v unode vnode, map.uidMap.lookup u = some unode →
    map.uidMap.lookup v = some vnode → unode.pid = vnode.pid → unode.pid ≠ 0 → u = v
  archived : ∀ p pnode, map.pidMap.lookup p = some pnode →
    ∃ unode, map.uidMap.lookup pnode.uid = some unode ∧ unode.archived = pnode.archived

theorem Represents.lookup_pid (h : map.Represents t) {p : UInt32} {pnode : EPilotMapPidNode}
    (hp : map.pidMap.lookup p = some pnode) :
    map.uidMap.lookup pnode.uid = some ⟨p, pnode.archived, pnode.touched⟩ ∧ p ≠ 0 :=
  h.lookup_of_bwd ((t.inverse _ _ _).mp (h.fwd_of_lookup hp))

theorem Represents.lookup_uid (h : map.Represents t) {u : String} {unode : EPilotMapUidNode}
    (hu : map.uidMap.lookup u = some unode) (h0 : unode.pid ≠ 0) :
    map.pidMap.lookup unode.pid = some ⟨u, unode.archived, unode.touched⟩ :=
  h.lookup_of_fwd ((t.inverse _ _ _).mpr (h.bwd_of_lookup hu h0))

theorem Represents.inverse (h : map.Represents t) : map.Inverse where
  lookup p u := by
    constructor
    · intro ⟨pnode, hp, huid⟩
      obtain ⟨hu, h0⟩ := h.lookup_pid hp
      exact ⟨h0, _, huid ▸ hu, rfl⟩
    · intro ⟨h0, unode, hu, hpid⟩
      subst hpid
      exact ⟨_, h.lookup_uid hu h0, rfl⟩
  uid_once p q pnode qnode hp hq heq := by
    have hp' := (h.lookup_pid hp).1
    have hq' := (h.lookup_pid hq).1
    rw [heq, hq'] at hp'
    injection hp' with hp'
    injection hp' with hpid
    exact hpid.symm
  pid_once u v unode vnode hu hv heq h0 := by
    have hu' := h.lookup_uid hu h0
    have hv' := h.lookup_uid hv (heq ▸ h0)
    rw [heq, hv'] at hu'
    injection hu' with hu'
    injection hu' with huid
    exact huid.symm
  archived p pnode hp := ⟨_, (h.lookup_pid hp).1, rfl⟩

/-- Every map a conduit can hold is a bijection on its live entries. -/
theorem Reachable.bijection (h : map.Reachable) : map.Inverse := by
  obtain ⟨t, ht⟩ := h.represents
  exact ht.inverse

/-- Two old pairs give way to one insertion. -/
theorem bijection_collision :
    (ePilotMapInsert (ePilotMapInsert (ePilotMapInsert .empty 5 "a" false) 7 "b" true) 5 "b"
      false).Inverse :=
  Reachable.bijection (.op (.insert 5 "b" false) (.op (.insert 7 "b" true)
    (.op (.insert 5 "a" false) .empty)))

/-! ## What was written is read back -/

def entryReadBack (unode : EPilotMapUidNode) : EPilotMapUidNode :=
  ⟨if unode.archived then 0 else unode.pid, unode.archived, false⟩

theorem lookup_foldl_readBack {es : List (Σ _ : String, EPilotMapUidNode)}
    (hlive : ∀ e ∈ es, e.2.pid ≠ 0 ∨ e.2.archived = true) (hnodup : es.NodupKeys)
    (map : EPilotMap) (u : String) :
    (es.foldl readBack map).uidMap.lookup u =
      ((es.dlookup u).map entryReadBack).or (map.uidMap.lookup u) := by
  induction es generalizing map with
  | nil => rfl
  | cons e es ih =>
      obtain ⟨hnotMem, hnodup⟩ := List.nodupKeys_cons.mp hnodup
      have hback : (readBack map e).uidMap = map.uidMap.insert e.1 (entryReadBack e.2) := by
        unfold readBack entryReadBack
        cases ha : e.2.archived with
        | true => simp [realEPilotMapInsert]
        | false =>
            have h0 : e.2.pid ≠ 0 := by simpa [ha] using hlive e (by simp)
            simp [h0, realEPilotMapInsert]
      rw [List.foldl_cons, ih (fun e' he' => hlive e' (by simp [he'])) hnodup, hback,
        HashTable.lookup_insert_ite]
      by_cases hu : u = e.1
      · subst hu
        have hnone : es.dlookup e.1 = none := List.dlookup_eq_none.mpr hnotMem
        rw [hnone, List.dlookup_cons_eq]
        simp
      · rw [List.dlookup_cons_ne _ _ hu]
        simp [hu]

theorem since_readBack (map : EPilotMap) (e : Σ _ : String, EPilotMapUidNode) :
    (readBack map e).since = map.since := by
  unfold readBack
  split
  · rfl
  · split
    · rfl
    · rfl

/-- The entries of the map come back, without the pilot ids of the archived ones
and without marks. -/
theorem uidMap_read_write {map' : EPilotMap} {doc : XmlDoc} {now : Int64} {walk : map.Walk}
    (hlive : ∀ u unode, map.uidMap.lookup u = some unode → unode.pid ≠ 0 ∨ unode.archived = true)
    (hall : map.writeTouchedOnly = false)
    (hwrite : (ePilotMapWrite none now map walk).2.2 = some doc)
    (hread : (ePilotMapRead (.doc doc)).2 = some map') (u : String) :
    map'.uidMap.lookup u = (map.uidMap.lookup u).map entryReadBack := by
  have hnodup : walk.val.NodupKeys :=
    (List.perm_nodupKeys walk.property).mpr map.uidMap.nodupKeys
  have hfilter : walk.val.filter (written map.writeTouchedOnly) = walk.val :=
    List.filter_eq_self.mpr fun e _ => by simp [written, hall]
  have hentries : ∀ e ∈ walk.val, e.2.pid ≠ 0 ∨ e.2.archived = true := fun e he =>
    hlive e.1 e.2 (lookup_of_mem_entries (walk.property.mem_iff.mp he))
  rw [ePilotMapRead_write hwrite hread, hfilter]
  simp only
  rw [lookup_foldl_readBack hentries hnodup, List.perm_dlookup u hnodup walk.property]
  simp [EPilotMap.empty, AList.lookup]

/-- A map whose entries all have a pilot id or are archived is read back as it was
written, whatever the order of the walk. -/
theorem Reachable.read_write (h : map.Reachable)
    (hlive : ∀ u unode, map.uidMap.lookup u = some unode → unode.pid ≠ 0 ∨ unode.archived = true)
    (hall : map.writeTouchedOnly = false) (now : Int64) (walk : map.Walk) :
    ∃ doc map', ePilotMapWrite none now map walk = (0, { map with since := now }, some doc) ∧
      ePilotMapRead (.doc doc) = (0, some map') ∧
      (∀ u, (map'.uidMap.lookup u).isSome = (map.uidMap.lookup u).isSome) ∧
      (∀ u, ePilotMapUidIsArchived map' u = ePilotMapUidIsArchived map u) ∧
      (∀ u unode, map.uidMap.lookup u = some unode → unode.archived = false →
        (ePilotMapLookupPid map' u false).1 = unode.pid ∧
        (ePilotMapLookupUid map' unode.pid false).1 = some u ∧
        (ePilotMapLookupUid map unode.pid false).1 = some u) ∧
      map'.since = now ∧
      (∀ u unode, map'.uidMap.lookup u = some unode → unode.touched = false) ∧
      (∀ p pnode, map'.pidMap.lookup p = some pnode → pnode.touched = false) := by
  obtain ⟨t, ht⟩ := h.represents
  obtain ⟨doc, hwrite⟩ : ∃ doc,
      ePilotMapWrite none now map walk = (0, { map with since := now }, some doc) := ⟨_, rfl⟩
  obtain ⟨map', hread⟩ : ∃ map', ePilotMapRead (.doc doc) = (0, some map') := ⟨_, rfl⟩
  have hwrite' : (ePilotMapWrite none now map walk).2.2 = some doc := by rw [hwrite]
  have hread' : (ePilotMapRead (.doc doc)).2 = some map' := by rw [hread]
  obtain ⟨t', ht'⟩ := (Reachable.read now walk h hwrite' hread').represents
  have huid := uidMap_read_write hlive hall hwrite' hread'
  have huntouched : ∀ u unode, map'.uidMap.lookup u = some unode → unode.touched = false := by
    intro u unode hu
    rw [huid u] at hu
    obtain ⟨old, -, hold⟩ := Option.map_eq_some_iff.mp hu
    rw [← hold]
    rfl
  refine ⟨doc, map', hwrite, hread, fun u => ?_, fun u => ?_, ?_, ?_, huntouched, ?_⟩
  · rw [huid u, Option.isSome_map]
  · unfold ePilotMapUidIsArchived
    rw [huid u]
    cases map.uidMap.lookup u with
    | none => rfl
    | some unode => rfl
  · intro u unode hu ha
    have h0 : unode.pid ≠ 0 := by simpa [ha] using hlive u unode hu
    have hu' : map'.uidMap.lookup u = some ⟨unode.pid, false, false⟩ := by
      rw [huid u, hu]
      simp [entryReadBack, ha]
    have hp := ht.lookup_uid hu h0
    have hp' := ht'.lookup_uid hu' h0
    simp only at hp'
    exact ⟨by simp [ePilotMapLookupPid, hu'], by simp [ePilotMapLookupUid, hp'],
      by simp [ePilotMapLookupUid, hp]⟩
  · rw [ePilotMapRead_write hwrite' hread']
    exact Loop.foldl_inv (fun m => m.since = now) readBack
      (fun m e hm => (since_readBack m e).trans hm) (walk.val.filter _)
      { EPilotMap.empty with since := now } rfl
  · intro p pnode hp
    exact huntouched _ _ (ht'.lookup_pid hp).1

/-- One pilot id that is printed as a negative number, and one archived entry. -/
def sampleMap : EPilotMap :=
  ePilotMapInsert (ePilotMapInsert .empty 0x80000005 "a" false) 7 "b" true

theorem read_write_high_pid :
    ∃ doc map', ePilotMapWrite none 1000 sampleMap ⟨_, .refl _⟩ =
        (0, { sampleMap with since := 1000 }, some doc) ∧
      ePilotMapRead (.doc doc) = (0, some map') ∧
      (ePilotMapLookupPid map' "a" false).1 = 0x80000005 ∧
      ePilotMapUidIsArchived map' "b" = true := by
  have hlive : ∀ e ∈ sampleMap.uidMap.entries, e.2.pid ≠ 0 ∨ e.2.archived = true := by decide
  have hreach : Reachable sampleMap :=
    .op (.insert 7 "b" true) (.op (.insert 0x80000005 "a" false) .empty)
  obtain ⟨doc, map', hwrite, hread, -, harchived, hlookup, -⟩ :=
    Reachable.read_write hreach
      (fun u unode hu => hlive ⟨u, unode⟩ (List.of_mem_dlookup hu)) rfl 1000 ⟨_, .refl _⟩
  refine ⟨doc, map', hwrite, hread, ?_, ?_⟩
  · exact (hlookup "a" ⟨0x80000005, false, true⟩ (by decide) rfl).1
  · rw [harchived]
    decide

/-! ## Maps at the start of a sync -/

/-- What a conduit finds when it loads its map: nothing yet, or what it wrote. -/
inductive Persisted : EPilotMap → Prop where
  | missing {map : EPilotMap} : (ePilotMapRead .missing).2 = some map → Persisted map
  | written {map map' : EPilotMap} {doc : XmlDoc} (now : Int64) (walk : map.Walk) :
      Reachable map → (ePilotMapWrite none now map walk).2.2 = some doc →
      (ePilotMapRead (.doc doc)).2 = some map' → Persisted map'

theorem Persisted.reachable (h : map.Persisted) : map.Reachable := by
  cases h with
  | missing h =>
      injection h with h
      exact h ▸ .empty
  | written now walk hmap hwrite hread => exact .read now walk hmap hwrite hread

/-- A loaded entry has a pilot id exactly if it is not archived. -/
theorem Persisted.archived_iff (h : map.Persisted) {u : String} {unode : EPilotMapUidNode}
    (hu : map.uidMap.lookup u = some unode) : unode.archived = true ↔ unode.pid = 0 := by
  have hread : ∀ (m : EPilotMap) (e : Σ _ : String, EPilotMapUidNode),
      (∀ u n, m.uidMap.lookup u = some n → (n.archived = true ↔ n.pid = 0)) →
      ∀ u n, (readBack m e).uidMap.lookup u = some n → (n.archived = true ↔ n.pid = 0) := by
    intro m e hm u n hn
    unfold readBack at hn
    split at hn
    · rw [realEPilotMapInsert, HashTable.lookup_insert_ite] at hn
      split at hn
      · injection hn with hn
        simp [← hn]
      · exact hm u n hn
    · split at hn
      · rename_i h0
        rw [realEPilotMapInsert, HashTable.lookup_insert_ite] at hn
        split at hn
        · injection hn with hn
          simp [← hn, h0]
        · exact hm u n hn
      · exact hm u n hn
  cases h with
  | missing h =>
      injection h with h
      rw [← h] at hu
      cases hu
  | written now walk hmap hwrite hmap' =>
      rw [ePilotMapRead_write hwrite hmap'] at hu
      have hempty : ∀ u n, ({ EPilotMap.empty with since := now } : EPilotMap).uidMap.lookup u =
          some n → (n.archived = true ↔ n.pid = 0) := by
        intro _ _ hn
        cases hn
      exact Loop.foldl_inv
        (fun m => ∀ u n, m.uidMap.lookup u = some n → (n.archived = true ↔ n.pid = 0))
        readBack hread _ { EPilotMap.empty with since := now } hempty u unode hu

def Live (map : EPilotMap) (u : String) : Prop :=
  ∃ unode, map.uidMap.lookup u = some unode ∧ unode.archived = false

theorem Persisted.live_iff (h : map.Persisted) {u : String} :
    map.Live u ↔ map.pidOf u ≠ 0 := by
  unfold Live pidOf
  cases hu : map.uidMap.lookup u with
  | none => simp
  | some unode =>
      have hiff := h.archived_iff hu
      cases ha : unode.archived with
      | true => simp [hiff.mp ha, ha]
      | false =>
          have h0 : unode.pid ≠ 0 := fun h0 => by simp [hiff.mpr h0] at ha
          simp [h0, ha]

theorem Persisted.archived_of_zero (h : map.Persisted) {u : String}
    (ha : ePilotMapUidIsArchived map u = true) : map.pidOf u = 0 := by
  unfold ePilotMapUidIsArchived at ha
  unfold pidOf
  cases hu : map.uidMap.lookup u with
  | none => rfl
  | some unode =>
      rw [hu] at ha
      exact (h.archived_iff hu).mp ha

theorem Persisted.not_archived (h : map.Persisted) {u : String} (hu : map.Live u) :
    ePilotMapUidIsArchived map u = false := by
  cases ha : ePilotMapUidIsArchived map u with
  | false => rfl
  | true => exact absurd (h.archived_of_zero ha) (h.live_iff.mp hu)

/-- Two uids have the same pilot id only if it is 0. -/
theorem Reachable.pidOf_injective (h : map.Reachable) {u v : String}
    (heq : map.pidOf u = map.pidOf v) (h0 : map.pidOf u ≠ 0) : u = v := by
  obtain ⟨t, ht⟩ := h.represents
  unfold pidOf at heq h0
  cases hu : map.uidMap.lookup u with
  | none => simp [hu] at h0
  | some unode =>
      cases hv : map.uidMap.lookup v with
      | none =>
          simp only [hu, hv] at heq h0
          exact absurd heq h0
      | some vnode =>
          simp only [hu, hv] at heq h0
          exact ht.inverse.pid_once u v unode vnode hu hv heq h0

end EPilotMap

end GnomePilot
