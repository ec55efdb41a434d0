import GnomePilot.PilotMap.File

/-!
# Loading a map and inserting its entries

`map_sax_start_element` fills the tables with the insertion `e_pilot_map_insert` uses
after its evictions, but without them.  `loadsAsInserted_iff` says for which files
that makes no difference.
-/

namespace GnomePilot

/-! ## The entries of a file -/

structure MapEntry where
  pid : UInt32
  uid : String
  archived : Bool
  deriving DecidableEq, Repr

def mapEntry (element : XmlElement) : Option MapEntry :=
  if element.name = "map" then
    let m := readMapAttrs element.attrs
    m.uid.bind fun uid =>
      if m.pid ≠ 0 ∨ m.archived = true then some ⟨m.pid, uid, m.archived⟩ else none
  else none

def mapEntries (doc : XmlDoc) : List MapEntry := doc.startElements.filterMap mapEntry

def MapEntry.pidNode (e : MapEntry) : EPilotMapPidNode := ⟨e.uid, e.archived, false⟩

def MapEntry.uidNode (e : MapEntry) : EPilotMapUidNode := ⟨e.pid, e.archived, false⟩

/-! ## The loader -/

/-- The tables while a file is read, and the nodes whose uid text was given back.  A
node of the pilot ids shares its text with the key put into the table of the uids, and
a hash table that has the key already frees the new one. -/
structure Loader where
  map : EPilotMap
  freed : UInt32 → Bool

def Loader.start : Loader := ⟨.empty, fun _ => false⟩

def Loader.startElement (l : Loader) (element : XmlElement) : Loader where
  map := mapSaxStartElement l.map element
  freed :=
    match mapEntry element with
    | some e =>
      if e.pid ≠ 0 then Function.update l.freed e.pid (l.map.uidMap.lookup e.uid).isSome
      else l.freed
    | none => l.freed

def loadMap (doc : XmlDoc) : Loader := doc.startElements.foldl Loader.startElement .start

theorem map_foldl_startElement (elements : List XmlElement) (l : Loader) :
    (elements.foldl Loader.startElement l).map = elements.foldl mapSaxStartElement l.map := by
  induction elements generalizing l with
  | nil => rfl
  | cons element elements ih => exact ih _

/-- The tables are those `e_pilot_map_read` returns. -/
theorem ePilotMapRead_loadMap (doc : XmlDoc) :
    ePilotMapRead (.doc doc) =
      (0, some { (loadMap doc).map with writeTouchedOnly := false }) := by
  unfold loadMap
  rw [map_foldl_startElement]
  rfl

/-- Every entry inserted by `e_pilot_map_insert`, in the order of the file. -/
def insertEntries (es : List MapEntry) : EPilotMap :=
  es.foldl (fun map e => ePilotMapInsert map e.pid e.uid e.archived) .empty

/-- The touched marks are cleared. -/
def EPilotMapPidNode.untouched (pnode : EPilotMapPidNode) : EPilotMapPidNode :=
  { pnode with touched := false }

def EPilotMapUidNode.untouched (unode : EPilotMapUidNode) : EPilotMapUidNode :=
  { unode with touched := false }

/-- The loaded tables are those of the insertions, no node points to a text given back,
and the part that is not archived is mutually inverse. -/
structure LoadsAsInserted (doc : XmlDoc) : Prop where
  pid : ∀ p, (loadMap doc).map.pidMap.lookup p =
    ((insertEntries (mapEntries doc)).pidMap.lookup p).map EPilotMapPidNode.untouched
  uid : ∀ u, (loadMap doc).map.uidMap.lookup u =
    ((insertEntries (mapEntries doc)).uidMap.lookup u).map EPilotMapUidNode.untouched
  intact : ∀ p pnode, (loadMap doc).map.pidMap.lookup p = some pnode →
    (loadMap doc).freed p = false
  inverse : ∀ p u,
    (∃ pnode, (loadMap doc).map.pidMap.lookup p = some pnode ∧ pnode.uid = u ∧
      pnode.archived = false) ↔
    ∃ unode, (loadMap doc).map.uidMap.lookup u = some unode ∧ unode.pid = p ∧
      unode.archived = false

/-! ## The last entry of a key -/

def lastWith (q : MapEntry → Bool) (es : List MapEntry) : Option MapEntry :=
  es.reverse.find? q

def lastOfPid (p : UInt32) (es : List MapEntry) : Option MapEntry :=
  lastWith (fun e => e.pid = p) es

def lastOfUid (u : String) (es : List MapEntry) : Option MapEntry :=
  lastWith (fun e => e.uid = u) es

theorem lastWith_snoc (q : MapEntry → Bool) (es : List MapEntry) (e : MapEntry) :
    lastWith q (es ++ [e]) = if q e then some e else lastWith q es := by
  simp only [lastWith, List.reverse_append, List.reverse_singleton, List.singleton_append,
    List.find?_cons]
  cases q e <;> rfl

theorem lastOfPid_snoc (p : UInt32) (es : List MapEntry) (e : MapEntry) :
    lastOfPid p (es ++ [e]) = if e.pid = p then some e else lastOfPid p es := by
  simp [lastOfPid, lastWith_snoc]

theorem lastOfUid_snoc (u : String) (es : List MapEntry) (e : MapEntry) :
    lastOfUid u (es ++ [e]) = if e.uid = u then some e else lastOfUid u es := by
  simp [lastOfUid, lastWith_snoc]

theorem pid_of_lastOfPid {p : UInt32} {es : List MapEntry} {e : MapEntry}
    (h : lastOfPid p es = some e) : e.pid = p := by
  simpa using List.find?_some h

theorem uid_of_lastOfUid {u : String} {es : List MapEntry} {e : MapEntry}
    (h : lastOfUid u es = some e) : e.uid = u := by
  simpa using List.find?_some h

/-- An entry that is the last with its pilot id comes before no other of that id. -/
theorem lastOfPid_eq_some_iff {p : UInt32} {es : List MapEntry} {e : MapEntry} :
    lastOfPid p es = some e ↔ e.pid = p ∧
      ∃ before after, es = before ++ e :: after ∧ ∀ x ∈ after, x.pid ≠ p := by
  unfold lastOfPid lastWith
  rw [List.find?_eq_some_iff_append]
  simp only [decide_eq_true_eq, Bool.not_eq_true', decide_eq_false_iff_not]
  refine and_congr_right fun _ => ?_
  constructor
  · rintro ⟨after, before, heq, hafter⟩
    refine ⟨before.reverse, after.reverse, ?_, fun x hx => hafter x (List.mem_reverse.mp hx)⟩
    rw [← List.reverse_reverse es, heq]
    simp
  · rintro ⟨before, after, rfl, hafter⟩
    exact ⟨after.reverse, before.reverse, by simp, fun x hx => hafter x (List.mem_reverse.mp hx)⟩

/-- The last entry of a pilot id is the only one of its uid, and the last entry of a
uid the last of its pilot id; entries without a pilot id are left out. -/
structure Unambiguous (es : List MapEntry) : Prop where
  pid : ∀ p e, p ≠ 0 → lastOfPid p es = some e → es.countP (fun x => x.uid = e.uid) = 1
  uid : ∀ u e, lastOfUid u es = some e → e.pid ≠ 0 → lastOfPid e.pid es = some e

/-! ## What is loaded -/

/-- The state of the loader after the entries of `es`. -/
structure Loaded (es : List MapEntry) (l : Loader) : Prop where
  pid : ∀ p, l.map.pidMap.lookup p =
    if p = 0 then none else (lastOfPid p es).map MapEntry.pidNode
  uid : ∀ u, l.map.uidMap.lookup u = (lastOfUid u es).map MapEntry.uidNode
  freed : ∀ p, p ≠ 0 → (l.freed p = true ↔
    ∃ before e after, es = before ++ e :: after ∧ e.pid = p ∧ (∀ x ∈ after, x.pid ≠ p) ∧
      ∃ x ∈ before, x.uid = e.uid)

theorem loaded_start : Loaded [] .start where
  pid p := by simp [Loader.start, EPilotMap.empty, lastOfPid, lastWith]
  uid _ := rfl
  freed p _ := by simp [Loader.start]

theorem isSome_lastOfUid (u : String) (es : List MapEntry) :
    (lastOfUid u es).isSome = true ↔ ∃ x ∈ es, x.uid = u := by
  unfold lastOfUid lastWith
  rw [List.find?_isSome]
  simp

theorem tables_of_none {element : XmlElement} (h : mapEntry element = none) (map : EPilotMap) :
    (mapSaxStartElement map element).pidMap = map.pidMap ∧
      (mapSaxStartElement map element).uidMap = map.uidMap := by
  unfold mapEntry at h
  unfold mapSaxStartElement
  by_cases hname : element.name = "map"
  · cases huid : (readMapAttrs element.attrs).uid with
    | none => simp [hname, huid]
    | some uid =>
        simp only [hname, if_true, huid, Option.bind_some] at h
        by_cases hok : (readMapAttrs element.attrs).pid ≠ 0 ∨
            (readMapAttrs element.attrs).archived = true
        · rw [if_pos hok] at h
          contradiction
        · simp [hname, huid, hok]
  · by_cases hroot : element.name = "PilotMap" <;> simp [hname, hroot]

theorem tables_of_some {element : XmlElement} {e : MapEntry} (h : mapEntry element = some e)
    (map : EPilotMap) : mapSaxStartElement map element =
      realEPilotMapInsert map e.pid e.uid e.archived false := by
  unfold mapEntry at h
  by_cases hname : element.name = "map"
  · cases huid : (readMapAttrs element.attrs).uid with
    | none => simp [hname, huid] at h
    | some uid =>
        simp only [hname, if_true, huid, Option.bind_some] at h
        by_cases hok : (readMapAttrs element.attrs).pid ≠ 0 ∨
            (readMapAttrs element.attrs).archived = true
        · rw [if_pos hok, Option.some.injEq] at h
          subst h
          unfold mapSaxStartElement
          simp only [hname, huid, hok, if_true]
          rfl
        · rw [if_neg hok] at h
          contradiction
  · simp [hname] at h

theorem snoc_eq_append_cons_iff {es before after : List MapEntry} {e e' : MapEntry} :
    es ++ [e] = before ++ e' :: after ↔
      (after = [] ∧ es = before ∧ e = e') ∨
        ∃ rest, after = rest ++ [e] ∧ es = before ++ e' :: rest := by
  constructor
  · intro heq
    rcases List.eq_nil_or_concat' after with rfl | ⟨rest, z, rfl⟩
    · obtain ⟨hes, hlast⟩ := List.append_inj' heq rfl
      exact Or.inl ⟨rfl, hes, List.singleton_inj.mp hlast⟩
    · have hsplit : es ++ [e] = (before ++ e' :: rest) ++ [z] := by simpa using heq
      obtain ⟨hes, hlast⟩ := List.append_inj' hsplit rfl
      exact Or.inr ⟨rest, by rw [List.singleton_inj.mp hlast], hes⟩
  · rintro (⟨rfl, rfl, rfl⟩ | ⟨rest, rfl, rfl⟩)
    · rfl
    · simp

def RepeatsUid (es : List MapEntry) (p : UInt32) : Prop :=
  ∃ before e after, es = before ++ e :: after ∧ e.pid = p ∧ (∀ x ∈ after, x.pid ≠ p) ∧
    ∃ x ∈ before, x.uid = e.uid

theorem repeatsUid_snoc_self (es : List MapEntry) (e : MapEntry) :
    RepeatsUid (es ++ [e]) e.pid ↔ ∃ x ∈ es, x.uid = e.uid := by
  constructor
  · rintro ⟨before, e', after, heq, -, hafter, hx⟩
    rcases snoc_eq_append_cons_iff.mp heq with ⟨-, rfl, rfl⟩ | ⟨rest, rfl, -⟩
    · exact hx
    · -- the new entry has the pilot id, so nothing follows the last one
      exact absurd rfl (hafter e (by simp))
  · intro hx
    exact ⟨es, e, [], rfl, rfl, by simp, hx⟩

theorem repeatsUid_snoc_of_ne (es : List MapEntry) {e : MapEntry} {p : UInt32}
    (hpid : e.pid ≠ p) : RepeatsUid (es ++ [e]) p ↔ RepeatsUid es p := by
  constructor
  · rintro ⟨before, e', after, heq, he', hafter, hx⟩
    rcases snoc_eq_append_cons_iff.mp heq with ⟨-, -, rfl⟩ | ⟨rest, rfl, hes⟩
    · exact absurd he' hpid
    · exact ⟨before, e', rest, hes, he', fun x hx => hafter x (List.mem_append_left _ hx), hx⟩
  · rintro ⟨before, e', after, rfl, he', hafter, hx⟩
    refine ⟨before, e', after ++ [e], by simp, he', ?_, hx⟩
    intro x hx
    rcases List.mem_append.mp hx with hx | hx
    · exact hafter x hx
    · rw [List.mem_singleton.mp hx]
      exact hpid

theorem Loaded.insert {es : List MapEntry} {l : Loader} (h : Loaded es l)
    {element : XmlElement} {e : MapEntry} (he : mapEntry element = some e) :
    Loaded (es ++ [e]) (l.startElement element) where
  pid p := by
    simp only [Loader.startElement, tables_of_some he, realEPilotMapInsert, lastOfPid_snoc]
    by_cases h0 : e.pid = 0
    · rw [if_neg (by simpa using h0), h.pid p]
      by_cases hp : p = 0
      · simp [hp]
      · rw [if_neg hp, if_neg hp, if_neg (by rw [h0]; exact Ne.symm hp)]
    · rw [if_pos h0, HashTable.lookup_insert_ite, h.pid p]
      by_cases hp : p = e.pid
      · subst hp
        simp [h0, MapEntry.pidNode]
      · simp [hp, Ne.symm hp]
  uid u := by
    simp only [Loader.startElement, tables_of_some he, realEPilotMapInsert, lastOfUid_snoc]
    rw [HashTable.lookup_insert_ite, h.uid u]
    by_cases hu : u = e.uid
    · simp [hu, MapEntry.uidNode]
    · simp [hu, Ne.symm hu]
  freed p hp := by
    have hseen : (l.map.uidMap.lookup e.uid).isSome = true ↔ ∃ x ∈ es, x.uid = e.uid := by
      rw [h.uid, Option.isSome_map, isSome_lastOfUid]
    simp only [Loader.startElement, he]
    by_cases hpid : e.pid = p
    · subst hpid
      rw [if_pos hp, Function.update_self, hseen]
      exact (repeatsUid_snoc_self es e).symm
    · have hkeep : (if e.pid ≠ 0 then
          Function.update l.freed e.pid (l.map.uidMap.lookup e.uid).isSome else l.freed) p =
          l.freed p := by
        split
        · exact Function.update_of_ne (Ne.symm hpid) _ _
        · rfl
      rw [hkeep, h.freed p hp]
      exact (repeatsUid_snoc_of_ne es hpid).symm

theorem Loaded.startElement {es : List MapEntry} {l : Loader} (h : Loaded es l)
    (element : XmlElement) :
    Loaded (es ++ (mapEntry element).toList) (l.startElement element) := by
  cases he : mapEntry element with
  | some e => exact h.insert he
  | none =>
      obtain ⟨hpid, huid⟩ := tables_of_none he l.map
      simp only [Option.toList_none, List.append_nil]
      refine ⟨fun p => ?_, fun u => ?_, fun p hp => ?_⟩
      · simp only [Loader.startElement, hpid]
        exact h.pid p
      · simp only [Loader.startElement, huid]
        exact h.uid u
      · simp only [Loader.startElement, he]
        exact h.freed p hp

theorem loaded_foldl (elements : List XmlElement) {es : List MapEntry} {l : Loader}
    (h : Loaded es l) :
    Loaded (es ++ elements.filterMap mapEntry) (elements.foldl Loader.startElement l) := by
  induction elements generalizing es l with
  | nil => simpa using h
  | cons element elements ih =>
      have hnext := ih (h.startElement element)
      rw [List.append_assoc] at hnext
      have hcons : (mapEntry element).toList ++ elements.filterMap mapEntry =
          (element :: elements).filterMap mapEntry := by
        cases he : mapEntry element <;> simp [he]
      rwa [hcons] at hnext

theorem loaded_loadMap (doc : XmlDoc) : Loaded (mapEntries doc) (loadMap doc) :=
  loaded_foldl doc.startElements loaded_start

/-! ## What the insertions leave -/

/-- An entry stays in the table of the pilot ids while it is the last of its uid. -/
def keptPid (es : List MapEntry) (p : UInt32) : Option MapEntry :=
  (lastOfPid p es).filter (fun e => lastOfUid e.uid es = some e)

/-- An entry stays in the table of the uids while it is the last of its pilot id. -/
def keptUid (es : List MapEntry) (u : String) : Option MapEntry :=
  (lastOfUid u es).filter (fun e => e.pid = 0 ∨ lastOfPid e.pid es = some e)

/-- The tables after inserting the entries of `es`. -/
structure Inserted (es : List MapEntry) (map : EPilotMap) : Prop where
  represents : ∃ t, map.Represents t
  pid : ∀ p, (map.pidMap.lookup p).map EPilotMapPidNode.untouched =
    if p = 0 then none else (keptPid es p).map MapEntry.pidNode
  uid : ∀ u, (map.uidMap.lookup u).map EPilotMapUidNode.untouched =
    (keptUid es u).map MapEntry.uidNode

theorem inserted_empty : Inserted [] .empty where
  represents := ⟨_, EPilotMap.represents_empty⟩
  pid p := by simp [EPilotMap.empty, keptPid, lastOfPid, lastWith]
  uid _ := rfl

theorem pair_injective : Function.Injective EPilotMapPidNode.pair := by
  rintro ⟨uid, archived, touched⟩ ⟨uid', archived', touched'⟩ h
  simpa [EPilotMapPidNode.pair] using h

/-- An insertion takes the entries that point to its uid. -/
theorem EPilotMap.Represents.lookup_pid_insert {map : EPilotMap}
    {t : Pairing UInt32 String (Bool × Bool)} (h : map.Represents t) (p : UInt32) (u : String)
    (a : Bool) (q : UInt32) : (ePilotMapInsert map p u a).pidMap.lookup q =
      if q = p ∧ p ≠ 0 then some ⟨u, a, true⟩
      else (map.pidMap.lookup q).filter (fun pnode => pnode.uid ≠ u) := by
  have hold : ((map.pidMap.lookup q).filter (fun pnode => pnode.uid ≠ u)).map
      EPilotMapPidNode.pair = (t.fwd q).filter (fun n => n.1 ≠ u) := by
    rw [← h.fwd q]
    cases map.pidMap.lookup q with
    | none => rfl
    | some pnode => by_cases hu : pnode.uid = u <;> simp [Option.filter, EPilotMapPidNode.pair, hu]
  apply Option.map_injective pair_injective
  by_cases h0 : p = 0
  · subst h0
    rw [if_neg (by simp), hold, (h.insert_zero u a).fwd]
    rfl
  · rw [(h.insert u a h0).fwd]
    by_cases hq : q = p
    · subst hq
      simp [Pairing.link, Pairing.join, h0, EPilotMapPidNode.pair]
    · rw [if_neg (fun hqp => hq hqp.1), hold]
      simp [Pairing.link, Pairing.join, Pairing.unlinkBwd, Pairing.unlinkFwd, hq]

theorem map_untouched_filter (o : Option EPilotMapPidNode) (u : String) :
    (o.filter (fun pnode => pnode.uid ≠ u)).map EPilotMapPidNode.untouched =
      (o.map EPilotMapPidNode.untouched).filter (fun pnode => pnode.uid ≠ u) := by
  cases o with
  | none => rfl
  | some pnode =>
      by_cases hu : pnode.uid = u <;> simp [Option.filter, EPilotMapPidNode.untouched, hu]

/-- The kept entries of the pilot ids after one more entry. -/
theorem keptPid_snoc (es : List MapEntry) (e : MapEntry) (p : UInt32) :
    keptPid (es ++ [e]) p =
      if e.pid = p then some e else (keptPid es p).filter (fun x => x.uid ≠ e.uid) := by
  unfold keptPid
  rw [lastOfPid_snoc]
  by_cases hp : e.pid = p
  · simp [hp, Option.filter, lastOfUid_snoc]
  · rw [if_neg hp, if_neg hp]
    cases hx : lastOfPid p es with
    | none => rfl
    | some x =>
        have hne : e ≠ x := by
          rintro rfl
          exact hp (pid_of_lastOfPid hx)
        by_cases hu : e.uid = x.uid
        · by_cases hlast : lastOfUid x.uid es = some x <;>
            simp [Option.filter, lastOfUid_snoc, hu, hne, hlast]
        · by_cases hlast : lastOfUid x.uid es = some x <;>
            simp [Option.filter, lastOfUid_snoc, hu, Ne.symm hu, hlast]

theorem keptUid_snoc (es : List MapEntry) (e : MapEntry) (v : String) :
    keptUid (es ++ [e]) v =
      if e.uid = v then some e
      else if e.pid ≠ 0 ∧ (keptPid es e.pid).map MapEntry.uid = some v then none
      else keptUid es v := by
  unfold keptUid
  rw [lastOfUid_snoc]
  by_cases hv : e.uid = v
  · simp [hv, Option.filter, lastOfPid_snoc]
  · rw [if_neg hv, if_neg hv]
    have hevict : ∀ y, keptPid es e.pid = some y → y.uid = v →
        lastOfUid v es = some y ∧ y.pid = e.pid := by
      intro y hy hyv
      obtain ⟨hlast, hkept⟩ := Option.filter_eq_some_iff.mp hy
      rw [hyv, decide_eq_true_eq] at hkept
      exact ⟨hkept, pid_of_lastOfPid hlast⟩
    cases hx : lastOfUid v es with
    | none =>
        simp only [Option.filter_none, ite_self]
    | some x =>
        have hxv := uid_of_lastOfUid hx
        by_cases hpid : x.pid ≠ 0 ∧ e.pid = x.pid
        · -- the new entry takes the pilot id of `x`
          obtain ⟨h0, hpid⟩ := hpid
          have hne : e ≠ x := by
            rintro rfl
            exact hv hxv
          have hgone : (if e.pid ≠ 0 ∧ (keptPid es e.pid).map MapEntry.uid = some v then none
              else (some x).filter
                (fun e => decide (e.pid = 0 ∨ lastOfPid e.pid es = some e))) = none := by
            split
            · rfl
            · rename_i hkeep
              rw [Option.filter_eq_none_iff]
              intro y hy
              obtain rfl := Option.some.inj hy
              simp only [decide_eq_true_eq, not_or]
              refine ⟨h0, fun hlast => hkeep ⟨hpid ▸ h0, ?_⟩⟩
              unfold keptPid
              rw [hpid, hlast]
              simp [Option.filter, hxv, hx]
          rw [hgone]
          simp [Option.filter, lastOfPid_snoc, hpid, h0, hne]
        · have hstay : ¬ (e.pid ≠ 0 ∧ (keptPid es e.pid).map MapEntry.uid = some v) := by
            rintro ⟨h0, hmap⟩
            obtain ⟨y, hy, hyv⟩ := Option.map_eq_some_iff.mp hmap
            obtain ⟨hlast, hype⟩ := hevict y hy hyv
            rw [hx, Option.some.injEq] at hlast
            subst hlast
            exact hpid ⟨hype ▸ h0, hype.symm⟩
          rw [if_neg hstay]
          by_cases h0 : x.pid = 0
          · simp [Option.filter, h0]
          · have hne : e.pid ≠ x.pid := fun h => hpid ⟨h0, h⟩
            simp [Option.filter, h0, lastOfPid_snoc, hne]

theorem Inserted.insert {es : List MapEntry} {map : EPilotMap} (h : Inserted es map)
    (e : MapEntry) : Inserted (es ++ [e]) (ePilotMapInsert map e.pid e.uid e.archived) where
  represents := by
    obtain ⟨t, ht⟩ := h.represents
    exact ht.exists_insert e.pid e.uid e.archived
  pid p := by
    obtain ⟨t, ht⟩ := h.represents
    rw [ht.lookup_pid_insert, keptPid_snoc]
    by_cases h0 : p = 0
    · rw [if_neg (fun hp => hp.2 (hp.1 ▸ h0)), if_pos h0, map_untouched_filter, h.pid, if_pos h0]
      rfl
    · rw [if_neg h0]
      by_cases hp : p = e.pid
      · subst hp
        simp [h0, EPilotMapPidNode.untouched, MapEntry.pidNode]
      · rw [if_neg (fun h => hp h.1), if_neg (Ne.symm hp), map_untouched_filter, h.pid, if_neg h0]
        cases keptPid es p with
        | none => rfl
        | some x => by_cases hu : x.uid = e.uid <;> simp [Option.filter, MapEntry.pidNode, hu]
  uid v := by
    have hpid : (map.pidMap.lookup e.pid).map (·.uid) =
        if e.pid = 0 then none else (keptPid es e.pid).map MapEntry.uid := by
      have hcongr := congrArg (Option.map EPilotMapPidNode.uid) (h.pid e.pid)
      rw [Option.map_map] at hcongr
      refine hcongr.trans ?_
      split
      · rfl
      · rw [Option.map_map]
        rfl
    rw [EPilotMap.lookup_insert, hpid, keptUid_snoc]
    by_cases hv : v = e.uid
    · simp [hv, EPilotMapUidNode.untouched, MapEntry.uidNode]
    · rw [if_neg hv, if_neg (Ne.symm hv)]
      by_cases h0 : e.pid = 0
      · simpa [h0] using h.uid v
      · by_cases hgone : (keptPid es e.pid).map MapEntry.uid = some v
        · simp [h0, hgone]
        · simpa [h0, hgone] using h.uid v

theorem inserted_foldl (rest : List MapEntry) {es : List MapEntry} {map : EPilotMap}
    (h : Inserted es map) : Inserted (es ++ rest)
      (rest.foldl (fun map e => ePilotMapInsert map e.pid e.uid e.archived) map) := by
  induction rest generalizing es map with
  | nil => simpa using h
  | cons e rest ih => simpa using ih (h.insert e)

theorem inserted_insertEntries (es : List MapEntry) : Inserted es (insertEntries es) :=
  inserted_foldl es inserted_empty

/-! ## When the two agree -/

theorem mem_of_lastWith {q : MapEntry → Bool} {es : List MapEntry} {e : MapEntry}
    (h : lastWith q es = some e) : e ∈ es :=
  List.mem_reverse.mp (List.mem_of_find?_eq_some h)

/-- Every entry has a pilot id or is archived. -/
theorem mapEntries_valid {doc : XmlDoc} {e : MapEntry} (h : e ∈ mapEntries doc) :
    e.pid ≠ 0 ∨ e.archived = true := by
  obtain ⟨element, -, he⟩ := List.mem_filterMap.mp h
  unfold mapEntry at he
  split at he
  · obtain ⟨uid, -, he⟩ := Option.bind_eq_some_iff.mp he
    split at he
    · obtain rfl := Option.some.inj he
      assumption
    · contradiction
  · contradiction

theorem eq_of_countP_eq_one {q : MapEntry → Bool} {es : List MapEntry} {e e' : MapEntry}
    (h : es.countP q = 1) (he : e ∈ es) (hq : q e = true) (he' : e' ∈ es) (hq' : q e' = true) :
    e = e' := by
  rw [List.countP_eq_length_filter, List.length_eq_one_iff] at h
  obtain ⟨a, ha⟩ := h
  have hmem : ∀ x ∈ es, q x = true → x = a := by
    intro x hx hqx
    have : x ∈ es.filter q := List.mem_filter.mpr ⟨hx, hqx⟩
    rw [ha] at this
    exact List.mem_singleton.mp this
  rw [hmem e he hq, hmem e' he' hq']

theorem countP_uid_eq_one {before after : List MapEntry} {e : MapEntry}
    (hbefore : ∀ x ∈ before, x.uid ≠ e.uid) (hafter : ∀ x ∈ after, x.pid ≠ e.pid)
    (hlast : lastOfUid e.uid (before ++ e :: after) = some e) :
    (before ++ e :: after).countP (fun x => x.uid = e.uid) = 1 := by
  have hnone : ∀ x ∈ after, x.uid ≠ e.uid := by
    intro x hx heq
    have hsome := (isSome_lastOfUid e.uid after).mpr ⟨x, hx, heq⟩
    obtain ⟨y, hy⟩ := Option.isSome_iff_exists.mp hsome
    have hwhole : lastOfUid e.uid (before ++ e :: after) = some y := by
      unfold lastOfUid lastWith at hy ⊢
      rw [List.reverse_append, List.reverse_cons, List.append_assoc, List.find?_append, hy]
      rfl
    rw [hlast, Option.some.injEq] at hwhole
    subst hwhole
    exact hafter e (mem_of_lastWith hy) rfl
  rw [List.countP_append, List.countP_cons_of_pos (by simp),
    List.countP_eq_zero.mpr (by simpa using hbefore),
    List.countP_eq_zero.mpr (by simpa using hnone)]

namespace Unambiguous

variable {es : List MapEntry}

theorem lastOfUid_eq (h : Unambiguous es) {p : UInt32} {e : MapEntry} (h0 : p ≠ 0)
    (hlast : lastOfPid p es = some e) : lastOfUid e.uid es = some e := by
  have hmem := mem_of_lastWith hlast
  obtain ⟨y, hy⟩ := Option.isSome_iff_exists.mp
    ((isSome_lastOfUid e.uid es).mpr ⟨e, hmem, rfl⟩)
  rw [hy, eq_of_countP_eq_one (h.pid p e h0 hlast) (mem_of_lastWith hy)
    (by simpa using uid_of_lastOfUid hy) hmem (by simp)]

theorem keptPid_eq (h : Unambiguous es) {p : UInt32} (h0 : p ≠ 0) :
    keptPid es p = lastOfPid p es := by
  unfold keptPid
  cases hlast : lastOfPid p es with
  | none => rfl
  | some e => simp [Option.filter, h.lastOfUid_eq h0 hlast]

theorem keptUid_eq (h : Unambiguous es) (u : String) : keptUid es u = lastOfUid u es := by
  unfold keptUid
  cases hlast : lastOfUid u es with
  | none => rfl
  | some e =>
      by_cases h0 : e.pid = 0
      · simp [Option.filter, h0]
      · simp [Option.filter, h.uid u e hlast h0]

end Unambiguous

theorem filter_eq_some_of_map_eq {β : Type} {o : Option MapEntry} {q : MapEntry → Bool}
    {f : MapEntry → β} {e : MapEntry} (ho : o = some e) (h : (o.filter q).map f = some (f e)) :
    q e = true := by
  subst ho
  by_cases hq : q e = true
  · exact hq
  · simp [Option.filter, hq] at h

/-- The loader builds what the insertions leave exactly when the file is unambiguous. -/
theorem loadsAsInserted_iff (doc : XmlDoc) :
    LoadsAsInserted doc ↔ Unambiguous (mapEntries doc) := by
  have hload := loaded_loadMap doc
  have hins := inserted_insertEntries (mapEntries doc)
  constructor
  · intro h
    refine ⟨fun p e h0 hlast => ?_, fun u e hlast h0 => ?_⟩
    · have hnode : (keptPid (mapEntries doc) p).map MapEntry.pidNode = some e.pidNode := by
        have hpid := h.pid p
        rw [hload.pid, hins.pid, if_neg h0, if_neg h0, hlast] at hpid
        exact hpid.symm
      have huid := filter_eq_some_of_map_eq hlast hnode
      rw [decide_eq_true_eq] at huid
      obtain ⟨hp, before, after, hes, hafter⟩ := lastOfPid_eq_some_iff.mp hlast
      have hfree : (loadMap doc).freed p = false := by
        apply h.intact p e.pidNode
        rw [hload.pid, if_neg h0, hlast]
        rfl
      have hbefore : ∀ x ∈ before, x.uid ≠ e.uid := by
        intro x hx heq
        have := (hload.freed p h0).mpr ⟨before, e, after, hes, hp, hafter, x, hx, heq⟩
        rw [hfree] at this
        contradiction
      rw [hes] at huid ⊢
      exact countP_uid_eq_one hbefore (hp ▸ hafter) huid
    · have hnode : (keptUid (mapEntries doc) u).map MapEntry.uidNode = some e.uidNode := by
        have huid := h.uid u
        rw [hload.uid, hins.uid, hlast] at huid
        exact huid.symm
      have hkept := filter_eq_some_of_map_eq hlast hnode
      rw [decide_eq_true_eq] at hkept
      exact hkept.resolve_left h0
  · intro h
    refine ⟨fun p => ?_, fun u => ?_, fun p pnode hp => ?_, fun p u => ?_⟩
    · rw [hload.pid, hins.pid]
      by_cases h0 : p = 0
      · simp [h0]
      · rw [if_neg h0, if_neg h0, h.keptPid_eq h0]
    · rw [hload.uid, hins.uid, h.keptUid_eq]
    · rw [hload.pid] at hp
      by_cases h0 : p = 0
      · simp [h0] at hp
      · rw [← Bool.not_eq_true, hload.freed p h0]
        rintro ⟨before, e, after, hes, hpe, hafter, x, hx, hxu⟩
        have hlast := lastOfPid_eq_some_iff.mpr ⟨hpe, before, after, hes, hafter⟩
        have hone := h.pid p e h0 hlast
        have hpos : 0 < before.countP (fun x => x.uid = e.uid) :=
          List.countP_pos_iff.mpr ⟨x, hx, by simpa using hxu⟩
        rw [hes, List.countP_append, List.countP_cons_of_pos (by simp)] at hone
        omega
    · rw [hload.pid, hload.uid]
      constructor
      · rintro ⟨pnode, hp, rfl, harch⟩
        by_cases h0 : p = 0
        · simp [h0] at hp
        · rw [if_neg h0] at hp
          obtain ⟨e, hlast, rfl⟩ := Option.map_eq_some_iff.mp hp
          refine ⟨e.uidNode, ?_, pid_of_lastOfPid hlast, harch⟩
          change (lastOfUid e.uid _).map _ = _
          rw [h.lastOfUid_eq h0 hlast]
          rfl
      · rintro ⟨unode, hu, rfl, harch⟩
        obtain ⟨e, hlast, rfl⟩ := Option.map_eq_some_iff.mp hu
        have h0 : e.pid ≠ 0 := by
          rcases mapEntries_valid (mem_of_lastWith hlast) with h0 | hyes
          · exact h0
          · exact absurd (harch.symm.trans hyes) (by simp)
        refine ⟨e.pidNode, ?_, uid_of_lastOfUid hlast, harch⟩
        change (if e.pid = 0 then none else (lastOfPid e.pid _).map _) = _
        rw [if_neg h0, h.uid u e hlast h0]
        rfl

/-- A file with one uid under two pilot ids. -/
def repeatedUid : XmlDoc where
  root := ⟨"PilotMap", [("timestamp", "0")]⟩
  children := [⟨"map", [("uid", "a"), ("pilot_id", "5"), ("archived", "0")]⟩,
    ⟨"map", [("uid", "a"), ("pilot_id", "7"), ("archived", "0")]⟩]

/-- The old pilot id still leads to the uid, and the text of the new one's uid was given
back. -/
theorem repeatedUid_loads :
    (loadMap repeatedUid).map.pidMap.lookup 5 = some ⟨"a", false, false⟩ ∧
      (insertEntries (mapEntries repeatedUid)).pidMap.lookup 5 = none ∧
      (loadMap repeatedUid).map.uidMap.lookup "a" = some ⟨7, false, false⟩ ∧
      (loadMap repeatedUid).freed 7 = true ∧ ¬ LoadsAsInserted repeatedUid := by
  have hloaded : (loadMap repeatedUid).map.pidMap.lookup 5 = some ⟨"a", false, false⟩ := by decide
  have hinserted : (insertEntries (mapEntries repeatedUid)).pidMap.lookup 5 = none := by decide
  refine ⟨hloaded, hinserted, by decide, by decide, fun h => ?_⟩
  have hpid := h.pid 5
  rw [hloaded, hinserted] at hpid
  contradiction

end GnomePilot
