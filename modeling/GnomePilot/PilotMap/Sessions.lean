import GnomePilot.PilotMap.File

/-!
# The map from session to session

`pre_sync` loads the map and decides about a slow synchronisation, the callbacks work on
it, `post_sync` saves the configuration and then the map.  `answers_of_history` compares
what the map answers with a ledger: one entry for a uid, no tables and no file.
-/

namespace GnomePilot.MapSession

/-! ## A session -/

/-- What a conduit finds of its last session: the map's file and `cfg->last_uri`. -/
structure Disk where
  file : MapFile
  lastUri : Option String

/-- How far `post_sync` comes.  A session that fails before has no ending either. -/
inductive Ending where
  | noAppBlock
  | notWritten (failure : WriteFailure)
  | written (now : Int64) (walk : (map : EPilotMap) → map.Walk)

/-- `slow` is what `gnome_pilot_conduit_standard_get_slow` says before the session, and
`copies` that the configured type is to copy to the pilot or from it. -/
structure Session where
  uri : String
  slow : Bool
  copies : Bool
  ops : List MapOp
  ending : Ending

def sourceChanged (lastUri : Option String) (uri : String) : Bool :=
  lastUri.any fun last => last ≠ uri

def checkForSlowSetting (lastUri : Option String) (uri : String) (slow : Bool)
    (map : EPilotMap) : EPilotMap :=
  let slow := slow || map.pidMap.keys.isEmpty || sourceChanged lastUri uri
  let map := if sourceChanged lastUri uri then ePilotMapClear map else map
  if slow then { map with writeTouchedOnly := true } else map

/-- What `pre_sync` does to the map it loaded. -/
def setUp (lastUri : Option String) (s : Session) (map : EPilotMap) : EPilotMap :=
  let map := checkForSlowSetting lastUri s.uri s.slow map
  if s.copies then { map with writeTouchedOnly := true } else map

/-- The map as `pre_sync` leaves it; none if the file cannot be read. -/
def preSync (disk : Disk) (s : Session) : Option EPilotMap :=
  (ePilotMapRead disk.file).2.map (setUp disk.lastUri s)

/-- `post_sync`: the configuration is saved before the map. -/
def postSync (disk : Disk) (s : Session) (map : EPilotMap) : Disk :=
  match s.ending with
  | .noAppBlock => disk
  | .notWritten _ => { disk with lastUri := some s.uri }
  | .written now walk =>
      match (ePilotMapWrite none now map (walk map)).2.2 with
      | some doc => ⟨.doc doc, some s.uri⟩
      | none => { disk with lastUri := some s.uri }

def session (disk : Disk) (s : Session) : Disk :=
  match preSync disk s with
  | none => disk
  | some map => postSync disk s (s.ops.foldl MapOp.apply map)

/-- Before the first session. -/
def Disk.first : Disk := ⟨.missing, none⟩

/-! ## The ledger -/

/-- What the ledger has under a uid. -/
abbrev Entries : Type := String → Option EPilotMapUidNode

/-- The entries during a session, and whether those that are not used are dropped. -/
structure Ledger where
  entry : Entries
  touchedOnly : Bool

/-- The pilot id of a uid, 0 when there is none. -/
def Entries.pidOf (entry : Entries) (u : String) : UInt32 := (entry u).elim 0 (·.pid)

def Entries.archived (entry : Entries) (u : String) : Bool := (entry u).elim false (·.archived)

/-- The uid is the one of the pilot id. -/
def Entries.Has (entry : Entries) (p : UInt32) (u : String) : Prop := p ≠ 0 ∧ entry.pidOf u = p

instance (entry : Entries) (p : UInt32) (u : String) : Decidable (entry.Has p u) :=
  inferInstanceAs (Decidable (_ ∧ _))

def used (unode : EPilotMapUidNode) : EPilotMapUidNode := { unode with touched := true }

def Entries.insert (entry : Entries) (p : UInt32) (u : String) (archived : Bool) : Entries :=
  fun v => if v = u then some ⟨p, archived, true⟩ else if entry.Has p v then none else entry v

def Ledger.step (l : Ledger) : MapOp → Ledger
  | .insert p u archived => { l with entry := l.entry.insert p u archived }
  | .removeByPid p => { l with entry := fun v => if l.entry.Has p v then none else l.entry v }
  | .removeByUid u => { l with entry := fun v => if v = u then none else l.entry v }
  | .lookupPid u touch =>
      { l with entry := fun v => if touch ∧ v = u then (l.entry v).map used else l.entry v }
  | .lookupUid p touch =>
      { l with
        entry := fun v => if touch ∧ l.entry.Has p v then (l.entry v).map used else l.entry v }
  | .clear => ⟨fun _ => none, false⟩
  | .setWriteTouchedOnly b => { l with touchedOnly := b }

/-- An entry that outlives the session, with its pilot id unless it is archived. -/
def Ledger.save (l : Ledger) : Entries := fun u =>
  ((l.entry u).filter fun unode =>
    (unode.touched || !l.touchedOnly) && (unode.archived || unode.pid ≠ 0)).map
      EPilotMap.entryReadBack

/-- Between two sessions. -/
structure Book where
  entry : Entries
  lastUri : Option String

open Classical in
/-- A changed source starts the ledger anew; unused entries are dropped if it did, if no uid
has a pilot id, or if the session is slow or copies. -/
noncomputable def Book.preSync (book : Book) (s : Session) : Ledger where
  entry := if sourceChanged book.lastUri s.uri then fun _ => none else book.entry
  touchedOnly := s.slow || s.copies || sourceChanged book.lastUri s.uri ||
    decide (∀ u, book.entry.pidOf u = 0)

noncomputable def Book.session (book : Book) (s : Session) : Book :=
  match s.ending with
  | .noAppBlock => book
  | .notWritten _ => { book with lastUri := some s.uri }
  | .written _ _ => ⟨(s.ops.foldl Ledger.step (book.preSync s)).save, some s.uri⟩

/-- An empty ledger. -/
def Book.first : Book := ⟨fun _ => none, none⟩

/-! ## One operation -/

section Tables

variable (map : EPilotMap)

theorem lookup_touchUid (u v : String) :
    (touchUid map u).uidMap.lookup v =
      if v = u then (map.uidMap.lookup v).map used else map.uidMap.lookup v := by
  unfold touchUid
  cases hu : map.uidMap.lookup u with
  | none =>
      by_cases hv : v = u
      · subst hv
        simp [hu]
      · rw [if_neg hv]
  | some unode =>
      rw [HashTable.lookup_insert_ite]
      by_cases hv : v = u
      · subst hv
        simp [hu, used]
      · rw [if_neg hv, if_neg hv]

theorem lookup_evictPid (p : UInt32) (v : String) :
    (evictPid map p).uidMap.lookup v =
      if (map.pidMap.lookup p).map (·.uid) = some v then none else map.uidMap.lookup v := by
  unfold evictPid
  cases map.pidMap.lookup p with
  | none => simp
  | some pnode =>
      rw [HashTable.lookup_erase_ite]
      by_cases hv : v = pnode.uid
      · simp [hv]
      · simp [hv, Ne.symm hv]

theorem lookup_lookupPid (u : String) (touch : Bool) (v : String) :
    (ePilotMapLookupPid map u touch).2.uidMap.lookup v =
      if touch ∧ v = u then (map.uidMap.lookup v).map used else map.uidMap.lookup v := by
  unfold ePilotMapLookupPid
  cases hu : map.uidMap.lookup u with
  | none =>
      by_cases hv : v = u
      · subst hv
        simp [hu]
      · simp [hv]
  | some unode =>
      cases touch with
      | false => simp
      | true =>
          simp only [if_true, true_and]
          rw [lookup_touchUid, EPilotMap.uidMap_touchPid]

theorem lookup_lookupUid {t : Pairing UInt32 String (Bool × Bool)} (h : map.Represents t)
    (p : UInt32) (touch : Bool) (v : String) :
    (ePilotMapLookupUid map p touch).2.uidMap.lookup v =
      if touch ∧ (map.pidMap.lookup p).map (·.uid) = some v then
        (map.uidMap.lookup v).map used
      else map.uidMap.lookup v := by
  unfold ePilotMapLookupUid
  cases hp : map.pidMap.lookup p with
  | none => simp
  | some pnode =>
      cases touch with
      | false => simp
      | true =>
          simp only [if_true, (h.lookup_pid hp).1, EPilotMap.uidMap_touchPid, lookup_touchUid]
          by_cases hv : v = pnode.uid
          · simp [hv]
          · simp [hv, Ne.symm hv]

/-! Which entries are to be written is only changed on purpose. -/

theorem writeTouchedOnly_touchPid (p : UInt32) :
    (touchPid map p).writeTouchedOnly = map.writeTouchedOnly := by
  unfold touchPid
  cases map.pidMap.lookup p with
  | none => rfl
  | some pnode => rfl

theorem writeTouchedOnly_touchUid (u : String) :
    (touchUid map u).writeTouchedOnly = map.writeTouchedOnly := by
  unfold touchUid
  cases map.uidMap.lookup u with
  | none => rfl
  | some unode => rfl

theorem writeTouchedOnly_evictPid (p : UInt32) :
    (evictPid map p).writeTouchedOnly = map.writeTouchedOnly := by
  unfold evictPid
  cases map.pidMap.lookup p with
  | none => rfl
  | some pnode => rfl

theorem writeTouchedOnly_evictUid (u : String) :
    (evictUid map u).writeTouchedOnly = map.writeTouchedOnly := by
  unfold evictUid
  cases map.uidMap.lookup u with
  | none => rfl
  | some unode => rfl

theorem writeTouchedOnly_lookupPid (u : String) (touch : Bool) :
    (ePilotMapLookupPid map u touch).2.writeTouchedOnly = map.writeTouchedOnly := by
  unfold ePilotMapLookupPid
  cases map.uidMap.lookup u with
  | none => rfl
  | some unode =>
      cases touch with
      | false => rfl
      | true => exact (writeTouchedOnly_touchUid _ u).trans (writeTouchedOnly_touchPid map _)

theorem writeTouchedOnly_lookupUid {t : Pairing UInt32 String (Bool × Bool)}
    (h : map.Represents t) (p : UInt32) (touch : Bool) :
    (ePilotMapLookupUid map p touch).2.writeTouchedOnly = map.writeTouchedOnly := by
  unfold ePilotMapLookupUid
  cases hp : map.pidMap.lookup p with
  | none => rfl
  | some pnode =>
      cases touch with
      | false => rfl
      | true =>
          simp only [if_true, (h.lookup_pid hp).1]
          exact (writeTouchedOnly_touchPid _ p).trans (writeTouchedOnly_touchUid map _)

end Tables

structure Models (map : EPilotMap) (l : Ledger) : Prop where
  reachable : map.Reachable
  entry : ∀ u, map.uidMap.lookup u = l.entry u
  touchedOnly : map.writeTouchedOnly = l.touchedOnly

namespace Models

variable {map : EPilotMap} {l : Ledger}

theorem pidOf (h : Models map l) (u : String) : map.pidOf u = l.entry.pidOf u := by
  unfold EPilotMap.pidOf Entries.pidOf
  rw [h.entry]
  cases l.entry u with
  | none => rfl
  | some unode => rfl

theorem archived (h : Models map l) (u : String) :
    ePilotMapUidIsArchived map u = l.entry.archived u := by
  unfold ePilotMapUidIsArchived Entries.archived
  rw [h.entry]
  cases l.entry u with
  | none => rfl
  | some unode => rfl

/-- The table of the pilot ids says what the ledger does. -/
theorem has_iff (h : Models map l) {p : UInt32} {u : String} :
    (map.pidMap.lookup p).map (·.uid) = some u ↔ l.entry.Has p u := by
  rw [Option.map_eq_some_iff, h.reachable.bijection.lookup p u, Entries.Has, Entries.pidOf,
    ← h.entry]
  refine and_congr_right fun h0 => ?_
  cases hu : map.uidMap.lookup u with
  | none => simp [Ne.symm h0]
  | some unode => simp

/-- A look finds the uid of a pilot id, whether it marks it or not. -/
theorem uid_lookupUid (h : Models map l) (p : UInt32) (touch : Bool) :
    (ePilotMapLookupUid map p touch).1 = (map.pidMap.lookup p).map (·.uid) := by
  obtain ⟨t, ht⟩ := h.reachable.represents
  unfold ePilotMapLookupUid
  cases hp : map.pidMap.lookup p with
  | none => rfl
  | some pnode =>
      cases touch with
      | false => rfl
      | true => simp [(ht.lookup_pid hp).1]

/-- Both tables say whether an entry is archived. -/
theorem pid_archived (h : Models map l) {p : UInt32} {u : String} (hhas : l.entry.Has p u) :
    ePilotMapPidIsArchived map p = ePilotMapUidIsArchived map u := by
  obtain ⟨t, ht⟩ := h.reachable.represents
  obtain ⟨pnode, hp, rfl⟩ := Option.map_eq_some_iff.mp (h.has_iff.mpr hhas)
  rw [ePilotMapPidIsArchived, ePilotMapUidIsArchived, hp, (ht.lookup_pid hp).1]

theorem apply (h : Models map l) (op : MapOp) : Models (op.apply map) (l.step op) := by
  obtain ⟨t, ht⟩ := h.reachable.represents
  have hreach := h.reachable.op op
  cases op with
  | insert p u archived =>
      refine ⟨hreach, fun v => ?_, ?_⟩
      · simp only [MapOp.apply, Ledger.step, Entries.insert, EPilotMap.lookup_insert,
          h.has_iff, h.entry]
      · exact ((writeTouchedOnly_evictUid _ u).trans
          (writeTouchedOnly_evictPid map p)).trans h.touchedOnly
  | removeByPid p =>
      have hevict : MapOp.apply map (.removeByPid p) = evictPid map p := ht.removeByPid_eq p
      rw [hevict] at hreach ⊢
      refine ⟨hreach, fun v => ?_, (writeTouchedOnly_evictPid map p).trans h.touchedOnly⟩
      simp only [Ledger.step, lookup_evictPid, h.has_iff, h.entry]
  | removeByUid u =>
      have hevict : MapOp.apply map (.removeByUid u) = evictUid map u :=
        EPilotMap.Represents.removeByUid_eq map u
      refine ⟨hreach, fun v => ?_, ?_⟩
      · simp only [MapOp.apply, Ledger.step, EPilotMap.lookup_removeByUid, h.entry]
      · rw [hevict]
        exact (writeTouchedOnly_evictUid map u).trans h.touchedOnly
  | lookupPid u touch =>
      refine ⟨hreach, fun v => ?_, (writeTouchedOnly_lookupPid map u touch).trans h.touchedOnly⟩
      simp only [MapOp.apply, Ledger.step, lookup_lookupPid, h.entry]
  | lookupUid p touch =>
      refine ⟨hreach, fun v => ?_,
        (writeTouchedOnly_lookupUid map ht p touch).trans h.touchedOnly⟩
      simp only [MapOp.apply, Ledger.step, lookup_lookupUid map ht, h.has_iff, h.entry]
  | clear => exact ⟨hreach, fun v => rfl, rfl⟩
  | setWriteTouchedOnly b => exact ⟨hreach, h.entry, rfl⟩

theorem foldl (h : Models map l) (ops : List MapOp) :
    Models (ops.foldl MapOp.apply map) (ops.foldl Ledger.step l) := by
  induction ops generalizing map l with
  | nil => exact h
  | cons op ops ih => exact ih (h.apply op)

end Models

/-! ## From one session to the next -/

/-- The entry is read back. -/
def outlives (e : Σ _ : String, EPilotMapUidNode) : Bool := e.2.archived || e.2.pid ≠ 0

theorem foldl_readBack_filter (es : List (Σ _ : String, EPilotMapUidNode)) (map : EPilotMap) :
    es.foldl readBack map = (es.filter outlives).foldl readBack map := by
  induction es generalizing map with
  | nil => rfl
  | cons e es ih =>
      rw [List.foldl_cons, List.filter_cons]
      by_cases he : outlives e = true
      · rw [if_pos he, List.foldl_cons, ih]
      · have hlost : e.2.archived = false ∧ e.2.pid = 0 := by simpa [outlives] using he
        have hback : readBack map e = map := by simp [readBack, hlost]
        rw [if_neg he, hback, ih]

theorem dlookup_filter {es : List (Σ _ : String, EPilotMapUidNode)} (hnodup : es.NodupKeys)
    (q : (Σ _ : String, EPilotMapUidNode) → Bool) (u : String) :
    (es.filter q).dlookup u = (es.dlookup u).filter fun unode => q ⟨u, unode⟩ := by
  induction es with
  | nil => rfl
  | cons e es ih =>
      obtain ⟨hnotMem, hnodup⟩ := List.nodupKeys_cons.mp hnodup
      have hrest := ih hnodup
      rw [List.filter_cons]
      by_cases hu : u = e.1
      · subst hu
        have hnone : es.dlookup e.1 = none := List.dlookup_eq_none.mpr hnotMem
        rw [hnone, Option.filter_none] at hrest
        rw [List.dlookup_cons_eq]
        by_cases hq : q e = true
        · rw [if_pos hq, List.dlookup_cons_eq, Option.filter_some, if_pos hq]
        · rw [if_neg hq, hrest, Option.filter_some, if_neg hq]
      · rw [List.dlookup_cons_ne es e hu, ← hrest]
        by_cases hq : q e = true
        · rw [if_pos hq, List.dlookup_cons_ne _ e hu]
        · rw [if_neg hq]

def Stores (file : MapFile) (entry : Entries) : Prop :=
  ∃ map, ePilotMapRead file = (0, some map) ∧ Models map ⟨entry, false⟩

/-- Of what the ledger says at the end of a session, the file holds what is saved. -/
theorem Models.stores {map : EPilotMap} {l : Ledger} (h : Models map l) (now : Int64)
    (walk : map.Walk) :
    ∃ doc, (ePilotMapWrite none now map walk).2.2 = some doc ∧ Stores (.doc doc) l.save := by
  obtain ⟨doc, hwrite⟩ : ∃ doc, (ePilotMapWrite none now map walk).2.2 = some doc := ⟨_, rfl⟩
  obtain ⟨map', hread⟩ : ∃ map', ePilotMapRead (.doc doc) = (0, some map') := ⟨_, rfl⟩
  have hread' : (ePilotMapRead (.doc doc)).2 = some map' := by rw [hread]
  have heq := ePilotMapRead_write hwrite hread'
  refine ⟨doc, hwrite, map', hread, h.reachable.read now walk hwrite hread', fun u => ?_, ?_⟩
  · have hnodup : walk.val.NodupKeys :=
      (List.perm_nodupKeys walk.property).mpr map.uidMap.nodupKeys
    have hnodup' := hnodup.sublist (List.filter_sublist (p := written map.writeTouchedOnly))
    rw [heq, foldl_readBack_filter]
    simp only
    rw [EPilotMap.lookup_foldl_readBack (fun e he => by
        simpa [outlives, or_comm] using List.of_mem_filter he)
      (hnodup'.sublist List.filter_sublist), dlookup_filter hnodup', dlookup_filter hnodup,
      List.perm_dlookup u hnodup walk.property]
    have hentry : map.uidMap.entries.dlookup u = l.entry u := h.entry u
    have hempty : ({ EPilotMap.empty with since := now } : EPilotMap).uidMap.lookup u = none := rfl
    rw [hempty, Option.or_none, hentry, h.touchedOnly]
    simp only [Ledger.save, Option.filter_filter]
    congr 2
    funext unode
    simp [written, outlives, Bool.or_comm]
  · rw [heq]

theorem isEmpty_keys_iff {map : EPilotMap} {entry : Entries} (h : Models map ⟨entry, false⟩) :
    map.pidMap.keys.isEmpty = true ↔ ∀ u, entry.pidOf u = 0 := by
  rw [List.isEmpty_iff, List.eq_nil_iff_forall_not_mem]
  constructor
  · intro hnone u
    by_contra h0
    have hhas := h.has_iff.mpr ⟨h0, rfl⟩
    refine hnone (entry.pidOf u) (AList.lookup_isSome.mp ?_)
    cases hp : map.pidMap.lookup (entry.pidOf u) with
    | none => simp [hp] at hhas
    | some pnode => rfl
  · intro hzero p hp
    obtain ⟨pnode, hlookup⟩ := Option.isSome_iff_exists.mp (AList.lookup_isSome.mpr hp)
    have hhas := h.has_iff.mp (show (map.pidMap.lookup p).map (·.uid) = some pnode.uid by
      rw [hlookup]
      rfl)
    exact hhas.1 ((hzero pnode.uid).symm.trans hhas.2).symm

/-- What the conduit and the ledger carry from one session to the next. -/
structure Agrees (disk : Disk) (book : Book) : Prop where
  stores : Stores disk.file book.entry
  lastUri : disk.lastUri = book.lastUri

theorem Stores.agrees {disk : Disk} {entry : Entries} (h : Stores disk.file entry) :
    Agrees disk ⟨entry, disk.lastUri⟩ := ⟨h, rfl⟩

theorem agrees_first : Agrees .first .first :=
  ⟨⟨_, rfl, .empty, fun _ => rfl, rfl⟩, rfl⟩

theorem setUp_eq {map : EPilotMap} (h : map.writeTouchedOnly = false) (lastUri : Option String)
    (s : Session) :
    setUp lastUri s map =
      { (if sourceChanged lastUri s.uri then ePilotMapClear map else map) with
        writeTouchedOnly := s.slow || s.copies || sourceChanged lastUri s.uri ||
          map.pidMap.keys.isEmpty } := by
  obtain ⟨pidMap, uidMap, since, touchedOnly⟩ := map
  change touchedOnly = false at h
  subst h
  unfold setUp checkForSlowSetting
  cases sourceChanged lastUri s.uri <;> cases s.copies <;> cases s.slow <;>
    cases pidMap.keys.isEmpty <;> rfl

/-- A session starts with a map that holds what the ledger says. -/
theorem Agrees.preSync {disk : Disk} {book : Book} (h : Agrees disk book) (s : Session) :
    ∃ map, MapSession.preSync disk s = some map ∧ Models map (book.preSync s) := by
  obtain ⟨⟨map, hread, hmap⟩, huri⟩ := h
  refine ⟨setUp disk.lastUri s map, by rw [MapSession.preSync, hread, Option.map_some], ?_⟩
  have hflag : (book.preSync s).touchedOnly = (s.slow || s.copies ||
      sourceChanged book.lastUri s.uri || map.pidMap.keys.isEmpty) := by
    rw [Bool.eq_iff_iff]
    simp only [Book.preSync, Bool.or_eq_true, decide_eq_true_iff, isEmpty_keys_iff hmap]
  rw [setUp_eq hmap.touchedOnly, huri, ← hflag]
  by_cases hchanged : sourceChanged book.lastUri s.uri = true
  · rw [if_pos hchanged]
    have hentry : (book.preSync s).entry = fun _ => none := if_pos hchanged
    refine ⟨(hmap.reachable.op .clear).op (.setWriteTouchedOnly _), fun u => ?_, rfl⟩
    rw [hentry]
    rfl
  · rw [if_neg hchanged]
    have hentry : (book.preSync s).entry = book.entry := if_neg hchanged
    refine ⟨hmap.reachable.op (.setWriteTouchedOnly _), fun u => ?_, rfl⟩
    rw [hentry]
    exact hmap.entry u

theorem Agrees.session {disk : Disk} {book : Book} (h : Agrees disk book) (s : Session) :
    Agrees (MapSession.session disk s) (book.session s) := by
  obtain ⟨map, hpre, hmap⟩ := h.preSync s
  have hend := hmap.foldl s.ops
  unfold MapSession.session Book.session postSync
  rw [hpre]
  simp only
  cases s.ending with
  | noAppBlock => exact h
  | notWritten failure => exact ⟨h.stores, rfl⟩
  | written now walk =>
      obtain ⟨doc, hwrite, hstores⟩ := hend.stores now (walk _)
      simp only
      rw [hwrite]
      exact ⟨hstores, rfl⟩

theorem Agrees.foldl {disk : Disk} {book : Book} (h : Agrees disk book)
    (sessions : List Session) :
    Agrees (sessions.foldl MapSession.session disk) (sessions.foldl Book.session book) := by
  induction sessions generalizing disk book with
  | nil => exact h
  | cons s sessions ih => exact ih (h.session s)

/-- Whatever the sessions before, a session gets a map, and at every moment of it the map
answers every question as the ledger does. -/
theorem answers_of_history (history : List Session) (s : Session) (ops : List MapOp) :
    let disk := history.foldl session .first
    let l := ops.foldl Ledger.step ((history.foldl Book.session .first).preSync s)
    ∃ map, preSync disk s = some map ∧
      let map := ops.foldl MapOp.apply map
      (∀ u touch, (ePilotMapLookupPid map u touch).1 = l.entry.pidOf u) ∧
      (∀ p u touch, (ePilotMapLookupUid map p touch).1 = some u ↔ l.entry.Has p u) ∧
      (∀ u, ePilotMapUidIsArchived map u = l.entry.archived u) ∧
      ∀ p u, l.entry.Has p u → ePilotMapPidIsArchived map p = l.entry.archived u := by
  obtain ⟨map, hpre, hmap⟩ := (agrees_first.foldl history).preSync s
  have hend := hmap.foldl ops
  refine ⟨map, hpre, fun u touch => ?_, fun p u touch => ?_, hend.archived, fun p u hhas => ?_⟩
  · rw [EPilotMap.lookupPid_fst, hend.pidOf]
  · rw [← hend.has_iff, hend.uid_lookupUid]
  · rw [hend.pid_archived hhas, hend.archived]

end GnomePilot.MapSession
