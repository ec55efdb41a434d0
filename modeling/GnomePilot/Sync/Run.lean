import GnomePilot.Sync.Passes

/-!
# A whole run

`synchronize` and the two merges, from the states a session can find, seen
through the pairs and the loose part.  The results here are what every property
of a successful run is read off from.
-/

namespace GnomePilot.Sync

variable {α : Type}

/-! ## Passes in sequence -/

theorem Passed.trans {base : Nat} {f f' : Nat → Pair α → Pair α} {g g' : Loose α → Loose α}
    {s s' s'' : SyncState α} (h : Passed base f g s s') (h' : Passed base f' g' s' s'') :
    Passed base (fun i p => f' i (f i p)) (fun L => g' (g L)) s s'' where
  wf := h'.wf
  pair i h0 hb := by rw [h'.pair i h0 hb, h.pair i h0 hb]
  loose := by rw [h'.loose, h.loose]

theorem Passed.congr {base : Nat} {f : Nat → Pair α → Pair α} {g g' : Loose α → Loose α}
    {s s' : SyncState α} (h : Passed base f g s s') (hg : g (s.loose base) = g' (s.loose base)) :
    Passed base f g' s s' :=
  ⟨h.wf, h.pair, h.loose.trans hg⟩

theorem Visited.passed {base : Nat} {f : Nat → Pair α → Pair α} {ids : List Nat}
    {s s' : SyncState α} (h : Visited base f ids s s') :
    Passed base (fun i p => if i ∈ ids then f i p else p) (fun L => L) s s' where
  wf := h.wf
  pair i h0 _ := h.pair i (by omega)
  loose := h.loose

/-! ## The loose part of a run -/

namespace Loose

/-- All slots from `m` on are empty. -/
def Bounded (m : Nat) (L : Loose α) : Prop := ∀ u, m ≤ u → L.slot u = none

/-- A turn at an empty slot does nothing, and no turn fills one. -/
structure Local (g : Loose α → Nat → Loose α) : Prop where
  skip : ∀ L u, L.slot u = none → g L u = L
  stays : ∀ L u v, L.slot v = none → (g L u).slot v = none

theorem Local.bounded {g : Loose α → Nat → Loose α} (hg : Local g) {m : Nat} {L : Loose α}
    (hL : L.Bounded m) (us : List Nat) : (us.foldl g L).Bounded m :=
  Loop.foldl_inv (Bounded m) g (fun L u h v hv => hg.stays L u v (h v hv)) us L hL

/-- A pass over the used slots does not depend on where they end. -/
theorem Local.foldl_range {g : Loose α → Nat → Loose α} (hg : Local g) {m n : Nat}
    {L : Loose α} (hm : L.Bounded m) (hn : L.Bounded n) :
    (List.range n).foldl g L = (List.range m).foldl g L := by
  have hext : ∀ k a, L.Bounded a → (List.range (a + k)).foldl g L = (List.range a).foldl g L := by
    intro k a ha
    induction k with
    | zero => rfl
    | succ k ih =>
        rw [← Nat.add_assoc, List.range_succ, List.foldl_append, List.foldl_cons, List.foldl_nil,
          ih]
        exact hg.skip _ _ (hg.bounded ha _ (a + k) (by omega))
  by_cases hmn : m ≤ n
  · have := hext (n - m) m hm
    rwa [Nat.add_sub_cancel' hmn] at this
  · have := hext (m - n) n hn
    rw [Nat.add_sub_cancel' (by omega)] at this
    exact this.symm

theorem add_local {L : Loose α} {assign : Bool} {u v : Nat} (h : L.slot v = none) :
    (L.add assign u).slot v = none := by
  unfold add
  cases hu : L.slot u with
  | none => exact h
  | some l =>
      have hv : v ≠ u := by
        rintro rfl
        rw [hu] at h
        contradiction
      simp [hv, h]

theorem selected_of_slot_none {flag : RecordAttr} {L : Loose α} {u : Nat} (h : L.slot u = none) :
    L.selected flag u = false := by
  simp [selected, h]

theorem newTurn_local : Local (newTurn (α := α)) where
  skip L u h := by simp [newTurn, selected_of_slot_none h]
  stays L u v h := by
    unfold newTurn
    split
    · exact add_local h
    · exact h

theorem modifiedTurn_local : Local (modifiedTurn (α := α)) where
  skip L u h := by simp [modifiedTurn, selected_of_slot_none h]
  stays L u v h := by
    unfold modifiedTurn
    split
    · exact add_local h
    · exact h

theorem deletedTurn_local : Local (deletedTurn (α := α)) where
  skip L u h := by simp [deletedTurn, h]
  stays L u v h := by
    unfold deletedTurn
    split
    · exact h
    · split <;> exact h

/-- `standard_abs_merge_to_remote` on the loose part. -/
def mergeToRemote (m : Nat) (L : Loose α) : Loose α :=
  (List.range m).foldl modifiedTurn ((List.range m).foldl newTurn L)

def close (L : Loose α) : Loose α :=
  { L with
    slot := fun u => (L.slot u).filter (fun l => l.attr ≠ .deleted)
    rem := fun j => ((L.rem j).filter DlpRecord.live).map (fun d => { d with dirty := false }) }

/-- The two-way operation on the loose part; the main loop does not reach it. -/
def synchronize (m : Nat) (L : Loose α) : Loose α :=
  ((List.range m).foldl deletedTurn (L.mergeToRemote m)).close

end Loose

/-! ## The parts of a run -/

section Parts

variable {base : Nat} {s : SyncState α}

theorem loose_bounded : (s.loose base).Bounded s.store.size := by
  intro u hu
  simp [SyncState.loose, s.store.bounded u hu]

theorem Passed.upTo {f : Nat → Pair α → Pair α} {g : Loose α → Nat → Loose α} {s' : SyncState α}
    (hg : Loose.Local g)
    (h : Passed base f (fun L => (List.range s.store.size).foldl g L) s s') {m : Nat}
    (hm : (s.loose base).Bounded m) :
    Passed base f (fun L => (List.range m).foldl g L) s s' :=
  h.congr (hg.foldl_range hm loose_bounded)

theorem keyedBelow_purge {st : LocalStore α} (hk : st.KeyedBelow base) :
    st.purge.KeyedBelow base := by
  intro v w l m hl hm
  rw [LocalStore.get_purge, Option.filter_eq_some_iff] at hl hm
  exact hk v w l m hl.1 hm.1

theorem purge_recordAt {st : LocalStore α} (hk : st.KeyedBelow base) {i : Nat} (hi : i ≠ 0)
    (hb : i < base) :
    st.purge.recordAt i = (st.recordAt i).filter (fun l => l.attr ≠ .deleted) := by
  apply Option.ext
  intro l
  rw [(keyedBelow_purge hk).recordAt_eq_some hi hb, Option.filter_eq_some_iff,
    hk.recordAt_eq_some hi hb]
  constructor
  · rintro ⟨u, hg, hid⟩
    rw [LocalStore.get_purge, Option.filter_eq_some_iff] at hg
    exact ⟨⟨u, hg.1, hid⟩, hg.2⟩
  · rintro ⟨⟨u, hg, hid⟩, hattr⟩
    refine ⟨u, ?_, hid⟩
    rw [LocalStore.get_purge, Option.filter_eq_some_iff]
    exact ⟨hg, hattr⟩

/-- Closing a successful run. -/
theorem close_passed (hwf : Wf base s) :
    Passed base (fun _ p => p.close) Loose.close s
      (standardAbsCloseDbAndPurgeLocal s true) where
  wf := by
    refine ⟨keyedBelow_purge hwf.keyed, ?_, hwf.base_pos, hwf.base_le, hwf.alive⟩
    intro j d hb hd
    obtain ⟨e, he, -⟩ := Option.map_eq_some_iff.mp hd
    exact hwf.claimed j e hb (Option.filter_eq_some_iff.mp he).1
  pair i h0 hb := by
    have hrec := purge_recordAt hwf.keyed (show i ≠ 0 by omega) hb
    simp only [SyncState.pair, Pair.close, Pair.mk.injEq]
    exact ⟨hrec, rfl, rfl, rfl⟩
  loose := by
    apply Loose.ext'
    · rfl
    · intro u
      simp only [standardAbsCloseDbAndPurgeLocal, SyncState.loose, Loose.close, SyncState.record,
        SyncState.cleanUpDatabase, SyncState.purge, SyncState.resetSyncFlags, if_true,
        LocalStore.get_purge]
      cases s.store.get u with
      | none => rfl
      | some l =>
          by_cases h : l.attr = .deleted <;> by_cases h' : Unissued base l.ID <;>
            simp [Option.filter, h, h']
    · intro j
      by_cases hj : base ≤ j
      · simp [standardAbsCloseDbAndPurgeLocal, SyncState.loose, Loose.close, SyncState.record,
          SyncState.cleanUpDatabase, SyncState.purge, SyncState.resetSyncFlags, hj]
      · simp [SyncState.loose, Loose.close, hj]
    · intro j
      rfl
    · intro j
      rfl

variable [DecidableEq α] [Inhabited α]

theorem standardAbsMergeToRemote_passed (hwf : Wf base s) (dir : SyncDirection)
    (hdir : dir.toRemote = true) {m : Nat} (hm : (s.loose base).Bounded m) :
    Passed base (fun i p => p.mergeToRemote i dir) (Loose.mergeToRemote m) s
      (standardAbsMergeToRemote .none s dir) := by
  have hnew := (forEachSpecific_passed (fun s u hwf => installNew_turn (s := s) (u := u) hwf)
    (fun _ _ hp => Pair.newPass_unselected (selected_of_loc_none hp)) hwf).upTo
      Loose.newTurn_local hm
  have hm' : ((forEachSpecific .new (installNew .none) s).loose base).Bounded m := by
    rw [hnew.loose]
    exact Loose.newTurn_local.bounded hm _
  have hmod := (forEachSpecific_passed
    (fun s u hwf => modified_turn (s := s) (u := u) hwf hdir)
    (fun _ _ hp => Pair.resolvePass_unselected (selected_of_loc_none hp)) hnew.wf).upTo
      Loose.modifiedTurn_local hm'
  simp only [standardAbsMergeToRemote, Pair.mergeToRemote, hdir, if_true]
  exact hnew.trans hmod

theorem standardAbsCheckLocallyDeletedRecords_passed (hwf : Wf base s) {m : Nat}
    (hm : (s.loose base).Bounded m) :
    Passed base (fun i p => p.resolvePass .deleted i SyncBothWays)
      (fun L => (List.range m).foldl Loose.deletedTurn L) s
      (standardAbsCheckLocallyDeletedRecords .none s SyncBothWays) :=
  (forEachSpecific_passed (fun s u hwf => deleted_turn (s := s) (u := u) hwf rfl)
    (fun _ _ hp => Pair.resolvePass_unselected (selected_of_loc_none hp)) hwf).upTo
      Loose.deletedTurn_local hm

end Parts

/-! ## What a session starts from -/

/-- The two copies of a database.  The local records are keyed by pilot IDs; ID 0
stands for a record no pilot has seen. -/
structure Replicas (α : Type) where
  store : LocalStore α
  pilot : PilotDB α
  keyed : store.Keyed

namespace Replicas

def ofLists (locals : List (LocalRecord α)) (records : List (Nat × DlpRecord α)) (seed : Nat)
    (h : locals.Pairwise (fun l m => l.ID = m.ID → l.ID = 0) ∧ (records.map Prod.fst).Nodup ∧
      (∀ i ∈ records.map Prod.fst, 0 < i ∧ i < seed) ∧ 0 < seed) : Replicas α where
  store := LocalStore.ofList locals
  pilot := PilotDB.ofList records seed h.2.1 h.2.2.1 h.2.2.2
  keyed := LocalStore.keyed_ofList h.1

/-- Every local ID is one that this pilot handed out.  After the pilot was replaced or
reset they need not be. -/
def Issued (x : Replicas α) : Prop :=
  ∀ u l, x.store.get u = some l → l.ID < x.pilot.uniqueIDSeed

theorem issued_ofLists {locals : List (LocalRecord α)} {records : List (Nat × DlpRecord α)}
    {seed : Nat} {h} (hids : ∀ l ∈ locals, l.ID < seed) :
    (ofLists locals records seed h).Issued :=
  fun _ l hl => hids l (List.mem_of_getElem? hl)

/-- The conduit is instantiated for the session. -/
def start (x : Replicas α) (slow : Bool) : SyncState α :=
  SyncState.start x.store x.pilot slow

/-- The records of an ID before the session. -/
def pair (x : Replicas α) (i : Nat) : Pair α :=
  Pair.start (x.store.recordAt i) (x.pilot.get i)

def loose (x : Replicas α) : Loose α where
  seed := x.pilot.uniqueIDSeed
  slot u := (x.store.get u).filter (fun l => Unissued x.pilot.uniqueIDSeed l.ID)
  rem _ := none
  arch _ := []
  ignored _ := false

theorem start_wf (x : Replicas α) (slow : Bool) : Wf x.pilot.uniqueIDSeed (x.start slow) where
  keyed := x.keyed.below _
  claimed j d hb hd := by
    have := (PilotDB.get_issued hd).2
    change x.pilot.uniqueIDSeed ≤ j at hb
    change j < x.pilot.uniqueIDSeed at this
    omega
  base_pos := x.pilot.seed_pos
  base_le := Nat.le_refl _
  alive := rfl

theorem start_pair (x : Replicas α) (slow : Bool) (i : Nat) :
    (x.start slow).pair i = x.pair i := by
  simp [start, SyncState.start, SyncState.pair, pair, Pair.start, SyncState.archivedAt]

theorem start_loose (x : Replicas α) (slow : Bool) :
    (x.start slow).loose x.pilot.uniqueIDSeed = x.loose := by
  apply Loose.ext'
  · rfl
  · intro u
    rfl
  · intro j
    simp only [SyncState.loose, start, SyncState.start, loose]
    split
    · exact PilotDB.get_eq_none_of_seed_le (by assumption)
    · rfl
  · intro j
    simp [SyncState.loose, SyncState.archivedAt, start, SyncState.start, loose]
  · intro j
    simp [SyncState.loose, start, SyncState.start, loose]

end Replicas

/-! ## The operations -/

section Operations

theorem order_lt_seed (x : Replicas α) : ∀ i ∈ x.pilot.order, i < x.pilot.uniqueIDSeed :=
  fun i hi => (x.pilot.order_issued i hi).2

/-- The state in which the body of an operation starts. -/
def opened (s : SyncState α) : SyncState α :=
  ((s.record (.openDB true)).record .readOpenDBInfo).record (.preSync true)

/-- A body that returns 0 is followed by the closing of a successful run. -/
theorem withOpenDb_closed {fl : Faults} {s s' : SyncState α}
    {body : SyncState α → Int × SyncState α} (hopen : fl.openDB = false)
    (hpre : fl.preSync = false) (hbody : body (opened s) = (0, s')) (halive : s'.crashed = false) :
    withOpenDb fl s body = (0, standardAbsCloseDbAndPurgeLocal s' true) := by
  have hopened : withOpenDb fl s body = finish (body (opened s)).1 (body (opened s)).2 := by
    simp [withOpenDb, standardAbsOpenDb, preSync, hopen, hpre, opened]
  rw [hopened, hbody]
  simp [finish, halive]

theorem withOpenDb_passed {base : Nat} {f : Nat → Pair α → Pair α} {g : Loose α → Loose α}
    {s : SyncState α} (body : SyncState α → Int × SyncState α)
    (hresult : (body (opened s)).1 = 0) (h : Passed base f g (opened s) (body (opened s)).2) :
    (withOpenDb .none s body).1 = 0 ∧
      Passed base (fun i p => (f i p).close) (fun L => (g L).close) s
        (withOpenDb .none s body).2 := by
  have hbody : body (opened s) = (0, (body (opened s)).2) := Prod.ext hresult rfl
  rw [withOpenDb_closed rfl rfl hbody h.wf.alive]
  have hclose := h.trans (close_passed h.wf)
  exact ⟨rfl, hclose.wf, hclose.pair, hclose.loose⟩

theorem Replicas.opened_wf (x : Replicas α) (slow : Bool) :
    Wf x.pilot.uniqueIDSeed (opened (x.start slow)) :=
  (((x.start_wf slow).record (.openDB true)).record .readOpenDBInfo).record (.preSync true)

theorem Replicas.opened_bounded (x : Replicas α) (slow : Bool) :
    ((opened (x.start slow)).loose x.pilot.uniqueIDSeed).Bounded x.store.size :=
  loose_bounded (s := opened (x.start slow))

variable [DecidableEq α]

/-- The main loop the operation chooses. -/
def choosesFast (slow : Bool) (dbinfo : DBInfo) : Bool :=
  slow = false ∧ gpilotSyncPcMatch dbinfo = true

/-- The IDs the main loop of a two-way session hands to `sync_record`. -/
def Replicas.visits (x : Replicas α) (fast : Bool) : List Nat :=
  mainVisits fast (x.start (!fast))

theorem mainVisits_start (x : Replicas α) (fast slow : Bool) :
    mainVisits fast (x.start slow) = x.visits fast := by
  unfold Replicas.visits mainVisits
  cases fast <;> rfl

/-- The main loop of a two-way session, after which the slow flag is put back. -/
def mainLoop (dbinfo : DBInfo) (s : SyncState α) : SyncState α :=
  { (if s.slow = false ∧ gpilotSyncPcMatch dbinfo = true then FastSync .none s
      else SlowSync .none s) with slow := false }

theorem mainLoop_passed (x : Replicas α) (slow : Bool) (dbinfo : DBInfo) :
    Passed x.pilot.uniqueIDSeed
      (fun i p => if i ∈ x.visits (choosesFast slow dbinfo) then p.visit i SyncBothWays else p)
      (fun L => L) (opened (x.start slow)) (mainLoop dbinfo (opened (x.start slow))) := by
  have hwf := x.opened_wf slow
  have horder : ∀ i ∈ (opened (x.start slow)).pilot.order, i < x.pilot.uniqueIDSeed :=
    order_lt_seed x
  have hvisits : ∀ fast, mainVisits fast (opened (x.start slow)) = x.visits fast := by
    intro fast
    rw [← mainVisits_start x fast slow]
    cases fast <;> rfl
  have hloop : Passed x.pilot.uniqueIDSeed
      (fun i p => if i ∈ x.visits (choosesFast slow dbinfo) then p.visit i SyncBothWays else p)
      (fun L => L) (opened (x.start slow))
      (if slow = false ∧ gpilotSyncPcMatch dbinfo = true then FastSync .none (opened (x.start slow))
        else SlowSync .none (opened (x.start slow))) := by
    by_cases hfast : slow = false ∧ gpilotSyncPcMatch dbinfo = true
    · rw [if_pos hfast, ← hvisits]
      simpa [choosesFast, hfast] using (FastSync_visited hwf horder).passed
    · rw [if_neg hfast, ← hvisits]
      simpa [choosesFast, hfast] using (SlowSync_visited hwf horder).passed
  -- putting the slow flag back is not seen by the pairs
  exact ⟨⟨hloop.wf.keyed, hloop.wf.claimed, hloop.wf.base_pos, hloop.wf.base_le,
    hloop.wf.alive⟩, hloop.pair, hloop.loose⟩

variable [Inhabited α]

/-- A two-way session without failing calls returns 0 and acts on each pair and on
the loose part as their own `synchronize` does. -/
theorem synchronize_passed (x : Replicas α) (slow : Bool) (dbinfo : DBInfo) :
    (Sync.synchronize .none dbinfo (x.start slow)).1 = 0 ∧
    Passed x.pilot.uniqueIDSeed
      (fun i p => p.synchronize i (i ∈ x.visits (choosesFast slow dbinfo)))
      (Loose.synchronize x.store.size) (x.start slow)
      (Sync.synchronize .none dbinfo (x.start slow)).2 := by
  have hmain := mainLoop_passed x slow dbinfo
  have hm₁ : ((mainLoop dbinfo (opened (x.start slow))).loose x.pilot.uniqueIDSeed).Bounded
      x.store.size := by
    rw [hmain.loose]
    exact x.opened_bounded slow
  have hmerge := standardAbsMergeToRemote_passed hmain.wf SyncBothWays rfl hm₁
  have hm₂ : ((standardAbsMergeToRemote .none (mainLoop dbinfo (opened (x.start slow)))
      SyncBothWays).loose x.pilot.uniqueIDSeed).Bounded x.store.size := by
    rw [hmerge.loose]
    exact Loose.modifiedTurn_local.bounded (Loose.newTurn_local.bounded hm₁ _) _
  have hdel := standardAbsCheckLocallyDeletedRecords_passed hmerge.wf hm₂
  obtain ⟨hresult, hpassed⟩ := withOpenDb_passed (s := x.start slow)
    (fun s => (0, standardAbsCheckLocallyDeletedRecords .none
      (standardAbsMergeToRemote .none (mainLoop dbinfo s) SyncBothWays) SyncBothWays))
    rfl ((hmain.trans hmerge).trans hdel)
  refine ⟨hresult, hpassed.wf, ?_, hpassed.loose⟩
  intro i h0 hb
  refine (hpassed.pair i h0 hb).trans ?_
  simp [Pair.synchronize]

end Operations

end GnomePilot.Sync
