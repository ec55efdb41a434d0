import GnomePilot.Lib.History
import GnomePilot.Queue.Store

/-!
# Pending requests

A history of stores, loads and purges, with the requests that are pending and those
that were purged kept beside the file.  `alwaysSafe_iff` says which histories keep
every pending request loadable and every section apart.
-/

namespace GnomePilot.Queue

/-! ## Histories of the queue -/

/-- A stored request, with its place in the order of all stores, the number it got and
the handle that was returned. -/
structure Entry where
  serial : Nat
  req : DaemonRequest
  num : UInt32
  handle : UInt32
  deriving DecidableEq

def Entry.list (e : Entry) : String := setSection e.req.pilotId e.req.type

def Entry.sec (e : Entry) : String := sectionOf e.req.pilotId e.req.type e.num

/-- The stored data, as loading returns them. -/
def Entry.loaded (e : Entry) : GPilotRequest := e.req.queued e.num

structure QueueState where
  kf : KeyFile
  stored : Nat
  pending : List Entry
  past : List Entry

def QueueState.empty : QueueState := ⟨.empty, 0, [], []⟩

inductive QueueOp where
  | store (req : DaemonRequest)
  | loadRequests (pilotId : UInt32) (type : RequestType) (all : Bool)
  | purge (serial : Nat)

/-- The pending entry a purge is about. -/
def QueueState.find (s : QueueState) (serial : Nat) : Option Entry :=
  s.pending.find? (fun e => e.serial = serial)

def QueueState.nextNum (s : QueueState) (req : DaemonRequest) : UInt32 :=
  counter s.kf req.pilotId req.type + 1

def QueueState.newEntry (s : QueueState) (req : DaemonRequest) : Entry where
  serial := s.stored
  req := req
  num := s.nextNum req
  handle := (gpcQueueStoreRequest s.kf req.toGPilotRequest).1

/-- Loading reads the file; a request is purged once, when it is completed or removed. -/
def QueueState.step (s : QueueState) : QueueOp → QueueState
  | .store req =>
    { s with
      kf := (gpcQueueStoreRequest s.kf req.toGPilotRequest).2
      stored := s.stored + 1
      pending := s.newEntry req :: s.pending }
  | .loadRequests _ _ _ => s
  | .purge serial =>
    match s.find serial with
    | none => s
    | some e =>
      { s with
        kf := gpcQueuePurgeRequest s.kf e.loaded
        pending := s.pending.erase e
        past := e :: s.past }

theorem mem_of_find {s : QueueState} {serial : Nat} {e : Entry} (h : s.find serial = some e) :
    e ∈ s.pending := List.mem_of_find?_eq_some h

/-! ## The pending requests are in the file -/

theorem sec_inj {e e' : Entry} : e.sec = e'.sec ↔ e.list = e'.list ∧ e.num = e'.num :=
  sectionOf_inj

structure Kept (s : QueueState) : Prop where
  serial_lt : ∀ e ∈ s.pending ++ s.past, e.serial < s.stored
  nodup : s.pending.Nodup
  apart : ∀ e ∈ s.pending, ∀ e' ∈ s.pending, e.sec = e'.sec → e = e'
  found : ∀ e ∈ s.pending, loadFrom s.kf e.req.pilotId e.sec = some e.loaded
  free : ∀ pilotId type num, (∀ e ∈ s.pending, e.sec ≠ sectionOf pilotId type num) →
    s.kf.Lacks (sectionOf pilotId type num)

theorem kept_empty : Kept .empty where
  serial_lt := by simp [QueueState.empty]
  nodup := List.nodup_nil
  apart := by simp [QueueState.empty]
  found := by simp [QueueState.empty]
  free _ _ _ _ _ := rfl

/-- A store to an unused section. -/
theorem Kept.store {s : QueueState} (h : Kept s) (req : DaemonRequest)
    (hfresh : ∀ e ∈ s.pending, e.sec ≠ (s.newEntry req).sec) : Kept (s.step (.store req)) := by
  have hvalue : ∀ pilotId type num, sectionOf pilotId type num ≠ (s.newEntry req).sec →
      (s.step (.store req)).kf.value (sectionOf pilotId type num) =
        s.kf.value (sectionOf pilotId type num) := by
    intro pilotId type num hne
    exact value_store_of_ne s.kf req.toGPilotRequest (setSection_ne_sectionOf _ _ _ _ _).symm hne
  have hnew : s.newEntry req ∉ s.pending := by
    intro hmem
    exact Nat.lt_irrefl _ (h.serial_lt _ (List.mem_append_left _ hmem))
  refine ⟨?_, ?_, ?_, ?_, ?_⟩
  · intro e he
    rcases List.mem_cons.mp he with rfl | he
    · exact Nat.lt_succ_self _
    · exact Nat.lt_succ_of_lt (h.serial_lt e he)
  · exact List.nodup_cons.mpr ⟨hnew, h.nodup⟩
  · intro e he e' he' heq
    rcases List.mem_cons.mp he with rfl | he <;> rcases List.mem_cons.mp he' with rfl | he'
    · rfl
    · exact absurd heq.symm (hfresh e' he')
    · exact absurd heq (hfresh e he)
    · exact h.apart e he e' he' heq
  · intro e he
    rcases List.mem_cons.mp he with rfl | he
    · exact loadFrom_store req (h.free _ _ _ hfresh)
    · rw [← h.found e he]
      exact loadFrom_congr (hvalue _ _ _ (hfresh e he)) _
  · intro pilotId type num hnot
    have hne := hnot _ List.mem_cons_self
    rw [KeyFile.lacks_congr (hvalue _ _ _ hne.symm)]
    exact h.free _ _ _ fun e he => hnot e (List.mem_cons_of_mem _ he)

theorem mem_pending_purge {s : QueueState} {serial : Nat} {e : Entry}
    (hfind : s.find serial = some e) (hnodup : s.pending.Nodup) (e' : Entry) :
    e' ∈ (s.step (.purge serial)).pending ↔ e' ∈ s.pending ∧ e' ≠ e := by
  have hstep : (s.step (.purge serial)).pending = s.pending.erase e := by
    simp [QueueState.step, hfind]
  rw [hstep, hnodup.mem_erase_iff, and_comm]

/-- A purge of any pending request. -/
theorem Kept.purge {s : QueueState} (h : Kept s) (serial : Nat) :
    Kept (s.step (.purge serial)) := by
  cases hfind : s.find serial with
  | none => simpa [QueueState.step, hfind] using h
  | some e =>
      have he := mem_of_find hfind
      have hmem := mem_pending_purge hfind h.nodup
      have hkf : (s.step (.purge serial)).kf = gpcQueuePurgeRequest s.kf e.loaded := by
        simp [QueueState.step, hfind]
      have hvalue : ∀ pilotId type num, sectionOf pilotId type num ≠ e.sec →
          (s.step (.purge serial)).kf.value (sectionOf pilotId type num) =
            s.kf.value (sectionOf pilotId type num) := by
        intro pilotId type num hne
        rw [hkf]
        exact value_purge_of_ne s.kf e.loaded (setSection_ne_sectionOf _ _ _ _ _).symm
          fun heq => hne (Option.some.inj heq)
      refine ⟨?_, ?_, ?_, ?_, ?_⟩
      · intro e' he'
        have hpast : (s.step (.purge serial)).past = e :: s.past := by
          simp [QueueState.step, hfind]
        have hstored : (s.step (.purge serial)).stored = s.stored := by
          simp [QueueState.step, hfind]
        rw [hstored]
        apply h.serial_lt
        rw [List.mem_append, hmem, hpast, List.mem_cons] at he'
        rw [List.mem_append]
        rcases he' with he' | rfl | he'
        · exact Or.inl he'.1
        · exact Or.inl he
        · exact Or.inr he'
      · have hpending : (s.step (.purge serial)).pending = s.pending.erase e := by
          simp [QueueState.step, hfind]
        rw [hpending]
        exact h.nodup.erase e
      · intro a ha b hb
        exact h.apart a ((hmem a).1 ha).1 b ((hmem b).1 hb).1
      · intro e' he'
        obtain ⟨he', hne⟩ := (hmem e').1 he'
        rw [← h.found e' he']
        exact loadFrom_congr (hvalue _ _ _ fun heq => hne (h.apart e' he' e he heq)) _
      · intro pilotId type num hnot
        by_cases hsec : sectionOf pilotId type num = e.sec
        · rw [hsec, hkf]
          exact lacks_purge s.kf rfl
        · rw [KeyFile.lacks_congr (hvalue _ _ _ hsec)]
          apply h.free
          intro e' he' heq
          by_cases hne : e' = e
          · rw [hne] at heq
            exact hsec heq.symm
          · exact hnot e' ((hmem e').2 ⟨he', hne⟩) heq

/-! ## The pending requests are loaded -/

/-- Every pending request is returned with its data by a load of its list, of all
requests or of its type, and a store uses no pending request's section. -/
structure QueueSafe (s : QueueState) : Prop where
  loaded : ∀ e ∈ s.pending, ∀ all,
    e.loaded ∈ gpcQueueLoadRequests s.kf e.req.pilotId e.req.type all
  fresh : ∀ req, ∀ e ∈ s.pending, e.sec ≠ (s.newEntry req).sec

structure Numbered (s : QueueState) : Prop extends Kept s where
  readable : ∀ pilotId type, (counter s.kf pilotId type).toNat < 2 ^ 31
  bounded : ∀ e ∈ s.pending, 0 < e.num.toNat ∧
    e.num.toNat ≤ (counter s.kf e.req.pilotId e.req.type).toNat
  dense : ∀ pilotId type n, 0 < n → n ≤ (counter s.kf pilotId type).toNat →
    ∃ e ∈ s.pending, e.list = setSection pilotId type ∧ e.num.toNat = n

theorem numbered_empty : Numbered .empty where
  toKept := kept_empty
  readable _ _ := Nat.two_pow_pos 31
  bounded := by simp [QueueState.empty]
  dense pilotId type n h0 hn := by
    change n ≤ 0 at hn
    omega

/-- A step that leaves the numbers alone: a store has room below the readable
counters, and a purge takes the highest number of its list. -/
def Orderly (s : QueueState) : QueueOp → Prop
  | .store req => (counter s.kf req.pilotId req.type).toNat + 1 < 2 ^ 31
  | .loadRequests _ _ _ => True
  | .purge serial => ∀ e, s.find serial = some e →
    ∀ e' ∈ s.pending, e'.list = e.list → e'.num.toNat ≤ e.num.toNat

theorem toInt_toInt32 {n : UInt32} (h : n.toNat < 2 ^ 31) : n.toInt32.toInt = n.toNat := by
  rw [Int32.toInt, UInt32.toBitVec_toInt32, BitVec.toInt_eq_toNat_of_lt]
  · rfl
  · rw [UInt32.toNat_toBitVec]
    omega

theorem counter_eq_of_list {kf : KeyFile} {pilotId pilotId' : UInt32} {type type' : RequestType}
    (h : setSection pilotId type = setSection pilotId' type') :
    counter kf pilotId type = counter kf pilotId' type' := by
  simp [counter, h]

/-- A readable counter is the number of turns of the load loop. -/
theorem toNat_toInt_counter {kf : KeyFile} {pilotId : UInt32} {type : RequestType}
    (hread : (counter kf pilotId type).toNat < 2 ^ 31) :
    (kf.getInteger (setSection pilotId type) NUMREQ).toInt.toNat =
      (counter kf pilotId type).toNat := by
  have h := toInt_toInt32 hread
  rw [counter, Int32.toInt32_toUInt32] at h
  rw [h]
  rfl

/-- What a load of a list returns. -/
theorem mem_loadRequests {kf : KeyFile} {pilotId : UInt32} {type : RequestType} {all : Bool}
    (hread : (counter kf pilotId type).toNat < 2 ^ 31) {req : GPilotRequest} :
    req ∈ gpcQueueLoadRequests kf pilotId type all ↔ (req.type = type ∨ all = true) ∧
      ∃ k, 0 < k ∧ k ≤ (counter kf pilotId type).toNat ∧
        loadFrom kf pilotId (sectionOf pilotId type (.ofNat k)) = some req := by
  unfold gpcQueueLoadRequests
  rw [toNat_toInt_counter hread, mem_loadLoop]
  simp only [loadRequest_eq]

theorem Numbered.safe {s : QueueState} (h : Numbered s) : QueueSafe s where
  loaded e he all := by
    obtain ⟨h0, hle⟩ := h.bounded e he
    refine (mem_loadRequests (h.readable _ _)).2 ⟨Or.inl rfl, e.num.toNat, h0, hle, ?_⟩
    rw [UInt32.ofNat_toNat]
    exact h.found e he
  fresh req e he heq := by
    obtain ⟨hlist, hnum⟩ := sec_inj.mp heq
    have hcounter : counter s.kf e.req.pilotId e.req.type =
        counter s.kf req.pilotId req.type := counter_eq_of_list hlist
    have hle := (h.bounded e he).2
    have hread := h.readable req.pilotId req.type
    rw [hnum, hcounter] at hle
    change (counter s.kf req.pilotId req.type + 1).toNat ≤ _ at hle
    rw [UInt32.toNat_add] at hle
    simp only [UInt32.reduceToNat] at hle
    omega

theorem Numbered.store {s : QueueState} (h : Numbered s) (req : DaemonRequest)
    (hroom : (counter s.kf req.pilotId req.type).toNat + 1 < 2 ^ 31) :
    Numbered (s.step (.store req)) := by
  have hcounter := counter_store s.kf req.toGPilotRequest
  have hnext : (counter s.kf req.pilotId req.type + 1).toNat =
      (counter s.kf req.pilotId req.type).toNat + 1 := by
    rw [UInt32.toNat_add]
    simp only [UInt32.reduceToNat]
    omega
  have hself : ∀ pilotId type, setSection pilotId type = setSection req.pilotId req.type →
      (counter (s.step (.store req)).kf pilotId type).toNat =
        (counter s.kf req.pilotId req.type).toNat + 1 := by
    intro pilotId type hlist
    change (counter (gpcQueueStoreRequest _ _).2 _ _).toNat = _
    rw [hcounter, if_pos hlist, counter_eq_of_list hlist, hnext]
  have hother : ∀ pilotId type, setSection pilotId type ≠ setSection req.pilotId req.type →
      counter (s.step (.store req)).kf pilotId type = counter s.kf pilotId type := by
    intro pilotId type hlist
    exact (hcounter pilotId type).trans (if_neg hlist)
  refine ⟨h.toKept.store req (h.safe.fresh req), ?_, ?_, ?_⟩
  · intro pilotId type
    by_cases hlist : setSection pilotId type = setSection req.pilotId req.type
    · rw [hself _ _ hlist]
      exact hroom
    · rw [hother _ _ hlist]
      exact h.readable pilotId type
  · intro e he
    rcases List.mem_cons.mp he with rfl | he
    · have hnum : (s.newEntry req).num.toNat = _ := hnext
      have := hself req.pilotId req.type rfl
      change 0 < (s.newEntry req).num.toNat ∧
        (s.newEntry req).num.toNat ≤ (counter (s.step (.store req)).kf req.pilotId req.type).toNat
      omega
    · obtain ⟨h0, hle⟩ := h.bounded e he
      refine ⟨h0, ?_⟩
      by_cases hlist : setSection e.req.pilotId e.req.type = setSection req.pilotId req.type
      · rw [hself _ _ hlist]
        rw [counter_eq_of_list hlist] at hle
        omega
      · rw [hother _ _ hlist]
        exact hle
  · intro pilotId type n h0 hn
    by_cases hlist : setSection pilotId type = setSection req.pilotId req.type
    · rw [hself _ _ hlist] at hn
      by_cases hlast : n = (counter s.kf req.pilotId req.type).toNat + 1
      · exact ⟨s.newEntry req, List.mem_cons_self, hlist.symm, hnext.trans hlast.symm⟩
      · rw [← counter_eq_of_list hlist] at hn hlast
        obtain ⟨e, he, hel, hen⟩ := h.dense pilotId type n h0 (by omega)
        exact ⟨e, List.mem_cons_of_mem _ he, hel, hen⟩
    · rw [hother _ _ hlist] at hn
      obtain ⟨e, he, hel, hen⟩ := h.dense pilotId type n h0 hn
      exact ⟨e, List.mem_cons_of_mem _ he, hel, hen⟩

theorem loadLoop_congr {kf kf' : KeyFile} {pilotId : UInt32} {type : RequestType} {all : Bool}
    {n : Nat} (h : ∀ k, 0 < k → k ≤ n → kf.value (sectionOf pilotId type (.ofNat k)) =
      kf'.value (sectionOf pilotId type (.ofNat k))) :
    loadLoop kf pilotId type all n = loadLoop kf' pilotId type all n := by
  induction n with
  | zero => rfl
  | succ n ih =>
      have hrest := ih fun k hk hkn => h k hk (Nat.le_succ_of_le hkn)
      have hload := loadFrom_congr (h (n + 1) (by omega) (Nat.le_refl _)) pilotId
      simp only [loadLoop, loadRequest_eq, hload, hrest]

theorem counter_stored (kf : KeyFile) (req : GPilotRequest) {type : RequestType}
    (hlist : setSection req.pilotId type = setSection req.pilotId req.type) :
    counter (gpcQueueStoreRequest kf req).2 req.pilotId type =
      counter kf req.pilotId req.type + 1 := by
  rw [counter_store, if_pos hlist, counter_eq_of_list hlist]

/-- A stored request is loaded first, if the counter stays in the range of an `int`. -/
theorem loadRequests_stored {kf : KeyFile} {req new : GPilotRequest}
    (hroom : (counter kf req.pilotId req.type).toNat + 1 < 2 ^ 31)
    (hnew : loadFrom (gpcQueueStoreRequest kf req).2 req.pilotId
      (sectionOf req.pilotId req.type (counter kf req.pilotId req.type + 1)) = some new)
    {type : RequestType}
    (hlist : setSection req.pilotId type = setSection req.pilotId req.type) (all : Bool) :
    gpcQueueLoadRequests (gpcQueueStoreRequest kf req).2 req.pilotId type all =
      if new.type ≠ type ∧ all = false then gpcQueueLoadRequests kf req.pilotId type all
      else new :: gpcQueueLoadRequests kf req.pilotId type all := by
  have hcount : counter kf req.pilotId type = counter kf req.pilotId req.type :=
    counter_eq_of_list hlist
  rw [← hcount] at hroom
  have hcounter : (counter (gpcQueueStoreRequest kf req).2 req.pilotId type).toNat =
      (counter kf req.pilotId type).toNat + 1 := by
    rw [counter_stored kf req hlist, ← hcount, UInt32.toNat_add]
    simp only [UInt32.reduceToNat]
    omega
  have hnum : UInt32.ofNat ((counter kf req.pilotId type).toNat + 1) =
      counter kf req.pilotId req.type + 1 := by
    rw [UInt32.ofNat_add, UInt32.ofNat_toNat, hcount]
    rfl
  have hsec : ∀ num, sectionOf req.pilotId type num = sectionOf req.pilotId req.type num :=
    fun num => sectionOf_inj.mpr ⟨hlist, rfl⟩
  have hrest : loadLoop (gpcQueueStoreRequest kf req).2 req.pilotId type all
      (counter kf req.pilotId type).toNat =
        loadLoop kf req.pilotId type all (counter kf req.pilotId type).toNat := by
    apply loadLoop_congr
    intro k hk hkn
    apply value_store_of_ne kf _ (setSection_ne_sectionOf _ _ _ _ _).symm
    intro heq
    have hk' := congrArg UInt32.toNat (sectionOf_inj.mp heq).2
    rw [← hnum, UInt32.toNat_ofNat_of_lt' (by change k < 2 ^ 32; omega),
      UInt32.toNat_ofNat_of_lt' (by change _ < 2 ^ 32; omega)] at hk'
    omega
  unfold gpcQueueLoadRequests
  rw [toNat_toInt_counter (by omega), toNat_toInt_counter (by omega), hcounter, loadLoop,
    loadRequest_eq, hnum, hsec, hnew, hrest]

theorem loadRequests_stored_other (kf : KeyFile) (req : GPilotRequest) {pilotId : UInt32}
    {type : RequestType} (hlist : setSection pilotId type ≠ setSection req.pilotId req.type)
    (all : Bool) : gpcQueueLoadRequests (gpcQueueStoreRequest kf req).2 pilotId type all =
      gpcQueueLoadRequests kf pilotId type all := by
  have hvalue := value_store_of_ne kf req hlist (setSection_ne_sectionOf _ _ _ _ _)
  unfold gpcQueueLoadRequests
  rw [KeyFile.getInteger_congr hvalue]
  apply loadLoop_congr
  intro k _ _
  apply value_store_of_ne kf _ (setSection_ne_sectionOf _ _ _ _ _).symm
  exact fun heq => hlist (sectionOf_inj.mp heq).1

/-- Where the counter leaves the range of an `int`, the list is not loaded any more. -/
theorem loadRequests_full {kf : KeyFile} {req : GPilotRequest}
    (hfull : ¬ (counter kf req.pilotId req.type).toNat + 1 < 2 ^ 31) (all : Bool) :
    gpcQueueLoadRequests (gpcQueueStoreRequest kf req).2 req.pilotId req.type all = [] := by
  have hint := congrArg UInt32.toInt32 (counter_stored kf req rfl)
  rw [counter, Int32.toInt32_toUInt32] at hint
  have hnone : (counter kf req.pilotId req.type + 1).toInt32.toInt.toNat = 0 := by
    generalize counter kf req.pilotId req.type = num at hfull
    have hlt := num.toNat_lt
    rw [Int32.toInt, UInt32.toBitVec_toInt32, BitVec.toInt_eq_toNat_cond, UInt32.toNat_toBitVec,
      UInt32.toNat_add]
    simp only [UInt32.reduceToNat]
    split <;> omega
  rw [gpcQueueLoadRequests, hint, hnone, loadLoop]

theorem loadRequests_store {s : QueueState} (h : Numbered s) (req : DaemonRequest)
    (hroom : (counter s.kf req.pilotId req.type).toNat + 1 < 2 ^ 31) (all : Bool) :
    gpcQueueLoadRequests (s.step (.store req)).kf req.pilotId req.type all =
      (s.newEntry req).loaded :: gpcQueueLoadRequests s.kf req.pilotId req.type all := by
  have hnew : loadFrom (s.step (.store req)).kf req.pilotId
      (sectionOf req.pilotId req.type (s.newEntry req).num) = some (s.newEntry req).loaded :=
    (h.store req hroom).found (s.newEntry req) List.mem_cons_self
  refine (loadRequests_stored hroom hnew rfl all).trans (if_neg ?_)
  exact fun hskip => hskip.1 rfl

theorem counter_step_purge {s : QueueState} (h : Numbered s) {serial : Nat} {e : Entry}
    (hfind : s.find serial = some e) (pilotId : UInt32) (type : RequestType) :
    (counter (s.step (.purge serial)).kf pilotId type).toNat =
      if setSection pilotId type = e.list then (counter s.kf pilotId type).toNat - 1
      else (counter s.kf pilotId type).toNat := by
  have he := mem_of_find hfind
  have hkf : (s.step (.purge serial)).kf = gpcQueuePurgeRequest s.kf e.loaded := by
    simp [QueueState.step, hfind]
  rw [hkf, counter_purge s.kf e.loaded rfl]
  change (if setSection pilotId type = e.list then _ else _ : UInt32).toNat = _
  by_cases hlist : setSection pilotId type = e.list
  · rw [if_pos hlist, if_pos hlist]
    obtain ⟨h0, hle⟩ := h.bounded e he
    rw [← counter_eq_of_list hlist] at hle
    rw [UInt32.toNat_sub_of_le]
    · rfl
    · rw [UInt32.le_iff_toNat_le]
      change 1 ≤ _
      omega
  · rw [if_neg hlist, if_neg hlist]

theorem Numbered.purge {s : QueueState} (h : Numbered s) (serial : Nat)
    (htop : Orderly s (.purge serial)) : Numbered (s.step (.purge serial)) := by
  cases hfind : s.find serial with
  | none => simpa [QueueState.step, hfind] using h
  | some e =>
      have he := mem_of_find hfind
      have hmem := mem_pending_purge hfind h.nodup
      have hcounter := counter_step_purge h hfind
      refine ⟨h.toKept.purge serial, ?_, ?_, ?_⟩
      · intro pilotId type
        have := h.readable pilotId type
        rw [hcounter]
        split <;> omega
      · intro e' he'
        obtain ⟨he', hne⟩ := (hmem e').1 he'
        obtain ⟨h0, hle⟩ := h.bounded e' he'
        refine ⟨h0, ?_⟩
        rw [hcounter]
        by_cases hlist : setSection e'.req.pilotId e'.req.type = e.list
        · rw [if_pos hlist]
          have hlt : e'.num.toNat ≠ e.num.toNat := by
            intro heq
            exact hne (h.apart e' he' e he (sec_inj.mpr ⟨hlist, UInt32.toNat_inj.mp heq⟩))
          have hmax := htop e hfind e' he' hlist
          have hbound := (h.bounded e he).2
          rw [← counter_eq_of_list hlist] at hbound
          omega
        · rw [if_neg hlist]
          exact hle
      · intro pilotId type n h0 hn
        rw [hcounter] at hn
        by_cases hlist : setSection pilotId type = e.list
        · rw [if_pos hlist] at hn
          obtain ⟨e', he', hel, hen⟩ := h.dense pilotId type n h0 (by omega)
          refine ⟨e', (hmem e').2 ⟨he', ?_⟩, hel, hen⟩
          rintro rfl
          obtain ⟨top, htopmem, htoplist, htopnum⟩ := h.dense pilotId type
            (counter s.kf pilotId type).toNat (by omega) (Nat.le_refl _)
          have := htop e' hfind top htopmem (htoplist.trans hlist)
          omega
        · rw [if_neg hlist] at hn
          obtain ⟨e', he', hel, hen⟩ := h.dense pilotId type n h0 hn
          refine ⟨e', (hmem e').2 ⟨he', ?_⟩, hel, hen⟩
          rintro rfl
          exact hlist hel.symm

/-- A step that is not orderly leaves a pending request unloaded. -/
theorem not_safe_of_not_orderly {s : QueueState} (h : Numbered s) (op : QueueOp)
    (hop : ¬ Orderly s op) : ¬ QueueSafe (s.step op) := by
  intro hsafe
  cases op with
  | loadRequests pilotId type all => exact hop trivial
  | store req =>
      -- the counter becomes negative as an `int`, and nothing is loaded
      have hload := hsafe.loaded (s.newEntry req) List.mem_cons_self true
      change _ ∈ gpcQueueLoadRequests (gpcQueueStoreRequest s.kf req.toGPilotRequest).2 req.pilotId
        req.type true at hload
      rw [loadRequests_full hop] at hload
      cases hload
  | purge serial =>
      -- the request with the highest number is beyond the new counter
      simp only [Orderly, not_forall] at hop
      obtain ⟨e, hfind, e', he', hlist, hlt⟩ := hop
      have he := mem_of_find hfind
      have hle := (h.bounded e' he').2
      obtain ⟨top, htop, htoplist, htopnum⟩ := h.dense e'.req.pilotId e'.req.type
        (counter s.kf e'.req.pilotId e'.req.type).toNat (by omega) (Nat.le_refl _)
      have hne : top ≠ e := by
        rintro rfl
        omega
      have htopsafe := hsafe.loaded top ((mem_pending_purge hfind h.nodup top).2 ⟨htop, hne⟩) true
      have hcounter := counter_step_purge h hfind top.req.pilotId top.req.type
      have hsame : counter s.kf top.req.pilotId top.req.type =
          counter s.kf e'.req.pilotId e'.req.type := counter_eq_of_list htoplist
      have htople : setSection top.req.pilotId top.req.type = e.list := htoplist.trans hlist
      rw [if_pos htople, hsame, ← htopnum] at hcounter
      have hread := h.readable e'.req.pilotId e'.req.type
      rw [mem_loadRequests (by omega)] at htopsafe
      obtain ⟨-, k, hk, hkle, hk'⟩ := htopsafe
      have hsec := sectionName_of_loadFrom hk'
      have hnum := (sectionOf_inj.mp (Option.some.inj hsec)).2
      have hknum : top.num.toNat = k := by
        rw [hnum]
        exact UInt32.toNat_ofNat_of_lt' (by
          change k < 2 ^ 32
          omega)
      omega

/-- In a history that starts with an empty queue, every pending request stays loadable
and every section apart exactly when every purge takes the highest number of its list
and no counter leaves the range of an `int`. -/
theorem alwaysSafe_iff (ops : List QueueOp) :
    History.Always QueueState.step QueueSafe .empty ops ↔
      History.Allowed QueueState.step Orderly .empty ops := by
  apply History.always_iff_allowed Numbered
  · intro s h
    exact h.safe
  · intro s op h hop
    cases op with
    | store req => exact h.store req hop
    | loadRequests pilotId type all => exact h
    | purge serial => exact h.purge serial hop
  · exact fun s op h => not_safe_of_not_orderly h op
  · exact numbered_empty

/-- A request to restore a directory to the pilot with ID 5. -/
def restoreRequest (directory : String) : DaemonRequest where
  pilotId := 5
  handle := 0
  timeout := 0
  cradle := none
  clientId := some ""
  parameters := .restore (some directory)
  sectionName := none
  wellFormed := ⟨by simp [GPilotRequest.type, Parameters.type, isSystemRelated], by simp, by simp⟩

/-- Two requests, the first one purged: the second is pending and no longer loaded, and
the next store writes over it. -/
theorem purgeFirst_forgets :
    let s := [.store (restoreRequest "/a"), .store (restoreRequest "/b"), .purge 0].foldl
      QueueState.step .empty
    s.pending.map Entry.serial = [1] ∧ s.pending.map Entry.sec = ["5-2"] ∧
      gpcQueueLoadRequests s.kf 5 .restore true = [] ∧
      (s.newEntry (restoreRequest "/c")).sec = "5-2" := by
  decide

end GnomePilot.Queue
