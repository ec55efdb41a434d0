import GnomePilot.Queue.Batch

/-!
# Request handles

A client gets a handle that packs the pilot ID and the number of its request, and
removes the request by it.  `alwaysSound_iff` says in which histories every handle
designates its own request for as long as that is pending and no other afterwards.
-/

namespace GnomePilot.Queue

/-! ## What a handle designates -/

/-- The section `gpilot_daemon_remove_request` looks at. -/
def target (handle : UInt32) : String :=
  sectionOf (handle / 65535) (if handle / 65535 = 0 then .cradleEvent else .pilotEvent)
    (handle % 65535)

theorem removeRequest_eq (kf : KeyFile) (handle : UInt32) :
    gpilotDaemonRemoveRequest kf handle =
      match loadFrom kf (handle / 65535) (target handle) with
      | some req => gpcQueuePurgeRequest kf req
      | none => kf := by
  have hload : gpcQueueLoadRequest kf (handle / 65535) (handle / 65535 = 0) (handle % 65535) =
      loadFrom kf (handle / 65535) (target handle) := by
    by_cases h : handle / 65535 = 0 <;> simp [gpcQueueLoadRequest, target, setSectionNum, h]
  cases hreq : loadFrom kf (handle / 65535) (target handle) <;>
    simp [gpilotDaemonRemoveRequest, gpcQueuePurgeRequestPoint, hload, hreq]

/-- `gpilot_daemon_remove_request`, with the request that it takes out. -/
def removeRequest (s : QueueState) (handle : UInt32) : QueueState :=
  match s.pending.find? fun e => target handle = e.sec with
  | some e => s.step (.purge e.serial)
  | none => s

theorem pilotId_of_target {handle : UInt32} {e : Entry} (h : target handle = e.sec) :
    handle / 65535 = e.req.pilotId := by
  obtain ⟨hlist, -⟩ := sectionOf_inj.mp h
  obtain ⟨hsystem, hpilot⟩ := setSection_inj.mp hlist
  by_cases hzero : handle / 65535 = 0
  · rw [if_pos hzero] at hsystem
    rw [hzero, e.req.wellFormed.system hsystem.symm]
  · rw [if_neg hzero] at hsystem hpilot
    exact hpilot rfl

theorem kf_removeRequest {s : QueueState} (h : Kept s)
    (hsorted : s.pending.Pairwise fun e e' => e'.serial < e.serial) (handle : UInt32) :
    (removeRequest s handle).kf = gpilotDaemonRemoveRequest s.kf handle := by
  rw [removeRequest_eq]
  unfold removeRequest
  cases hfind : s.pending.find? fun e => target handle = e.sec with
  | none =>
      have hfree : s.kf.Lacks (target handle) := by
        apply h.free
        intro e he heq
        have hnot := List.find?_eq_none.mp hfind e he
        exact hnot (decide_eq_true heq.symm)
      rw [loadFrom_eq_none hfree]
  | some e =>
      have he : e ∈ s.pending := List.mem_of_find?_eq_some hfind
      have htarget : target handle = e.sec := by simpa using List.find?_some hfind
      have hfound := h.found e he
      rw [pilotId_of_target htarget, htarget, hfound]
      exact congrArg QueueState.kf (step_purge_serial hsorted he)

theorem removeRequest_of_target {s : QueueState} (h : Kept s) {handle : UInt32} {e : Entry}
    (he : e ∈ s.pending) (htarget : target handle = e.sec) :
    removeRequest s handle = s.step (.purge e.serial) := by
  unfold removeRequest
  cases hfind : s.pending.find? fun a => target handle = a.sec with
  | none => exact absurd (decide_eq_true htarget) (List.find?_eq_none.mp hfind e he)
  | some a =>
      have ha : target handle = a.sec := by simpa using List.find?_some hfind
      rw [h.apart a (List.mem_of_find?_eq_some hfind) e he (ha.symm.trans htarget)]

theorem removeRequest_of_forall_ne {s : QueueState} {handle : UInt32}
    (h : ∀ e ∈ s.pending, target handle ≠ e.sec) : removeRequest s handle = s := by
  unfold removeRequest
  rw [List.find?_eq_none.mpr]
  intro e he
  simpa using h e he

def Entry.Packs (e : Entry) : Prop :=
  e.num.toNat < 65535 ∧ e.req.pilotId.toNat * 65535 + e.num.toNat < 2 ^ 32

theorem pilotId_eq_zero {e : Entry} (h : isSystemRelated e.req.type = true) :
    e.req.pilotId = 0 := e.req.wellFormed.system h

theorem pilotId_ne_zero {e : Entry} (h : isSystemRelated e.req.type = false) :
    e.req.pilotId ≠ 0 := (e.req.wellFormed.pilot h).1

theorem toNat_handle {e : Entry} (hpacks : e.Packs) :
    (setSectionNum e.req.pilotId e.req.type e.num).1.toNat =
      e.req.pilotId.toNat * 65535 + e.num.toNat := by
  unfold setSectionNum
  cases hsys : isSystemRelated e.req.type with
  | true => simp [pilotId_eq_zero hsys]
  | false =>
      simp only [Bool.false_eq_true, if_false, UInt32.toNat_add, UInt32.toNat_mul,
        UInt32.reduceToNat]
      have := hpacks.2
      omega

/-- A handle designates the section it was made for exactly when its parts fit. -/
theorem target_handle_iff (e : Entry) :
    target (setSectionNum e.req.pilotId e.req.type e.num).1 = e.sec ↔ e.Packs := by
  generalize hh : (setSectionNum e.req.pilotId e.req.type e.num).1 = handle
  constructor
  · intro h
    obtain ⟨hlist, hnum⟩ := sectionOf_inj.mp h
    obtain ⟨hsys, hpilot⟩ := setSection_inj.mp hlist
    have hnumNat : e.num.toNat = handle.toNat % 65535 := by
      rw [← hnum, UInt32.toNat_mod]
      rfl
    refine ⟨by omega, ?_⟩
    cases hs : isSystemRelated e.req.type with
    | true =>
        rw [pilotId_eq_zero hs]
        have := e.num.toNat_lt
        simpa using this
    | false =>
        rw [hs] at hsys
        have hpid := congrArg UInt32.toNat (hpilot hsys)
        rw [UInt32.toNat_div] at hpid
        simp only [UInt32.reduceToNat] at hpid
        have := handle.toNat_lt
        omega
  · intro hpacks
    have hnat := toNat_handle hpacks
    rw [hh] at hnat
    have hlt := hpacks.1
    have hnum : handle % 65535 = e.num := by
      apply UInt32.toNat_inj.mp
      rw [UInt32.toNat_mod]
      simp only [UInt32.reduceToNat]
      omega
    have hpid : handle / 65535 = e.req.pilotId := by
      apply UInt32.toNat_inj.mp
      rw [UInt32.toNat_div]
      simp only [UInt32.reduceToNat]
      omega
    unfold target Entry.sec
    rw [hnum, hpid]
    apply sectionOf_congr
    · cases hs : isSystemRelated e.req.type with
      | true => simp [pilotId_eq_zero hs, isSystemRelated]
      | false => simp [pilotId_ne_zero hs, isSystemRelated]
    · exact fun _ => rfl

/-! ## Sound handles -/

def Loaded (kf : KeyFile) (all : Bool) (e : Entry) : Prop :=
  e.loaded ∈ gpcQueueLoadRequests kf e.req.pilotId e.req.type all

/-- To remove a request by its handle takes it, and no other pending one, out of what is
loaded; the handle of a request that is past takes out none. -/
structure HandlesSound (s : QueueState) : Prop where
  removes : ∀ e ∈ s.pending, ∀ e' ∈ s.pending, ∀ all,
    Loaded (gpilotDaemonRemoveRequest s.kf e.handle) all e' ↔ e' ≠ e ∧ Loaded s.kf all e'
  past : ∀ e ∈ s.past, ∀ e' ∈ s.pending, ∀ all,
    Loaded (gpilotDaemonRemoveRequest s.kf e.handle) all e' ↔ Loaded s.kf all e'

/-- Everything stored so far. -/
def QueueState.all (s : QueueState) : List Entry := s.pending ++ s.past

/-- Each list was stored to once at most. -/
structure Single (s : QueueState) : Prop extends Aged s where
  handle : ∀ e ∈ s.all, e.handle = (setSectionNum e.req.pilotId e.req.type e.num).1
  first : ∀ e ∈ s.all, e.num = 1
  one : ∀ e ∈ s.all, ∀ e' ∈ s.all, e.list = e'.list → e = e'
  nodup_all : s.all.Nodup

theorem single_empty : Single .empty where
  toAged := aged_empty
  handle := by simp [QueueState.empty, QueueState.all]
  first := by simp [QueueState.empty, QueueState.all]
  one := by simp [QueueState.empty, QueueState.all]
  nodup_all := List.nodup_nil

/-- The first store to a list, with a handle that its parts fit. -/
def NewHandle (s : QueueState) : QueueOp → Prop
  | .store req =>
    (∀ e ∈ s.all, e.list ≠ setSection req.pilotId req.type) ∧
      req.pilotId.toNat * 65535 + 1 < 2 ^ 32
  | _ => True

theorem Single.orderly {s : QueueState} (h : Single s) (serial : Nat) :
    Orderly s (.purge serial) := by
  intro e hfind e' he' hlist
  rw [h.one e' (List.mem_append_left _ he') e (List.mem_append_left _ (mem_of_find hfind)) hlist]

theorem Single.counter_le {s : QueueState} (h : Single s) (pilotId : UInt32)
    (type : RequestType) : (counter s.kf pilotId type).toNat ≤ 1 := by
  by_cases h0 : (counter s.kf pilotId type).toNat = 0
  · omega
  · obtain ⟨e, he, -, hnum⟩ := h.dense pilotId type _ (Nat.pos_of_ne_zero h0) (Nat.le_refl _)
    rw [← hnum, h.first e (List.mem_append_left _ he)]
    exact Nat.le_refl 1

theorem Single.counter_eq_one {s : QueueState} (h : Single s) {e : Entry} (he : e ∈ s.pending) :
    counter s.kf e.req.pilotId e.req.type = 1 := by
  have hle := h.counter_le e.req.pilotId e.req.type
  obtain ⟨hpos, hbound⟩ := h.bounded e he
  apply UInt32.toNat_inj.mp
  simp only [UInt32.reduceToNat]
  omega

theorem Single.counter_eq_zero {s : QueueState} (h : Single s) {pilotId : UInt32}
    {type : RequestType} (hnone : ∀ e ∈ s.pending, e.list ≠ setSection pilotId type) :
    counter s.kf pilotId type = 0 := by
  apply UInt32.toNat_inj.mp
  by_contra h0
  obtain ⟨e, he, hlist, -⟩ := h.dense pilotId type _ (Nat.pos_of_ne_zero h0) (Nat.le_refl _)
  exact hnone e he hlist

theorem Single.newEntry_num {s : QueueState} (h : Single s) {req : DaemonRequest}
    (hnone : ∀ e ∈ s.pending, e.list ≠ setSection req.pilotId req.type) :
    (s.newEntry req).num = 1 := by
  change counter s.kf req.pilotId req.type + 1 = 1
  rw [h.counter_eq_zero hnone]
  rfl

theorem Single.aged_store {s : QueueState} (h : Single s) (req : DaemonRequest) :
    Aged (s.step (.store req)) := by
  have hle := h.counter_le req.pilotId req.type
  exact h.toAged.store req (by omega)

theorem Single.store {s : QueueState} (h : Single s) (req : DaemonRequest)
    (hnew : ∀ e ∈ s.all, e.list ≠ setSection req.pilotId req.type) :
    Single (s.step (.store req)) := by
  have hall : (s.step (.store req)).all = s.newEntry req :: s.all := rfl
  refine ⟨h.aged_store req, ?_, ?_, ?_, ?_⟩
  · intro e he
    rcases List.mem_cons.mp (hall ▸ he) with rfl | he
    · rfl
    · exact h.handle e he
  · intro e he
    rcases List.mem_cons.mp (hall ▸ he) with rfl | he
    · exact h.newEntry_num fun e he => hnew e (List.mem_append_left _ he)
    · exact h.first e he
  · intro e he e' he' hlist
    rcases List.mem_cons.mp (hall ▸ he) with rfl | he <;>
      rcases List.mem_cons.mp (hall ▸ he') with rfl | he'
    · rfl
    · exact absurd hlist.symm (hnew e' he')
    · exact absurd hlist (hnew e he)
    · exact h.one e he e' he' hlist
  · rw [hall]
    exact List.nodup_cons.mpr ⟨fun hmem => hnew _ hmem rfl, h.nodup_all⟩

theorem Single.purge {s : QueueState} (h : Single s) (serial : Nat) :
    Single (s.step (.purge serial)) := by
  cases hfind : s.find serial with
  | none => simpa [QueueState.step, hfind] using h
  | some e =>
      have hstep : s.step (.purge serial) = { s with
          kf := gpcQueuePurgeRequest s.kf e.loaded
          pending := s.pending.erase e
          past := e :: s.past } := by
        simp [QueueState.step, hfind]
      have hperm : (s.step (.purge serial)).all.Perm s.all := by
        rw [hstep]
        exact List.perm_middle.trans
          ((List.perm_cons_erase (mem_of_find hfind)).symm.append_right s.past)
      have hmem : ∀ e', e' ∈ (s.step (.purge serial)).all → e' ∈ s.all :=
        fun e' => hperm.mem_iff.mp
      exact ⟨h.toAged.purge serial (h.orderly serial), fun e' he' => h.handle e' (hmem e' he'),
        fun e' he' => h.first e' (hmem e' he'),
        fun a ha b hb => h.one a (hmem a ha) b (hmem b hb), hperm.nodup_iff.mpr h.nodup_all⟩

theorem Single.loaded_removeRequest_iff {s : QueueState} (h : Single s) {handle : UInt32}
    {e : Entry} (he : e ∈ s.pending) (all : Bool) :
    Loaded (gpilotDaemonRemoveRequest s.kf handle) all e ↔ target handle ≠ e.sec := by
  rw [← kf_removeRequest h.toKept h.sorted]
  by_cases htarget : target handle = e.sec
  · simp only [htarget, ne_eq, not_true_eq_false, iff_false]
    rw [removeRequest_of_target h.toKept he htarget]
    have hfind := find_of_sorted h.sorted he
    have hpurged := h.purge e.serial
    intro hloaded
    obtain ⟨-, k, -, -, hk⟩ := (mem_loadRequests (hpurged.readable _ _)).mp hloaded
    have hsec : e.sec = sectionOf e.req.pilotId e.req.type (.ofNat k) :=
      Option.some.inj (sectionName_of_loadFrom hk)
    -- the section is empty after the purge
    have hlacks : (s.step (.purge e.serial)).kf.Lacks e.sec := by
      rw [step_purge_serial h.sorted he]
      exact lacks_purge s.kf rfl
    rw [← hsec, loadFrom_eq_none hlacks] at hk
    contradiction
  · simp only [htarget, ne_eq, not_false_eq_true, iff_true]
    by_cases hother : ∃ a ∈ s.pending, target handle = a.sec
    · obtain ⟨a, ha, hsec⟩ := hother
      rw [removeRequest_of_target h.toKept ha hsec]
      have hne : e ≠ a := by
        rintro rfl
        exact htarget hsec
      apply (h.purge a.serial).toNumbered.safe.loaded
      exact (mem_pending_purge (find_of_sorted h.sorted ha) h.nodup e).mpr ⟨he, hne⟩
    · simp only [not_exists, not_and] at hother
      rw [removeRequest_of_forall_ne hother]
      exact h.toNumbered.safe.loaded e he all

theorem Single.loaded {s : QueueState} (h : Single s) {e : Entry} (he : e ∈ s.pending)
    (all : Bool) : Loaded s.kf all e := h.toNumbered.safe.loaded e he all

theorem Single.eq_of_sec {s : QueueState} (h : Single s) {e e' : Entry} (he : e ∈ s.all)
    (he' : e' ∈ s.all) (hsec : e.sec = e'.sec) : e = e' :=
  h.one e he e' he' (sec_inj.mp hsec).1

theorem Single.sound {s : QueueState} (h : Single s) (hpacks : ∀ e ∈ s.all, e.Packs) :
    HandlesSound s := by
  have htarget : ∀ e ∈ s.all, target e.handle = e.sec := by
    intro e he
    rw [h.handle e he]
    exact (target_handle_iff e).mpr (hpacks e he)
  have hiff : ∀ e ∈ s.all, ∀ e' ∈ s.pending, target e.handle ≠ e'.sec ↔ e' ≠ e := by
    intro e he e' he'
    rw [htarget e he]
    constructor
    · rintro hsec rfl
      exact hsec rfl
    · exact fun hne hsec => hne (h.eq_of_sec he (List.mem_append_left _ he') hsec).symm
  refine ⟨?_, ?_⟩
  · intro e he e' he' all
    rw [h.loaded_removeRequest_iff he', hiff e (List.mem_append_left _ he) e' he',
      and_iff_left (h.loaded he' all)]
  · intro e he e' he' all
    have hne : e' ≠ e := by
      rintro rfl
      exact (List.nodup_append.mp h.nodup_all).2.2 e' he' e' he rfl
    rw [h.loaded_removeRequest_iff he', iff_true_right (h.loaded he' all)]
    exact (hiff e (List.mem_append_right _ he) e' he').mpr hne

/-! ## A store that spoils a handle -/

theorem Single.not_sound_of_second {s : QueueState} (h : Single s)
    (hpacks : ∀ e ∈ s.all, e.Packs) {req : DaemonRequest} {e : Entry} (he : e ∈ s.pending)
    (hlist : e.list = setSection req.pilotId req.type) :
    ¬ HandlesSound (s.step (.store req)) := by
  intro hsound
  have haged := h.aged_store req
  have hmem : s.newEntry req ∈ (s.step (.store req)).pending := List.mem_cons_self
  have he' : e ∈ (s.step (.store req)).pending := List.mem_cons_of_mem _ he
  have hne : s.newEntry req ≠ e := by
    rintro rfl
    exact Nat.lt_irrefl _ (h.serial_lt _ (List.mem_append_left _ he))
  have hnum : (s.newEntry req).num.toNat = 2 := by
    change (counter s.kf req.pilotId req.type + 1).toNat = 2
    rw [← counter_eq_of_list hlist, h.counter_eq_one he]
    rfl
  have hloaded := (hsound.removes e he' _ hmem true).mpr
    ⟨hne, haged.toNumbered.safe.loaded _ hmem true⟩
  have htarget : target e.handle = e.sec := by
    rw [h.handle e (List.mem_append_left _ he)]
    exact (target_handle_iff e).mpr (hpacks e (List.mem_append_left _ he))
  rw [← kf_removeRequest haged.toKept haged.sorted,
    removeRequest_of_target haged.toKept he' htarget] at hloaded
  have hcounter := counter_step_purge haged.toNumbered (find_of_sorted haged.sorted he')
    req.pilotId req.type
  have hstored : counter (s.step (.store req)).kf req.pilotId req.type = 2 := by
    change counter (gpcQueueStoreRequest _ _).2 _ _ = _
    rw [counter_store, if_pos rfl, ← counter_eq_of_list hlist, h.counter_eq_one he]
    rfl
  rw [if_pos hlist.symm, hstored] at hcounter
  simp only [UInt32.reduceToNat, Nat.add_one_sub_one] at hcounter
  obtain ⟨-, k, -, hk, hfound⟩ := (@mem_loadRequests _ _ req.type _ (by
    change (counter _ req.pilotId req.type).toNat < _
    omega) _).mp hloaded
  have hsec : (s.newEntry req).sec = sectionOf req.pilotId req.type (.ofNat k) :=
    Option.some.inj (sectionName_of_loadFrom hfound)
  have hk' : (UInt32.ofNat k).toNat = 2 := by rw [← (sectionOf_inj.mp hsec).2, hnum]
  have hle : k ≤ 1 := by
    change k ≤ (counter _ req.pilotId req.type).toNat at hk
    omega
  rw [UInt32.toNat_ofNat_of_lt' (by change k < 2 ^ 32; omega)] at hk'
  omega

/-- After a purge the list gives its only number again. -/
theorem Single.not_sound_of_again {s : QueueState} (h : Single s)
    (hpacks : ∀ e ∈ s.all, e.Packs) {req : DaemonRequest}
    (hnone : ∀ e ∈ s.pending, e.list ≠ setSection req.pilotId req.type) {e : Entry}
    (he : e ∈ s.past) (hlist : e.list = setSection req.pilotId req.type) :
    ¬ HandlesSound (s.step (.store req)) := by
  intro hsound
  have haged := h.aged_store req
  have hmem : s.newEntry req ∈ (s.step (.store req)).pending := List.mem_cons_self
  have hsec : (s.newEntry req).sec = e.sec := by
    refine sec_inj.mpr ⟨hlist.symm, ?_⟩
    rw [h.newEntry_num hnone, h.first e (List.mem_append_right _ he)]
  have htarget : target e.handle = (s.newEntry req).sec := by
    rw [h.handle e (List.mem_append_right _ he), hsec]
    exact (target_handle_iff e).mpr (hpacks e (List.mem_append_right _ he))
  have hloaded := (hsound.past e he _ hmem true).mpr (haged.toNumbered.safe.loaded _ hmem true)
  rw [← kf_removeRequest haged.toKept haged.sorted,
    removeRequest_of_target haged.toKept hmem htarget] at hloaded
  obtain ⟨-, k, -, -, hfound⟩ := (mem_loadRequests
    ((haged.toNumbered.purge _ (by
      intro a hfind a' ha' hlist'
      rw [find_of_sorted haged.sorted hmem, Option.some.injEq] at hfind
      subst hfind
      rcases List.mem_cons.mp ha' with rfl | ha'
      · exact Nat.le_refl _
      · exact absurd hlist' (hnone a' ha'))).readable _ _)).mp hloaded
  have hk : (s.newEntry req).sec = sectionOf req.pilotId req.type (.ofNat k) :=
    Option.some.inj (sectionName_of_loadFrom hfound)
  have hlacks : ((s.step (.store req)).step (.purge (s.newEntry req).serial)).kf.Lacks
      (s.newEntry req).sec := by
    rw [step_purge_serial haged.sorted hmem]
    exact lacks_purge _ rfl
  change loadFrom _ _ (sectionOf req.pilotId req.type _) = _ at hfound
  rw [← hk, loadFrom_eq_none hlacks] at hfound
  contradiction

theorem Single.not_sound_of_large {s : QueueState} (h : Single s) {req : DaemonRequest}
    (hnew : ∀ e ∈ s.all, e.list ≠ setSection req.pilotId req.type)
    (hlarge : ¬ req.pilotId.toNat * 65535 + 1 < 2 ^ 32) :
    ¬ HandlesSound (s.step (.store req)) := by
  intro hsound
  have hmem : s.newEntry req ∈ (s.step (.store req)).pending := List.mem_cons_self
  have hnum := h.newEntry_num fun e he => hnew e (List.mem_append_left _ he)
  have htarget : target (s.newEntry req).handle ≠ (s.newEntry req).sec := by
    intro hsec
    have hpacks : (s.newEntry req).Packs := (target_handle_iff (s.newEntry req)).mp hsec
    have hfits := hpacks.2
    rw [hnum] at hfits
    exact hlarge hfits
  have hloaded := ((h.store req hnew).loaded_removeRequest_iff hmem true).mpr htarget
  exact ((hsound.removes _ hmem _ hmem true).mp hloaded).1 rfl

/-- In a history that starts with an empty queue, handles are sound throughout exactly
when no list is stored to twice and every pilot ID fits the handle. -/
theorem alwaysSound_iff (ops : List QueueOp) :
    History.Always QueueState.step HandlesSound .empty ops ↔
      History.Allowed QueueState.step NewHandle .empty ops := by
  apply History.always_iff_allowed fun s => Single s ∧ ∀ e ∈ s.all, e.Packs
  · rintro s ⟨h, hpacks⟩
    exact h.sound hpacks
  · rintro s op ⟨h, hpacks⟩ hop
    cases op with
    | store req =>
        refine ⟨h.store req hop.1, fun e he => ?_⟩
        rcases List.mem_cons.mp he with rfl | he
        · have hnum := h.newEntry_num fun e he => hop.1 e (List.mem_append_left _ he)
          refine ⟨by rw [hnum]; decide, ?_⟩
          rw [hnum]
          exact hop.2
        · exact hpacks e he
    | loadRequests pilotId type all => exact ⟨h, hpacks⟩
    | purge serial =>
        refine ⟨h.purge serial, fun e he => hpacks e ?_⟩
        cases hfind : s.find serial with
        | none => simpa [QueueState.step, hfind] using he
        | some a =>
            have hperm := (List.perm_cons_erase (mem_of_find hfind)).symm.append_right s.past
            rw [QueueState.step, hfind] at he
            exact hperm.mem_iff.mp (List.perm_middle.mem_iff.mp he)
  · rintro s op ⟨h, hpacks⟩ hop
    cases op with
    | loadRequests pilotId type all => exact absurd trivial hop
    | purge serial => exact absurd trivial hop
    | store req =>
        by_cases hpending : ∃ e ∈ s.pending, e.list = setSection req.pilotId req.type
        · obtain ⟨e, he, hlist⟩ := hpending
          exact h.not_sound_of_second hpacks he hlist
        · have hnone : ∀ e ∈ s.pending, e.list ≠ setSection req.pilotId req.type :=
            fun e he hlist => hpending ⟨e, he, hlist⟩
          by_cases hpast : ∃ e ∈ s.past, e.list = setSection req.pilotId req.type
          · obtain ⟨e, he, hlist⟩ := hpast
            exact h.not_sound_of_again hpacks hnone he hlist
          · have hnew : ∀ e ∈ s.all, e.list ≠ setSection req.pilotId req.type := by
              intro e he hlist
              rcases List.mem_append.mp he with he | he
              · exact hnone e he hlist
              · exact hpast ⟨e, he, hlist⟩
            exact h.not_sound_of_large hnew fun hfits => hop ⟨hnew, hfits⟩
  · exact ⟨single_empty, by simp [QueueState.empty, QueueState.all]⟩

/-- One request is completed; the next one of the pilot is given the same handle, and
the old handle removes it.  With two requests pending, the handle of the first removes it
and takes the second out of what is loaded. -/
theorem completedHandle_removes :
    let s := [.store (restoreRequest "/a"), .purge 0, .store (restoreRequest "/b")].foldl
      QueueState.step .empty
    let t := [.store (restoreRequest "/a"), .store (restoreRequest "/b")].foldl
      QueueState.step .empty
    (s.past.map Entry.handle = [5 * 65535 + 1] ∧ s.pending.map Entry.handle = [5 * 65535 + 1] ∧
      (gpcQueueLoadRequests s.kf 5 .restore true).map GPilotRequest.parameters =
        [.restore (some "/b")] ∧
      gpcQueueLoadRequests (gpilotDaemonRemoveRequest s.kf (5 * 65535 + 1)) 5 .restore true =
        []) ∧
    t.pending.map Entry.handle = [5 * 65535 + 2, 5 * 65535 + 1] ∧
      (gpcQueueLoadRequests t.kf 5 .restore true).map GPilotRequest.parameters =
        [.restore (some "/b"), .restore (some "/a")] ∧
      gpcQueueLoadRequests (gpilotDaemonRemoveRequest t.kf (5 * 65535 + 1)) 5 .restore true =
        [] := by
  decide

end GnomePilot.Queue
