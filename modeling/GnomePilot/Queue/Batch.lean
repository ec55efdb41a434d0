import GnomePilot.Queue.Drain
import Mathlib.Data.Finset.Card
import Mathlib.Order.Interval.Finset.Nat

/-!
# Completing a batch of requests

A session completes several requests of a list, each purge counting the list down by one.
The file numbers what stays from one to the counter only if it was below the rest:
`safe_complete_iff` says so for any batch, in whatever order it is purged.
-/

namespace GnomePilot.Queue

/-! ## The order of the requests -/

/-- The pending requests are kept latest first, and in each list the later ones have the
higher numbers. -/
structure Aged (s : QueueState) : Prop extends Numbered s where
  sorted : s.pending.Pairwise fun e e' => e'.serial < e.serial
  aged : ∀ e ∈ s.pending, ∀ e' ∈ s.pending, e.list = e'.list → e.serial < e'.serial →
    e.num.toNat < e'.num.toNat

theorem aged_empty : Aged .empty where
  toNumbered := numbered_empty
  sorted := List.Pairwise.nil
  aged := by simp [QueueState.empty]

theorem Aged.store {s : QueueState} (h : Aged s) (req : DaemonRequest)
    (hroom : (counter s.kf req.pilotId req.type).toNat + 1 < 2 ^ 31) :
    Aged (s.step (.store req)) := by
  have hserial : ∀ e ∈ s.pending, e.serial < (s.newEntry req).serial :=
    fun e he => h.serial_lt e (List.mem_append_left _ he)
  have hnum : ∀ e ∈ s.pending, e.list = (s.newEntry req).list →
      e.num.toNat < (s.newEntry req).num.toNat := by
    intro e he hlist
    have hle := (h.bounded e he).2
    rw [counter_eq_of_list hlist] at hle
    change _ ≤ (counter s.kf req.pilotId req.type).toNat at hle
    change _ < (counter s.kf req.pilotId req.type + 1).toNat
    rw [UInt32.toNat_add]
    simp only [UInt32.reduceToNat]
    omega
  refine ⟨h.toNumbered.store req hroom, List.pairwise_cons.mpr ⟨hserial, h.sorted⟩, ?_⟩
  intro e he e' he' hlist hlt
  rcases List.mem_cons.mp he with rfl | he <;> rcases List.mem_cons.mp he' with rfl | he'
  · omega
  · have := hserial e' he'
    omega
  · exact hnum e he hlist
  · exact h.aged e he e' he' hlist hlt

theorem find_of_sorted {s : QueueState}
    (h : s.pending.Pairwise fun e e' => e'.serial < e.serial) {e : Entry} (he : e ∈ s.pending) :
    s.find e.serial = some e := by
  unfold QueueState.find
  generalize s.pending = pending at h he
  induction pending with
  | nil => cases he
  | cons p pending ih =>
      obtain ⟨hlt, hrest⟩ := List.pairwise_cons.mp h
      rcases List.mem_cons.mp he with rfl | he
      · simp
      · have := hlt e he
        rw [List.find?_cons_of_neg (by simp; omega)]
        exact ih hrest he

theorem Aged.purge {s : QueueState} (h : Aged s) (serial : Nat)
    (htop : Orderly s (.purge serial)) : Aged (s.step (.purge serial)) := by
  refine ⟨h.toNumbered.purge serial htop, ?_, ?_⟩
  · cases hfind : s.find serial with
    | none => simpa [QueueState.step, hfind] using h.sorted
    | some e =>
        have hpending : (s.step (.purge serial)).pending = s.pending.erase e := by
          simp [QueueState.step, hfind]
        rw [hpending]
        exact h.sorted.sublist List.erase_sublist
  · have hsub : ∀ e ∈ (s.step (.purge serial)).pending, e ∈ s.pending := by
      intro e he
      cases hfind : s.find serial with
      | none => simpa [QueueState.step, hfind] using he
      | some p => exact ((mem_pending_purge hfind h.nodup e).mp he).1
    exact fun e he e' he' => h.aged e (hsub e he) e' (hsub e' he')

/-! ## Completing requests -/

/-- The requests are purged one after the other. -/
def QueueState.complete (s : QueueState) (es : List Entry) : QueueState :=
  es.foldl (fun s e => s.step (.purge e.serial)) s

/-- The requests that stay have lower numbers than those that are completed. -/
def OnTop (s : QueueState) (es : List Entry) : Prop :=
  ∀ e ∈ s.pending, e ∉ es → ∀ e' ∈ es, e.list = e'.list → e.num.toNat < e'.num.toNat

theorem step_purge_serial {s : QueueState}
    (h : s.pending.Pairwise fun e e' => e'.serial < e.serial) {e : Entry} (he : e ∈ s.pending) :
    s.step (.purge e.serial) = { s with
      kf := gpcQueuePurgeRequest s.kf e.loaded
      pending := s.pending.erase e
      past := e :: s.past } := by
  simp [QueueState.step, find_of_sorted h he]

theorem complete_eq {es : List Entry} {s : QueueState}
    (h : s.pending.Pairwise fun e e' => e'.serial < e.serial) (hes : ∀ e ∈ es, e ∈ s.pending)
    (hnodup : es.Nodup) (hpending : s.pending.Nodup) :
    (s.complete es).kf = (es.map Entry.loaded).foldl gpcQueuePurgeRequest s.kf ∧
      ∀ e, e ∈ (s.complete es).pending ↔ e ∈ s.pending ∧ e ∉ es := by
  induction es generalizing s with
  | nil => simp [QueueState.complete]
  | cons e es ih =>
      obtain ⟨hnew, hrest⟩ := List.nodup_cons.mp hnodup
      have he := hes e List.mem_cons_self
      have hstep := step_purge_serial h he
      have hmem : ∀ e', e' ∈ s.pending.erase e ↔ e' ∈ s.pending ∧ e' ≠ e := by
        intro e'
        rw [hpending.mem_erase_iff, and_comm]
      have hlater : ∀ e' ∈ es, e' ∈ s.pending.erase e := by
        intro e' he'
        refine (hmem e').mpr ⟨hes e' (List.mem_cons_of_mem e he'), ?_⟩
        rintro rfl
        exact hnew he'
      obtain ⟨hkf, hpend⟩ := ih (s := s.step (.purge e.serial))
        (by rw [hstep]; exact h.sublist List.erase_sublist) (by rw [hstep]; exact hlater) hrest
        (by rw [hstep]; exact hpending.erase e)
      constructor
      · refine hkf.trans ?_
        rw [hstep, List.map_cons, List.foldl_cons]
      · intro e'
        refine (hpend e').trans ?_
        rw [hstep, List.mem_cons, not_or]
        change e' ∈ s.pending.erase e ∧ _ ↔ _
        rw [hmem, and_assoc]

theorem Kept.complete {s : QueueState} (h : Kept s) (es : List Entry) : Kept (s.complete es) := by
  induction es generalizing s with
  | nil => exact h
  | cons e es ih => exact ih (h.purge e.serial)

theorem pending_complete_sublist (s : QueueState) (es : List Entry) :
    (s.complete es).pending.Sublist s.pending := by
  induction es generalizing s with
  | nil => exact List.Sublist.refl _
  | cons e es ih =>
      have hstep : (s.step (.purge e.serial)).pending.Sublist s.pending := by
        cases hfind : s.find e.serial with
        | none => simp [QueueState.step, hfind]
        | some p => simpa [QueueState.step, hfind] using List.erase_sublist
      exact (ih (s.step (.purge e.serial))).trans hstep

/-! ## The counter after a batch -/

theorem counter_foldl_purge {kf : KeyFile} {es : List Entry} {pilotId : UInt32}
    {type : RequestType} (h : (es.filter fun e => e.list = setSection pilotId type).length ≤
      (counter kf pilotId type).toNat) :
    (counter ((es.map Entry.loaded).foldl gpcQueuePurgeRequest kf) pilotId type).toNat =
      (counter kf pilotId type).toNat -
        (es.filter fun e => e.list = setSection pilotId type).length := by
  induction es generalizing kf with
  | nil => rfl
  | cons e es ih =>
      have hpurge := counter_purge kf e.loaded rfl pilotId type
      change counter _ _ _ = if setSection pilotId type = e.list then _ else _ at hpurge
      rw [List.map_cons, List.foldl_cons]
      by_cases hlist : e.list = setSection pilotId type
      · rw [if_pos hlist.symm] at hpurge
        rw [List.filter_cons_of_pos (by simpa using hlist), List.length_cons] at h ⊢
        have hone : (1 : UInt32) ≤ counter kf pilotId type := by
          rw [UInt32.le_iff_toNat_le]
          change 1 ≤ _
          omega
        have hcount : (counter (gpcQueuePurgeRequest kf e.loaded) pilotId type).toNat =
            (counter kf pilotId type).toNat - 1 := by
          rw [hpurge, UInt32.toNat_sub_of_le _ _ hone]
          rfl
        rw [ih (by omega), hcount]
        omega
      · rw [if_neg fun heq => hlist heq.symm] at hpurge
        rw [List.filter_cons_of_neg (by simpa using hlist)] at h ⊢
        rw [ih (by rw [hpurge]; exact h), hpurge]

/-- Requests with numbers of their own between two bounds are as few as these numbers. -/
theorem length_le_of_nums {es : List Entry} (hnodup : (es.map fun e => e.num.toNat).Nodup)
    {l u : Nat} (h : ∀ e ∈ es, l < e.num.toNat ∧ e.num.toNat ≤ u) :
    es.length ≤ u - l := by
  have hsub : (es.map fun e => e.num.toNat).toFinset ⊆ Finset.Ioc l u := by
    intro n hn
    obtain ⟨e, he, rfl⟩ := List.mem_map.mp (List.mem_toFinset.mp hn)
    exact Finset.mem_Ioc.mpr (h e he)
  have hcard := Finset.card_le_card hsub
  rwa [List.toFinset_card_of_nodup hnodup, List.length_map, Nat.card_Ioc] at hcard

theorem nodup_nums {s : QueueState} (h : Kept s) {es : List Entry} (hes : ∀ e ∈ es, e ∈ s.pending)
    (hnodup : es.Nodup) {list : String} (hlist : ∀ e ∈ es, e.list = list) :
    (es.map fun e => e.num.toNat).Nodup := by
  apply List.Nodup.map_on _ hnodup
  intro e he e' he' hnum
  exact h.apart e (hes e he) e' (hes e' he')
    (sec_inj.mpr ⟨(hlist e he).trans (hlist e' he').symm, UInt32.toNat_inj.mp hnum⟩)

theorem length_pending {s : QueueState} (h : Numbered s) (pilotId : UInt32) (type : RequestType) :
    (s.pending.filter fun e => e.list = setSection pilotId type).length =
      (counter s.kf pilotId type).toNat := by
  have hof : ∀ e ∈ s.pending.filter fun e => e.list = setSection pilotId type,
      e ∈ s.pending ∧ e.list = setSection pilotId type := by
    intro e he
    simpa using List.mem_filter.mp he
  have hnodup := nodup_nums h.toKept (fun e he => (hof e he).1) (h.nodup.filter _)
    fun e he => (hof e he).2
  have hle := length_le_of_nums (l := 0) (u := (counter s.kf pilotId type).toNat) hnodup
    fun e he => by
      have hbound := h.bounded e (hof e he).1
      rwa [counter_eq_of_list (hof e he).2] at hbound
  have hsub : Finset.Ioc 0 (counter s.kf pilotId type).toNat ⊆
      ((s.pending.filter fun e => e.list = setSection pilotId type).map
        fun e => e.num.toNat).toFinset := by
    intro n hn
    obtain ⟨hpos, hn⟩ := Finset.mem_Ioc.mp hn
    obtain ⟨e, he, hlist, hnum⟩ := h.dense pilotId type n hpos hn
    rw [List.mem_toFinset, ← hnum]
    exact List.mem_map_of_mem (List.mem_filter.mpr ⟨he, by simpa using hlist⟩)
  have hcard := Finset.card_le_card hsub
  rw [List.toFinset_card_of_nodup hnodup, List.length_map, Nat.card_Ioc] at hcard
  omega

/-! ## What stays -/

section Batch

variable {s : QueueState} {es : List Entry}

def QueueState.staying (s : QueueState) (es : List Entry) (list : String) : List Entry :=
  (s.pending.filter fun e => e.list = list).filter fun e => e ∉ es

theorem mem_staying {list : String} {e : Entry} :
    e ∈ s.staying es list ↔ e ∈ s.pending ∧ e.list = list ∧ e ∉ es := by
  unfold QueueState.staying
  rw [List.mem_filter, List.mem_filter, and_assoc, decide_eq_true_eq, decide_eq_true_eq]

theorem length_staying (h : Numbered s) (hes : ∀ e ∈ es, e ∈ s.pending) (hnodup : es.Nodup)
    (pilotId : UInt32) (type : RequestType) :
    (s.staying es (setSection pilotId type)).length +
        (es.filter fun e => e.list = setSection pilotId type).length =
      (counter s.kf pilotId type).toNat := by
  have hperm : (es.filter fun e => e.list = setSection pilotId type).Perm
      ((s.pending.filter fun e => e.list = setSection pilotId type).filter fun e => e ∈ es) := by
    rw [List.perm_ext_iff_of_nodup (hnodup.filter _) ((h.nodup.filter _).filter _)]
    intro e
    have hmem := hes e
    simp only [List.mem_filter, decide_eq_true_eq]
    tauto
  have hsplit := List.length_eq_length_filter_add
    (l := s.pending.filter fun e => e.list = setSection pilotId type) fun e => e ∈ es
  have hstay : s.staying es (setSection pilotId type) =
      (s.pending.filter fun e => e.list = setSection pilotId type).filter
        fun e => !decide (e ∈ es) :=
    List.filter_congr fun e _ => decide_not
  rw [← length_pending h, hperm.length_eq, hstay, hsplit, Nat.add_comm]

theorem counter_complete (h : Aged s) (hes : ∀ e ∈ es, e ∈ s.pending) (hnodup : es.Nodup)
    (pilotId : UInt32) (type : RequestType) :
    (counter (s.complete es).kf pilotId type).toNat =
      (s.staying es (setSection pilotId type)).length := by
  have hlength := length_staying h.toNumbered hes hnodup pilotId type
  rw [(complete_eq h.sorted hes hnodup h.nodup).1, counter_foldl_purge (by omega)]
  omega

theorem nodup_staying (h : Kept s) (list : String) :
    ((s.staying es list).map fun e => e.num.toNat).Nodup :=
  nodup_nums h (fun _ he => (mem_staying.mp he).1) ((h.nodup.filter _).filter _)
    fun _ he => (mem_staying.mp he).2.1

/-- A request that stays below the batch is within the counter. -/
theorem num_le_counter_complete (h : Aged s) (hes : ∀ e ∈ es, e ∈ s.pending) (hnodup : es.Nodup)
    {e : Entry} (he : e ∈ s.pending)
    (hbelow : ∀ a ∈ es, e.list = a.list → e.num.toNat < a.num.toNat) :
    e.num.toNat ≤ (counter (s.complete es).kf e.req.pilotId e.req.type).toNat := by
  have hof : ∀ a ∈ es.filter fun a => a.list = setSection e.req.pilotId e.req.type,
      a ∈ es ∧ a.list = e.list := by
    intro a ha
    obtain ⟨ha, hlist⟩ := List.mem_filter.mp ha
    exact ⟨ha, of_decide_eq_true hlist⟩
  have hbetween : ∀ a ∈ es.filter fun a => a.list = setSection e.req.pilotId e.req.type,
      e.num.toNat < a.num.toNat ∧
        a.num.toNat ≤ (counter s.kf e.req.pilotId e.req.type).toNat := by
    intro a ha
    have hbound := (h.bounded a (hes a (hof a ha).1)).2
    rw [counter_eq_of_list (hof a ha).2] at hbound
    exact ⟨hbelow a (hof a ha).1 (hof a ha).2.symm, hbound⟩
  have hfew := length_le_of_nums (nodup_nums h.toKept (fun a ha => hes a (hof a ha).1)
    (hnodup.filter _) fun a ha => (hof a ha).2) hbetween
  have hle := (h.bounded e he).2
  have hcount := counter_complete h hes hnodup e.req.pilotId e.req.type
  have hlen := length_staying h.toNumbered hes hnodup e.req.pilotId e.req.type
  omega

/-- If all that stays is below the batch, it has the lowest numbers. -/
theorem Aged.complete (h : Aged s) (hes : ∀ e ∈ es, e ∈ s.pending) (hnodup : es.Nodup)
    (htop : OnTop s es) : Aged (s.complete es) := by
  obtain ⟨-, hpending⟩ := complete_eq h.sorted hes hnodup h.nodup
  have hcounter := counter_complete h hes hnodup
  have hlength := length_staying h.toNumbered hes hnodup
  refine ⟨⟨h.toKept.complete es, ?_, ?_, ?_⟩, ?_, ?_⟩
  · intro pilotId type
    have hread := h.readable pilotId type
    have hcount := hcounter pilotId type
    have hlen := hlength pilotId type
    omega
  · intro e he
    obtain ⟨he, hnot⟩ := (hpending e).mp he
    exact ⟨(h.bounded e he).1, num_le_counter_complete h hes hnodup he (htop e he hnot)⟩
  · intro pilotId type n hpos hn
    rw [hcounter] at hn
    have hlen := hlength pilotId type
    obtain ⟨e, he, hlist, hnum⟩ := h.dense pilotId type n hpos (by omega)
    refine ⟨e, (hpending e).mpr ⟨he, fun hbatch => ?_⟩, hlist, hnum⟩
    have hstaying : ((s.staying es (setSection pilotId type)).map fun e => e.num.toNat).Nodup :=
      nodup_staying h.toKept (setSection pilotId type)
    -- all that stays would be below the number
    have hbelow := length_le_of_nums (l := 0) (u := n - 1)
      hstaying fun a ha => by
        obtain ⟨ha, halist, hanot⟩ := mem_staying.mp ha
        have hlt := htop a ha hanot e hbatch (halist.trans hlist.symm)
        have hbound := (h.bounded a ha).1
        omega
    omega
  · exact h.sorted.sublist (pending_complete_sublist s es)
  · intro e he e' he'
    exact h.aged e ((hpending e).mp he).1 e' ((hpending e').mp he').1

/-- A request that stays above one of the batch leaves a number free below it, and then
one of those that stay is above the counter. -/
theorem onTop_of_safe (h : Aged s) (hes : ∀ e ∈ es, e ∈ s.pending) (hnodup : es.Nodup)
    (hsafe : QueueSafe (s.complete es)) : OnTop s es := by
  obtain ⟨-, hpending⟩ := complete_eq h.sorted hes hnodup h.nodup
  intro e he hnot e' he' hlist
  by_contra hlt
  have hcounter := counter_complete h hes hnodup e.req.pilotId e.req.type
  have hlen := length_staying h.toNumbered hes hnodup e.req.pilotId e.req.type
  have hread := h.readable e.req.pilotId e.req.type
  have hlow : ∀ a ∈ s.staying es e.list, a.num.toNat ≤ (s.staying es e.list).length := by
    intro a ha
    obtain ⟨ha, halist, hanot⟩ := mem_staying.mp ha
    have hcount : counter (s.complete es).kf a.req.pilotId a.req.type =
        counter (s.complete es).kf e.req.pilotId e.req.type := counter_eq_of_list halist
    have hloaded := hsafe.loaded a ((hpending a).mpr ⟨ha, hanot⟩) true
    rw [mem_loadRequests (by rw [hcount]; omega)] at hloaded
    obtain ⟨-, k, -, hk, hload⟩ := hloaded
    have hnum := (sectionOf_inj.mp (Option.some.inj (sectionName_of_loadFrom hload))).2
    rw [hcount, hcounter] at hk
    have hk' : a.num.toNat = k := by
      rw [hnum]
      apply UInt32.toNat_ofNat_of_lt'
      change k < 2 ^ 32
      omega
    rw [hk']
    exact hk
  have hmem : e ∈ s.staying es e.list := mem_staying.mpr ⟨he, rfl, hnot⟩
  have hof : ∀ a ∈ e' :: s.staying es e.list, a ∈ s.pending ∧ a.list = e.list ∧
      a.num.toNat ≤ (s.staying es e.list).length := by
    intro a ha
    rcases List.mem_cons.mp ha with rfl | ha
    · have hle := hlow e hmem
      exact ⟨hes a he', hlist.symm, by omega⟩
    · exact ⟨(mem_staying.mp ha).1, (mem_staying.mp ha).2.1, hlow a ha⟩
  have hcons : (e' :: s.staying es e.list).Nodup :=
    List.nodup_cons.mpr ⟨fun hin => (mem_staying.mp hin).2.2 he', (h.nodup.filter _).filter _⟩
  have hfew := length_le_of_nums (l := 0) (nodup_nums h.toKept (fun a ha => (hof a ha).1) hcons
    fun a ha => (hof a ha).2.1) fun a ha => ⟨(h.bounded a (hof a ha).1).1, (hof a ha).2.2⟩
  rw [List.length_cons] at hfew
  omega

/-- The file forgets none of the requests that stay exactly when the batch had the highest
numbers of its lists. -/
theorem safe_complete_iff (h : Aged s) (hes : ∀ e ∈ es, e ∈ s.pending) (hnodup : es.Nodup) :
    QueueSafe (s.complete es) ↔ OnTop s es :=
  ⟨onTop_of_safe h hes hnodup, fun htop => (h.complete hes hnodup htop).safe⟩

end Batch

/-! ## What a load finds -/

def QueueState.load (s : QueueState) (pilotId : UInt32) (type : RequestType) : List Entry :=
  (gpcQueueLoadRequests s.kf pilotId type false).filterMap fun req =>
    s.pending.find? fun e => e.loaded = req

section Load

variable {s : QueueState} {pilotId : UInt32} {type : RequestType}

theorem pilotId_of_list (hpilot : isSystemRelated type = false) {e : Entry}
    (hlist : e.list = setSection pilotId type) : e.req.pilotId = pilotId := by
  obtain ⟨hkind, hsame⟩ := setSection_inj.mp hlist
  exact hsame (hkind.trans hpilot)

theorem exists_pending_of_loaded (h : Kept s) (hpilot : isSystemRelated type = false)
    {req : GPilotRequest} (hreq : req ∈ gpcQueueLoadRequests s.kf pilotId type false) :
    ∃ e ∈ s.pending, e.loaded = req := by
  obtain ⟨-, k, -, -, hload⟩ := mem_loadLoop.mp hreq
  rw [loadRequest_eq] at hload
  by_contra hnone
  have hfree : s.kf.Lacks (sectionOf pilotId type (.ofNat k)) := by
    apply h.free
    intro e he hsec
    have hfound := h.found e he
    have hlist := (sectionOf_inj.mp hsec).1
    rw [pilotId_of_list hpilot hlist, hsec, hload] at hfound
    exact hnone ⟨e, he, (Option.some.inj hfound).symm⟩
  rw [loadFrom_eq_none hfree] at hload
  cases hload

theorem loaded_load (h : Kept s) (hpilot : isSystemRelated type = false) :
    (s.load pilotId type).map Entry.loaded = gpcQueueLoadRequests s.kf pilotId type false := by
  have hall := fun req => @exists_pending_of_loaded s pilotId type h hpilot req
  unfold QueueState.load
  generalize gpcQueueLoadRequests s.kf pilotId type false = reqs at hall
  induction reqs with
  | nil => rfl
  | cons req reqs ih =>
      obtain ⟨e, he, hloaded⟩ := hall req List.mem_cons_self
      obtain ⟨p, hp⟩ : ∃ p, s.pending.find? (fun e => decide (e.loaded = req)) = some p := by
        rw [← Option.isSome_iff_exists, List.find?_isSome]
        exact ⟨e, he, decide_eq_true hloaded⟩
      have hp' : p.loaded = req := by simpa using List.find?_some hp
      rw [List.filterMap_cons, hp, List.map_cons, hp',
        ih fun req hreq => hall req (List.mem_cons_of_mem _ hreq)]

theorem load_nodup (h : Kept s) (hpilot : isSystemRelated type = false) :
    (s.load pilotId type).Nodup := by
  apply List.Nodup.of_map Entry.loaded
  rw [loaded_load h hpilot]
  exact nodup_loadRequests

theorem pending_of_load {e : Entry} (he : e ∈ s.load pilotId type) :
    e ∈ s.pending ∧ e.req.pilotId = pilotId ∧ e.req.type = type := by
  obtain ⟨req, hreq, hfind⟩ := List.mem_filterMap.mp he
  have hloaded : e.loaded = req := by simpa using List.find?_some hfind
  obtain ⟨htype, k, -, -, hload⟩ := mem_loadLoop.mp hreq
  rw [loadRequest_eq] at hload
  obtain ⟨parameters, -, hsame⟩ := Option.map_eq_some_iff.mp hload
  refine ⟨List.mem_of_find?_eq_some hfind, ?_, ?_⟩
  · change e.loaded.pilotId = pilotId
    rw [hloaded, ← hsame]
  · change e.loaded.type = type
    rw [hloaded]
    simpa using htype

theorem mem_load (h : Kept s) {e : Entry} (he : e ∈ s.pending)
    (hread : (counter s.kf e.req.pilotId e.req.type).toNat < 2 ^ 31) (hpos : 0 < e.num.toNat)
    (hle : e.num.toNat ≤ (counter s.kf e.req.pilotId e.req.type).toNat) :
    e ∈ s.load e.req.pilotId e.req.type := by
  have hloaded : e.loaded ∈ gpcQueueLoadRequests s.kf e.req.pilotId e.req.type false := by
    refine (mem_loadRequests hread).mpr ⟨Or.inl rfl, e.num.toNat, hpos, hle, ?_⟩
    rw [UInt32.ofNat_toNat]
    exact h.found e he
  refine List.mem_filterMap.mpr ⟨e.loaded, hloaded, ?_⟩
  obtain ⟨p, hp⟩ : ∃ p, s.pending.find? (fun a => decide (a.loaded = e.loaded)) = some p := by
    rw [← Option.isSome_iff_exists, List.find?_isSome]
    exact ⟨e, he, decide_eq_true rfl⟩
  have hsame : p.loaded = e.loaded := by simpa using List.find?_some hp
  have hsec : p.sec = e.sec := Option.some.inj (congrArg GPilotRequest.sectionName hsame)
  rw [hp, h.apart p (List.mem_of_find?_eq_some hp) e he hsec]

end Load

end GnomePilot.Queue
