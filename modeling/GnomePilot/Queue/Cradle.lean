import GnomePilot.Queue.Batch

/-!
# Requests for a cradle

System requests share one list, whatever cradle they are for.  A session at a cradle
completes those for it, the latest first, and leaves the others.
`loadRequestsForCradle_eq` says what it loads, in a file that forgets none.
-/

namespace GnomePilot.Queue

/-- `g_ascii_strcasecmp (req->cradle, cradle) == 0`, which holds of null as well. -/
def GPilotRequest.isFor (req : GPilotRequest) (cradle : String) : Bool :=
  req.cradle.all fun name => sameIgnoringCase name cradle

def gpcQueueLoadRequestsForCradle (kf : KeyFile) (cradle : String) : List GPilotRequest :=
  (gpcQueueLoadRequests kf 0 .cradleEvent true).filter fun req => req.isFor cradle

/-! ## What is loaded -/

/-- In a list with falling numbers the one with the next number comes first. -/
theorem filter_le_succ {es : List Entry}
    (hdesc : es.Pairwise fun a b => b.num.toNat < a.num.toNat) {e : Entry} (he : e ∈ es) {n : Nat}
    (hnum : e.num.toNat = n + 1) : (es.filter fun a => a.num.toNat ≤ n + 1) =
      e :: es.filter fun a => a.num.toNat ≤ n := by
  induction es with
  | nil => cases he
  | cons a es ih =>
      obtain ⟨hlt, hrest⟩ := List.pairwise_cons.mp hdesc
      rcases List.mem_cons.mp he with rfl | he
      · rw [List.filter_cons_of_pos (by simp; omega), List.filter_cons_of_neg (by simp; omega)]
        congr 1
        apply List.filter_congr
        intro b hb
        have := hlt b hb
        simp only [decide_eq_decide]
        omega
      · have := hlt e he
        rw [List.filter_cons_of_neg (by simp; omega), List.filter_cons_of_neg (by simp; omega)]
        exact ih hrest he

def QueueState.systemRequests (s : QueueState) : List Entry :=
  s.pending.filter fun e => isSystemRelated e.req.type

theorem list_of_system {e : Entry} (h : isSystemRelated e.req.type = true) :
    e.list = "system" := by
  simp [Entry.list, setSection, h]

theorem systemRequests_descending {s : QueueState} (h : Aged s) :
    s.systemRequests.Pairwise fun a b => b.num.toNat < a.num.toNat := by
  apply (h.sorted.filter _).imp_of_mem
  intro a b ha hb hlt
  obtain ⟨ha, hafor⟩ := List.mem_filter.mp ha
  obtain ⟨hb, hbfor⟩ := List.mem_filter.mp hb
  apply h.aged b hb a ha _ hlt
  rw [list_of_system hafor, list_of_system hbfor]

theorem loadLoop_system {s : QueueState} (h : Aged s) {n : Nat}
    (hn : n ≤ (counter s.kf 0 .cradleEvent).toNat) : loadLoop s.kf 0 .cradleEvent true n =
      (s.systemRequests.filter fun e => e.num.toNat ≤ n).map Entry.loaded := by
  induction n with
  | zero =>
      have hnone : (s.systemRequests.filter fun e => e.num.toNat ≤ 0) = [] := by
        rw [List.filter_eq_nil_iff]
        intro e he
        have := (h.bounded e (List.mem_filter.mp he).1).1
        simp only [decide_eq_true_eq]
        omega
      rw [hnone]
      rfl
  | succ n ih =>
      obtain ⟨e, he, hlist, hnum⟩ := h.dense 0 .cradleEvent (n + 1) (by omega) hn
      have hsystem : isSystemRelated e.req.type = true := (setSection_inj.mp hlist).1
      have hmem : e ∈ s.systemRequests := List.mem_filter.mpr ⟨he, hsystem⟩
      have hfound : loadFrom s.kf 0 (sectionOf 0 .cradleEvent (.ofNat (n + 1))) =
          some e.loaded := by
        rw [← h.found e he, e.req.wellFormed.system hsystem, ← hnum, UInt32.ofNat_toNat]
        exact congrArg _ (sectionOf_inj.mpr ⟨hlist.symm, rfl⟩)
      rw [filter_le_succ (systemRequests_descending h) hmem hnum, List.map_cons, loadLoop,
        loadRequest_eq, hfound, ← ih (by omega)]
      exact if_neg fun hskip => Bool.noConfusion hskip.2

theorem loadRequestsForCradle_eq {s : QueueState} (h : Aged s) (cradle : String) :
    gpcQueueLoadRequestsForCradle s.kf cradle =
      (s.systemRequests.filter fun e => e.req.isFor cradle).map Entry.loaded := by
  have hall : (s.systemRequests.filter fun e =>
      e.num.toNat ≤ (counter s.kf 0 .cradleEvent).toNat) = s.systemRequests := by
    rw [List.filter_eq_self]
    intro e he
    obtain ⟨he, hsystem⟩ := List.mem_filter.mp he
    have hle := (h.bounded e he).2
    rw [@counter_eq_of_list _ _ 0 _ .cradleEvent (list_of_system hsystem)] at hle
    simpa using hle
  have hloop : gpcQueueLoadRequests s.kf 0 .cradleEvent true =
      s.systemRequests.map Entry.loaded := by
    unfold gpcQueueLoadRequests
    rw [toNat_toInt_counter (h.readable _ _), loadLoop_system h (Nat.le_refl _), hall]
  rw [gpcQueueLoadRequestsForCradle, hloop, List.filter_map]
  rfl

/-! ## Sessions at a cradle -/

def Entry.servedAt (cradle : String) (e : Entry) : Bool :=
  isSystemRelated e.req.type && e.req.isFor cradle && decide (e.req.type ≠ .newUserinfo)

def QueueState.servedAt (s : QueueState) (cradle : String) : List Entry :=
  s.pending.filter (Entry.servedAt cradle)

inductive CradleOp where
  | request (req : DaemonRequest)
  | session (cradle : String)

def cradleStep (s : QueueState) : CradleOp → QueueState
  | .request req => s.step (.store req)
  | .session cradle => s.complete (s.servedAt cradle)

/-- A store has room, and a session finds the requests for its cradle on top of the
others. -/
def CradleOrderly (s : QueueState) : CradleOp → Prop
  | .request req => Orderly s (.store req)
  | .session cradle => OnTop s (s.servedAt cradle)

theorem servedAt_eq (s : QueueState) (cradle : String) : s.servedAt cradle =
    (s.systemRequests.filter fun e => e.req.isFor cradle).filter
      fun e => e.req.type ≠ .newUserinfo := by
  unfold QueueState.servedAt QueueState.systemRequests
  rw [List.filter_filter, List.filter_filter]
  apply List.filter_congr
  intro e _
  simp only [Entry.servedAt]
  rw [Bool.and_comm, Bool.and_comm (isSystemRelated e.req.type), Bool.and_assoc]

theorem servedAt_pending (s : QueueState) (cradle : String) :
    ∀ e ∈ s.servedAt cradle, e ∈ s.pending := fun _ he => (List.mem_filter.mp he).1

theorem Aged.cradleStep {s : QueueState} (h : Aged s) (op : CradleOp)
    (hop : CradleOrderly s op) : Aged (cradleStep s op) := by
  cases op with
  | request req => exact h.store req hop
  | session cradle => exact h.complete (servedAt_pending s cradle) (h.nodup.filter _) hop

end GnomePilot.Queue
