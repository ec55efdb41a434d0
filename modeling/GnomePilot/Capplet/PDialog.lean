import GnomePilot.Daemon.Cradle
import GnomePilot.Lib.Ticket
import GnomePilot.Queue.Handle
import Mathlib.Logic.Function.Basic

/-!
# Asking for the pilot

The buttons of the pilot dialog make two requests for a cradle and wait until both are
completed or the user cancels.  The handles are the numbers of the requests in the queue,
and completions go to every client.  `sound_iff_clear` of `Lib/Ticket.lean` is about this
dialog: `desk_step` says so, and `alwaysSound_iff_clear` what follows from it.
-/

namespace GnomePilot.Capplet.PDialog

open Queue Daemon.Cradle Ticket

/-! ## The queue -/

/-- A request of the calls, and its handle is its number. -/
theorem system_of_fromCall {e : Entry} (h : FromCall e) : isSystemRelated e.req.type = true := by
  obtain ⟨call, hcall⟩ := h.call
  rw [hcall]
  cases call <;> rfl

theorem handle_eq_num {e : Entry} (h : FromCall e) : e.handle = e.num := by
  have hsystem := system_of_fromCall h
  have hhandle : e.loaded.handle = (setSectionNum e.req.pilotId e.req.type e.num).1 := rfl
  rw [h.handle, hhandle]
  simp [setSectionNum, hsystem]

/-- A handle below 65535 takes out the request that it was given for. -/
theorem target_iff {e : Entry} (h : FromCall e) (hsmall : e.num.toNat < 65535)
    (handle : UInt32) : target handle = e.sec ↔ e.handle = handle := by
  have hsystem := system_of_fromCall h
  constructor
  · intro htarget
    have hpilot := pilotId_of_target htarget
    rw [pilotId_eq_zero hsystem] at hpilot
    have hnum : handle % 65535 = e.num := (sectionOf_inj.mp htarget).2
    have hdiv := congrArg UInt32.toNat hpilot
    rw [UInt32.toNat_div] at hdiv
    rw [handle_eq_num h, ← hnum]
    apply UInt32.toNat_inj.mp
    rw [UInt32.toNat_mod]
    simp only [UInt32.reduceToNat] at hdiv ⊢
    omega
  · intro hhandle
    have hpacks : e.Packs := by
      refine ⟨hsmall, ?_⟩
      rw [pilotId_eq_zero hsystem]
      simp only [UInt32.reduceToNat]
      omega
    have hself := (target_handle_iff e).mpr hpacks
    have heq : (setSectionNum e.req.pilotId e.req.type e.num).1 = e.handle := h.handle.symm
    rwa [heq, hhandle] at hself

/-! ## The dialog -/

/-- The buttons, and what `gppd_pilot_send` sends. -/
inductive Button where
  | get
  | send (pilotId : UInt64) (username : String)

/-- The first call of `gppd_pilot_get` and of `gppd_pilot_send`. -/
def Button.firstCall (device : String) : Button → CradleCall
  | .get => .getUserInfo device false 0
  | .send pilotId username => .setUserInfo device false false 0 pilotId username

def secondCall (device : String) : CradleCall := .getSystemInfo device false 0

/-- The queue with the owners of its requests, the completions under way to the capplet,
and the dialog; a handle of -1 is `none`. -/
structure System where
  queue : QueueState
  owner : Nat → Owner
  wire : List UInt32
  handle1 : Option UInt32
  handle2 : Option UInt32
  phase : Phase
  device : String
  lost : List UInt32

/-- `secondFails` is an error of the second call, after which an error is shown. -/
inductive Event where
  | press (device : String) (button : Button)
  | second
  | secondFails
  | deliver
  | cancel
  | otherCall (call : CradleCall)
  | session (cradle : String)

namespace System

def newHandle (s : System) (call : CradleCall) : UInt32 := (s.queue.newEntry call.request).handle

def call (s : System) (call : CradleCall) (owner : Owner) : System :=
  { s with
    queue := s.queue.step (.store call.request)
    owner := Function.update s.owner s.queue.stored owner }

/-- `gppd_request_completed` -/
def deliver (s : System) : System :=
  match s.wire with
  | [] => s
  | handle :: wire =>
    let handles := hear (s.handle1, s.handle2) handle
    { s with
      wire := wire
      handle1 := handles.1
      handle2 := handles.2
      phase :=
        if (s.handle1 = some handle ∨ s.handle2 = some handle) ∧ handles = (none, none) then
          .idle
        else s.phase }

def remembers (s : System) (handle : UInt32) : Bool :=
  s.handle1 = some handle || s.handle2 = some handle

def gppdCancelSync (s : System) : System :=
  { s with
    queue := removeRequest (removeRequest s.queue (s.handle1.getD 0xffffffff))
      (s.handle2.getD 0xffffffff)
    handle1 := none
    handle2 := none
    phase := .idle
    lost := (s.queue.pending.filter fun e =>
      s.remembers e.handle && s.owner e.serial = .other).map Entry.handle ++ s.lost }

/-- The main loop of the capplet does not run between the two calls of a button. -/
def step (s : System) : Event → System
  | .press device button =>
    if s.phase = .idle then
      { s.call (button.firstCall device) .first with
        handle1 := some (s.newHandle (button.firstCall device))
        phase := .halfway
        device := device }
    else s
  | .second =>
    if s.phase = .halfway then
      { s.call (secondCall s.device) .second with
        handle2 := some (s.newHandle (secondCall s.device))
        phase := .waiting }
    else s
  | .secondFails => if s.phase = .halfway then { s with phase := .idle } else s
  | .deliver => if s.phase = .halfway then s else s.deliver
  | .cancel => if s.phase = .waiting then s.gppdCancelSync else s
  | .otherCall call => s.call call .other
  | .session cradle =>
    { s with
      queue := cradleStep s.queue (.session cradle)
      wire := s.wire ++ (s.queue.servedAt cradle).map Entry.handle }

def start : System := ⟨.empty, fun _ => .other, [], none, none, .idle, "", []⟩

/-- What the dialog has to do with, as in `Lib/Ticket.lean`. -/
def desk (s : System) : Desk UInt32 where
  pending := s.queue.pending.map fun e => (e.handle, s.owner e.serial)
  wire := s.wire
  handle1 := s.handle1
  handle2 := s.handle2
  phase := s.phase
  lost := s.lost

end System

/-- What an event is to the dialog. -/
def Event.ticket (s : System) : Event → Ticket.Event UInt32
  | .press device button => .first (s.newHandle (button.firstCall device))
  | .second => .second (s.newHandle (secondCall s.device))
  | .secondFails => .secondFails
  | .deliver => .deliver
  | .cancel => .cancel
  | .otherCall call => .other (s.newHandle call)
  | .session cradle => .serve ((s.queue.servedAt cradle).map Entry.handle)

/-- The queue has room for the calls, it forgets nothing when a session or a cancel takes
requests out, and handles are small enough to be taken back. -/
def Tidy (s : System) : Event → Prop
  | .press device button =>
    s.phase = .idle → Orderly s.queue (.store (button.firstCall device).request)
  | .second => s.phase = .halfway → Orderly s.queue (.store (secondCall s.device).request)
  | .otherCall call => Orderly s.queue (.store call.request)
  | .cancel => s.phase = .waiting →
      OnTop s.queue (s.queue.pending.filter fun e => s.remembers e.handle) ∧
        ∀ e ∈ s.queue.pending, e.num.toNat < 65535
  | .session cradle => OnTop s.queue (s.queue.servedAt cradle)
  | .secondFails | .deliver => True

/-! ## The queue in between -/

structure System.Inv (s : System) : Prop where
  aged : Aged s.queue
  calls : ∀ e ∈ s.queue.pending, FromCall e

theorem inv_start : System.start.Inv where
  aged := aged_empty
  calls _ he := (List.not_mem_nil he).elim

theorem fromCall_newEntry (s : QueueState) (call : CradleCall) :
    FromCall (s.newEntry call.request) := ⟨⟨call, rfl⟩, rfl⟩

theorem eq_of_handle {s : QueueState} (h : Kept s) (hcalls : ∀ e ∈ s.pending, FromCall e)
    {e e' : Entry} (he : e ∈ s.pending) (he' : e' ∈ s.pending) (hhandle : e.handle = e'.handle) :
    e = e' := by
  apply h.apart e he e' he'
  rw [sec_inj]
  constructor
  · rw [list_of_system (system_of_fromCall (hcalls e he)),
      list_of_system (system_of_fromCall (hcalls e' he'))]
  · rw [← handle_eq_num (hcalls e he), ← handle_eq_num (hcalls e' he'), hhandle]

theorem newHandle_ne {s : System} (h : s.Inv) {call : CradleCall}
    (hroom : Orderly s.queue (.store call.request)) {e : Entry} (he : e ∈ s.queue.pending) :
    e.handle ≠ s.newHandle call := by
  intro hhandle
  have hnew := fromCall_newEntry s.queue call
  rw [handle_eq_num (h.calls e he), System.newHandle, handle_eq_num hnew] at hhandle
  have hlist : e.list = (s.queue.newEntry call.request).list := by
    rw [list_of_system (system_of_fromCall (h.calls e he)),
      list_of_system (system_of_fromCall hnew)]
  have hle := (h.aged.bounded e he).2
  rw [counter_eq_of_list hlist, hhandle] at hle
  change (counter s.queue.kf call.request.pilotId call.request.type + 1).toNat ≤
    (counter s.queue.kf call.request.pilotId call.request.type).toNat at hle
  change (counter s.queue.kf call.request.pilotId call.request.type).toNat + 1 < 2 ^ 31 at hroom
  rw [UInt32.toNat_add] at hle
  simp only [UInt32.reduceToNat] at hle
  omega

theorem System.Inv.call {s : System} (h : s.Inv) {call : CradleCall}
    (hroom : Orderly s.queue (.store call.request)) (owner : Owner) : (s.call call owner).Inv where
  aged := h.aged.store call.request hroom
  calls e he := by
    rcases List.mem_cons.mp he with rfl | he
    · exact fromCall_newEntry s.queue call
    · exact h.calls e he

theorem desk_call {s : System} (h : s.Inv) (call : CradleCall) (owner : Owner) :
    (s.call call owner).desk =
      { s.desk with pending := (s.newHandle call, owner) :: s.desk.pending } := by
  have hold : ∀ e ∈ s.queue.pending,
      Function.update s.owner s.queue.stored owner e.serial = s.owner e.serial := by
    intro e he
    have hserial := h.aged.serial_lt e (List.mem_append_left _ he)
    exact Function.update_of_ne (by omega) _ _
  have hnew : (s.call call owner).owner (s.queue.newEntry call.request).serial = owner :=
    Function.update_self _ _ _
  have hpending : (s.call call owner).desk.pending =
      (s.newHandle call, owner) :: s.desk.pending := by
    have hrest : s.queue.pending.map (fun e => (e.handle, (s.call call owner).owner e.serial)) =
        s.queue.pending.map fun e => (e.handle, s.owner e.serial) := by
      apply List.map_congr_left
      intro e he
      rw [← hold e he]
      rfl
    change (_, (s.call call owner).owner (s.queue.newEntry call.request).serial) ::
      s.queue.pending.map (fun e => (e.handle, (s.call call owner).owner e.serial)) = _
    rw [hnew, hrest]
    rfl
  exact congrArg (fun pending => { s.desk with pending := pending }) hpending

/-! ## Taking requests out -/

theorem pending_complete {es : List Entry} {s : QueueState}
    (h : s.pending.Pairwise fun e e' => e'.serial < e.serial) (hes : ∀ e ∈ es, e ∈ s.pending)
    (hnodup : es.Nodup) (hpending : s.pending.Nodup) :
    (s.complete es).pending = s.pending.filter fun e => e ∉ es := by
  induction es generalizing s with
  | nil => simp [QueueState.complete]
  | cons e es ih =>
      obtain ⟨hnew, hrest⟩ := List.nodup_cons.mp hnodup
      have he := hes e List.mem_cons_self
      have hstep := step_purge_serial h he
      have hnext : (s.step (.purge e.serial)).pending = s.pending.erase e := by rw [hstep]
      have hlater : ∀ e' ∈ es, e' ∈ s.pending.erase e := by
        intro e' he'
        have hne : e' ≠ e := fun heq => hnew (heq ▸ he')
        exact (List.mem_erase_of_ne hne).mpr (hes e' (List.mem_cons_of_mem e he'))
      have hcomplete := ih (s := s.step (.purge e.serial))
        (by rw [hnext]; exact h.sublist List.erase_sublist) (by rw [hnext]; exact hlater) hrest
        (by rw [hnext]; exact hpending.erase e)
      change ((s.step (.purge e.serial)).complete es).pending = _
      rw [hcomplete, hnext, hpending.erase_eq_filter, List.filter_filter]
      apply List.filter_congr
      intro a _
      by_cases ha : a = e <;> simp [ha]

theorem removeRequest_complete {s : QueueState} (h : Kept s)
    (hcalls : ∀ e ∈ s.pending, FromCall e) (hsmall : ∀ e ∈ s.pending, e.num.toNat < 65535)
    (handle : UInt32) :
    removeRequest s handle = s.complete (s.pending.filter fun e => e.handle = handle) := by
  unfold removeRequest
  cases hfind : s.pending.find? fun e => target handle = e.sec with
  | none =>
      have hnil : (s.pending.filter fun e => e.handle = handle) = [] := by
        rw [List.filter_eq_nil_iff]
        intro e he hhandle
        have hnot := List.find?_eq_none.mp hfind e he
        exact hnot (decide_eq_true ((target_iff (hcalls e he) (hsmall e he) handle).mpr
          (of_decide_eq_true hhandle)))
      rw [hnil]
      rfl
  | some e =>
      have he : e ∈ s.pending := List.mem_of_find?_eq_some hfind
      have htarget : target handle = e.sec := by simpa using List.find?_some hfind
      have hhandle := (target_iff (hcalls e he) (hsmall e he) handle).mp htarget
      have hone : (s.pending.filter fun a => a.handle = handle) = [e] := by
        have honly : (s.pending.filter fun a => a.handle = handle) =
            s.pending.filter fun a => a = e := by
          apply List.filter_congr
          intro a ha
          rw [decide_eq_decide]
          constructor
          · intro hah
            exact eq_of_handle h hcalls ha he (hah.trans hhandle.symm)
          · intro hae
            rw [hae, hhandle]
        rw [honly, List.filter_eq, List.count_eq_one_of_mem h.nodup he]
        rfl
      rw [hone]
      rfl

theorem removeBoth {s : System} (h : s.Inv) (hsmall : ∀ e ∈ s.queue.pending, e.num.toNat < 65535) :
    ∃ es : List Entry, s.gppdCancelSync.queue = s.queue.complete es ∧ es.Nodup ∧
      ∀ e, e ∈ es ↔ e ∈ s.queue.pending ∧ s.remembers e.handle = true := by
  have hne : ∀ e ∈ s.queue.pending, e.handle ≠ 0xffffffff := by
    intro e he hhandle
    have hnum := hsmall e he
    rw [← handle_eq_num (h.calls e he), hhandle] at hnum
    exact absurd hnum (by decide)
  have hgetD : ∀ handle : Option UInt32, ∀ e ∈ s.queue.pending,
      e.handle = handle.getD 0xffffffff ↔ handle = some e.handle := by
    intro handle e he
    cases handle with
    | none => exact iff_of_false (hne e he) (by simp)
    | some n => exact eq_comm.trans Option.some_inj.symm
  let es1 := s.queue.pending.filter fun e => e.handle = s.handle1.getD 0xffffffff
  have hes1 : ∀ e ∈ es1, e ∈ s.queue.pending := fun e he => (List.mem_filter.mp he).1
  have hnodup1 : es1.Nodup := h.aged.nodup.filter _
  have hleft := pending_complete h.aged.sorted hes1 hnodup1 h.aged.nodup
  have hmem : ∀ e, e ∈ (s.queue.complete es1).pending ↔ e ∈ s.queue.pending ∧ e ∉ es1 := by
    intro e
    rw [hleft, List.mem_filter]
    simp
  let es2 := (s.queue.complete es1).pending.filter fun e => e.handle = s.handle2.getD 0xffffffff
  have hqueue : s.gppdCancelSync.queue = s.queue.complete (es1 ++ es2) := by
    have hfirst := removeRequest_complete h.aged.toKept h.calls hsmall (s.handle1.getD 0xffffffff)
    have hsecond := removeRequest_complete (h.aged.toKept.complete es1)
      (fun e he => h.calls e ((hmem e).mp he).1) (fun e he => hsmall e ((hmem e).mp he).1)
      (s.handle2.getD 0xffffffff)
    unfold System.gppdCancelSync
    rw [hfirst, hsecond]
    exact (List.foldl_append ..).symm
  refine ⟨es1 ++ es2, hqueue, ?_, ?_⟩
  · apply List.nodup_append.mpr
    refine ⟨hnodup1, ((hleft ▸ h.aged.nodup.filter _ : (s.queue.complete es1).pending.Nodup)).filter
      _, ?_⟩
    intro a ha b hb heq
    exact ((hmem b).mp (List.mem_filter.mp hb).1).2 (heq ▸ ha)
  · intro e
    rw [List.mem_append, List.mem_filter, List.mem_filter, hmem]
    unfold System.remembers
    by_cases he : e ∈ s.queue.pending
    · simp only [he, true_and, decide_eq_true_eq, Bool.or_eq_true, hgetD _ e he]
      constructor
      · rintro (h1 | ⟨_, h2⟩)
        · exact Or.inl h1
        · exact Or.inr h2
      · rintro (h1 | h2)
        · exact Or.inl h1
        · by_cases h1 : s.handle1 = some e.handle
          · exact Or.inl h1
          · right
            refine ⟨fun hin => h1 ?_, h2⟩
            exact (hgetD _ e he).mp (of_decide_eq_true (List.mem_filter.mp hin).2)
    · simp [he]

theorem System.Inv.cancel {s : System} (h : s.Inv)
    (hontop : OnTop s.queue (s.queue.pending.filter fun e => s.remembers e.handle))
    (hsmall : ∀ e ∈ s.queue.pending, e.num.toNat < 65535) :
    s.gppdCancelSync.Inv ∧ s.gppdCancelSync.desk = s.desk.cancel := by
  obtain ⟨es, hqueue, hnodup, hes⟩ := removeBoth h hsmall
  have hmem : ∀ e ∈ es, e ∈ s.queue.pending := fun e he => ((hes e).mp he).1
  have hpending : s.gppdCancelSync.queue.pending =
      s.queue.pending.filter fun e => !s.remembers e.handle := by
    rw [hqueue, pending_complete h.aged.sorted hmem hnodup h.aged.nodup]
    apply List.filter_congr
    intro e he
    by_cases hremembers : s.remembers e.handle = true <;> simp [hes, he, hremembers]
  have htop : OnTop s.queue es := by
    intro e he hnot e' he' hlist
    apply hontop e he _ e' _ hlist
    · intro hin
      exact hnot ((hes e).mpr (List.mem_filter.mp hin))
    · exact List.mem_filter.mpr ((hes e').mp he')
  constructor
  · constructor
    · rw [hqueue]
      exact h.aged.complete hmem hnodup htop
    · intro e he
      rw [hpending] at he
      exact h.calls e (List.mem_filter.mp he).1
  · have hmapped : s.gppdCancelSync.desk.pending = s.desk.cancel.pending := by
      change s.gppdCancelSync.queue.pending.map _ = (s.queue.pending.map _).filter _
      rw [hpending, List.filter_map]
      rfl
    have hlost : s.gppdCancelSync.desk.lost = s.desk.cancel.lost := by
      change (s.queue.pending.filter _).map _ ++ s.lost =
        ((s.queue.pending.map _).filter _).map _ ++ s.lost
      rw [List.filter_map, List.map_map]
      rfl
    unfold System.desk at hmapped hlost ⊢
    unfold Desk.cancel at hmapped hlost ⊢
    simp only at hmapped hlost
    rw [hmapped, hlost]
    rfl

/-! ## Sessions -/

theorem servedAt_nodup {s : System} (h : s.Inv) (cradle : String) :
    (s.queue.servedAt cradle).Nodup := h.aged.nodup.filter _

theorem System.Inv.session {s : System} (h : s.Inv) {cradle : String}
    (hontop : OnTop s.queue (s.queue.servedAt cradle)) :
    (s.step (.session cradle)).Inv where
  aged := h.aged.complete (servedAt_pending s.queue cradle) (servedAt_nodup h cradle) hontop
  calls e he := by
    have hpending := pending_complete h.aged.sorted (servedAt_pending s.queue cradle)
      (servedAt_nodup h cradle) h.aged.nodup
    change e ∈ (s.queue.complete (s.queue.servedAt cradle)).pending at he
    rw [hpending] at he
    exact h.calls e (List.mem_filter.mp he).1

theorem desk_session {s : System} (h : s.Inv) (cradle : String) :
    (s.step (.session cradle)).desk =
      s.desk.step (.serve ((s.queue.servedAt cradle).map Entry.handle)) := by
  have hpending := pending_complete h.aged.sorted (servedAt_pending s.queue cradle)
    (servedAt_nodup h cradle) h.aged.nodup
  have hserved : ∀ e ∈ s.queue.pending,
      (e ∉ s.queue.servedAt cradle ↔ e.handle ∉ (s.queue.servedAt cradle).map Entry.handle) := by
    intro e he
    apply not_congr
    constructor
    · exact List.mem_map_of_mem
    · intro hmem
      obtain ⟨e', he', hhandle⟩ := List.mem_map.mp hmem
      have hpending' := servedAt_pending s.queue cradle e' he'
      rwa [← eq_of_handle h.aged.toKept h.calls hpending' he hhandle]
  have hmapped : (s.step (.session cradle)).desk.pending =
      s.desk.pending.filter fun p => p.1 ∉ (s.queue.servedAt cradle).map Entry.handle := by
    change (s.queue.complete (s.queue.servedAt cradle)).pending.map _ =
      (s.queue.pending.map _).filter _
    rw [hpending, List.filter_map]
    congr 1
    apply List.filter_congr
    intro e he
    exact decide_eq_decide.mpr (hserved e he)
  exact congrArg (fun pending => Desk.mk pending
    (s.wire ++ (s.queue.servedAt cradle).map Entry.handle) s.handle1 s.handle2 s.phase s.lost)
    hmapped

theorem session_announces {s : System} (h : s.Inv) (convertToPilotChar : String → List UInt8)
    (cradle : String) (pu : Daemon.PilotUser) :
    ∃ x, doCradleEvents convertToPilotChar cradle s.queue.kf pu = some x ∧
      (s.step (.session cradle)).queue.kf = x.kf ∧
      (s.step (.session cradle)).wire = s.wire ++ x.completions.map Prod.snd := by
  obtain ⟨x, hx, hkf, hdone, -⟩ :=
    doCradleEvents_served convertToPilotChar h.aged
      (fun e he => h.calls e (List.mem_filter.mp he).1) cradle pu
  refine ⟨x, hx, hkf.symm, ?_⟩
  rw [hdone, List.map_map]
  rfl

/-! ## Runs -/

theorem desk_deliver (s : System) : s.deliver.desk = s.desk.deliver := by
  cases hwire : s.wire with
  | nil =>
      have hdeliver : s.deliver = s := by
        unfold System.deliver
        rw [hwire]
      rw [hdeliver, Desk.deliver_nil hwire]
  | cons handle wire =>
      rw [Desk.deliver_cons hwire]
      unfold System.deliver
      rw [hwire]
      rfl

theorem queue_deliver (s : System) : s.deliver.queue = s.queue := by
  unfold System.deliver
  cases s.wire <;> rfl

/-- The dialog and the queue together are the desk of `Lib/Ticket.lean`. -/
theorem desk_step {s : System} (h : s.Inv) {event : Event} (htidy : Tidy s event) :
    (s.step event).desk = s.desk.step (event.ticket s) := by
  cases event with
  | press device button =>
      by_cases hidle : s.phase = .idle
      · have hcall := desk_call h (button.firstCall device) .first
        rw [System.step, if_pos hidle]
        refine Eq.trans ?_ (if_pos hidle).symm
        exact congrArg (fun d : Desk UInt32 => { d with
          handle1 := some (s.newHandle (button.firstCall device))
          phase := .halfway }) hcall
      · rw [System.step, if_neg hidle]
        exact (if_neg hidle).symm
  | second =>
      by_cases hhalfway : s.phase = .halfway
      · have hcall := desk_call h (secondCall s.device) .second
        rw [System.step, if_pos hhalfway]
        refine Eq.trans ?_ (if_pos hhalfway).symm
        exact congrArg (fun d : Desk UInt32 => { d with
          handle2 := some (s.newHandle (secondCall s.device))
          phase := .waiting }) hcall
      · rw [System.step, if_neg hhalfway]
        exact (if_neg hhalfway).symm
  | secondFails =>
      by_cases hhalfway : s.phase = .halfway
      · rw [System.step, if_pos hhalfway]
        exact (if_pos hhalfway).symm
      · rw [System.step, if_neg hhalfway]
        exact (if_neg hhalfway).symm
  | deliver =>
      by_cases hhalfway : s.phase = .halfway
      · rw [System.step, if_pos hhalfway]
        exact (if_pos hhalfway).symm
      · rw [System.step, if_neg hhalfway, desk_deliver]
        exact (if_neg hhalfway).symm
  | cancel =>
      by_cases hwaiting : s.phase = .waiting
      · obtain ⟨hontop, hsmall⟩ := htidy hwaiting
        rw [System.step, if_pos hwaiting, (h.cancel hontop hsmall).2]
        exact (if_pos hwaiting).symm
      · rw [System.step, if_neg hwaiting]
        exact (if_neg hwaiting).symm
  | otherCall call => exact desk_call h call .other
  | session cradle => exact desk_session h cradle

theorem System.Inv.step {s : System} (h : s.Inv) {event : Event} (htidy : Tidy s event) :
    (s.step event).Inv := by
  cases event with
  | press device button =>
      by_cases hidle : s.phase = .idle
      · have hcall := h.call (htidy hidle) .first
        rw [System.step, if_pos hidle]
        exact ⟨hcall.aged, hcall.calls⟩
      · rwa [System.step, if_neg hidle]
  | second =>
      by_cases hhalfway : s.phase = .halfway
      · have hcall := h.call (htidy hhalfway) .second
        rw [System.step, if_pos hhalfway]
        exact ⟨hcall.aged, hcall.calls⟩
      · rwa [System.step, if_neg hhalfway]
  | secondFails =>
      by_cases hhalfway : s.phase = .halfway
      · rw [System.step, if_pos hhalfway]
        exact ⟨h.aged, h.calls⟩
      · rwa [System.step, if_neg hhalfway]
  | deliver =>
      by_cases hhalfway : s.phase = .halfway
      · rwa [System.step, if_pos hhalfway]
      · rw [System.step, if_neg hhalfway]
        have hqueue := queue_deliver s
        exact ⟨hqueue ▸ h.aged, hqueue ▸ h.calls⟩
  | cancel =>
      by_cases hwaiting : s.phase = .waiting
      · obtain ⟨hontop, hsmall⟩ := htidy hwaiting
        rw [System.step, if_pos hwaiting]
        exact (h.cancel hontop hsmall).1
      · rwa [System.step, if_neg hwaiting]
  | otherCall call => exact h.call htidy .other
  | session cradle => exact h.session htidy

theorem newHandle_fresh {s : System} (h : s.Inv) {call : CradleCall}
    (hroom : Orderly s.queue (.store call.request)) :
    s.newHandle call ∉ s.desk.pending.map Prod.fst := by
  intro hmem
  obtain ⟨p, hp, hhandle⟩ := List.mem_map.mp hmem
  obtain ⟨e, he, rfl⟩ := List.mem_map.mp hp
  exact newHandle_ne h hroom he hhandle

theorem numbered_ticket {s : System} (h : s.Inv) {event : Event} (htidy : Tidy s event) :
    s.desk.Numbered (event.ticket s) := by
  cases event with
  | press device button => exact fun hidle => newHandle_fresh h (htidy hidle)
  | second => exact fun hhalfway => newHandle_fresh h (htidy hhalfway)
  | otherCall call => exact newHandle_fresh h htidy
  | secondFails => trivial
  | deliver => trivial
  | cancel => trivial
  | session cradle => trivial

/-- In a run of the dialog, of other clients and of sessions in which the queue forgets
nothing, the dialog will know of each of its requests whether it is completed, leaves none
behind and takes back no one else's, exactly when no handle it is given is still in a
completion under way other than that of its own first request, its first request is completed
when the second call fails, and no handle it takes back has come to another client. -/
theorem alwaysSound_iff_clear (events : List Event)
    (h : History.Allowed System.step Tidy .start events) :
    History.Always System.step (fun s => s.desk.Sound) .start events ↔
      History.Allowed System.step (fun s event => s.desk.Clear (event.ticket s)) .start
        events := by
  have hkeep : ∀ s event, System.Inv s → Tidy s event → (System.step s event).Inv :=
    fun _ _ hinv htidy => hinv.step htidy
  have hsim : ∀ s event, System.Inv s → Tidy s event →
      (System.step s event).desk = s.desk.step (Event.ticket s event) :=
    fun _ _ hinv htidy => desk_step hinv htidy
  have hnumbered : History.Allowed Desk.step Desk.Numbered System.start.desk
      (History.trace System.step (fun s event => Event.ticket s event) .start events) := by
    rw [← History.allowed_trace_iff System.Inv hkeep hsim inv_start h]
    exact History.allowed_of_legal System.Inv hkeep
      (fun _ _ hinv htidy => numbered_ticket hinv htidy) inv_start h
  rw [History.always_trace_iff System.Inv hkeep hsim inv_start h,
    History.allowed_trace_iff System.Inv hkeep hsim inv_start h]
  exact Desk.sound_iff_clear _ hnumbered

/-- Another client's request is completed, and the dialog is given its number. -/
def numberAgain : List Event :=
  [.otherCall (.getUserInfo "Cradle" false 0), .session "Cradle", .press "Cradle" .get]

def bothCompleted : List Event :=
  [.press "Cradle" .get, .second, .session "cradle", .deliver, .deliver]

theorem tidy_numberAgain : History.Allowed System.step Tidy .start numberAgain := by
  refine ⟨?_, ?_, ?_, trivial⟩
  · change (counter _ _ _).toNat + 1 < 2 ^ 31
    decide +kernel
  · unfold Tidy OnTop
    decide +kernel
  · intro _
    change (counter _ _ _).toNat + 1 < 2 ^ 31
    decide +kernel

theorem tidy_bothCompleted : History.Allowed System.step Tidy .start bothCompleted := by
  refine ⟨fun _ => ?_, fun _ => ?_, ?_, trivial, trivial, trivial⟩
  · change (counter _ _ _).toNat + 1 < 2 ^ 31
    decide +kernel
  · change (counter _ _ _).toNat + 1 < 2 ^ 31
    decide +kernel
  · unfold Tidy OnTop
    decide +kernel

/-- The completion of the other request is taken for the dialog's. -/
theorem alwaysSound_iff_clear_numberAgain :
    ¬ History.Always System.step (fun s => s.desk.Sound) .start numberAgain ∧
      History.Always System.step (fun s => s.desk.Sound) .start bothCompleted := by
  constructor
  · rw [alwaysSound_iff_clear numberAgain tidy_numberAgain]
    intro h
    have hnot := h.2.2.1
    exact absurd (by decide +kernel) (hnot (by decide +kernel))
  · rw [alwaysSound_iff_clear bothCompleted tidy_bothCompleted]
    refine ⟨fun _ => ?_, fun _ => ?_, trivial, trivial, trivial, trivial⟩
    · decide +kernel
    · decide +kernel

end GnomePilot.Capplet.PDialog
