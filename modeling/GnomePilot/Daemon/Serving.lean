import GnomePilot.Daemon.Manager
import GnomePilot.Queue.Cradle

/-!
# What a session does to the queue

A session completes the restores of its pilot, then the conduit requests.  The files to be
installed have to wait until there is none of either, or a file conduit is requested.  All
of them share one list, so what is left behind must have come before what is completed.
-/

namespace GnomePilot.Daemon.Serving

open Queue

section Session

variable (env : Environment) (userID : UInt32)

/-- The queue side of `do_sync`; `gpilot_sync_default` installs for each file conduit. -/
def doSync (kf : KeyFile) : KeyFile :=
  let requests := takeRequests env kf userID
  if requests.doNormalSyncStuff then
    env.fileConduitList.foldl (fun kf _ => completeInstalls env userID kf) requests.kf
  else requests.kf

/-! ## The pending requests -/

def complete (s : QueueState) (es : List Entry) : QueueState :=
  if env.gdbusConnection then s.complete es else s

def installs (s : QueueState) : QueueState := complete env s (s.load userID .install)

def conduitTurn (s : QueueState) (e : Entry) : QueueState :=
  complete env (if asksForFiles env e.loaded then installs env userID s else s) [e]

/-- A session of the pilot. -/
def session (s : QueueState) : QueueState :=
  let restore := s.load userID .restore
  let s := complete env s restore
  let conduit := s.load userID .conduit
  let s := conduit.foldl (conduitTurn env userID) s
  if restore.isEmpty && conduit.isEmpty then
    env.fileConduitList.foldl (fun s _ => installs env userID s) s
  else s

/-- What the session completes. -/
def served (s : QueueState) : List Entry :=
  s.pending.filter fun e => e ∉ (session env userID s).pending

end Session

/-! ## Batches -/

/-- Requests are kept apart, latest first. -/
structure Filed (s : QueueState) : Prop extends Kept s where
  sorted : s.pending.Pairwise fun e e' => e'.serial < e.serial

theorem filed_of_aged {s : QueueState} (h : Aged s) : Filed s := ⟨h.toKept, h.sorted⟩

theorem Filed.complete {s : QueueState} (h : Filed s) (es : List Entry) : Filed (s.complete es) :=
  ⟨h.toKept.complete es, h.sorted.sublist (pending_complete_sublist s es)⟩

/-- Pending requests, each named once. -/
structure Batch (s : QueueState) (es : List Entry) : Prop where
  nodup : es.Nodup
  pending : ∀ e ∈ es, e ∈ s.pending

section Batches

variable {s : QueueState} {es es' : List Entry}

theorem batch_nil (s : QueueState) : Batch s [] := ⟨List.nodup_nil, by simp⟩

theorem mem_complete (h : Filed s) (hes : Batch s es) {e : Entry} :
    e ∈ (s.complete es).pending ↔ e ∈ s.pending ∧ e ∉ es :=
  (complete_eq h.sorted hes.pending hes.nodup h.nodup).2 e

theorem complete_append (s : QueueState) (es es' : List Entry) :
    s.complete (es ++ es') = (s.complete es).complete es' := by
  unfold QueueState.complete
  rw [List.foldl_append]

theorem Batch.append (h : Filed s) (hes : Batch s es) (hes' : Batch (s.complete es) es') :
    Batch s (es ++ es') := by
  have hmem := fun e he => (mem_complete h hes).mp (hes'.pending e he)
  constructor
  · rw [List.nodup_append]
    refine ⟨hes.nodup, hes'.nodup, ?_⟩
    rintro e he e' he' rfl
    exact (hmem e he').2 he
  · intro e he
    rcases List.mem_append.mp he with he | he
    · exact hes.pending e he
    · exact (hmem e he).1

theorem kf_complete (h : Filed s) (hes : Batch s es) :
    (s.complete es).kf = (es.map Entry.loaded).foldl gpcQueuePurgeRequest s.kf :=
  (complete_eq h.sorted hes.pending hes.nodup h.nodup).1

theorem batch_load (h : Filed s) (userID : UInt32) {type : RequestType}
    (hpilot : isSystemRelated type = false) : Batch s (s.load userID type) :=
  ⟨load_nodup h.toKept hpilot, fun _ he => (pending_of_load he).1⟩

def Visits (userID : UInt32) (type : RequestType) (s : QueueState) (es : List Entry) : Prop :=
  ∃ es', (∀ e ∈ es', e ∈ es) ∧ Batch s es' ∧ ∀ e ∈ (s.complete es').load userID type, e ∈ es

theorem Visits.append_right {userID : UInt32} {type : RequestType}
    (h : Visits userID type s es) : Visits userID type s (es ++ es') := by
  obtain ⟨done, hdone, hbatch, hload⟩ := h
  exact ⟨done, fun e he => List.mem_append_left _ (hdone e he), hbatch,
    fun e he => List.mem_append_left _ (hload e he)⟩

theorem Visits.append_left {userID : UInt32} {type : RequestType} (hs : Filed s)
    (hes : Batch s es) (h : Visits userID type (s.complete es) es') :
    Visits userID type s (es ++ es') := by
  obtain ⟨done, hdone, hbatch, hload⟩ := h
  refine ⟨es ++ done, ?_, hes.append hs hbatch, ?_⟩
  · intro e he
    rcases List.mem_append.mp he with he | he
    · exact List.mem_append_left _ he
    · exact List.mem_append_right _ (hdone e he)
  · rw [complete_append]
    exact fun e he => List.mem_append_right _ (hload e he)

/-- What stays although its type was loaded in the course of the batch would have to be
above some request of the batch. -/
theorem Visits.mem {userID : UInt32} {type : RequestType} (h : Visits userID type s es)
    (hs : Aged s) (htop : OnTop s es) {e : Entry} (he : e ∈ s.pending)
    (hpilot : e.req.pilotId = userID) (htype : e.req.type = type) : e ∈ es := by
  obtain ⟨done, hdone, hbatch, hload⟩ := h
  by_contra hnot
  have hfiled := filed_of_aged hs
  have hstays : e ∈ (s.complete done).pending :=
    (mem_complete hfiled hbatch).mpr ⟨he, fun hmem => hnot (hdone e hmem)⟩
  have hle := num_le_counter_complete hs hbatch.pending hbatch.nodup he fun a ha =>
    htop e he hnot a (hdone a ha)
  have hcount := counter_complete hs hbatch.pending hbatch.nodup e.req.pilotId e.req.type
  have hlen := length_staying hs.toNumbered hbatch.pending hbatch.nodup e.req.pilotId e.req.type
  have hread := hs.readable e.req.pilotId e.req.type
  have hmem := mem_load (hfiled.complete done).toKept hstays (by omega) (hs.bounded e he).1 hle
  rw [hpilot, htype] at hmem
  exact hnot (hload e hmem)

end Batches

/-! ## Which requests are completed -/

section Due

variable (env : Environment) (userID : UInt32) (s : QueueState)

/-- The files are installed: there is a file conduit and no other request of the pilot, or
a conduit request runs one. -/
def FilesRun : Prop :=
  (env.fileConduitList ≠ [] ∧ ∀ a ∈ s.pending, a.req.pilotId = userID →
      a.req.type ≠ .restore ∧ a.req.type ≠ .conduit) ∨
    ∃ a ∈ s.pending, a.req.pilotId = userID ∧ a.req.type = .conduit ∧
      asksForFiles env a.loaded = true

def Due (e : Entry) : Prop :=
  env.gdbusConnection = true ∧ e.req.pilotId = userID ∧
    (e.req.type = .restore ∨ e.req.type = .conduit ∨
      e.req.type = .install ∧ FilesRun env userID s)

end Due

/-! ## The batch of a session -/

section Session

variable {env : Environment} {userID : UInt32} {s : QueueState}

theorem complete_of_connection (h : env.gdbusConnection = true) (s : QueueState)
    (es : List Entry) : complete env s es = s.complete es := if_pos h

theorem dbusNotifyCompletion_of_connection (h : env.gdbusConnection = true) :
    dbusNotifyCompletion env = gpcQueuePurgeRequest := by
  funext kf req
  exact if_pos h

theorem kf_complete_load (h : env.gdbusConnection = true) (hs : Filed s) {type : RequestType}
    (hpilot : isSystemRelated type = false) :
    (gpcQueueLoadRequests s.kf userID type false).foldl (dbusNotifyCompletion env) s.kf =
      (s.complete (s.load userID type)).kf := by
  rw [kf_complete hs (batch_load hs userID hpilot), loaded_load hs.toKept hpilot,
    dbusNotifyCompletion_of_connection h]

/-- What a conduit request completes. -/
def turnBatch (env : Environment) (userID : UInt32) (s : QueueState) (c : Entry) : List Entry :=
  (if asksForFiles env c.loaded then s.load userID .install else []) ++ [c]

theorem mem_turnBatch {c e : Entry} (he : e ∈ turnBatch env userID s c) :
    e = c ∨ e ∈ s.load userID .install ∧ asksForFiles env c.loaded = true := by
  rcases List.mem_append.mp he with he | he
  · split at he
    · rename_i hasks
      exact Or.inr ⟨he, hasks⟩
    · cases he
  · exact Or.inl (List.mem_singleton.mp he)

theorem batch_turn (hs : Filed s) {c : Entry} (hc : c ∈ s.pending)
    (htype : c.req.type = .conduit) : Batch s (turnBatch env userID s c) := by
  have hone : ∀ es, (∀ e ∈ es, e.req.type = .install) → Batch s es →
      Batch (s.complete es) [c] := by
    intro es hinstall hes
    refine ⟨List.nodup_singleton c, fun e he => ?_⟩
    obtain rfl := List.mem_singleton.mp he
    refine (mem_complete hs hes).mpr ⟨hc, fun hmem => ?_⟩
    have hne := hinstall e hmem
    rw [htype] at hne
    cases hne
  unfold turnBatch
  split
  · have hload := @batch_load s hs userID .install rfl
    exact hload.append hs (hone _ (fun e he => (pending_of_load he).2.2) hload)
  · exact (batch_nil s).append hs (hone [] (by simp) (batch_nil s))

theorem conduitTurn_eq (h : env.gdbusConnection = true) (s : QueueState) (c : Entry) :
    conduitTurn env userID s c = s.complete (turnBatch env userID s c) := by
  unfold conduitTurn turnBatch installs
  rw [complete_of_connection h, complete_of_connection h, complete_append]
  split <;> rfl

theorem kf_turn (h : env.gdbusConnection = true) (hs : Filed s) {c : Entry} (hc : c ∈ s.pending)
    (htype : c.req.type = .conduit) : completeConduitSync env userID s.kf c.loaded =
      (s.complete (turnBatch env userID s c)).kf := by
  have hload := @loaded_load s userID .install hs.toKept rfl
  rw [kf_complete hs (batch_turn hs hc htype)]
  unfold completeConduitSync completeInstalls turnBatch
  rw [dbusNotifyCompletion_of_connection h, List.map_append, List.foldl_append]
  split
  · rw [hload]
    rfl
  · rfl

theorem foldl_conduitTurn (h : env.gdbusConnection = true) (hs : Filed s) {conduit : List Entry}
    (hbatch : Batch s conduit) (htype : ∀ c ∈ conduit, c.req.type = .conduit) :
    ∃ es, Batch s es ∧ conduit.foldl (conduitTurn env userID) s = s.complete es ∧
      (conduit.map Entry.loaded).foldl (completeConduitSync env userID) s.kf =
        (s.complete es).kf ∧
      (∀ c ∈ conduit, c ∈ es) ∧
      (∀ e ∈ es, e ∈ conduit ∨ e.req.pilotId = userID ∧ e.req.type = .install ∧
        ∃ c ∈ conduit, asksForFiles env c.loaded = true) ∧
      ((∃ c ∈ conduit, asksForFiles env c.loaded = true) → Visits userID .install s es) := by
  induction conduit generalizing s with
  | nil => exact ⟨[], batch_nil s, rfl, rfl, by simp, by simp, by simp⟩
  | cons c rest ih =>
      have hc := hbatch.pending c List.mem_cons_self
      have hctype := htype c List.mem_cons_self
      obtain ⟨hnew, hnodup⟩ := List.nodup_cons.mp hbatch.nodup
      have hturn := @batch_turn env userID s hs c hc hctype
      have hrest : Batch (s.complete (turnBatch env userID s c)) rest := by
        refine ⟨hnodup, fun e he => ?_⟩
        have hmem := List.mem_cons_of_mem c he
        refine (mem_complete hs hturn).mpr ⟨hbatch.pending e hmem, fun hdone => ?_⟩
        rcases mem_turnBatch hdone with rfl | ⟨hload, -⟩
        · exact hnew he
        · have hinstall := (pending_of_load hload).2.2
          rw [htype e hmem] at hinstall
          cases hinstall
      obtain ⟨es, hes, heq, hkf, hall, hof, hvisits⟩ := ih (hs.complete _) hrest
        fun e he => htype e (List.mem_cons_of_mem c he)
      refine ⟨turnBatch env userID s c ++ es, hturn.append hs hes, ?_, ?_, ?_, ?_, ?_⟩
      · rw [List.foldl_cons, conduitTurn_eq h, heq, complete_append]
      · rw [List.map_cons, List.foldl_cons, kf_turn h hs hc hctype, hkf, complete_append]
      · intro e he
        rcases List.mem_cons.mp he with rfl | he
        · exact List.mem_append_left _ (List.mem_append_right _ List.mem_cons_self)
        · exact List.mem_append_right _ (hall e he)
      · intro e he
        rcases List.mem_append.mp he with he | he
        · rcases mem_turnBatch he with rfl | ⟨hload, hasks⟩
          · exact Or.inl List.mem_cons_self
          · obtain ⟨-, hpilot, hinstall⟩ := pending_of_load hload
            exact Or.inr ⟨hpilot, hinstall, c, List.mem_cons_self, hasks⟩
        · rcases hof e he with he | ⟨hpilot, hinstall, a, ha, hasks⟩
          · exact Or.inl (List.mem_cons_of_mem c he)
          · exact Or.inr ⟨hpilot, hinstall, a, List.mem_cons_of_mem c ha, hasks⟩
      · rintro ⟨a, ha, hasks⟩
        rcases List.mem_cons.mp ha with rfl | ha
        · refine ⟨[], by simp, batch_nil s, fun e he => ?_⟩
          refine List.mem_append_left _ (List.mem_append_left _ ?_)
          rw [if_pos hasks]
          exact he
        · exact (hvisits ⟨a, ha, hasks⟩).append_left hs hturn

/-- The file conduits one after the other; the first one finds the requests. -/
theorem foldl_installs (h : env.gdbusConnection = true) (hs : Filed s) (files : List Conduit) :
    ∃ es, Batch s es ∧ files.foldl (fun s _ => installs env userID s) s = s.complete es ∧
      files.foldl (fun kf _ => completeInstalls env userID kf) s.kf = (s.complete es).kf ∧
      (∀ e ∈ es, e.req.pilotId = userID ∧ e.req.type = .install ∧ files ≠ []) ∧
      (files ≠ [] → Visits userID .install s es) := by
  induction files generalizing s with
  | nil => exact ⟨[], batch_nil s, rfl, rfl, by simp, fun hne => absurd rfl hne⟩
  | cons file files ih =>
      have hload := @batch_load s hs userID .install rfl
      obtain ⟨es, hes, heq, hkf, hof, -⟩ := ih (hs.complete (s.load userID .install))
      refine ⟨s.load userID .install ++ es, hload.append hs hes, ?_, ?_, ?_, ?_⟩
      · rw [List.foldl_cons, complete_append, ← heq]
        unfold installs
        rw [complete_of_connection h]
      · have hone : completeInstalls env userID s.kf = (s.complete (s.load userID .install)).kf :=
          kf_complete_load h hs rfl
        rw [List.foldl_cons, hone, hkf, complete_append]
      · intro e he
        rcases List.mem_append.mp he with he | he
        · obtain ⟨-, hpilot, htype⟩ := pending_of_load he
          exact ⟨hpilot, htype, List.cons_ne_nil file files⟩
        · obtain ⟨hpilot, htype, -⟩ := hof e he
          exact ⟨hpilot, htype, List.cons_ne_nil file files⟩
      · exact fun _ => ⟨[], by simp, batch_nil s, fun e he => List.mem_append_left _ he⟩

theorem loaded_of_aged (h : Aged s) {e : Entry} (he : e ∈ s.pending)
    (hpilot : e.req.pilotId = userID) {type : RequestType} (htype : e.req.type = type) :
    e ∈ s.load userID type := by
  obtain ⟨hpos, hle⟩ := h.bounded e he
  have hmem := mem_load h.toKept he (h.readable _ _) hpos hle
  rwa [hpilot, htype] at hmem

theorem session_eq (h : env.gdbusConnection = true) {restore conduit : List Entry}
    (hrestore : s.load userID .restore = restore)
    (hconduit : (s.complete restore).load userID .conduit = conduit) :
    session env userID s = if restore.isEmpty && conduit.isEmpty then
        env.fileConduitList.foldl (fun s _ => installs env userID s)
          (conduit.foldl (conduitTurn env userID) (s.complete restore))
      else conduit.foldl (conduitTurn env userID) (s.complete restore) := by
  simp only [session, hrestore, complete_of_connection h, hconduit]

theorem doSync_eq {kf kf' : KeyFile} {restore conduit : List GPilotRequest}
    (hrestore : gpcQueueLoadRequests kf userID .restore false = restore)
    (hkf : restore.foldl (dbusNotifyCompletion env) kf = kf')
    (hconduit : gpcQueueLoadRequests kf' userID .conduit false = conduit) :
    doSync env userID kf = if restore.isEmpty && conduit.isEmpty then
        env.fileConduitList.foldl (fun kf _ => completeInstalls env userID kf)
          (conduit.foldl (completeConduitSync env userID) kf')
      else conduit.foldl (completeConduitSync env userID) kf' := by
  simp only [doSync, takeRequests, Requests.doNormalSyncStuff, hrestore, hkf, hconduit]

/-- Without a restore or a conduit request the files are installed. -/
theorem session_of_none (h : env.gdbusConnection = true) (hs : Aged s)
    (hrestore : s.load userID .restore = []) (hconduit : s.load userID .conduit = []) :
    ∃ es, Batch s es ∧ session env userID s = s.complete es ∧
      doSync env userID s.kf = (s.complete es).kf ∧
      (OnTop s es → ∀ e ∈ s.pending, e ∈ es ↔ Due env userID s e) := by
  have hfiled := filed_of_aged hs
  obtain ⟨es, hes, heq, hkf, hof, hvisits⟩ :=
    @foldl_installs env userID s h hfiled env.fileConduitList
  have hnone : ∀ a ∈ s.pending, a.req.pilotId = userID →
      a.req.type ≠ .restore ∧ a.req.type ≠ .conduit := by
    intro a ha hpilot
    constructor
    · intro htype
      have hmem := loaded_of_aged hs ha hpilot htype
      rw [hrestore] at hmem
      cases hmem
    · intro htype
      have hmem := loaded_of_aged hs ha hpilot htype
      rw [hconduit] at hmem
      cases hmem
  have hkf₁ := @loaded_load s userID .restore hs.toKept rfl
  have hkf₂ := @loaded_load s userID .conduit hs.toKept rfl
  rw [hrestore, List.map_nil] at hkf₁
  rw [hconduit, List.map_nil] at hkf₂
  refine ⟨es, hes, ?_, ?_, ?_⟩
  · rw [session_eq h hrestore hconduit]
    exact heq
  · rw [doSync_eq hkf₁.symm rfl hkf₂.symm]
    exact hkf
  · intro htop e he
    constructor
    · intro hmem
      obtain ⟨hpilot, htype, hfiles⟩ := hof e hmem
      exact ⟨h, hpilot, Or.inr (Or.inr ⟨htype, Or.inl ⟨hfiles, hnone⟩⟩)⟩
    · rintro ⟨-, hpilot, htype | htype | ⟨htype, hfiles | ⟨a, ha, hapilot, hatype, -⟩⟩⟩
      · exact absurd htype (hnone e he hpilot).1
      · exact absurd htype (hnone e he hpilot).2
      · exact (hvisits hfiles.1).mem hs htop he hpilot htype
      · exact absurd hatype (hnone a ha hapilot).2

theorem session_of_requests (h : env.gdbusConnection = true) (hs : Aged s)
    (hsome : (s.load userID .restore).isEmpty = false ∨
      ((s.complete (s.load userID .restore)).load userID .conduit).isEmpty = false) :
    ∃ es, Batch s es ∧ session env userID s = s.complete es ∧
      doSync env userID s.kf = (s.complete es).kf ∧
      (OnTop s es → ∀ e ∈ s.pending, e ∈ es ↔ Due env userID s e) := by
  have hfiled := filed_of_aged hs
  have hrestore := @batch_load s hfiled userID .restore rfl
  have hkf₁ := @kf_complete_load env userID s h hfiled .restore rfl
  have hload₁ := @loaded_load s userID .restore hs.toKept rfl
  generalize hR : s.load userID .restore = restore at *
  have hfiled₁ := hfiled.complete restore
  have hconduit := @batch_load _ hfiled₁ userID .conduit rfl
  have hload₂ := @loaded_load _ userID .conduit hfiled₁.toKept rfl
  generalize hC : (s.complete restore).load userID .conduit = conduit at *
  have hrestores : ∀ e ∈ restore, e.req.pilotId = userID ∧ e.req.type = .restore := by
    intro e he
    rw [← hR] at he
    exact (pending_of_load he).2
  have hconduits : ∀ e ∈ conduit, e ∈ s.pending ∧ e.req.pilotId = userID ∧
      e.req.type = .conduit := by
    intro e he
    refine ⟨((mem_complete hfiled hrestore).mp (hconduit.pending e he)).1, ?_⟩
    rw [← hC] at he
    exact (pending_of_load he).2
  obtain ⟨done, hdone, heq, hkf, hall, hof, hvisits⟩ := @foldl_conduitTurn env userID _ h
    hfiled₁ _ hconduit fun c hc => (hconduits c hc).2.2
  have hempty : (restore.isEmpty && conduit.isEmpty) = false := by
    rcases hsome with hsome | hsome
    · rw [hsome]
      rfl
    · rw [hsome, Bool.and_false]
  refine ⟨restore ++ done, hrestore.append hfiled hdone, ?_, ?_, ?_⟩
  · rw [session_eq h hR hC, hempty, complete_append]
    exact heq
  · rw [doSync_eq rfl hkf₁ rfl, ← hload₁, ← hload₂, List.isEmpty_map, List.isEmpty_map, hempty,
      complete_append]
    exact hkf
  · intro htop e he
    have hisConduit : ∀ a ∈ restore ++ done, a.req.type = .conduit → a ∈ conduit := by
      intro a ha htype
      rcases List.mem_append.mp ha with ha | ha
      · rw [(hrestores a ha).2] at htype
        cases htype
      · rcases hof a ha with ha | ⟨-, hinstall, -⟩
        · exact ha
        · rw [hinstall] at htype
          cases htype
    have hvisitsR : Visits userID .restore s (restore ++ done) :=
      ⟨[], by simp, batch_nil s, fun a ha => List.mem_append_left _ (hR ▸ ha)⟩
    have hvisitsC : Visits userID .conduit s (restore ++ done) :=
      ⟨restore, fun a ha => List.mem_append_left _ ha, hrestore,
        fun a ha => List.mem_append_right _ (hall a (hC ▸ ha))⟩
    constructor
    · intro hmem
      rcases List.mem_append.mp hmem with hmem | hmem
      · obtain ⟨hpilot, htype⟩ := hrestores e hmem
        exact ⟨h, hpilot, Or.inl htype⟩
      · rcases hof e hmem with hmem | ⟨hpilot, htype, c, hc, hasks⟩
        · obtain ⟨-, hpilot, htype⟩ := hconduits e hmem
          exact ⟨h, hpilot, Or.inr (Or.inl htype)⟩
        · obtain ⟨hcpending, hcpilot, hctype⟩ := hconduits c hc
          exact ⟨h, hpilot, Or.inr (Or.inr ⟨htype,
            Or.inr ⟨c, hcpending, hcpilot, hctype, hasks⟩⟩)⟩
    · rintro ⟨-, hpilot, htype | htype | ⟨htype, ⟨-, hnone⟩ | ⟨a, ha, hapilot, hatype, hasks⟩⟩⟩
      · exact hvisitsR.mem hs htop he hpilot htype
      · exact hvisitsC.mem hs htop he hpilot htype
      · have hnoR : restore = [] := List.eq_nil_iff_forall_not_mem.mpr fun a ha =>
          (hnone a (hrestore.pending a ha) (hrestores a ha).1).1 (hrestores a ha).2
        have hnoC : conduit = [] := List.eq_nil_iff_forall_not_mem.mpr fun a ha =>
          (hnone a (hconduits a ha).1 (hconduits a ha).2.1).2 (hconduits a ha).2.2
        rw [hnoR, hnoC] at hempty
        cases hempty
      · have hmem := hisConduit a (hvisitsC.mem hs htop ha hapilot hatype) hatype
        exact ((hvisits ⟨a, hmem, hasks⟩).append_left hfiled hrestore).mem hs htop he hpilot htype

theorem session_batch (hs : Aged s) : ∃ es, Batch s es ∧ session env userID s = s.complete es ∧
    doSync env userID s.kf = (s.complete es).kf ∧
    (OnTop s es → ∀ e ∈ s.pending, e ∈ es ↔ Due env userID s e) := by
  cases h : env.gdbusConnection with
  | true =>
      by_cases hrestore : s.load userID .restore = []
      · by_cases hconduit : s.load userID .conduit = []
        · exact session_of_none h hs hrestore hconduit
        · apply session_of_requests h hs
          rw [hrestore]
          exact Or.inr (List.isEmpty_eq_false_iff.mpr hconduit)
      · exact session_of_requests h hs (Or.inl (List.isEmpty_eq_false_iff.mpr hrestore))
  | false =>
      -- without a connection nothing is completed
      have hnone : ∀ (s : QueueState) es, complete env s es = s := by
        intro s es
        unfold complete
        rw [h]
        rfl
      have hkfnone : ∀ kf req, dbusNotifyCompletion env kf req = kf := by
        intro kf req
        unfold dbusNotifyCompletion
        rw [h]
        rfl
      refine ⟨[], batch_nil s, ?_, ?_, fun _ e _ => ⟨fun he => (List.not_mem_nil he).elim, ?_⟩⟩
      · have hturn : ∀ (s : QueueState) e, conduitTurn env userID s e = s := by
          intro s e
          unfold conduitTurn installs
          rw [hnone, hnone, ite_self]
        have hfold : env.fileConduitList.foldl (fun s _ => installs env userID s) s = s :=
          List.foldl_fixed' (fun _ => hnone s (s.load userID .install)) _
        simp only [session, hnone, List.foldl_fixed' (hturn s), hfold, ite_self]
        rfl
      · have hfiles : ∀ kf, completeInstalls env userID kf = kf := fun kf =>
          List.foldl_fixed' (hkfnone kf) _
        have hturn : ∀ kf req, completeConduitSync env userID kf req = kf := by
          intro kf req
          unfold completeConduitSync
          rw [hkfnone, hfiles, ite_self]
        have hsync : ∀ kf, doSync env userID kf = kf := by
          intro kf
          rw [doSync_eq rfl (List.foldl_fixed' (hkfnone kf) _) rfl,
            List.foldl_fixed' (hturn kf), List.foldl_fixed' fun _ => hfiles kf, ite_self]
        exact hsync s.kf
      · rintro ⟨hconnection, -⟩
        rw [h] at hconnection
        cases hconnection

theorem mem_served (hs : Filed s) {es : List Entry} (hes : Batch s es)
    (heq : session env userID s = s.complete es) (e : Entry) :
    e ∈ served env userID s ↔ e ∈ es := by
  have hpending := hes.pending e
  unfold served
  rw [List.mem_filter, decide_eq_true_eq, heq, mem_complete hs hes]
  tauto

theorem onTop_served_iff (hs : Filed s) {es : List Entry} (hes : Batch s es)
    (heq : session env userID s = s.complete es) :
    OnTop s (served env userID s) ↔ OnTop s es := by
  have hmem := mem_served hs hes heq
  simp only [OnTop, hmem]

theorem mem_session (hs : Aged s) (htop : OnTop s (served env userID s)) (e : Entry) :
    e ∈ (session env userID s).pending ↔ e ∈ s.pending ∧ ¬ Due env userID s e := by
  have hfiled := filed_of_aged hs
  obtain ⟨es, hes, heq, -, hdue⟩ := @session_batch env userID s hs
  have htop := (onTop_served_iff hfiled hes heq).mp htop
  rw [heq, mem_complete hfiled hes]
  constructor
  · exact fun ⟨he, hnot⟩ => ⟨he, fun hdue' => hnot ((hdue htop e he).mpr hdue')⟩
  · exact fun ⟨he, hnot⟩ => ⟨he, fun hmem => hnot ((hdue htop e he).mp hmem)⟩

end Session

/-! ## Requests and sessions -/

/-- Requests are stored, and sessions complete those for their cradle and their pilot. -/
inductive QueueEvent where
  | request (req : DaemonRequest)
  | cradle (cradle : String)
  | session (env : Environment) (userID : UInt32)

def step (s : QueueState) : QueueEvent → QueueState
  | .request req => s.step (.store req)
  | .cradle cradle => s.complete (s.servedAt cradle)
  | .session env userID => session env userID s

/-- A store has room, and a session finds what it completes on top of the rest. -/
def Orderly (s : QueueState) : QueueEvent → Prop
  | .request req => Queue.Orderly s (.store req)
  | .cradle cradle => OnTop s (s.servedAt cradle)
  | .session env userID => OnTop s (served env userID s)

theorem aged_step {s : QueueState} (h : Aged s) (event : QueueEvent) (hevent : Orderly s event) :
    Aged (step s event) := by
  cases event with
  | request req => exact h.store req hevent
  | cradle cradle => exact h.complete (servedAt_pending s cradle) (h.nodup.filter _) hevent
  | session env userID =>
      obtain ⟨es, hes, heq, -⟩ := @session_batch env userID s h
      have htop := (onTop_served_iff (filed_of_aged h) hes heq).mp hevent
      change Aged (session env userID s)
      rw [heq]
      exact h.complete hes.pending hes.nodup htop

/-- Over any history of requests and sessions, every pending request can be loaded and every
section is apart exactly when each session completes the latest requests of a list, and no
counter leaves the range of an `int`. -/
theorem alwaysSafe_events_iff (events : List QueueEvent) :
    History.Always step QueueSafe .empty events ↔
      History.Allowed step Orderly .empty events := by
  apply History.always_iff_allowed Aged
  · exact fun s h => h.safe
  · exact fun s event h hevent => aged_step h event hevent
  · intro s event h hevent
    cases event with
    | request req => exact not_safe_of_not_orderly h.toNumbered (.store req) hevent
    | cradle cradle =>
        exact fun hsafe => hevent (onTop_of_safe h (servedAt_pending s cradle) (h.nodup.filter _)
          hsafe)
    | session env userID =>
        obtain ⟨es, hes, heq, -⟩ := @session_batch env userID s h
        intro hsafe
        change QueueSafe (session env userID s) at hsafe
        rw [heq] at hsafe
        exact hevent ((onTop_served_iff (filed_of_aged h) hes heq).mpr
          (onTop_of_safe h hes.pending hes.nodup hsafe))
  · exact aged_empty

/-- In a history that forgets nothing, its last session leaves in the file the requests of other
pilots and of cradles, and of its own those that are not due: no restore and no conduit
request, and files only if it has been there for something else. -/
theorem pending_session (events : List QueueEvent) (env : Environment) (userID : UInt32)
    (h : History.Allowed step Orderly .empty (events ++ [.session env userID])) :
    let s := events.foldl step .empty
    let s' := session env userID s
    s'.kf = doSync env userID s.kf ∧
      ∀ e, e ∈ s'.pending ↔ e ∈ s.pending ∧ ¬ Due env userID s e := by
  intro s s'
  obtain ⟨hevents, hsession, -⟩ := History.allowed_append.mp h
  have hs : Aged s := by
    have hkeep : ∀ s event, Aged s → Orderly s event → Aged (step s event) :=
      fun _ event h hevent => aged_step h event hevent
    exact (History.always_of_allowed hkeep aged_empty hevents).last
  obtain ⟨es, -, heq, hkf, -⟩ := @session_batch env userID s hs
  exact ⟨(congrArg QueueState.kf heq).trans hkf.symm, mem_session hs hsession⟩

/-- A file to be installed on the pilot with ID 5. -/
def fileRequest : DaemonRequest where
  pilotId := 5
  handle := 0
  timeout := 0
  cradle := none
  clientId := some ""
  parameters := .install (some "/home/mail.pdb") none
  sectionName := none
  wellFormed := ⟨by simp [GPilotRequest.type, Parameters.type, isSystemRelated], by simp, by simp⟩

def fileConduits : Environment where
  conduitList := []
  backupConduitList := []
  fileConduitList := [⟨"File", .file, .synchronize, .notSet⟩]
  databases := []
  databasesFor _ := []
  gdbusConnection := true

def fileThenRestore : List QueueEvent :=
  [.request fileRequest, .request (Queue.restoreRequest "/a")]

theorem pending_session_fileThenRestore :
    let s := fileThenRestore.foldl step .empty
    (session fileConduits 5 s).kf = doSync fileConduits 5 s.kf ∧
      ∀ e, e ∈ (session fileConduits 5 s).pending ↔ e ∈ s.pending ∧ ¬ Due fileConduits 5 s e := by
  apply pending_session fileThenRestore fileConduits 5
  refine ⟨?_, ?_, ?_, trivial⟩
  · change (counter _ _ _).toNat + 1 < 2 ^ 31
    decide
  · change (counter _ _ _).toNat + 1 < 2 ^ 31
    decide
  · unfold Orderly OnTop
    decide

end GnomePilot.Daemon.Serving
