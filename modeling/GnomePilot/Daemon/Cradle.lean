import GnomePilot.Daemon.Restore
import GnomePilot.Queue.Cradle

/-!
# Events of a cradle

Clients ask for the system or user info of whatever pilot is put into a cradle, or for a
new user info to be written to it.  `do_cradle_events` answers at the start of a session.
`doCradleEvents_run` says what it does in any state that calls and sessions lead to.
-/

namespace GnomePilot.Daemon.Cradle

open Queue

/-! ## The calls -/

/-- The methods for a cradle with their arguments; `persistent` is their survival. -/
inductive CradleCall where
  | getSystemInfo (cradle : String) (persistent : Bool) (timeout : UInt64)
  | getUserInfo (cradle : String) (persistent : Bool) (timeout : UInt64)
  | setUserInfo (cradle : String) (continueSync persistent : Bool) (timeout uid : UInt64)
    (username : String)
  deriving DecidableEq

def requestTimeout (persistent : Bool) (timeout : UInt64) : UInt32 :=
  if persistent then 0 else timeout.toUInt32

def systemRequest (cradle : String) (timeout : UInt32) (parameters : Parameters) :
    GPilotRequest where
  pilotId := 0
  handle := 0
  timeout := timeout
  cradle := some cradle
  clientId := some ""
  parameters := parameters
  sectionName := none

theorem wellFormed_systemRequest {cradle : String} {timeout : UInt32} {parameters : Parameters}
    (hsystem : isSystemRelated parameters.type = true)
    (hnew : ∀ p, parameters ≠ .newUserinfo p) :
    (systemRequest cradle timeout parameters).WellFormed where
  system _ := rfl
  pilot h := by
    have htype : isSystemRelated parameters.type = false := h
    rw [hsystem] at htype
    cases htype
  newUserinfo p h := absurd h (hnew p)

def gpilotDaemonGetSystemInfo (cradle : String) (persistent : Bool) (timeout : UInt64) :
    DaemonRequest :=
  ⟨systemRequest cradle (requestTimeout persistent timeout) .getSysinfo,
    wellFormed_systemRequest rfl fun _ => Parameters.noConfusion⟩

def gpilotDaemonGetUserInfo (cradle : String) (persistent : Bool) (timeout : UInt64) :
    DaemonRequest :=
  ⟨systemRequest cradle (requestTimeout persistent timeout) .getUserinfo,
    wellFormed_systemRequest rfl fun _ => Parameters.noConfusion⟩

/-- `gpilot_daemon_set_user_info` with `gpc_queue_store_set_userinfo_request` -/
def gpilotDaemonSetUserInfo (cradle : String) (continueSync persistent : Bool)
    (timeout uid : UInt64) (username : String) : DaemonRequest :=
  ⟨systemRequest cradle (requestTimeout persistent timeout)
      (.setUserinfo ⟨none, some username, continueSync, uid.toUInt32⟩),
    wellFormed_systemRequest rfl fun _ => Parameters.noConfusion⟩

def CradleCall.request : CradleCall → DaemonRequest
  | .getSystemInfo cradle persistent timeout =>
    gpilotDaemonGetSystemInfo cradle persistent timeout
  | .getUserInfo cradle persistent timeout => gpilotDaemonGetUserInfo cradle persistent timeout
  | .setUserInfo cradle continueSync persistent timeout uid username =>
    gpilotDaemonSetUserInfo cradle continueSync persistent timeout uid username

/-! ## The events -/

inductive CradleEffect where
  | writeUserInfo (pu : PilotUser)
  | sysInfoRequested (device : String)
  | userInfoRequested (cradle : Option String) (userInfo : PilotUser)
  | requestCompleted (cradle : String) (handle : UInt32)
  deriving DecidableEq

/-- The queue file, the user info of the pilot and whether the session ends with the
events. -/
structure CradleSession where
  kf : KeyFile
  pu : PilotUser
  ret : Bool
  effects : List CradleEffect

/-- `dbus_notify_completion` with a connection to the bus. -/
def CradleSession.complete (x : CradleSession) (req : GPilotRequest) : CradleSession :=
  { x with
    kf := gpcQueuePurgeRequest x.kf req
    effects := x.effects ++ [.requestCompleted (req.cradle.getD "") req.handle] }

def CradleSession.emit (x : CradleSession) (effects : List CradleEffect) : CradleSession :=
  { x with effects := x.effects ++ effects }

section Events

variable (convertToPilotChar : String → List UInt8)

def userInfoOf (userId : String) (pilotId : UInt32) : PilotUser :=
  ⟨pilotId, (convertToPilotChar userId).take 126⟩

/-- A turn of the loop of `do_cradle_events`; `none` where it breaks off, for a request
of no system type and for a user info without a name. -/
def eventTurn (device : String) (x : CradleSession) (req : GPilotRequest) :
    Option CradleSession :=
  match req.parameters with
  | .setUserinfo p =>
    p.userId.map fun userId =>
      let pu := userInfoOf convertToPilotChar userId p.pilotId
      let ret := x.ret && !p.continueSync
      ({ x with pu := pu, ret := ret }.emit [.writeUserInfo pu]).complete req
  | .getSysinfo => some ((x.emit [.sysInfoRequested device]).complete req)
  | .getUserinfo => some ((x.emit [.userInfoRequested req.cradle x.pu]).complete req)
  | .newUserinfo _ => some x
  | _ => none

def doCradleEvents (device : String) (kf : KeyFile) (pu : PilotUser) : Option CradleSession :=
  let events := gpcQueueLoadRequestsForCradle kf device
  if events.isEmpty then some ⟨kf, pu, false, []⟩
  else events.foldlM (eventTurn convertToPilotChar device) ⟨kf, pu, true, []⟩

/-! ## What the requests ask for -/

/-- The user info a request asks to be written. -/
def asks (e : Entry) : Option PilotUser :=
  match e.req.parameters with
  | .setUserinfo p => p.userId.map fun userId => userInfoOf convertToPilotChar userId p.pilotId
  | _ => none

def goesOn (e : Entry) : Bool :=
  match e.req.parameters with
  | .setUserinfo p => p.continueSync
  | _ => false

def CradleEffect.completion : CradleEffect → Option (String × UInt32)
  | .requestCompleted cradle handle => some (cradle, handle)
  | _ => none

def CradleSession.completions (x : CradleSession) : List (String × UInt32) :=
  x.effects.filterMap CradleEffect.completion

/-- The completion the client of a request waits for: the handle it was given. -/
def completionOf (e : Entry) : String × UInt32 := (e.req.cradle.getD "", e.handle)

structure FromCall (e : Entry) : Prop where
  call : ∃ call : CradleCall, e.req = call.request
  handle : e.handle = e.loaded.handle

theorem completions_complete (x : CradleSession) {effect : CradleEffect}
    (h : effect.completion = none) (req : GPilotRequest) :
    ((x.emit [effect]).complete req).completions =
      x.completions ++ [(req.cradle.getD "", req.handle)] := by
  simp only [CradleSession.completions, CradleSession.emit, CradleSession.complete,
    List.append_assoc, List.filterMap_append, List.singleton_append]
  rw [List.filterMap_cons_none h]
  rfl

theorem eventTurn_loaded (device : String) (x : CradleSession) {e : Entry} (h : FromCall e) :
    ∃ x', eventTurn convertToPilotChar device x e.loaded = some x' ∧
      x'.kf = gpcQueuePurgeRequest x.kf e.loaded ∧
      x'.pu = (asks convertToPilotChar e).getD x.pu ∧
      x'.ret = (x.ret && !goesOn e) ∧
      x'.completions = x.completions ++ [completionOf e] := by
  obtain ⟨⟨call, hcall⟩, hhandle⟩ := h
  have hparameters : e.loaded.parameters = call.request.parameters :=
    congrArg (fun req : DaemonRequest => req.parameters) hcall
  have hcradle : e.loaded.cradle = e.req.cradle := rfl
  unfold eventTurn asks goesOn completionOf
  rw [show e.req.parameters = e.loaded.parameters from rfl, hparameters, hhandle, ← hcradle]
  cases call with
  | getSystemInfo cradle persistent timeout =>
      exact ⟨_, rfl, rfl, rfl, (Bool.and_true _).symm, completions_complete x rfl _⟩
  | getUserInfo cradle persistent timeout =>
      exact ⟨_, rfl, rfl, rfl, (Bool.and_true _).symm, completions_complete x rfl _⟩
  | setUserInfo cradle continueSync persistent timeout uid username =>
      exact ⟨_, rfl, rfl, rfl, rfl, completions_complete { x with pu := _, ret := _ } rfl _⟩

/-- The events are handled one after the other; what is written last stays. -/
theorem foldlM_eventTurn (device : String) {es : List Entry} (h : ∀ e ∈ es, FromCall e)
    (x : CradleSession) :
    ∃ x', (es.map Entry.loaded).foldlM (eventTurn convertToPilotChar device) x = some x' ∧
      x'.kf = (es.map Entry.loaded).foldl gpcQueuePurgeRequest x.kf ∧
      x'.pu = (es.filterMap (asks convertToPilotChar)).getLast?.getD x.pu ∧
      x'.ret = (x.ret && es.all fun e => !goesOn e) ∧
      x'.completions = x.completions ++ es.map completionOf := by
  induction es generalizing x with
  | nil => exact ⟨x, rfl, rfl, rfl, by simp, by simp⟩
  | cons e es ih =>
      obtain ⟨y, hturn, hkf, hpu, hret, hdone⟩ :=
        eventTurn_loaded convertToPilotChar device x (h e List.mem_cons_self)
      obtain ⟨x', hrest, hkf', hpu', hret', hdone'⟩ :=
        ih (fun a ha => h a (List.mem_cons_of_mem e ha)) y
      refine ⟨x', ?_, ?_, ?_, ?_, ?_⟩
      · rw [List.map_cons, List.foldlM_cons, hturn]
        exact hrest
      · rw [hkf', hkf, List.map_cons, List.foldl_cons]
      · rw [hpu', hpu]
        cases hasks : asks convertToPilotChar e with
        | none => rw [List.filterMap_cons_none hasks, Option.getD_none]
        | some pu =>
            rw [List.filterMap_cons_some hasks, Option.getD_some, List.getLast?_cons,
              Option.getD_some]
      · rw [hret', hret, List.all_cons, Bool.and_assoc]
      · rw [hdone', hdone, List.map_cons, List.append_assoc]
        rfl

/-! ## Calls and sessions -/

inductive CradleEvent where
  | call (call : CradleCall)
  | session (cradle : String)

def CradleEvent.op : CradleEvent → CradleOp
  | .call c => .request c.request
  | .session cradle => .session cradle

def queueAfter (history : List CradleEvent) : QueueState :=
  (history.map CradleEvent.op).foldl cradleStep .empty

theorem mem_pending_complete {es : List Entry} {s : QueueState} {e : Entry}
    (h : e ∈ (s.complete es).pending) : e ∈ s.pending := by
  induction es generalizing s with
  | nil => exact h
  | cons a es ih =>
      have hstep := ih (s := s.step (.purge a.serial)) h
      cases hfind : s.find a.serial with
      | none => simpa [QueueState.step, hfind] using hstep
      | some p =>
          simp only [QueueState.step, hfind] at hstep
          exact List.mem_of_mem_erase hstep

theorem fromCall_cradleStep {s : QueueState} (h : ∀ e ∈ s.pending, FromCall e)
    (event : CradleEvent) : ∀ e ∈ (cradleStep s event.op).pending, FromCall e := by
  cases event with
  | session cradle => exact fun e he => h e (mem_pending_complete he)
  | call call =>
      intro e he
      rcases List.mem_cons.mp he with rfl | he
      · exact ⟨⟨call, rfl⟩, rfl⟩
      · exact h e he

theorem aged_run {ops : List CradleOp} {s : QueueState} (h : Aged s)
    (hops : History.Allowed cradleStep CradleOrderly s ops) : Aged (ops.foldl cradleStep s) := by
  induction ops generalizing s with
  | nil => exact h
  | cons op ops ih => exact ih (h.cradleStep op hops.1) hops.2

theorem fromCall_queueAfter (history : List CradleEvent) :
    ∀ e ∈ (queueAfter history).pending, FromCall e := by
  have hrun : ∀ s : QueueState, (∀ e ∈ s.pending, FromCall e) →
      ∀ e ∈ ((history.map CradleEvent.op).foldl cradleStep s).pending, FromCall e := by
    induction history with
    | nil => exact fun s h => h
    | cons event history ih =>
        exact fun s h => ih (cradleStep s event.op) (fromCall_cradleStep h event)
  exact hrun .empty (by simp [QueueState.empty])

theorem doCradleEvents_served {s : QueueState} (haged : Aged s)
    (hcalls : ∀ e ∈ s.systemRequests, FromCall e) (device : String) (pu : PilotUser) :
    ∃ x, doCradleEvents convertToPilotChar device s.kf pu = some x ∧
      x.kf = (cradleStep s (.session device)).kf ∧
      x.completions = (s.servedAt device).map completionOf ∧
      x.pu = ((s.servedAt device).filterMap (asks convertToPilotChar)).getLast?.getD pu ∧
      x.ret = (!(s.servedAt device).isEmpty && (s.servedAt device).all fun e => !goesOn e) := by
  generalize hs : s.servedAt device = served
  have hserved : ∀ e ∈ served, FromCall e := by
    intro e he
    rw [← hs, servedAt_eq] at he
    exact hcalls e (List.mem_filter.mp (List.mem_filter.mp he).1).1
  -- no call asks for `GREQ_NEW_USERINFO`
  have hall : (s.systemRequests.filter fun e => e.req.isFor device) = served := by
    rw [← hs, servedAt_eq s device, eq_comm, List.filter_eq_self]
    intro e he
    obtain ⟨call, hcall⟩ := (hcalls e (List.mem_filter.mp he).1).call
    rw [hcall]
    cases call <;> rfl
  have hevents : gpcQueueLoadRequestsForCradle s.kf device = served.map Entry.loaded := by
    rw [loadRequestsForCradle_eq haged, hall]
  have hkf : (cradleStep s (.session device)).kf =
      (served.map Entry.loaded).foldl gpcQueuePurgeRequest s.kf := by
    rw [← hs]
    exact (complete_eq haged.sorted (servedAt_pending s device) (haged.nodup.filter _)
      haged.nodup).1
  have hdo : doCradleEvents convertToPilotChar device s.kf pu =
      if served.isEmpty then some ⟨s.kf, pu, false, []⟩
      else (served.map Entry.loaded).foldlM (eventTurn convertToPilotChar device)
        ⟨s.kf, pu, true, []⟩ := by
    simp only [doCradleEvents, hevents, List.isEmpty_map]
  rw [hdo]
  cases hempty : served.isEmpty with
  | true =>
      rw [List.isEmpty_iff] at hempty
      rw [hempty, List.map_nil, List.foldl_nil] at hkf
      rw [hempty]
      exact ⟨⟨s.kf, pu, false, []⟩, rfl, hkf.symm, rfl, rfl, rfl⟩
  | false =>
      obtain ⟨x, hx, hxkf, hpu, hret, hdone⟩ :=
        foldlM_eventTurn convertToPilotChar device hserved ⟨s.kf, pu, true, []⟩
      exact ⟨x, hx, hxkf.trans hkf.symm, hdone, hpu, hret⟩

/-- After any history of calls and sessions that forgets nothing, a session at a cradle
completes the requests for it, each with the handle its client was given, from the latest
to the earliest; the pilot is left with the user info the earliest of them asks for; and
the sync goes on if there were none or one of them says so. -/
theorem doCradleEvents_run (history : List CradleEvent)
    (h : History.Allowed cradleStep CradleOrderly .empty (history.map CradleEvent.op))
    (device : String) (pu : PilotUser) :
    let s := queueAfter history
    let served := s.servedAt device
    served.Pairwise (fun e e' => e'.serial < e.serial) ∧
      ∃ x, doCradleEvents convertToPilotChar device s.kf pu = some x ∧
        x.kf = (cradleStep s (.session device)).kf ∧
        x.completions = served.map completionOf ∧
        x.pu = (served.filterMap (asks convertToPilotChar)).getLast?.getD pu ∧
        x.ret = (!served.isEmpty && served.all fun e => !goesOn e) := by
  intro s served
  have haged : Aged s := aged_run aged_empty h
  exact ⟨haged.sorted.filter _,
    doCradleEvents_served convertToPilotChar haged
      (fun e he => fromCall_queueAfter history e (List.mem_filter.mp he).1) device pu⟩

end Events

def twoUsers : List CradleEvent :=
  [.call (.setUserInfo "Cradle" true true 0 1 "Jane"),
    .call (.setUserInfo "cradle" false true 0 2 "John")]

/-- The conversion of plain names. -/
def ascii (name : String) : List UInt8 := name.toList.map fun c => UInt8.ofNat c.toNat

/-- The first of them wins. -/
theorem doCradleEvents_twoUsers :
    ∃ x, doCradleEvents ascii "CRADLE" (queueAfter twoUsers).kf ⟨0, []⟩ = some x ∧
      x.completions = [("cradle", 2), ("Cradle", 1)] ∧
      x.pu = userInfoOf ascii "Jane" 1 ∧ x.ret = false := by
  have hallowed : History.Allowed cradleStep CradleOrderly .empty
      (twoUsers.map CradleEvent.op) := by
    refine ⟨?_, ?_, trivial⟩
    · change (counter _ _ _).toNat + 1 < 2 ^ 31
      decide
    · change (counter _ _ _).toNat + 1 < 2 ^ 31
      decide
  obtain ⟨-, x, hx, -, hdone, hpu, hret⟩ :=
    doCradleEvents_run ascii twoUsers hallowed "CRADLE" ⟨0, []⟩
  refine ⟨x, hx, hdone.trans ?_, hpu.trans ?_, hret.trans ?_⟩
  · decide
  · rfl
  · decide

end GnomePilot.Daemon.Cradle
