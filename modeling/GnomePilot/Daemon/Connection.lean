import GnomePilot.Daemon.Config
import GnomePilot.Daemon.Cradle
import GnomePilot.Daemon.Serving

/-!
# A pilot that connects

`sync_device` reads the user info of a pilot, serves the requests for its cradle, looks the
profile up that has the ID the pilot is left with, and synchronises it if the profile lets
it.  `syncDevice_run` says over every run who is synchronised and what stays in the queue;
`synchronised_named` says who can be taken for another.
-/

namespace GnomePilot.Daemon.Connecting

open Queue Cradle

/-! ## The functions -/

/-- A pilot at a cradle: what can be read from it, and the conduits its profile loads. -/
structure Connection where
  device : String
  readSysInfo : Bool
  userInfo : Option PilotUser
  password : List UInt8
  env : Config.GPilotPilot → Environment
  connected : ∀ pilot, (env pilot).gdbusConnection = true

/-- `crypt`, which may fail, and whether `stat` finds a base directory fit for use. -/
structure Host where
  crypt : List UInt8 → String → Option String
  usable : Option String → Bool

/-- What a connection comes to. -/
inductive Outcome where
  | noSystemData
  | noUserData
  | completedEvents
  | unknown (pu : PilotUser)
  | invalidBasedir (pilot : Config.GPilotPilot)
  | wrongPassword (pilot : Config.GPilotPilot)
  | synchronised (pilot : Config.GPilotPilot)
  deriving DecidableEq

def gpilotFindPilotById (id : UInt32) (pilots : List Config.GPilotPilot) :
    Option Config.GPilotPilot :=
  pilots.find? fun pilot => pilot.pilotId = id

section Session

variable (host : Host) (convertToPilotChar : String → List UInt8)
  (pilots : List Config.GPilotPilot)

/-- The check of the password; `g_ascii_strcasecmp` gives 0 as well if `crypt` failed. -/
def passwordOk (c : Connection) (pilot : Config.GPilotPilot) : Bool :=
  pilot.passwd.all fun passwd =>
    (host.crypt c.password passwd).all fun crypted => sameIgnoringCase passwd crypted

def gpilotSyncingKnownPilot (c : Connection) (pilot : Config.GPilotPilot) (pu : PilotUser)
    (kf : KeyFile) : KeyFile × Outcome :=
  if host.usable pilot.basedir then
    if passwordOk host c pilot then
      (Serving.doSync (c.env pilot) pu.userID kf, .synchronised pilot)
    else (kf, .wrongPassword pilot)
  else (kf, .invalidBasedir pilot)

/-- `sync_device` with a connection; none if `do_cradle_events` breaks off. -/
def syncDevice (c : Connection) (kf : KeyFile) : Option (KeyFile × Outcome) :=
  if c.readSysInfo then
    match c.userInfo with
    | none => some (kf, .noUserData)
    | some pu =>
        (doCradleEvents convertToPilotChar c.device kf pu).map fun x =>
          if x.ret then (x.kf, .completedEvents)
          else
            match gpilotFindPilotById x.pu.userID pilots with
            | none => (x.kf, .unknown x.pu)
            | some pilot => gpilotSyncingKnownPilot host c pilot x.pu x.kf
  else some (kf, .noSystemData)

inductive Event where
  | call (call : CradleCall)
  | request (req : DaemonRequest) (hpilot : isSystemRelated req.type = false)
  | connect (c : Connection)

def fileStep (kf : Option KeyFile) : Event → Option KeyFile
  | .call call => kf.map fun kf => (gpcQueueStoreRequest kf call.request.toGPilotRequest).2
  | .request req _ => kf.map fun kf => (gpcQueueStoreRequest kf req.toGPilotRequest).2
  | .connect c =>
      kf.bind fun kf => (syncDevice host convertToPilotChar pilots c kf).map Prod.fst

/-! ## What it is for -/

/-- The user info of the pilot, when its requests can be served. -/
def Connection.user (c : Connection) : Option PilotUser :=
  if c.readSysInfo then c.userInfo else none

/-- The queue once the requests for the cradle are completed. -/
def served (s : QueueState) (c : Connection) : QueueState :=
  if c.user.isSome then s.complete (s.servedAt c.device) else s

/-- The requests for the cradle end the session. -/
def ends (s : QueueState) (c : Connection) : Bool :=
  !(s.servedAt c.device).isEmpty && (s.servedAt c.device).all fun e => !goesOn e

def identity (s : QueueState) (c : Connection) (pu : PilotUser) : PilotUser :=
  ((s.servedAt c.device).filterMap (asks convertToPilotChar)).getLast?.getD pu

def admission (c : Connection) (pilot : Config.GPilotPilot) : Outcome :=
  if host.usable pilot.basedir then
    if passwordOk host c pilot then .synchronised pilot else .wrongPassword pilot
  else .invalidBasedir pilot

def outcome (s : QueueState) (c : Connection) : Outcome :=
  match c.user with
  | none => if c.readSysInfo then .noUserData else .noSystemData
  | some pu =>
      if ends s c then .completedEvents
      else
        let pu := identity convertToPilotChar s c pu
        match gpilotFindPilotById pu.userID pilots with
        | none => .unknown pu
        | some pilot => admission host c pilot

def connect (s : QueueState) (c : Connection) : QueueState :=
  match outcome host convertToPilotChar pilots s c with
  | .synchronised pilot => Serving.session (c.env pilot) pilot.pilotId (served s c)
  | _ => served s c

def step (s : QueueState) : Event → QueueState
  | .call call => s.step (.store call.request)
  | .request req _ => s.step (.store req)
  | .connect c => connect host convertToPilotChar pilots s c

/-- A store has room, and a connection finds what it completes on top of the rest. -/
def Orderly (s : QueueState) : Event → Prop
  | .call call => Queue.Orderly s (.store call.request)
  | .request req _ => Queue.Orderly s (.store req)
  | .connect c =>
      (c.user.isSome = true → OnTop s (s.servedAt c.device)) ∧
        ∀ pilot, outcome host convertToPilotChar pilots s c = .synchronised pilot →
          OnTop (served s c) (Serving.served (c.env pilot) pilot.pilotId (served s c))

/-- The queue forgets nothing, and requests for a cradle came in by calls. -/
structure Inv (s : QueueState) : Prop where
  aged : Aged s
  calls : ∀ e ∈ s.systemRequests, FromCall e

/-! ## One connection -/

variable {host} {convertToPilotChar} {pilots} {s : QueueState}

theorem inv_served (h : Inv s) {c : Connection}
    (htop : c.user.isSome = true → OnTop s (s.servedAt c.device)) : Inv (served s c) := by
  unfold served
  split
  · rename_i hsome
    refine ⟨h.aged.complete (servedAt_pending s c.device) (h.aged.nodup.filter _) (htop hsome), ?_⟩
    intro e he
    obtain ⟨hpending, hsystem⟩ := List.mem_filter.mp he
    exact h.calls e (List.mem_filter.mpr ⟨mem_pending_complete hpending, hsystem⟩)
  · exact h

theorem gpilotSyncingKnownPilot_eq (h : Aged s) (c : Connection) {pilot : Config.GPilotPilot}
    {pu : PilotUser} (hpilot : pilot.pilotId = pu.userID) :
    gpilotSyncingKnownPilot host c pilot pu s.kf =
      ((match admission host c pilot with
        | .synchronised pilot => Serving.session (c.env pilot) pilot.pilotId s
        | _ => s).kf, admission host c pilot) := by
  simp only [gpilotSyncingKnownPilot, admission]
  by_cases husable : host.usable pilot.basedir = true
  · by_cases hpassword : passwordOk host c pilot = true
    · obtain ⟨es, -, heq, hdo, -⟩ := @Serving.session_batch (c.env pilot) pilot.pilotId _ h
      simp only [husable, hpassword, if_true, ← hpilot, hdo, heq]
    · simp [husable, hpassword]
  · simp [husable]

theorem gpilotSyncingKnownPilot_snd (c : Connection) (pilot : Config.GPilotPilot)
    (pu : PilotUser) (kf : KeyFile) :
    (gpilotSyncingKnownPilot host c pilot pu kf).2 = admission host c pilot := by
  unfold gpilotSyncingKnownPilot admission
  split
  · split <;> rfl
  · rfl

/-- A connection comes to what is said of it, also where the queue forgets a request. -/
theorem syncDevice_outcome (h : Inv s) (c : Connection) :
    (syncDevice host convertToPilotChar pilots c s.kf).map Prod.snd =
      some (outcome host convertToPilotChar pilots s c) := by
  cases hsys : c.readSysInfo with
  | false => simp [syncDevice, outcome, Connection.user, hsys]
  | true =>
      cases hinfo : c.userInfo with
      | none => simp [syncDevice, outcome, Connection.user, hsys, hinfo]
      | some pu =>
          have huser : c.user = some pu := by simp [Connection.user, hsys, hinfo]
          obtain ⟨x, hx, -, -, hpu, hret⟩ :=
            doCradleEvents_served convertToPilotChar h.aged h.calls c.device pu
          have hends : x.ret = ends s c := hret
          have hid : x.pu = identity convertToPilotChar s c pu := hpu
          simp only [syncDevice, hsys, hinfo, hx, if_true, Option.map_some, hends, hid, outcome,
            huser]
          by_cases hend : ends s c = true
          · simp [hend]
          · simp only [hend, Bool.false_eq_true, if_false]
            cases gpilotFindPilotById (identity convertToPilotChar s c pu).userID pilots with
            | none => rfl
            | some pilot => exact congrArg some (gpilotSyncingKnownPilot_snd c pilot _ x.kf)

/-- The functions do to the file what is said of the queue. -/
theorem syncDevice_eq (h : Inv s) {c : Connection}
    (htop : c.user.isSome = true → OnTop s (s.servedAt c.device)) :
    syncDevice host convertToPilotChar pilots c s.kf =
      some ((connect host convertToPilotChar pilots s c).kf,
        outcome host convertToPilotChar pilots s c) := by
  have hinv := inv_served h htop
  cases hsys : c.readSysInfo with
  | false => simp [syncDevice, connect, outcome, served, Connection.user, hsys]
  | true =>
      cases hinfo : c.userInfo with
      | none => simp [syncDevice, connect, outcome, served, Connection.user, hsys, hinfo]
      | some pu =>
          have huser : c.user = some pu := by simp [Connection.user, hsys, hinfo]
          have hserved : served s c = s.complete (s.servedAt c.device) := by
            simp [served, huser]
          obtain ⟨x, hx, hkf, -, hpu, hret⟩ :=
            doCradleEvents_served convertToPilotChar h.aged h.calls c.device pu
          have hfile : x.kf = (served s c).kf := by rw [hserved]; exact hkf
          have hends : x.ret = ends s c := hret
          have hid : x.pu = identity convertToPilotChar s c pu := hpu
          simp only [syncDevice, hsys, hinfo, hx, if_true, Option.map_some, hends, hid, hfile]
          unfold connect outcome
          simp only [huser]
          by_cases hend : ends s c = true
          · simp [hend]
          · simp only [hend, Bool.false_eq_true, if_false]
            generalize identity convertToPilotChar s c pu = pu
            cases hfind : gpilotFindPilotById pu.userID pilots with
            | none => rfl
            | some pilot =>
                have hpilot : pilot.pilotId = pu.userID := by
                  simpa using List.find?_some hfind
                exact congrArg some (gpilotSyncingKnownPilot_eq hinv.aged c hpilot)

theorem mem_served (h : Inv s) {c : Connection} {e : Entry} :
    e ∈ (served s c).pending ↔
      e ∈ s.pending ∧ ¬ (c.user.isSome = true ∧ e.servedAt c.device = true) := by
  unfold served
  split
  · rename_i hsome
    have hbatch : Serving.Batch s (s.servedAt c.device) :=
      ⟨h.aged.nodup.filter _, servedAt_pending s c.device⟩
    rw [Serving.mem_complete (Serving.filed_of_aged h.aged) hbatch, QueueState.servedAt,
      List.mem_filter]
    tauto
  · rename_i hnone
    tauto

/-- What stays in the queue when a pilot has been there. -/
theorem mem_connect (h : Inv s) {c : Connection}
    (hc : Orderly host convertToPilotChar pilots s (.connect c)) (e : Entry) :
    e ∈ (connect host convertToPilotChar pilots s c).pending ↔ e ∈ s.pending ∧
      ¬ (c.user.isSome = true ∧ e.servedAt c.device = true) ∧
      ∀ pilot, outcome host convertToPilotChar pilots s c = .synchronised pilot →
        ¬ Serving.Due (c.env pilot) pilot.pilotId (served s c) e := by
  have hserved := inv_served h hc.1
  rw [← and_assoc, ← mem_served h]
  unfold connect
  split
  · rename_i pilot hpilot
    rw [Serving.mem_session hserved.aged (hc.2 pilot hpilot)]
    refine and_congr_right fun _ => ⟨fun hnot other hother => ?_, fun hall => hall pilot hpilot⟩
    obtain rfl := Outcome.synchronised.inj (hpilot.symm.trans hother)
    exact hnot
  · rename_i hnone
    exact ⟨fun he => ⟨he, fun pilot hpilot => absurd hpilot (hnone pilot)⟩, fun he => he.1⟩

def Event.stored : Event → Option DaemonRequest
  | .call made => some made.request
  | .request req _ => some req
  | .connect _ => none

theorem mem_step (h : Inv s) {event : Event}
    (hevent : Orderly host convertToPilotChar pilots s event) {e : Entry}
    (he : e ∈ (step host convertToPilotChar pilots s event).pending) :
    e ∈ s.pending ∨ ∃ req, event.stored = some req ∧ e = s.newEntry req := by
  cases event with
  | call call =>
      rcases List.mem_cons.mp he with rfl | he
      · exact Or.inr ⟨call.request, rfl, rfl⟩
      · exact Or.inl he
  | request req hpilot =>
      rcases List.mem_cons.mp he with rfl | he
      · exact Or.inr ⟨req, rfl, rfl⟩
      · exact Or.inl he
  | connect c => exact Or.inl ((mem_connect h hevent e).mp he).1

theorem stored_system {event : Event} {req : DaemonRequest} (h : event.stored = some req)
    (hsystem : isSystemRelated req.type = true) :
    ∃ call, event = .call call ∧ req = call.request := by
  cases event with
  | call call => exact ⟨call, rfl, (Option.some.inj h).symm⟩
  | request other hpilot =>
      obtain rfl := Option.some.inj h
      rw [hpilot] at hsystem
      cases hsystem
  | connect c => cases h

theorem aged_step (h : Inv s) {event : Event}
    (hevent : Orderly host convertToPilotChar pilots s event) :
    Aged (step host convertToPilotChar pilots s event) := by
  cases event with
  | call call => exact h.aged.store call.request hevent
  | request req hpilot => exact h.aged.store req hevent
  | connect c =>
      have hserved := (inv_served h hevent.1).aged
      simp only [step, connect]
      split
      · rename_i pilot hpilot
        exact Serving.aged_step hserved (.session (c.env pilot) pilot.pilotId)
          (hevent.2 pilot hpilot)
      · exact hserved

theorem inv_step (h : Inv s) {event : Event}
    (hevent : Orderly host convertToPilotChar pilots s event) :
    Inv (step host convertToPilotChar pilots s event) := by
  refine ⟨aged_step h hevent, fun e he => ?_⟩
  obtain ⟨hpending, hsystem⟩ := List.mem_filter.mp he
  rcases mem_step h hevent hpending with hpending | ⟨req, hreq, rfl⟩
  · exact h.calls e (List.mem_filter.mpr ⟨hpending, hsystem⟩)
  · obtain ⟨call, -, rfl⟩ := stored_system hreq hsystem
    exact ⟨⟨call, rfl⟩, rfl⟩

theorem fileStep_eq (h : Inv s) {event : Event}
    (hevent : Orderly host convertToPilotChar pilots s event) :
    fileStep host convertToPilotChar pilots (some s.kf) event =
      some (step host convertToPilotChar pilots s event).kf := by
  cases event with
  | call call => rfl
  | request req hpilot => rfl
  | connect c =>
      simp only [fileStep, Option.bind_some, syncDevice_eq h hevent.1, Option.map_some, step]

/-! ## Runs -/

theorem inv_empty : Inv .empty :=
  ⟨aged_empty, by simp [QueueState.systemRequests, QueueState.empty]⟩

theorem run_inv {events : List Event} (h : Inv s)
    (hevents : History.Allowed (step host convertToPilotChar pilots)
      (Orderly host convertToPilotChar pilots) s events) :
    Inv (events.foldl (step host convertToPilotChar pilots) s) := by
  have hkeep : ∀ s event, Inv s → Orderly host convertToPilotChar pilots s event →
      Inv (step host convertToPilotChar pilots s event) := fun _ _ h hevent => inv_step h hevent
  exact (History.always_of_allowed hkeep h hevents).last

theorem run_file {events : List Event} (h : Inv s)
    (hevents : History.Allowed (step host convertToPilotChar pilots)
      (Orderly host convertToPilotChar pilots) s events) :
    events.foldl (fileStep host convertToPilotChar pilots) (some s.kf) =
      some (events.foldl (step host convertToPilotChar pilots) s).kf := by
  induction events generalizing s with
  | nil => rfl
  | cons event events ih =>
      rw [List.foldl_cons, List.foldl_cons, fileStep_eq h hevents.1]
      exact ih (inv_step h hevents.1) hevents.2

theorem mem_run {events : List Event} (h : Inv s)
    (hevents : History.Allowed (step host convertToPilotChar pilots)
      (Orderly host convertToPilotChar pilots) s events) {e : Entry}
    (he : e ∈ (events.foldl (step host convertToPilotChar pilots) s).pending) :
    e ∈ s.pending ∨ ∃ event ∈ events, event.stored = some e.req := by
  induction events generalizing s with
  | nil => exact Or.inl he
  | cons event events ih =>
      rcases ih (inv_step h hevents.1) hevents.2 he with hmem | ⟨later, hlater, hreq⟩
      · rcases mem_step h hevents.1 hmem with hmem | ⟨req, hreq, rfl⟩
        · exact Or.inl hmem
        · exact Or.inr ⟨event, List.mem_cons_self, hreq⟩
      · exact Or.inr ⟨later, List.mem_cons_of_mem event hlater, hreq⟩

theorem outcome_synchronised {c : Connection} {pu : PilotUser} (huser : c.user = some pu)
    {pilot : Config.GPilotPilot}
    (h : outcome host convertToPilotChar pilots s c = .synchronised pilot) :
    ends s c = false ∧ pilot.pilotId = (identity convertToPilotChar s c pu).userID := by
  unfold outcome at h
  rw [huser] at h
  simp only at h
  split at h
  · cases h
  · rename_i hends
    split at h
    · cases h
    · rename_i found hfind
      have hsame : found = pilot := by
        unfold admission at h
        split at h
        · split at h
          · exact Outcome.synchronised.inj h
          · cases h
        · cases h
      rw [← hsame]
      exact ⟨Bool.eq_false_iff.mpr hends, by simpa using List.find?_some hfind⟩

theorem identity_other {c : Connection} {pu : PilotUser}
    (h : (identity convertToPilotChar s c pu).userID ≠ pu.userID) :
    ∃ pu', ∃ e ∈ s.servedAt c.device, asks convertToPilotChar e = some pu' ∧
      identity convertToPilotChar s c pu = pu' := by
  unfold identity at *
  cases hlast : ((s.servedAt c.device).filterMap (asks convertToPilotChar)).getLast? with
  | none => exact absurd (by rw [hlast]; rfl) h
  | some pu' =>
      obtain ⟨e, he, hasks⟩ := List.mem_filterMap.mp (List.mem_of_getLast? hlast)
      exact ⟨pu', e, he, hasks, rfl⟩

theorem goesOn_of_not_ends {c : Connection} (h : ends s c = false) {e : Entry}
    (he : e ∈ s.servedAt c.device) : ∃ e' ∈ s.servedAt c.device, goesOn e' = true := by
  unfold ends at h
  cases hserved : s.servedAt c.device with
  | nil =>
      rw [hserved] at he
      cases he
  | cons a es =>
      rw [hserved] at h
      have hrest : goesOn a = false → ∃ x ∈ es, goesOn x = true := by simpa using h
      cases hgo : goesOn a with
      | true => exact ⟨a, List.mem_cons_self, hgo⟩
      | false =>
          obtain ⟨x, hx, hgo⟩ := hrest hgo
          exact ⟨x, List.mem_cons_of_mem a hx, hgo⟩

theorem setUserInfo_of_asks {call : CradleCall} {e : Entry} (hreq : e.req = call.request)
    {pu : PilotUser} (h : asks convertToPilotChar e = some pu) :
    ∃ cradle continueSync persistent timeout uid username,
      call = .setUserInfo cradle continueSync persistent timeout uid username ∧
        pu.userID = uid.toUInt32 := by
  rw [asks, hreq] at h
  cases call with
  | setUserInfo cradle continueSync persistent timeout uid username =>
      exact ⟨cradle, continueSync, persistent, timeout, uid, username, rfl,
        (congrArg PilotUser.userID (Option.some.inj h)).symm⟩
  | getSystemInfo cradle persistent timeout => cases h
  | getUserInfo cradle persistent timeout => cases h

theorem setUserInfo_of_goesOn {call : CradleCall} {e : Entry} (hreq : e.req = call.request)
    (h : goesOn e = true) :
    ∃ cradle persistent timeout uid username,
      call = .setUserInfo cradle true persistent timeout uid username := by
  rw [goesOn, hreq] at h
  cases call with
  | setUserInfo cradle continueSync persistent timeout uid username =>
      obtain rfl : continueSync = true := h
      exact ⟨cradle, persistent, timeout, uid, username, rfl⟩
  | getSystemInfo cradle persistent timeout => cases h
  | getUserInfo cradle persistent timeout => cases h

theorem call_of_served {events : List Event}
    (hevents : History.Allowed (step host convertToPilotChar pilots)
      (Orderly host convertToPilotChar pilots) .empty events) {device : String} {e : Entry}
    (he : e ∈ (events.foldl (step host convertToPilotChar pilots) .empty).servedAt device) :
    ∃ call, Event.call call ∈ events ∧ e.req = call.request ∧ e.req.isFor device = true := by
  obtain ⟨hpending, hserved⟩ := List.mem_filter.mp he
  simp only [Entry.servedAt, Bool.and_eq_true] at hserved
  rcases mem_run inv_empty hevents hpending with hnone | ⟨event, hevent, hreq⟩
  · cases hnone
  · obtain ⟨call, rfl, hcall⟩ := stored_system hreq hserved.1.1
    exact ⟨call, hevent, hcall, hserved.1.2⟩

end Session

/-- In a run of calls, requests and connections that forgets nothing, the last connection is
served as planned: the requests for the cradle are completed, the profile with the ID they
leave the pilot with is synchronised if it lets it, and what is due to it is completed. -/
theorem syncDevice_run (host : Host) (convertToPilotChar : String → List UInt8)
    (pilots : List Config.GPilotPilot) (events : List Event) (c : Connection)
    (h : History.Allowed (step host convertToPilotChar pilots)
      (Orderly host convertToPilotChar pilots) .empty (events ++ [.connect c])) :
    let s := events.foldl (step host convertToPilotChar pilots) .empty
    let s' := connect host convertToPilotChar pilots s c
    events.foldl (fileStep host convertToPilotChar pilots) (some .empty) = some s.kf ∧
      syncDevice host convertToPilotChar pilots c s.kf =
        some (s'.kf, outcome host convertToPilotChar pilots s c) ∧
      ∀ e, e ∈ s'.pending ↔ e ∈ s.pending ∧
        ¬ (c.user.isSome = true ∧ e.servedAt c.device = true) ∧
        ∀ pilot, outcome host convertToPilotChar pilots s c = .synchronised pilot →
          ¬ Serving.Due (c.env pilot) pilot.pilotId (served s c) e := by
  intro s s'
  obtain ⟨hevents, hconnect, -⟩ := History.allowed_append.mp h
  have hinv : Inv s := run_inv inv_empty hevents
  exact ⟨run_file inv_empty hevents, syncDevice_eq hinv hconnect.1, mem_connect hinv hconnect⟩

/-- A client set the user of a cradle in the run, to the ID, and let the sync go on or not. -/
def Named (events : List Event) (device : String) (continueSync : Bool) (id : UInt32) : Prop :=
  ∃ cradle persistent timeout uid username,
    Event.call (.setUserInfo cradle continueSync persistent timeout uid username) ∈ events ∧
      sameIgnoringCase cradle device = true ∧ uid.toUInt32 = id

/-- A pilot is synchronised with the profile of another ID only if a client named that ID at
its cradle and one let the sync go on. -/
theorem synchronised_named (host : Host) (convertToPilotChar : String → List UInt8)
    (pilots : List Config.GPilotPilot) (events : List Event) (c : Connection) (pu : PilotUser)
    (pilot : Config.GPilotPilot)
    (h : History.Allowed (step host convertToPilotChar pilots)
      (Orderly host convertToPilotChar pilots) .empty events)
    (huser : c.user = some pu)
    (hsync : outcome host convertToPilotChar pilots
      (events.foldl (step host convertToPilotChar pilots) .empty) c = .synchronised pilot)
    (hother : pilot.pilotId ≠ pu.userID) :
    (∃ continueSync, Named events c.device continueSync pilot.pilotId) ∧
      ∃ id, Named events c.device true id := by
  have hserved := fun e => @call_of_served host convertToPilotChar pilots events h c.device e
  obtain ⟨hends, hid⟩ := outcome_synchronised huser hsync
  generalize events.foldl (step host convertToPilotChar pilots) .empty = s at *
  obtain ⟨pu', e, he, hasks, hpu⟩ := identity_other (hid ▸ hother)
  constructor
  · obtain ⟨call, hcall, hreq, hfor⟩ := hserved e he
    obtain ⟨cradle, continueSync, persistent, timeout, uid, username, rfl, huid⟩ :=
      setUserInfo_of_asks hreq hasks
    rw [hreq] at hfor
    refine ⟨continueSync, cradle, persistent, timeout, uid, username, hcall, hfor, ?_⟩
    rw [hid, hpu, huid]
  · obtain ⟨e', he', hgo⟩ := goesOn_of_not_ends hends he
    obtain ⟨call, hcall, hreq, hfor⟩ := hserved e' he'
    obtain ⟨cradle, persistent, timeout, uid, username, rfl⟩ := setUserInfo_of_goesOn hreq hgo
    rw [hreq] at hfor
    exact ⟨uid.toUInt32, cradle, persistent, timeout, uid, username, hcall, hfor, rfl⟩

/-! ## A stranger -/

def palm : Config.GPilotPilot :=
  { Config.gpilotPilotNew with name := some "Palm", pilotId := 5, basedir := some "/home/jane" }

def home : Host where
  crypt _ _ := none
  usable basedir := basedir = some "/home/jane"

def stranger : Connection where
  device := "cradle"
  readSysInfo := true
  userInfo := some ⟨0, []⟩
  password := []
  env _ := Serving.fileConduits
  connected _ := rfl

/-- A client names it and lets the sync go on, another asks for a restore of the Palm. -/
def strangerNamed : List Event :=
  [.call (.setUserInfo "Cradle" true true 0 5 "Jane"),
    .request (Queue.restoreRequest "/a") rfl]

theorem outcome_stranger :
    outcome home ascii [palm] (strangerNamed.foldl (step home ascii [palm]) .empty) stranger =
      .synchronised palm := by decide

theorem orderly_stranger :
    History.Allowed (step home ascii [palm]) (Orderly home ascii [palm]) .empty
      (strangerNamed ++ [.connect stranger]) := by
  refine ⟨?_, ?_, ⟨fun _ => ?_, fun pilot hpilot => ?_⟩, trivial⟩
  · change (counter _ _ _).toNat + 1 < 2 ^ 31
    decide
  · change (counter _ _ _).toNat + 1 < 2 ^ 31
    decide
  · unfold OnTop
    decide
  · obtain rfl := Outcome.synchronised.inj (outcome_stranger.symm.trans hpilot)
    unfold OnTop
    decide

/-- The new pilot is synchronised as the Palm, with nothing left to do. -/
theorem syncDevice_run_stranger :
    let s := strangerNamed.foldl (step home ascii [palm]) .empty
    syncDevice home ascii [palm] stranger s.kf =
        some ((connect home ascii [palm] s stranger).kf, .synchronised palm) ∧
      (connect home ascii [palm] s stranger).pending = [] := by
  obtain ⟨-, hsync, -⟩ :=
    syncDevice_run home ascii [palm] strangerNamed stranger orderly_stranger
  rw [outcome_stranger] at hsync
  exact ⟨hsync, by decide⟩

theorem synchronised_named_stranger :
    (∃ continueSync, Named strangerNamed "cradle" continueSync 5) ∧
      ∃ id, Named strangerNamed "cradle" true id :=
  synchronised_named home ascii [palm] strangerNamed stranger ⟨0, []⟩ palm
    (History.allowed_append.mp orderly_stranger).1 rfl outcome_stranger (by decide)

end GnomePilot.Daemon.Connecting
