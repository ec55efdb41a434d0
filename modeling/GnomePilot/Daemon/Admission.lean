import GnomePilot.Daemon.Conduits

/-!
# Admitting requests

`gpilot_daemon_request_install`, `gpilot_daemon_request_restore` and
`gpilot_daemon_request_conduit`: a client's arguments are checked, a request is
filled in and stored, and the reply says whether that was done.
-/

namespace GnomePilot.Daemon.Admission

open Queue

/-! ## What the calls look at -/

/-- A `GPilotPilot` of the context, as far as it is looked up by name. -/
structure GPilotPilot where
  name : Option String
  pilotId : UInt32
  deriving DecidableEq, Repr

/-- `match_pilot_and_name`: a comparison with a null name is refused and returns zero,
which counts as equal. -/
def matchPilotAndName (name : String) (pilot : GPilotPilot) : Bool :=
  pilot.name.all fun known => sameIgnoringCase name known

def pilotIdFromName (name : String) (pilots : List GPilotPilot) : UInt32 :=
  match pilots.find? (matchPilotAndName name) with
  | some pilot => pilot.pilotId
  | none => 0

/-- The pilots of the context and the answers of the file system. -/
structure Context where
  pilots : List GPilotPilot
  readable : String → Bool
  present : String → Bool
  isDirectory : String → Bool

/-- `g_file_test (directory, G_FILE_TEST_EXISTS | G_FILE_TEST_IS_DIR)`: one of the tests
is enough. -/
def Context.fileTest (ctx : Context) (directory : String) : Bool :=
  ctx.present directory || ctx.isDirectory directory

def GNOME_Pilot_PERSISTENT : UInt32 := 1

/-- `survival==GNOME_Pilot_PERSISTENT?0:timeout` -/
def requestedTimeout (survival : UInt32) (timeout : UInt64) : UInt64 :=
  if survival = GNOME_Pilot_PERSISTENT then 0 else timeout

/-- What a call returns, what it leaves in `*handle` and `*error`, and the queue file. -/
structure Reply where
  ret : Bool
  handle : Option UInt32
  error : Option String
  kf : KeyFile

/-- `g_set_error` and `goto out`. -/
def refuse (kf : KeyFile) (message : String) : Reply := ⟨false, none, some message, kf⟩

/-- `*handle = gpc_queue_store_request (req)` -/
def store (kf : KeyFile) (error : Option String) (req : GPilotRequest) : Reply :=
  let (handle, kf) := gpcQueueStoreRequest kf req
  ⟨true, some handle, error, kf⟩

/-- The fields every request function fills alike; the timeout field holds 32 bits. -/
def fill (pilotId : UInt32) (survival : UInt32) (timeout : UInt64) (parameters : Parameters) :
    GPilotRequest where
  pilotId := pilotId
  handle := 0
  timeout := (requestedTimeout survival timeout).toUInt32
  cradle := none
  clientId := some ""
  parameters := parameters
  sectionName := none

/-! ## The request functions -/

def gpilotDaemonRequestInstall (ctx : Context) (kf : KeyFile)
    (pilotName filename description : String) (survival : UInt32) (timeout : UInt64) : Reply :=
  let pilotId := pilotIdFromName pilotName ctx.pilots
  if pilotId = 0 then refuse kf ("Unknow pilot " ++ pilotName)
  else if ctx.readable filename = false then refuse kf ("Missing file " ++ filename)
  else
    store kf none
      (fill pilotId survival timeout (.install (some filename) (some description)))

def gpilotDaemonRequestRestore (ctx : Context) (kf : KeyFile) (pilotName directory : String)
    (survival : UInt32) (timeout : UInt64) : Reply :=
  let pilotId := pilotIdFromName pilotName ctx.pilots
  if pilotId = 0 then refuse kf ("Unknow pilot " ++ pilotName)
  else if ctx.fileTest directory = false then
    refuse kf ("Directory " ++ directory ++ " not accessible")
  else store kf none (fill pilotId survival timeout (.restore (some directory)))

/-- The arms of the `switch`; `GNOME_Pilot_ConduitOperation` has six values. -/
def syncTypeOf (operation : UInt32) : Option SyncType :=
  if operation = 0 then some .synchronize
  else if operation = 1 then some .custom
  else if operation = 2 then some .copyFromPilot
  else if operation = 3 then some .copyToPilot
  else if operation = 4 then some .mergeFromPilot
  else if operation = 5 then some .mergeToPilot
  else none

/-- `gpilot_daemon_request_conduit`.  The default arm sets the error and leaves the
`switch`, so the request is stored with what `how` happens to hold. -/
def gpilotDaemonRequestConduit (ctx : Context) (kf : KeyFile) (uninitialised : SyncType)
    (pilotName conduitName : String) (operation survival : UInt32) (timeout : UInt64) : Reply :=
  let pilotId := pilotIdFromName pilotName ctx.pilots
  if pilotId = 0 then refuse kf ("Unknow pilot " ++ pilotName)
  else
    match syncTypeOf operation with
    | some how =>
      store kf none (fill pilotId survival timeout (.conduit (some conduitName) how))
    | none =>
      store kf (some ("Unknow operation " ++ toString operation.toInt32.toInt))
        (fill pilotId survival timeout (.conduit (some conduitName) uninitialised))

/-- An operation the client library knows is stored as the queue's clients expect it. -/
def operationCode : ConduitOperation → UInt32
  | .synchronize => 0
  | .conduitDefault => 1
  | .copyFromPilot => 2
  | .copyToPilot => 3
  | .mergeFromPilot => 4
  | .mergeToPilot => 5

theorem syncTypeOf_operationCode (o : ConduitOperation) :
    syncTypeOf (operationCode o) = some o.syncType := by
  cases o <;> rfl

theorem survival_cases (persistent : Bool) :
    (if persistent then GNOME_Pilot_PERSISTENT else 0) = GNOME_Pilot_PERSISTENT ↔
      persistent = true := by
  cases persistent <;> decide

/-- On those operations the call does to the queue what the session model has it do. -/
theorem requestConduit_kf (ctx : Context) (s : QueueState) (uninitialised : SyncType)
    (pilotName : String) (r : ConduitRequest) :
    (gpilotDaemonRequestConduit ctx s.kf uninitialised pilotName r.conduitName
        (operationCode r.operation) (if r.persistent then GNOME_Pilot_PERSISTENT else 0)
        r.timeout.toUInt64).kf =
      ((Daemon.gpilotDaemonRequestConduit s (pilotIdFromName pilotName ctx.pilots) r).getD
        s).kf := by
  unfold gpilotDaemonRequestConduit Daemon.gpilotDaemonRequestConduit
  by_cases hpilot : pilotIdFromName pilotName ctx.pilots = 0
  · simp [hpilot, refuse]
  · simp only [hpilot, if_false, dite_false, syncTypeOf_operationCode, Option.getD_some]
    have htimeout : (requestedTimeout (if r.persistent then GNOME_Pilot_PERSISTENT else 0)
        r.timeout.toUInt64).toUInt32 = if r.persistent then 0 else r.timeout := by
      unfold requestedTimeout
      simp only [survival_cases]
      split <;> simp
    simp only [store, fill, htimeout, QueueState.step, conduitRequest]

/-! ## Atomicity -/

/-- The request carries the arguments of a call: the pilot of that name, the timeout
the survival leaves, and the parameters; `none` when the arguments name none. -/
structure Carries (pilotId : UInt32) (survival : UInt32) (timeout : UInt64)
    (parameters : Option Parameters) (req : GPilotRequest) : Prop where
  pilot : req.pilotId = pilotId
  timeout : req.timeout.toUInt64 = requestedTimeout survival timeout
  cradle : req.cradle = none
  clientId : req.clientId = some ""
  parameters : some req.parameters = parameters

def Adds (kf kf' : KeyFile) (req : GPilotRequest) : Prop :=
  ∀ pilotId type all, gpcQueueLoadRequests kf' pilotId type all =
    if setSection pilotId type = setSection req.pilotId req.type ∧ (req.type = type ∨ all = true)
    then req :: gpcQueueLoadRequests kf pilotId type all
    else gpcQueueLoadRequests kf pilotId type all

/-- One request that carries the arguments is added and its handle returned, or the
call fails with an error and the queue is as it was. -/
def Atomic (kf : KeyFile) (carries : GPilotRequest → Prop) (r : Reply) : Prop :=
  (r.ret = true ∧ r.error = none ∧
      ∃ req, carries req ∧ r.handle = some req.handle ∧ Adds kf r.kf req) ∨
    (r.ret = false ∧ r.error.isSome ∧ r.kf = kf)

def nextSection (kf : KeyFile) (pilotId : UInt32) : String :=
  sectionOf pilotId .install (counter kf pilotId .install + 1)

/-- The list of the pilot can count one request more, and no device was left in its
section. -/
structure Room (kf : KeyFile) (pilotId : UInt32) : Prop where
  counter : (counter kf pilotId .install).toNat + 1 < 2 ^ 31
  device : kf.getString (nextSection kf pilotId) ENT_DEVICE = none

theorem Room.of_numbered {s : QueueState} (h : Numbered s) {pilotId : UInt32}
    (hroom : (Queue.counter s.kf pilotId .install).toNat + 1 < 2 ^ 31) : Room s.kf pilotId where
  counter := hroom
  device := by
    refine (h.free _ _ _ fun e he heq => ?_).getString ENT_DEVICE
    obtain ⟨hlist, hnum⟩ := sectionOf_inj.mp heq
    have hle := (h.bounded e he).2
    rw [counter_eq_of_list hlist, hnum, UInt32.toNat_add] at hle
    simp only [UInt32.reduceToNat] at hle
    omega

/-- The timeout fits the field of the request; a D-Bus argument always does. -/
def TimeoutFits (survival : UInt32) (timeout : UInt64) : Prop :=
  survival = GNOME_Pilot_PERSISTENT ∨ timeout.toNat < 2 ^ 32

theorem timeoutFits_iff {survival : UInt32} {timeout : UInt64} :
    (requestedTimeout survival timeout).toUInt32.toUInt64 = requestedTimeout survival timeout ↔
      TimeoutFits survival timeout := by
  unfold requestedTimeout TimeoutFits
  by_cases hpersistent : survival = GNOME_Pilot_PERSISTENT
  · simp [hpersistent]
  · simp only [hpersistent, if_false, false_or]
    rw [← UInt64.toNat_inj, UInt32.toNat_toUInt64, UInt64.toNat_toUInt32]
    constructor
    · intro h
      omega
    · intro h
      omega

theorem atomic_refuse (kf : KeyFile) (carries : GPilotRequest → Prop) (message : String) :
    Atomic kf carries (refuse kf message) :=
  Or.inr ⟨rfl, rfl, rfl⟩

theorem not_atomic_store (kf : KeyFile) (carries : GPilotRequest → Prop) (message : String)
    (req : GPilotRequest) : ¬ Atomic kf carries (store kf (some message) req) := by
  rintro (⟨-, herror, -⟩ | ⟨hret, -⟩)
  · cases herror
  · cases hret

structure Given (parameters : Parameters) : Prop where
  pilot : isSystemRelated parameters.type = false
  reloaded : ∀ kf sec, parameters.reloaded kf sec = parameters

section Fill

variable (kf : KeyFile) (pilotId survival : UInt32) (timeout : UInt64) {parameters : Parameters}

/-- What is loaded of a request that a call filled in. -/
def added (parameters : Parameters) : GPilotRequest :=
  { fill pilotId survival timeout parameters with
    handle := (gpcQueueStoreRequest kf (fill pilotId survival timeout parameters)).1
    cradle := kf.getString (nextSection kf pilotId) ENT_DEVICE
    sectionName := some (nextSection kf pilotId) }

theorem setSection_given (h : Given parameters) :
    setSection pilotId parameters.type = setSection pilotId .install :=
  setSection_inj.mpr ⟨h.pilot, fun _ => rfl⟩

theorem sectionOf_given (h : Given parameters) :
    sectionOf pilotId parameters.type (counter kf pilotId parameters.type + 1) =
      nextSection kf pilotId := by
  have hlist := setSection_given pilotId h
  rw [counter_eq_of_list hlist]
  exact sectionOf_inj.mpr ⟨hlist, rfl⟩

theorem loadFrom_fill (h : Given parameters) :
    loadFrom (gpcQueueStoreRequest kf (fill pilotId survival timeout parameters)).2 pilotId
        (sectionOf pilotId parameters.type (counter kf pilotId parameters.type + 1)) =
      some (added kf pilotId survival timeout parameters) := by
  refine (loadFrom_stored kf (fill pilotId survival timeout parameters)).trans (congrArg some ?_)
  have hsec : sectionOf pilotId parameters.type (counter kf pilotId parameters.type + 1) =
      nextSection kf pilotId := sectionOf_given kf pilotId h
  simp [GPilotRequest.reloaded, GPilotRequest.storedCradle, fill, added, h.pilot, h.reloaded,
    GPilotRequest.type, hsec]

theorem adds_fill (h : Given parameters)
    (hroom : (counter kf pilotId .install).toNat + 1 < 2 ^ 31) :
    Adds kf (gpcQueueStoreRequest kf (fill pilotId survival timeout parameters)).2
      (added kf pilotId survival timeout parameters) := by
  rw [← counter_eq_of_list (setSection_given pilotId h)] at hroom
  intro id type all
  by_cases hlist : setSection id type = setSection pilotId parameters.type
  · have hid : id = pilotId := by
      obtain ⟨hsystem, hid⟩ := setSection_inj.mp hlist
      exact hid (hsystem.trans h.pilot)
    rw [hid] at hlist ⊢
    refine (loadRequests_stored hroom (loadFrom_fill kf pilotId survival timeout h) hlist all).trans
      ?_
    have hsame : setSection pilotId type = setSection
        (added kf pilotId survival timeout parameters).pilotId
        (added kf pilotId survival timeout parameters).type := hlist
    by_cases hskip : (added kf pilotId survival timeout parameters).type ≠ type ∧ all = false
    · rw [if_pos hskip]
      refine (if_neg ?_).symm
      rintro ⟨-, htype | hall⟩
      · exact hskip.1 htype
      · rw [hskip.2] at hall
        cases hall
    · rw [if_neg hskip]
      refine (if_pos ⟨hsame, ?_⟩).symm
      cases all with
      | true => exact Or.inr rfl
      | false => exact Or.inl (by simpa using hskip)
  · rw [if_neg fun hsame => hlist hsame.1]
    exact loadRequests_stored_other kf (fill pilotId survival timeout parameters) hlist all

theorem carries_added_iff :
    Carries pilotId survival timeout (some parameters)
        (added kf pilotId survival timeout parameters) ↔
      TimeoutFits survival timeout ∧
        kf.getString (nextSection kf pilotId) ENT_DEVICE = none := by
  rw [← timeoutFits_iff]
  exact ⟨fun h => ⟨h.timeout, h.cradle⟩, fun h => ⟨rfl, h.1, h.2, rfl, rfl⟩⟩

end Fill

/-- A filled request that is stored without an error. -/
theorem atomic_fill_iff (kf : KeyFile) (pilotId : UInt32) (survival : UInt32) (timeout : UInt64)
    {parameters : Parameters} (hgiven : Given parameters) :
    Atomic kf (Carries pilotId survival timeout (some parameters))
        (store kf none (fill pilotId survival timeout parameters)) ↔
      TimeoutFits survival timeout ∧ Room kf pilotId := by
  have hlist := setSection_given pilotId hgiven
  constructor
  · rintro (⟨-, -, req, hcarries, -, hadds⟩ | ⟨hret, -⟩)
    · have htype : req.type = parameters.type :=
        congrArg Parameters.type (Option.some.inj hcarries.parameters)
      have hloads := hadds pilotId parameters.type true
      rw [if_pos ⟨by rw [hcarries.pilot, htype], Or.inr rfl⟩] at hloads
      change gpcQueueLoadRequests (gpcQueueStoreRequest kf
        (fill pilotId survival timeout parameters)).2 _ _ _ = _ at hloads
      by_cases hroom : (counter kf pilotId parameters.type).toNat + 1 < 2 ^ 31
      · have hnew : gpcQueueLoadRequests (gpcQueueStoreRequest kf
            (fill pilotId survival timeout parameters)).2 pilotId parameters.type true =
            added kf pilotId survival timeout parameters ::
              gpcQueueLoadRequests kf pilotId parameters.type true :=
          (loadRequests_stored hroom (loadFrom_fill kf pilotId survival timeout hgiven) rfl
            true).trans (if_neg (by simp))
        rw [hnew] at hloads
        obtain ⟨hreq, -⟩ := List.cons.inj hloads
        rw [← hreq, carries_added_iff] at hcarries
        rw [counter_eq_of_list hlist] at hroom
        exact ⟨hcarries.1, hroom, hcarries.2⟩
      · have hnone : gpcQueueLoadRequests (gpcQueueStoreRequest kf
            (fill pilotId survival timeout parameters)).2 pilotId parameters.type true = [] :=
          @loadRequests_full kf (fill pilotId survival timeout parameters) hroom true
        rw [hnone] at hloads
        cases hloads
    · cases hret
  · rintro ⟨hfits, hroom⟩
    exact Or.inl ⟨rfl, rfl, added kf pilotId survival timeout parameters,
      (carries_added_iff kf pilotId survival timeout).mpr ⟨hfits, hroom.device⟩, rfl,
      adds_fill kf pilotId survival timeout hgiven hroom.counter⟩

theorem given_install (filename description : String) :
    Given (.install (some filename) (some description)) := ⟨rfl, fun _ _ => rfl⟩

theorem given_restore (directory : String) : Given (.restore (some directory)) :=
  ⟨rfl, fun _ _ => rfl⟩

theorem given_conduit (conduitName : String) (how : SyncType) :
    Given (.conduit (some conduitName) how) := ⟨rfl, fun _ _ => rfl⟩

theorem requestInstall_atomic_iff (ctx : Context) (kf : KeyFile)
    (pilotName filename description : String) (survival : UInt32) (timeout : UInt64) :
    Atomic kf
        (Carries (pilotIdFromName pilotName ctx.pilots) survival timeout
          (some (.install (some filename) (some description))))
        (gpilotDaemonRequestInstall ctx kf pilotName filename description survival timeout) ↔
      pilotIdFromName pilotName ctx.pilots = 0 ∨ ctx.readable filename = false ∨
        TimeoutFits survival timeout ∧ Room kf (pilotIdFromName pilotName ctx.pilots) := by
  unfold gpilotDaemonRequestInstall
  by_cases hpilot : pilotIdFromName pilotName ctx.pilots = 0
  · simp [hpilot, atomic_refuse]
  · by_cases hfile : ctx.readable filename = false
    · simp [hpilot, hfile, atomic_refuse]
    · simp only [hpilot, if_false, false_or]
      rw [if_neg hfile, or_iff_right hfile]
      exact atomic_fill_iff kf _ survival timeout (given_install filename description)

theorem requestRestore_atomic_iff (ctx : Context) (kf : KeyFile) (pilotName directory : String)
    (survival : UInt32) (timeout : UInt64) :
    Atomic kf
        (Carries (pilotIdFromName pilotName ctx.pilots) survival timeout
          (some (.restore (some directory))))
        (gpilotDaemonRequestRestore ctx kf pilotName directory survival timeout) ↔
      pilotIdFromName pilotName ctx.pilots = 0 ∨ ctx.fileTest directory = false ∨
        TimeoutFits survival timeout ∧ Room kf (pilotIdFromName pilotName ctx.pilots) := by
  unfold gpilotDaemonRequestRestore
  by_cases hpilot : pilotIdFromName pilotName ctx.pilots = 0
  · simp [hpilot, atomic_refuse]
  · by_cases hdir : ctx.fileTest directory = false
    · simp [hpilot, hdir, atomic_refuse]
    · simp only [hpilot, if_false, false_or]
      rw [if_neg hdir, or_iff_right hdir]
      exact atomic_fill_iff kf _ survival timeout (given_restore directory)

theorem requestConduit_atomic_iff (ctx : Context) (kf : KeyFile) (uninitialised : SyncType)
    (pilotName conduitName : String) (operation survival : UInt32) (timeout : UInt64) :
    Atomic kf
        (Carries (pilotIdFromName pilotName ctx.pilots) survival timeout
          ((syncTypeOf operation).map (.conduit (some conduitName))))
        (gpilotDaemonRequestConduit ctx kf uninitialised pilotName conduitName operation survival
          timeout) ↔
      pilotIdFromName pilotName ctx.pilots = 0 ∨
        operation.toNat < 6 ∧ TimeoutFits survival timeout ∧
          Room kf (pilotIdFromName pilotName ctx.pilots) := by
  have hknown : (syncTypeOf operation).isSome ↔ operation.toNat < 6 := by
    unfold syncTypeOf
    simp only [← UInt32.toNat_inj, UInt32.reduceToNat]
    grind
  unfold gpilotDaemonRequestConduit
  by_cases hpilot : pilotIdFromName pilotName ctx.pilots = 0
  · simp [hpilot, atomic_refuse]
  · rw [← hknown]
    cases hhow : syncTypeOf operation with
    | some how =>
        simp only [hpilot, if_false, false_or, Option.map_some, Option.isSome_some, true_and]
        exact atomic_fill_iff kf _ survival timeout (given_conduit conduitName how)
    | none => simp [hpilot, not_atomic_store]

/-- The install and restore calls are atomic for every timeout a request can carry, where
the queue has room.  A conduit call for a known pilot is, when its operation is one of the
six as well. -/
theorem requests_atomic_iff (ctx : Context) (kf : KeyFile) (uninitialised : SyncType)
    (pilotName filename description directory conduitName : String)
    (operation survival : UInt32) (timeout : UInt64) :
    (Atomic kf
        (Carries (pilotIdFromName pilotName ctx.pilots) survival timeout
          (some (.install (some filename) (some description))))
        (gpilotDaemonRequestInstall ctx kf pilotName filename description survival timeout) ↔
      pilotIdFromName pilotName ctx.pilots = 0 ∨ ctx.readable filename = false ∨
        TimeoutFits survival timeout ∧ Room kf (pilotIdFromName pilotName ctx.pilots)) ∧
    (Atomic kf
        (Carries (pilotIdFromName pilotName ctx.pilots) survival timeout
          (some (.restore (some directory))))
        (gpilotDaemonRequestRestore ctx kf pilotName directory survival timeout) ↔
      pilotIdFromName pilotName ctx.pilots = 0 ∨ ctx.fileTest directory = false ∨
        TimeoutFits survival timeout ∧ Room kf (pilotIdFromName pilotName ctx.pilots)) ∧
    (Atomic kf
        (Carries (pilotIdFromName pilotName ctx.pilots) survival timeout
          ((syncTypeOf operation).map (.conduit (some conduitName))))
        (gpilotDaemonRequestConduit ctx kf uninitialised pilotName conduitName operation survival
          timeout) ↔
      pilotIdFromName pilotName ctx.pilots = 0 ∨
        operation.toNat < 6 ∧ TimeoutFits survival timeout ∧
          Room kf (pilotIdFromName pilotName ctx.pilots)) :=
  ⟨requestInstall_atomic_iff ctx kf pilotName filename description survival timeout,
    requestRestore_atomic_iff ctx kf pilotName directory survival timeout,
    requestConduit_atomic_iff ctx kf uninitialised pilotName conduitName operation survival
      timeout⟩

def oneProfile : Context where
  pilots := [⟨some "MyPDA", 5⟩]
  readable _ := true
  present _ := true
  isDirectory _ := false

/-- Operation 9 for a known pilot: the call returns true with an error set, and a request
with an arbitrary sync type is in the queue. -/
theorem unknownOperation_stored :
    let r := gpilotDaemonRequestConduit oneProfile .empty .copyToPilot "mypda" "Address" 9 0 60
    r.ret = true ∧ r.error = some "Unknow operation 9" ∧
      (gpcQueueLoadRequests r.kf 5 .conduit false).map GPilotRequest.parameters =
        [.conduit (some "Address") .copyToPilot] ∧
      ¬ Atomic .empty
        (Carries 5 0 60 ((syncTypeOf 9).map (.conduit (some "Address")))) r := by
  refine ⟨rfl, rfl, by decide, ?_⟩
  exact not_atomic_store _ _ _ _

end GnomePilot.Daemon.Admission
