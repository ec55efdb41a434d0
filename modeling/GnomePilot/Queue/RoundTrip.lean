import GnomePilot.Queue.Pending

/-!
# Storing a request and loading it back

`roundTrips_iff` says for every queue file and every request when loading the list
after a store returns the request that was stored.
-/

namespace GnomePilot.Queue

/-! ## The request that comes back -/

structure SameRequest (req loaded : GPilotRequest) : Prop where
  pilotId : loaded.pilotId = req.pilotId
  timeout : loaded.timeout = req.timeout
  cradle : isSystemRelated req.type = true → loaded.cradle = req.cradle
  clientId : loaded.clientId = req.clientId
  parameters : loaded.parameters = req.parameters

theorem SameRequest.type {req loaded : GPilotRequest} (h : SameRequest req loaded) :
    loaded.type = req.type :=
  congrArg Parameters.type h.parameters

/-- The number `gpc_queue_store_request` gives a request. -/
def newNum (kf : KeyFile) (req : GPilotRequest) : UInt32 := counter kf req.pilotId req.type + 1

def newSection (kf : KeyFile) (req : GPilotRequest) : String :=
  sectionOf req.pilotId req.type (newNum kf req)

def RoundTrips (kf : KeyFile) (req : GPilotRequest) : Prop :=
  ∀ all, ∃ loaded ∈
      gpcQueueLoadRequests (gpcQueueStoreRequest kf req).2 req.pilotId req.type all,
    loaded.sectionName = some (newSection kf req) ∧
      loaded.handle = (gpcQueueStoreRequest kf req).1 ∧ SameRequest req loaded

/-! ## What has to hold before the store -/

/-- The texts a store writes, each unless it is null. -/
def GPilotRequest.texts (req : GPilotRequest) : List (String × Option String) :=
  (ENT_CLIENT_ID, req.clientId) ::
    match req.parameters with
    | .install filename description =>
      [(ENT_FILENAME, filename), (ENT_DESCRIPTION, description)]
    | .restore directory => [(ENT_DIRECTORY, directory)]
    | .conduit name _ => [(ENT_CONDUIT, name)]
    | .getSysinfo | .getUserinfo => [(ENT_DEVICE, req.cradle)]
    | .newUserinfo p => [(ENT_DEVICE, req.cradle), (ENT_USER_ID, p.userId)]
    | .setUserinfo p =>
      [(ENT_DEVICE, req.cradle), (ENT_PASSWORD, p.password), (ENT_USER_ID, p.userId)]

/-- The list has room below the counters a load can count down, the section has no old
text where the request has a null one, and a new-user request carries the password
found there, which is none in a fresh section, and no wish to go on. -/
structure Restorable (kf : KeyFile) (req : GPilotRequest) : Prop where
  room : (counter kf req.pilotId req.type).toNat + 1 < 2 ^ 31
  clean : ∀ e ∈ req.texts, e.2 = none → kf.getString (newSection kf req) e.1 = none
  newUserinfo : ∀ p, req.parameters = .newUserinfo p →
    kf.getString (newSection kf req) ENT_PASSWORD = p.password ∧ p.continueSync = false

/-! ## What is loaded -/

theorem option_or_eq_self_iff {α : Type} {v w : Option α} :
    v.or w = v ↔ (v = none → w = none) := by
  cases v <;> simp

/-- The request is read back with the old texts of the section where it has none. -/
theorem loadFrom_newSection (kf : KeyFile) (req : GPilotRequest) :
    loadFrom (gpcQueueStoreRequest kf req).2 req.pilotId (newSection kf req) =
      some (req.reloaded kf (newSection kf req) (gpcQueueStoreRequest kf req).1) := by
  have hsame : (kf.setInteger (setSection req.pilotId req.type) NUMREQ
      (newNum kf req).toInt32).value (newSection kf req) = kf.value (newSection kf req) :=
    KeyFile.value_set_of_ne _ (setSection_ne_sectionOf _ _ _ _ _).symm _ _
  have hload := loadFrom_storeAt_eq (kf.setInteger (setSection req.pilotId req.type) NUMREQ
    (newNum kf req).toInt32) (newSection kf req) (gpcQueueStoreRequest kf req).1 req
  refine hload.trans ?_
  congr 1
  unfold GPilotRequest.reloaded Parameters.reloaded
  simp only [KeyFile.getString_congr hsame]

/-- It is the stored request when the old texts do not show. -/
theorem sameRequest_reloaded_iff (kf : KeyFile) (sec : String) (handle : UInt32)
    (req : GPilotRequest) : SameRequest req (req.reloaded kf sec handle) ↔
      (∀ e ∈ req.texts, e.2 = none → kf.getString sec e.1 = none) ∧
        ∀ p, req.parameters = .newUserinfo p →
          kf.getString sec ENT_PASSWORD = p.password ∧ p.continueSync = false := by
  obtain ⟨pilotId, handle', timeout, cradle, clientId, parameters, sectionName⟩ := req
  have hsplit : ∀ r : GPilotRequest, r.pilotId = pilotId → r.timeout = timeout →
      (SameRequest ⟨pilotId, handle', timeout, cradle, clientId, parameters, sectionName⟩ r ↔
        (isSystemRelated parameters.type = true → r.cradle = cradle) ∧ r.clientId = clientId ∧
          r.parameters = parameters) := by
    intro r hpilot htimeout
    constructor
    · rintro ⟨-, -, hcradle, hclient, hparam⟩
      exact ⟨hcradle, hclient, hparam⟩
    · rintro ⟨hcradle, hclient, hparam⟩
      exact ⟨hpilot, htimeout, hcradle, hclient, hparam⟩
  rw [hsplit _ rfl rfl]
  cases parameters with
  | newUserinfo p =>
      obtain ⟨password, userId, continueSync, id⟩ := p
      simp only [GPilotRequest.reloaded, GPilotRequest.storedCradle, GPilotRequest.type,
        Parameters.type, isSystemRelated, Parameters.reloaded, GPilotRequest.texts,
        List.forall_mem_cons, option_or_eq_self_iff, if_true, Parameters.newUserinfo.injEq,
        SetUserinfo.mk.injEq, forall_eq']
      grind
  | setUserinfo p =>
      obtain ⟨password, userId, continueSync, id⟩ := p
      simp only [GPilotRequest.reloaded, GPilotRequest.storedCradle, GPilotRequest.type,
        Parameters.type, isSystemRelated, Parameters.reloaded, GPilotRequest.texts,
        List.forall_mem_cons, option_or_eq_self_iff, if_true, Parameters.setUserinfo.injEq,
        SetUserinfo.mk.injEq]
      grind
  | getSysinfo | getUserinfo =>
      simp [GPilotRequest.reloaded, GPilotRequest.storedCradle, GPilotRequest.type,
        Parameters.type, isSystemRelated, Parameters.reloaded, GPilotRequest.texts,
        option_or_eq_self_iff, and_comm]
  | install filename description | restore directory | conduit name how =>
      simp [GPilotRequest.reloaded, GPilotRequest.storedCradle, GPilotRequest.type,
        Parameters.type, isSystemRelated, Parameters.reloaded, GPilotRequest.texts,
        option_or_eq_self_iff]

theorem ofNat_toNat_newNum (kf : KeyFile) (req : GPilotRequest) :
    UInt32.ofNat (newNum kf req).toNat = newNum kf req := UInt32.ofNat_toNat

/-- The list counts down from the new number, if that is positive. -/
theorem counter_store_self (kf : KeyFile) (req : GPilotRequest) :
    (gpcQueueStoreRequest kf req).2.getInteger (setSection req.pilotId req.type) NUMREQ =
      (newNum kf req).toInt32 := by
  have hcounter := counter_store kf req req.pilotId req.type
  rw [if_pos rfl] at hcounter
  rw [← Int32.toInt32_toUInt32 (KeyFile.getInteger _ _ _)]
  exact congrArg UInt32.toInt32 hcounter

theorem newNum_positive_iff (kf : KeyFile) (req : GPilotRequest) :
    0 < (newNum kf req).toInt32.toInt ↔ (counter kf req.pilotId req.type).toNat + 1 < 2 ^ 31 := by
  have hnum : (newNum kf req).toNat =
      ((counter kf req.pilotId req.type).toNat + 1) % 2 ^ 32 := by
    rw [newNum, UInt32.toNat_add]
    rfl
  have hlt := (counter kf req.pilotId req.type).toNat_lt
  rw [Int32.toInt, UInt32.toBitVec_toInt32, BitVec.toInt_eq_toNat_cond, UInt32.toNat_toBitVec,
    hnum]
  split <;> omega

theorem mem_loadRequests_newSection {kf : KeyFile} {req loaded : GPilotRequest} {all : Bool}
    (hsec : loaded.sectionName = some (newSection kf req)) :
    loaded ∈ gpcQueueLoadRequests (gpcQueueStoreRequest kf req).2 req.pilotId req.type all ↔
      (loaded.type = req.type ∨ all = true) ∧
        (counter kf req.pilotId req.type).toNat + 1 < 2 ^ 31 ∧
        loaded = req.reloaded kf (newSection kf req) (gpcQueueStoreRequest kf req).1 := by
  unfold gpcQueueLoadRequests
  rw [mem_loadLoop, counter_store_self]
  simp only [loadRequest_eq]
  refine and_congr_right fun _ => ?_
  constructor
  · rintro ⟨k, hk, hle, hload⟩
    have hnum : UInt32.ofNat k = newNum kf req := by
      have hname := sectionName_of_loadFrom hload
      rw [hsec, Option.some.injEq] at hname
      exact (sectionOf_inj.mp hname.symm).2
    rw [hnum] at hload
    have hself := loadFrom_newSection kf req
    rw [newSection, hload, Option.some.injEq] at hself
    exact ⟨(newNum_positive_iff kf req).mp (by omega), hself⟩
  · rintro ⟨hroom, rfl⟩
    have hpos := (newNum_positive_iff kf req).mpr hroom
    have hnat : (newNum kf req).toInt32.toInt.toNat = (newNum kf req).toNat := by
      have hlt : (newNum kf req).toNat < 2 ^ 31 := by
        rw [newNum, UInt32.toNat_add]
        simp only [UInt32.reduceToNat]
        omega
      rw [toInt_toInt32 hlt]
      rfl
    refine ⟨(newNum kf req).toNat, by omega, by omega, ?_⟩
    rw [ofNat_toNat_newNum]
    exact loadFrom_newSection kf req

/-- A stored request comes back exactly when it is restorable. -/
theorem roundTrips_iff (kf : KeyFile) (req : GPilotRequest) :
    RoundTrips kf req ↔ Restorable kf req := by
  constructor
  · intro h
    obtain ⟨loaded, hmem, hsec, -, hsame⟩ := h true
    obtain ⟨-, hroom, rfl⟩ := (mem_loadRequests_newSection hsec).mp hmem
    obtain ⟨hclean, hnew⟩ := (sameRequest_reloaded_iff _ _ _ _).mp hsame
    exact ⟨hroom, hclean, hnew⟩
  · rintro ⟨hroom, hclean, hnew⟩ all
    have hsame := (sameRequest_reloaded_iff kf (newSection kf req)
      (gpcQueueStoreRequest kf req).1 req).mpr ⟨hclean, hnew⟩
    exact ⟨_, (mem_loadRequests_newSection rfl).mpr ⟨Or.inl hsame.type, hroom, rfl⟩, rfl, rfl,
      hsame⟩

def newUserWithPassword : GPilotRequest where
  pilotId := 0
  handle := 0
  timeout := 0
  cradle := some "Cradle"
  clientId := some ""
  parameters := .newUserinfo ⟨some "secret", some "me", false, 7⟩
  sectionName := none

/-- Its password is read by the loader but was never written. -/
theorem newUserPassword_lost :
    (gpcQueueLoadRequests (gpcQueueStoreRequest .empty newUserWithPassword).2 0 .newUserinfo
        true).map GPilotRequest.parameters = [.newUserinfo ⟨none, some "me", false, 7⟩] ∧
      ¬ RoundTrips .empty newUserWithPassword := by
  refine ⟨by decide, ?_⟩
  intro h
  obtain ⟨loaded, hmem, -, -, hsame⟩ := h true
  have hall : ∀ r ∈ gpcQueueLoadRequests (gpcQueueStoreRequest .empty newUserWithPassword).2 0
      .newUserinfo true, r.parameters ≠ newUserWithPassword.parameters := by decide
  exact hall loaded hmem hsame.parameters

end GnomePilot.Queue
