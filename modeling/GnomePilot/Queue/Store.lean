import GnomePilot.Queue.Request

/-!
# The queue file

`gpc_queue_store_request`, `gpc_queue_load_request(s)` and the two purges on a key
file.  Every call reads the file afresh and the changing ones write it back, so the
file is the whole state.
-/

namespace GnomePilot.Queue

def NUMREQ := "number-of-requests"
def ENT_TYPE := "type"
def ENT_CLIENT_ID := "client_id"
def ENT_FILENAME := "filename"
def ENT_DESCRIPTION := "description"
def ENT_DIRECTORY := "directory"
def ENT_DEVICE := "device"
def ENT_PILOT_ID := "pilot_id"
def ENT_USER_ID := "user_id"
def ENT_PASSWORD := "password"
def ENT_CONDUIT := "conduit"
def ENT_HOW := "synctype"
def ENT_TIMEOUT := "timeout"
def ENT_HANDLE := "handle"
def ENT_CONT_SYNC := "continue_sync"

/-! ## Loading -/

/-- The `switch` of `gpc_queue_load_request`; the remaining types have no arm. -/
def loadParameters (kf : KeyFile) (sec : String) : RequestType → Option Parameters
  | .install =>
    some (.install (kf.getString sec ENT_FILENAME) (kf.getString sec ENT_DESCRIPTION))
  | .restore => some (.restore (kf.getString sec ENT_DIRECTORY))
  | .conduit =>
    some (.conduit (kf.getString sec ENT_CONDUIT) (syncTypeStrToInt (kf.getString sec ENT_HOW)))
  | .getUserinfo => some .getUserinfo
  | .getSysinfo => some .getSysinfo
  | .newUserinfo =>
    some (.newUserinfo
      { password := kf.getString sec ENT_PASSWORD
        userId := kf.getString sec ENT_USER_ID
        continueSync := false
        pilotId := (kf.getInteger sec ENT_PILOT_ID).toUInt32 })
  | .setUserinfo =>
    some (.setUserinfo
      { password := kf.getString sec ENT_PASSWORD
        userId := kf.getString sec ENT_USER_ID
        continueSync := kf.getBoolean sec ENT_CONT_SYNC
        pilotId := (kf.getInteger sec ENT_PILOT_ID).toUInt32 })
  | .pilotEvent | .cradleEvent | .invalid => none

def loadFrom (kf : KeyFile) (pilotId : UInt32) (sec : String) : Option GPilotRequest :=
  (loadParameters kf sec (requestTypeFromString (kf.getString sec ENT_TYPE))).map fun parameters =>
    { pilotId := pilotId
      handle := (kf.getInteger sec ENT_HANDLE).toUInt32
      timeout := (kf.getInteger sec ENT_TIMEOUT).toUInt32
      cradle := kf.getString sec ENT_DEVICE
      clientId := kf.getString sec ENT_CLIENT_ID
      parameters := parameters
      sectionName := some sec }

/-- `gpc_queue_load_request`: `system` is its `_type` argument. -/
def gpcQueueLoadRequest (kf : KeyFile) (pilotId : UInt32) (system : Bool) (num : UInt32) :
    Option GPilotRequest :=
  let type := if system then RequestType.cradleEvent else .pilotEvent
  loadFrom kf pilotId (setSectionNum pilotId type num).2

/-- `for (; num > 0; num--)` -/
def loadLoop (kf : KeyFile) (pilotId : UInt32) (type : RequestType) (all : Bool) :
    Nat → List GPilotRequest
  | 0 => []
  | num + 1 =>
    match gpcQueueLoadRequest kf pilotId (isSystemRelated type) (.ofNat (num + 1)) with
    | none => loadLoop kf pilotId type all num
    | some req =>
      if req.type ≠ type ∧ all = false then loadLoop kf pilotId type all num
      else req :: loadLoop kf pilotId type all num

/-- `gpc_queue_load_requests`: the counter is read into an `int`. -/
def gpcQueueLoadRequests (kf : KeyFile) (pilotId : UInt32) (type : RequestType) (all : Bool) :
    List GPilotRequest :=
  loadLoop kf pilotId type all (kf.getInteger (setSection pilotId type) NUMREQ).toInt.toNat

/-! ## Storing -/

/-- The `switch` of `gpc_queue_store_request`. -/
def storeParameters (kf : KeyFile) (sec : String) (req : GPilotRequest) : KeyFile :=
  let kf := kf.setString sec ENT_TYPE (some req.parameters.typeText)
  match req.parameters with
  | .install filename description =>
    (kf.setString sec ENT_FILENAME filename).setString sec ENT_DESCRIPTION description
  | .restore directory => kf.setString sec ENT_DIRECTORY directory
  | .conduit name how =>
    (kf.setString sec ENT_CONDUIT name).setString sec ENT_HOW (some (syncTypeIntToStr how))
  | .newUserinfo p =>
    ((kf.setString sec ENT_DEVICE req.cradle).setString sec ENT_USER_ID p.userId).setInteger sec
      ENT_PILOT_ID p.pilotId.toInt32
  | .setUserinfo p =>
    ((((kf.setString sec ENT_DEVICE req.cradle).setString sec ENT_PASSWORD p.password).setString sec
      ENT_USER_ID p.userId).setInteger sec ENT_PILOT_ID p.pilotId.toInt32).setBoolean sec
        ENT_CONT_SYNC p.continueSync
  | .getUserinfo => kf.setString sec ENT_DEVICE req.cradle
  | .getSysinfo => kf.setString sec ENT_DEVICE req.cradle

/-- The counter of a list, as `gpc_queue_store_request` reads it. -/
def counter (kf : KeyFile) (pilotId : UInt32) (type : RequestType) : UInt32 :=
  (kf.getInteger (setSection pilotId type) NUMREQ).toUInt32

def storeAt (kf : KeyFile) (sec : String) (handle : UInt32) (req : GPilotRequest) : KeyFile :=
  let kf := storeParameters kf sec req
  let kf := kf.setInteger sec ENT_TIMEOUT req.timeout.toInt32
  let kf := kf.setInteger sec ENT_HANDLE handle.toInt32
  kf.setString sec ENT_CLIENT_ID req.clientId

/-- `gpc_queue_store_request`: the handle and the new file. -/
def gpcQueueStoreRequest (kf : KeyFile) (req : GPilotRequest) : UInt32 × KeyFile :=
  let num := counter kf req.pilotId req.type + 1
  let kf := kf.setInteger (setSection req.pilotId req.type) NUMREQ num.toInt32
  let (handle, sec) := setSectionNum req.pilotId req.type num
  (handle, storeAt kf sec handle req)

/-! ## Purging -/

/-- `gpc_queue_purge_request` on a loaded request. -/
def gpcQueuePurgeRequest (kf : KeyFile) (req : GPilotRequest) : KeyFile :=
  let sec := setSection req.pilotId req.type
  (kf.setInteger sec NUMREQ (kf.getInteger sec NUMREQ - 1)).removeGroup req.sectionName

def gpcQueuePurgeRequestPoint (kf : KeyFile) (pilotId num : UInt32) : KeyFile :=
  match gpcQueueLoadRequest kf pilotId (pilotId = 0) num with
  | some req => gpcQueuePurgeRequest kf req
  | none => kf

def gpilotDaemonRemoveRequest (kf : KeyFile) (handle : UInt32) : KeyFile :=
  gpcQueuePurgeRequestPoint kf (handle / 65535) (handle % 65535)

/-! ## Loading looks at one section -/

theorem loadFrom_congr {kf kf' : KeyFile} {sec : String} (h : kf.value sec = kf'.value sec)
    (pilotId : UInt32) : loadFrom kf pilotId sec = loadFrom kf' pilotId sec := by
  have hparam : ∀ type, loadParameters kf sec type = loadParameters kf' sec type := by
    intro type
    cases type <;> simp only [loadParameters, KeyFile.getString_congr h,
      KeyFile.getInteger_congr h, KeyFile.getBoolean_congr h]
  simp only [loadFrom, hparam, KeyFile.getString_congr h, KeyFile.getInteger_congr h]

theorem loadFrom_eq_none {kf : KeyFile} {sec : String} (h : kf.Lacks sec) (pilotId : UInt32) :
    loadFrom kf pilotId sec = none := by
  simp [loadFrom, h.getString, requestTypeFromString, loadParameters]

theorem sectionName_of_loadFrom {kf : KeyFile} {pilotId : UInt32} {sec : String}
    {req : GPilotRequest} (h : loadFrom kf pilotId sec = some req) :
    req.sectionName = some sec := by
  obtain ⟨parameters, -, rfl⟩ := Option.map_eq_some_iff.mp h
  rfl

theorem sectionOf_congr {pilotId pilotId' num : UInt32} {type type' : RequestType}
    (htype : isSystemRelated type = isSystemRelated type')
    (hpilot : isSystemRelated type = false → pilotId = pilotId') :
    sectionOf pilotId type num = sectionOf pilotId' type' num :=
  sectionOf_inj.mpr ⟨setSection_inj.mpr ⟨htype, hpilot⟩, rfl⟩

theorem loadRequest_eq (kf : KeyFile) (pilotId : UInt32) (type : RequestType) (num : UInt32) :
    gpcQueueLoadRequest kf pilotId (isSystemRelated type) num =
      loadFrom kf pilotId (sectionOf pilotId type num) := by
  have hsec : sectionOf pilotId (if isSystemRelated type then .cradleEvent else .pilotEvent) num =
      sectionOf pilotId type num := by
    apply sectionOf_congr
    · cases isSystemRelated type <;> rfl
    · exact fun _ => rfl
  simp [gpcQueueLoadRequest, setSectionNum, hsec]

/-- The loaded requests are the ones found under the numbers up to the counter. -/
theorem mem_loadLoop {kf : KeyFile} {pilotId : UInt32} {type : RequestType} {all : Bool}
    {n : Nat} {req : GPilotRequest} : req ∈ loadLoop kf pilotId type all n ↔
      (req.type = type ∨ all = true) ∧ ∃ k, 0 < k ∧ k ≤ n ∧
        gpcQueueLoadRequest kf pilotId (isSystemRelated type) (.ofNat k) = some req := by
  induction n with
  | zero => simp [loadLoop]
  | succ n ih =>
      have hsplit : (∃ k, 0 < k ∧ k ≤ n + 1 ∧
            gpcQueueLoadRequest kf pilotId (isSystemRelated type) (.ofNat k) = some req) ↔
          gpcQueueLoadRequest kf pilotId (isSystemRelated type) (.ofNat (n + 1)) = some req ∨
            ∃ k, 0 < k ∧ k ≤ n ∧
              gpcQueueLoadRequest kf pilotId (isSystemRelated type) (.ofNat k) = some req := by
        constructor
        · rintro ⟨k, hk, hkn, h⟩
          by_cases heq : k = n + 1
          · exact Or.inl (heq ▸ h)
          · exact Or.inr ⟨k, hk, by omega, h⟩
        · rintro (h | ⟨k, hk, hkn, h⟩)
          · exact ⟨n + 1, by omega, Nat.le_refl _, h⟩
          · exact ⟨k, hk, by omega, h⟩
      rw [hsplit]
      unfold loadLoop
      cases hload : gpcQueueLoadRequest kf pilotId (isSystemRelated type) (.ofNat (n + 1)) with
      | none => simp [ih]
      | some found =>
          simp only [Option.some.injEq]
          by_cases hskip : found.type ≠ type ∧ all = false
          · rw [if_pos hskip, ih]
            constructor
            · rintro ⟨htype, h⟩
              exact ⟨htype, Or.inr h⟩
            · rintro ⟨htype, rfl | h⟩
              · rcases htype with htype | hall
                · exact absurd htype hskip.1
                · simp [hskip.2] at hall
              · exact ⟨htype, h⟩
          · rw [if_neg hskip, List.mem_cons, ih]
            constructor
            · rintro (rfl | ⟨htype, h⟩)
              · refine ⟨?_, Or.inl rfl⟩
                cases all with
                | true => exact Or.inr rfl
                | false => exact Or.inl (by simpa using hskip)
              · exact ⟨htype, Or.inr h⟩
            · rintro ⟨htype, rfl | h⟩
              · exact Or.inl rfl
              · exact Or.inr ⟨htype, h⟩

/-! ## What storing does -/

/-- The request as it is loaded back. -/
def GPilotRequest.queued (req : GPilotRequest) (num : UInt32) : GPilotRequest :=
  { req with
    handle := (setSectionNum req.pilotId req.type num).1
    sectionName := some (sectionOf req.pilotId req.type num) }

theorem value_storeAt_of_ne (kf : KeyFile) {sec g : String} (h : g ≠ sec) (handle : UInt32)
    (req : GPilotRequest) : (storeAt kf sec handle req).value g = kf.value g := by
  unfold storeAt storeParameters
  cases req.parameters <;>
    simp only [KeyFile.setInteger, KeyFile.setBoolean, KeyFile.value_set_of_ne _ h,
      KeyFile.value_setString_of_ne _ h]

/-- The parameters read back: what was stored as null is what the section held before,
and the password of a new user is not stored at all. -/
def Parameters.reloaded (kf : KeyFile) (sec : String) : Parameters → Parameters
  | .install filename description =>
    .install (filename.or (kf.getString sec ENT_FILENAME))
      (description.or (kf.getString sec ENT_DESCRIPTION))
  | .restore directory => .restore (directory.or (kf.getString sec ENT_DIRECTORY))
  | .conduit name how => .conduit (name.or (kf.getString sec ENT_CONDUIT)) how
  | .getSysinfo => .getSysinfo
  | .getUserinfo => .getUserinfo
  | .newUserinfo p =>
    .newUserinfo
      { password := kf.getString sec ENT_PASSWORD
        userId := p.userId.or (kf.getString sec ENT_USER_ID)
        continueSync := false
        pilotId := p.pilotId }
  | .setUserinfo p =>
    .setUserinfo
      { p with
        password := p.password.or (kf.getString sec ENT_PASSWORD)
        userId := p.userId.or (kf.getString sec ENT_USER_ID) }

def GPilotRequest.storedCradle (req : GPilotRequest) : Option String :=
  if isSystemRelated req.type then req.cradle else none

def GPilotRequest.reloaded (kf : KeyFile) (sec : String) (handle : UInt32) (req : GPilotRequest) :
    GPilotRequest :=
  { req with
    handle := handle
    cradle := req.storedCradle.or (kf.getString sec ENT_DEVICE)
    clientId := req.clientId.or (kf.getString sec ENT_CLIENT_ID)
    parameters := req.parameters.reloaded kf sec
    sectionName := some sec }

theorem loadFrom_storeAt_eq (kf : KeyFile) (sec : String) (handle : UInt32)
    (req : GPilotRequest) :
    loadFrom (storeAt kf sec handle req) req.pilotId sec =
      some (req.reloaded kf sec handle) := by
  obtain ⟨pilotId, handle', timeout, cradle, clientId, parameters, sectionName⟩ := req
  have htype := requestTypeFromString_typeText
  cases parameters <;>
    simp [loadFrom, storeAt, storeParameters, loadParameters, Parameters.type, htype,
      GPilotRequest.reloaded, GPilotRequest.storedCradle, GPilotRequest.type, isSystemRelated,
      Parameters.reloaded, syncTypeStrToInt_intToStr,
      KeyFile.getString_setString, KeyFile.getString_setInteger, KeyFile.getString_setBoolean,
      KeyFile.getInteger_setInteger, KeyFile.getInteger_setString, KeyFile.getInteger_setBoolean,
      KeyFile.getBoolean_setBoolean, KeyFile.getBoolean_setInteger, KeyFile.getBoolean_setString,
      ENT_TYPE, ENT_TIMEOUT, ENT_HANDLE, ENT_CLIENT_ID, ENT_DEVICE, ENT_FILENAME,
      ENT_DESCRIPTION, ENT_DIRECTORY, ENT_CONDUIT, ENT_HOW, ENT_PASSWORD, ENT_USER_ID,
      ENT_PILOT_ID, ENT_CONT_SYNC]

/-- A request written to an empty section is read back from it. -/
theorem loadFrom_storeAt {kf : KeyFile} {sec : String} (hfree : kf.Lacks sec) (handle : UInt32)
    {req : GPilotRequest} (hwf : req.WellFormed) :
    loadFrom (storeAt kf sec handle req) req.pilotId sec =
      some { req with handle := handle, sectionName := some sec } := by
  rw [loadFrom_storeAt_eq]
  obtain ⟨pilotId, handle', timeout, cradle, clientId, parameters, sectionName⟩ := req
  have hcradle : isSystemRelated parameters.type = false → cradle = none := fun h => (hwf.pilot h).2
  have hnew := hwf.newUserinfo
  have hstr := hfree.getString
  cases parameters with
  | newUserinfo p =>
      obtain ⟨hpassword, hcont⟩ := hnew p rfl
      obtain ⟨password, userId, continueSync, id⟩ := p
      simp only at hpassword hcont
      subst hpassword hcont
      simp [GPilotRequest.reloaded, GPilotRequest.storedCradle, GPilotRequest.type,
        Parameters.type, isSystemRelated, Parameters.reloaded, hstr]
  | setUserinfo p =>
      simp [GPilotRequest.reloaded, GPilotRequest.storedCradle, GPilotRequest.type,
        Parameters.type, isSystemRelated, Parameters.reloaded, hstr]
  | getSysinfo | getUserinfo =>
      simp [GPilotRequest.reloaded, GPilotRequest.storedCradle, GPilotRequest.type,
        Parameters.type, isSystemRelated, Parameters.reloaded, hstr]
  | install filename description | restore directory | conduit name how =>
      obtain rfl := hcradle rfl
      simp [GPilotRequest.reloaded, GPilotRequest.storedCradle, GPilotRequest.type,
        Parameters.type, isSystemRelated, Parameters.reloaded, hstr]

theorem value_store_of_ne (kf : KeyFile) (req : GPilotRequest) {g : String}
    (hlist : g ≠ setSection req.pilotId req.type)
    (hsec : g ≠ sectionOf req.pilotId req.type (counter kf req.pilotId req.type + 1)) :
    (gpcQueueStoreRequest kf req).2.value g = kf.value g := by
  change (storeAt _ (sectionOf _ _ _) _ req).value g = _
  rw [value_storeAt_of_ne _ hsec, KeyFile.setInteger, KeyFile.value_set_of_ne _ hlist]

theorem GPilotRequest.reloaded_congr {kf kf' : KeyFile} {sec : String}
    (h : kf.value sec = kf'.value sec) (handle : UInt32) (req : GPilotRequest) :
    req.reloaded kf sec handle = req.reloaded kf' sec handle := by
  have hparameters : req.parameters.reloaded kf sec = req.parameters.reloaded kf' sec := by
    cases req.parameters <;> simp only [Parameters.reloaded, KeyFile.getString_congr h]
  simp only [GPilotRequest.reloaded, hparameters, KeyFile.getString_congr h]

theorem loadFrom_stored (kf : KeyFile) (req : GPilotRequest) :
    loadFrom (gpcQueueStoreRequest kf req).2 req.pilotId
        (sectionOf req.pilotId req.type (counter kf req.pilotId req.type + 1)) =
      some (req.reloaded kf (sectionOf req.pilotId req.type (counter kf req.pilotId req.type + 1))
        (gpcQueueStoreRequest kf req).1) := by
  have hvalue : (kf.setInteger (setSection req.pilotId req.type) NUMREQ
      (counter kf req.pilotId req.type + 1).toInt32).value
        (sectionOf req.pilotId req.type (counter kf req.pilotId req.type + 1)) =
      kf.value (sectionOf req.pilotId req.type (counter kf req.pilotId req.type + 1)) := by
    rw [KeyFile.setInteger, KeyFile.value_set_of_ne _ (setSection_ne_sectionOf _ _ _ _ _).symm]
  rw [← GPilotRequest.reloaded_congr hvalue]
  exact loadFrom_storeAt_eq _ _ _ req

theorem loadFrom_store {kf : KeyFile} (req : DaemonRequest)
    (hfree : kf.Lacks (sectionOf req.pilotId req.type (counter kf req.pilotId req.type + 1))) :
    loadFrom (gpcQueueStoreRequest kf req.toGPilotRequest).2 req.pilotId
        (sectionOf req.pilotId req.type (counter kf req.pilotId req.type + 1)) =
      some (req.queued (counter kf req.pilotId req.type + 1)) := by
  apply loadFrom_storeAt _ _ req.wellFormed
  intro k
  rw [KeyFile.setInteger, KeyFile.value_set_of_ne _ (setSection_ne_sectionOf _ _ _ _ _).symm]
  exact hfree k

theorem counter_congr {kf kf' : KeyFile} {pilotId : UInt32} {type : RequestType}
    (h : kf.value (setSection pilotId type) = kf'.value (setSection pilotId type)) :
    counter kf pilotId type = counter kf' pilotId type := by
  simp [counter, KeyFile.getInteger_congr h]

theorem counter_store (kf : KeyFile) (req : GPilotRequest) (pilotId : UInt32)
    (type : RequestType) : counter (gpcQueueStoreRequest kf req).2 pilotId type =
      if setSection pilotId type = setSection req.pilotId req.type then
        counter kf pilotId type + 1 else counter kf pilotId type := by
  by_cases h : setSection pilotId type = setSection req.pilotId req.type
  · rw [if_pos h]
    have hvalue := value_storeAt_of_ne
      (kf.setInteger (setSection req.pilotId req.type) NUMREQ
        (counter kf req.pilotId req.type + 1).toInt32)
      (setSection_ne_sectionOf pilotId req.pilotId type req.type
        (counter kf req.pilotId req.type + 1))
      (setSectionNum req.pilotId req.type (counter kf req.pilotId req.type + 1)).1 req
    have hcounter : counter kf pilotId type = counter kf req.pilotId req.type := by
      simp [counter, h]
    refine (counter_congr hvalue).trans ?_
    rw [hcounter]
    simp only [counter, KeyFile.getInteger_setInteger, h, and_self, if_true,
      UInt32.toUInt32_toInt32]
  · rw [if_neg h]
    exact counter_congr (value_store_of_ne kf req h (setSection_ne_sectionOf _ _ _ _ _))

/-! ## What purging does -/

theorem value_purge_of_ne (kf : KeyFile) (req : GPilotRequest) {g : String}
    (hlist : g ≠ setSection req.pilotId req.type) (hsec : some g ≠ req.sectionName) :
    (gpcQueuePurgeRequest kf req).value g = kf.value g := by
  unfold gpcQueuePurgeRequest
  rw [KeyFile.value_removeGroup_of_ne _ hsec, KeyFile.setInteger, KeyFile.value_set_of_ne _ hlist]

theorem lacks_purge (kf : KeyFile) {req : GPilotRequest} {sec : String}
    (hsec : req.sectionName = some sec) : (gpcQueuePurgeRequest kf req).Lacks sec := by
  unfold gpcQueuePurgeRequest
  rw [hsec]
  exact KeyFile.lacks_removeGroup _ sec

theorem counter_purge (kf : KeyFile) (req : GPilotRequest) {num : UInt32}
    (hsec : req.sectionName = some (sectionOf req.pilotId req.type num)) (pilotId : UInt32)
    (type : RequestType) : counter (gpcQueuePurgeRequest kf req) pilotId type =
      if setSection pilotId type = setSection req.pilotId req.type then
        counter kf pilotId type - 1 else counter kf pilotId type := by
  have hne : some (setSection pilotId type) ≠ req.sectionName := by
    rw [hsec]
    simpa using setSection_ne_sectionOf pilotId req.pilotId type req.type num
  by_cases h : setSection pilotId type = setSection req.pilotId req.type
  · rw [if_pos h]
    unfold gpcQueuePurgeRequest
    rw [counter_congr (KeyFile.value_removeGroup_of_ne _ hne)]
    simp only [counter, KeyFile.getInteger_setInteger, h, and_self, if_true, Int32.toUInt32_sub]
    rfl
  · rw [if_neg h]
    exact counter_congr (value_purge_of_ne kf req h hne)

end GnomePilot.Queue
