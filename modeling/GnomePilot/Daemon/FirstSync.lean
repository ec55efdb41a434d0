import GnomePilot.Daemon.Manager

/-!
# The first synchronisation of a conduit

A conduit may be configured to do something else the first time it is run.  The
setting is in the configuration file, which is read at the start of a session and
from which `conduit_sync_default` removes it.  `first_sync_kept_iff` says when the
first action is repeated until it succeeds.
-/

namespace GnomePilot.Daemon

open Queue

/-! ## The configuration -/

/-- `GnomePilotConduitConfig` -/
structure ConduitConfig where
  syncType : SyncType
  firstSyncType : SyncType
  firstSlow : Bool
  deriving DecidableEq, Repr

/-- `gnome_pilot_conduit_config_load_config` of an enabled conduit; its group in the
file has its ID as name. -/
def loadConfig (kf : KeyFile) (id : String) : ConduitConfig where
  syncType := syncTypeStrToInt (kf.getString id "sync_type")
  firstSyncType := syncTypeStrToInt (kf.getString id "first_sync_type")
  firstSlow := kf.getBoolean id "slow_sync"

/-- `gnome_pilot_conduit_config_remove_first_sync` of an enabled conduit. -/
def removeFirstSync (kf : KeyFile) (id : String) : KeyFile :=
  (kf.removeKey id "first_sync_type").removeKey id "slow_sync"

/-- What a call has the conduit do: no operation for an unknown action, and `slow` if
the slow property was set before. -/
structure Performed where
  operation : Option Operation
  slow : Bool
  deriving DecidableEq, Repr

/-- What the call returns if the operation returns `outcome`. -/
def Performed.result (p : Performed) (outcome : Int) : Int :=
  match p.operation with
  | some _ => outcome
  | none => -1

namespace ConduitConfig

/-- The first action, if there is one. -/
def first (config : ConduitConfig) : Performed :=
  ⟨syncTypeOperation config.firstSyncType, config.firstSlow⟩

/-- The action of later synchronisations. -/
def normal (config : ConduitConfig) : Performed := ⟨syncTypeOperation config.syncType, false⟩

/-- `conduit_sync_default`: the marker leaves the file before the action is run, the
configuration in memory stays as it is. -/
def conduitSyncDefault (config : ConduitConfig) (kf : KeyFile) (id : String) :
    KeyFile × Performed :=
  if config.firstSyncType ≠ .notSet then (removeFirstSync kf id, config.first)
  else (kf, config.normal)

/-- The dispatcher's view of the call is its operation. -/
theorem operation_conduitSyncDefault (config : ConduitConfig) (kf : KeyFile) (id : String)
    (kind : ConduitKind) : (config.conduitSyncDefault kf id).2.operation =
      Daemon.conduitSyncDefault ⟨id, kind, config.syncType, config.firstSyncType⟩ := by
  unfold conduitSyncDefault Daemon.conduitSyncDefault
  by_cases h : config.firstSyncType = .notSet <;> simp [h, first, normal]

end ConduitConfig

/-! ## Sessions -/

/-- A call of `conduit_sync_default`: the conduit, and what its operation returns if
one is run. -/
structure DefaultCall where
  id : String
  outcome : Int
  deriving DecidableEq, Repr

def runCalls (loaded : String → ConduitConfig) :
    KeyFile → List DefaultCall → KeyFile × List (String × Performed)
  | kf, [] => (kf, [])
  | kf, call :: calls =>
    let (kf, performed) := (loaded call.id).conduitSyncDefault kf call.id
    let (kf, rest) := runCalls loaded kf calls
    (kf, (call.id, performed) :: rest)

/-- A session: `gpilot_load_conduits` reads every configuration anew. -/
def runSession (kf : KeyFile) (calls : List DefaultCall) : KeyFile × List (String × Performed) :=
  runCalls (loadConfig kf) kf calls

def runSessions : KeyFile → List (List DefaultCall) → List (List (String × Performed))
  | _, [] => []
  | kf, calls :: history => (runSession kf calls).2 :: runSessions (runSession kf calls).1 history

/-- What one conduit performs. -/
def performedBy (id : String) (performed : List (String × Performed)) : List Performed :=
  (performed.filter (fun p => p.1 = id)).map Prod.snd

def outcomesOf (id : String) (calls : List DefaultCall) : List Int :=
  (calls.filter (fun call => call.id = id)).map DefaultCall.outcome

/-! ## The marker in the file -/

theorem loadConfig_congr {kf kf' : KeyFile} {id : String} (h : kf.value id = kf'.value id) :
    loadConfig kf id = loadConfig kf' id := by
  unfold loadConfig
  rw [kf.getString_congr h, kf.getString_congr h, kf.getBoolean_congr h]

theorem value_removeFirstSync_of_ne (kf : KeyFile) {id id' : String} (h : id ≠ id') :
    (removeFirstSync kf id').value id = kf.value id := by
  unfold removeFirstSync
  rw [KeyFile.value_removeKey_of_ne _ h, KeyFile.value_removeKey_of_ne _ h]

def ConduitConfig.unmarked (config : ConduitConfig) : ConduitConfig :=
  { config with firstSyncType := .notSet, firstSlow := false }

theorem loadConfig_removeFirstSync (kf : KeyFile) (id : String) :
    loadConfig (removeFirstSync kf id) id = (loadConfig kf id).unmarked := by
  unfold loadConfig removeFirstSync ConduitConfig.unmarked
  simp [KeyFile.getString_removeKey, KeyFile.getBoolean_removeKey, syncTypeStrToInt]

namespace ConduitConfig

def afterCall (config : ConduitConfig) : ConduitConfig :=
  if config.firstSyncType ≠ .notSet then config.unmarked else config

/-- What a call performs. -/
def performs (config : ConduitConfig) : Performed :=
  if config.firstSyncType ≠ .notSet then config.first else config.normal

@[simp] theorem snd_conduitSyncDefault (config : ConduitConfig) (kf : KeyFile) (id : String) :
    (config.conduitSyncDefault kf id).2 = config.performs := by
  unfold conduitSyncDefault performs
  split <;> rfl

theorem value_conduitSyncDefault_of_ne (config : ConduitConfig) (kf : KeyFile) {id id' : String}
    (h : id ≠ id') : (config.conduitSyncDefault kf id').1.value id = kf.value id := by
  unfold conduitSyncDefault
  split
  · exact value_removeFirstSync_of_ne kf h
  · rfl

/-- A second call in one session removes a marker that is gone already. -/
theorem loadConfig_conduitSyncDefault (config : ConduitConfig) {kf : KeyFile} {id : String}
    (h : loadConfig kf id = config ∨ loadConfig kf id = config.afterCall) :
    loadConfig (config.conduitSyncDefault kf id).1 id = config.afterCall := by
  unfold conduitSyncDefault
  unfold afterCall at h ⊢
  by_cases hset : config.firstSyncType = .notSet
  · simpa [hset] using h
  · simp only [ne_eq, hset, not_false_eq_true, if_true] at h ⊢
    rw [loadConfig_removeFirstSync]
    rcases h with h | h
    · rw [h]
    · rw [h]
      rfl

end ConduitConfig

/-! ## One conduit among the others -/

/-- The calls of a session reach a conduit's group only through its own calls. -/
theorem loadConfig_runCalls (loaded : String → ConduitConfig) (id : String)
    (calls : List DefaultCall) {kf : KeyFile}
    (h : loadConfig kf id = loaded id ∨ loadConfig kf id = (loaded id).afterCall) :
    loadConfig (runCalls loaded kf calls).1 id =
      if outcomesOf id calls = [] then loadConfig kf id else (loaded id).afterCall := by
  induction calls generalizing kf with
  | nil => rfl
  | cons call calls ih =>
      change loadConfig (runCalls loaded ((loaded call.id).conduitSyncDefault kf call.id).1 calls).1
        id = _
      by_cases hid : call.id = id
      · have hload := (loaded id).loadConfig_conduitSyncDefault h
        have hcons : outcomesOf id (call :: calls) = call.outcome :: outcomesOf id calls := by
          simp [outcomesOf, hid]
        rw [hid, ih (Or.inr hload), hload, hcons, ite_self, if_neg (List.cons_ne_nil _ _)]
      · have hother := (loaded call.id).value_conduitSyncDefault_of_ne kf (Ne.symm hid)
        have hcons : outcomesOf id (call :: calls) = outcomesOf id calls := by
          simp [outcomesOf, hid]
        rw [hcons, ← loadConfig_congr hother]
        exact ih (by rwa [loadConfig_congr hother])

theorem performedBy_runCalls (loaded : String → ConduitConfig) (id : String) (kf : KeyFile)
    (calls : List DefaultCall) : performedBy id (runCalls loaded kf calls).2 =
      (outcomesOf id calls).map (fun _ => (loaded id).performs) := by
  induction calls generalizing kf with
  | nil => rfl
  | cons call calls ih =>
      change performedBy id ((call.id, ((loaded call.id).conduitSyncDefault kf call.id).2) ::
        (runCalls loaded ((loaded call.id).conduitSyncDefault kf call.id).1 calls).2) = _
      unfold performedBy outcomesOf at ih ⊢
      by_cases hid : call.id = id
      · simp [hid, ih]
      · simp [hid, ih]

def ConduitConfig.run : ConduitConfig → List (List Int) → List (List Performed)
  | _, [] => []
  | config, outcomes :: history =>
    outcomes.map (fun _ => config.performs) ::
      (if outcomes = [] then config else config.afterCall).run history

theorem performedBy_runSessions (id : String) (kf : KeyFile) (history : List (List DefaultCall)) :
    (runSessions kf history).map (performedBy id) =
      (loadConfig kf id).run (history.map (outcomesOf id)) := by
  induction history generalizing kf with
  | nil => rfl
  | cons calls history ih =>
      change performedBy id (runCalls (loadConfig kf) kf calls).2 ::
        (runSessions (runCalls (loadConfig kf) kf calls).1 history).map (performedBy id) = _
      rw [ih, performedBy_runCalls, loadConfig_runCalls _ _ _ (Or.inl rfl)]
      rfl

/-! ## What is to be performed -/

namespace ConduitConfig

def Succeeds (config : ConduitConfig) (outcomes : List Int) : Prop :=
  ∃ outcome ∈ outcomes, config.first.result outcome = 0

instance (config : ConduitConfig) (outcomes : List Int) : Decidable (config.Succeeds outcomes) :=
  inferInstanceAs (Decidable (∃ outcome ∈ outcomes, config.first.result outcome = 0))

/-- The first action in every session up to and including the first one in which it
succeeds, the normal action in every session after that. -/
def repeated (config : ConduitConfig) : List (List Int) → List (List Performed)
  | [] => []
  | outcomes :: history =>
    outcomes.map (fun _ => config.first) ::
      if config.Succeeds outcomes then history.map (List.map fun _ => config.normal)
      else config.repeated history

/-- What the configuration asks for; without a first action, always the normal one. -/
def intended (config : ConduitConfig) (history : List (List Int)) : List (List Performed) :=
  if config.firstSyncType = .notSet then history.map (List.map fun _ => config.normal)
  else config.repeated history

/-- The first session that comes to the conduit is a success, or the last that comes
to it. -/
def AtOnce (config : ConduitConfig) : List (List Int) → Prop
  | [] => True
  | outcomes :: history =>
    if outcomes = [] then config.AtOnce history
    else config.Succeeds outcomes ∨ ∀ later ∈ history, later = []

/-! ## When it is performed -/

theorem run_of_notSet {config : ConduitConfig} (h : config.firstSyncType = .notSet)
    (history : List (List Int)) :
    config.run history = history.map (List.map fun _ => config.normal) := by
  have hafter : config.afterCall = config := if_neg (not_not_intro h)
  have hperforms : config.performs = config.normal := if_neg (not_not_intro h)
  induction history with
  | nil => rfl
  | cons outcomes history ih =>
      change outcomes.map (fun _ => config.performs) :: _ = _
      rw [hafter, ite_self, ih, hperforms]
      rfl

/-- It is no matter whether a first action that is the normal one is marked. -/
theorem run_of_same {config : ConduitConfig} (hset : config.firstSyncType ≠ .notSet)
    (h : config.first = config.normal) (history : List (List Int)) :
    config.run history = history.map (List.map fun _ => config.normal) := by
  have hperforms : config.performs = config.normal := (if_pos hset).trans h
  have hafter : config.afterCall = config.unmarked := if_pos hset
  have hnormal : config.unmarked.normal = config.normal := rfl
  induction history with
  | nil => rfl
  | cons outcomes history ih =>
      unfold run
      rw [hperforms, hafter, List.map_cons]
      by_cases hnil : outcomes = []
      · rw [if_pos hnil, ih]
      · rw [if_neg hnil, run_of_notSet rfl, hnormal]

theorem repeated_of_same {config : ConduitConfig} (h : config.first = config.normal)
    (history : List (List Int)) :
    config.repeated history = history.map (List.map fun _ => config.normal) := by
  induction history with
  | nil => rfl
  | cons outcomes history ih =>
      change outcomes.map (fun _ => config.first) :: _ = _
      rw [ih, ite_self, h]
      rfl

/-- The first action of every call, as long as none succeeds. -/
theorem repeated_eq_normal_iff {config : ConduitConfig} (h : config.first ≠ config.normal)
    (history : List (List Int)) :
    history.map (List.map fun _ => config.normal) = config.repeated history ↔
      ∀ later ∈ history, later = [] := by
  induction history with
  | nil => simp [repeated]
  | cons outcomes history ih =>
      cases outcomes with
      | nil =>
          have hfails : ¬ config.Succeeds [] := by simp [Succeeds]
          change [] :: _ = [] :: (if config.Succeeds [] then _ else _) ↔ _
          rw [if_neg hfails, List.cons.injEq, List.forall_mem_cons]
          simpa using ih
      | cons outcome outcomes =>
          constructor
          · intro heq
            have hhead : config.normal = config.first :=
              (List.cons.inj (List.cons.inj heq).1).1
            exact absurd hhead.symm h
          · intro hnil
            exact absurd (hnil _ List.mem_cons_self) (List.cons_ne_nil _ _)

theorem run_eq_repeated_iff {config : ConduitConfig} (hset : config.firstSyncType ≠ .notSet)
    (hdiff : config.first ≠ config.normal) (history : List (List Int)) :
    config.run history = config.repeated history ↔ config.AtOnce history := by
  have hperforms : config.performs = config.first := if_pos hset
  have hafter : config.afterCall = config.unmarked := if_pos hset
  have hnormal : config.unmarked.normal = config.normal := rfl
  induction history with
  | nil => simp [run, repeated, AtOnce]
  | cons outcomes history ih =>
      unfold run repeated AtOnce
      rw [hperforms, List.cons.injEq]
      by_cases hnil : outcomes = []
      · -- the session does not come to the conduit
        have hfails : ¬ config.Succeeds outcomes := by simp [Succeeds, hnil]
        simp only [hnil, if_true, if_neg (hnil ▸ hfails), true_and]
        exact ih
      · simp only [if_neg hnil, true_and]
        rw [hafter, run_of_notSet rfl, hnormal]
        by_cases hsucceeds : config.Succeeds outcomes
        · simp [hsucceeds]
        · simp only [hsucceeds, if_false, false_or]
          exact repeated_eq_normal_iff hdiff history

end ConduitConfig

/-- A conduit performs its first action in every session up to and including the first
success, and never after it, exactly when it has no first action, when its first
action is the normal one, or when the first session that comes to it is a success or
the last one. -/
theorem first_sync_kept_iff (kf : KeyFile) (id : String) (history : List (List DefaultCall)) :
    (runSessions kf history).map (performedBy id) =
        (loadConfig kf id).intended (history.map (outcomesOf id)) ↔
      (loadConfig kf id).firstSyncType = .notSet ∨
        (loadConfig kf id).first = (loadConfig kf id).normal ∨
        (loadConfig kf id).AtOnce (history.map (outcomesOf id)) := by
  rw [performedBy_runSessions]
  generalize loadConfig kf id = config
  generalize history.map (outcomesOf id) = history
  unfold ConduitConfig.intended
  by_cases hset : config.firstSyncType = .notSet
  · simp [hset, config.run_of_notSet hset]
  · rw [if_neg hset]
    by_cases hsame : config.first = config.normal
    · rw [config.run_of_same hset hsame, config.repeated_of_same hsame]
      simp [hsame]
    · rw [config.run_eq_repeated_iff hset hsame]
      simp [hset, hsame]

def firstSlowSync : KeyFile :=
  ((KeyFile.empty.setString "Address" "sync_type" (some "synchronize")).setString "Address"
    "first_sync_type" (some "synchronize")).setBoolean "Address" "slow_sync" true

/-- The slow synchronisation fails, and the next session does not repeat it. -/
theorem failedSlowSync_forgotten :
    let history : List (List DefaultCall) := [[⟨"Address", -1⟩], [⟨"Address", 0⟩]]
    runSessions firstSlowSync history =
        [[("Address", ⟨some .synchronize, true⟩)], [("Address", ⟨some .synchronize, false⟩)]] ∧
      (loadConfig firstSlowSync "Address").intended (history.map (outcomesOf "Address")) =
        [[⟨some .synchronize, true⟩], [⟨some .synchronize, true⟩]] ∧
      (runSessions firstSlowSync history).map (performedBy "Address") ≠
        (loadConfig firstSlowSync "Address").intended (history.map (outcomesOf "Address")) := by
  decide

end GnomePilot.Daemon
