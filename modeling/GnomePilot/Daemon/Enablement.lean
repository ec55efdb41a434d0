import GnomePilot.Daemon.FirstSync
import GnomePilot.Lib.StringList
import Mathlib.Data.List.Nodup

/-!
# Enabling conduits

`gnome-pilot-conduit-config`: the conduits a pilot is synchronised with are listed in
the pilot's configuration file, and each has a group of its own there.  Every call reads
the file afresh and writes it back, so the file is the whole state.  `independent_iff`
says for which conduits a call at one leaves the others alone.
-/

namespace GnomePilot.Daemon.Enablement

open Queue

variable (format : ListFormat ' ')

/-! ## The file -/

def conduits (kf : KeyFile) : List String := kf.getStringList format "General" "conduits"

def setConduits (kf : KeyFile) (names : List String) : KeyFile :=
  kf.setStringList format "General" "conduits" names

/-- `gnome_pilot_conduit_config_is_enabled` -/
def isEnabled (kf : KeyFile) (id : String) : Bool := (conduits format kf).contains id

/-- What `gnome_pilot_conduit_config_is_enabled` leaves in its second argument: the
first action before the action of later synchronisations. -/
def enabledSyncType (kf : KeyFile) (id : String) : Option SyncType :=
  if isEnabled format kf id then
    some (syncTypeStrToInt ((kf.getString id "first_sync_type").or (kf.getString id "sync_type")))
  else none

/-- `gnome_pilot_conduit_config_load_config`; the fields stay as they are where it
returns 0. -/
def gnomePilotConduitConfigLoadConfig (kf : KeyFile) (id : String) (config : ConduitConfig) :
    Int × ConduitConfig :=
  if isEnabled format kf id then (1, loadConfig kf id) else (0, config)

/-- The first action, as `enable_with_first_sync` and `save_config` write it. -/
def setFirstSync (kf : KeyFile) (id : String) (first : SyncType) (slow : Bool) : KeyFile :=
  let kf := kf.setString id "first_sync_type" (some (syncTypeIntToStr first))
  if first = .synchronize then kf.setBoolean id "slow_sync" slow
  else kf.removeKey id "slow_sync"

/-- `gnome_pilot_conduit_config_enable` -/
def enable (kf : KeyFile) (id : String) (syncType : SyncType) : KeyFile :=
  let kf :=
    if isEnabled format kf id then kf else setConduits format kf (conduits format kf ++ [id])
  kf.setString id "sync_type" (some (syncTypeIntToStr syncType))

/-- `gnome_pilot_conduit_config_enable_with_first_sync` -/
def enableWithFirstSync (kf : KeyFile) (id : String) (syncType first : SyncType) (slow : Bool) :
    KeyFile :=
  setFirstSync (enable format kf id syncType) id first slow

/-- `gnome_pilot_conduit_config_remove_first_sync`; a group that is missing has neither
of the keys. -/
def gnomePilotConduitConfigRemoveFirstSync (kf : KeyFile) (id : String) : KeyFile :=
  if isEnabled format kf id then removeFirstSync kf id else kf

/-- `gnome_pilot_conduit_config_save_config` -/
def saveConfig (kf : KeyFile) (id : String) (config : ConduitConfig) : Int × KeyFile :=
  if isEnabled format kf id then
    let kf := kf.setString id "sync_type" (some (syncTypeIntToStr config.syncType))
    (1, setFirstSync kf id config.firstSyncType config.firstSlow)
  else (0, kf)

/-- `gnome_pilot_conduit_config_disable`: the list is compared without regard to case. -/
def disable (kf : KeyFile) (id : String) : KeyFile :=
  if isEnabled format kf id = false then kf
  else
    let kept := (conduits format kf).filter fun name => !sameIgnoringCase name id
    let kf :=
      if kept ≠ [] then setConduits format kf kept else kf.removeKey "General" "conduits"
    kf.removeGroup (some id)

/-! ## Operations -/

/-- The ID of a registered conduit: `read_conduit_topdata` refuses an ID with a blank. -/
structure ConduitId where
  text : String
  plain : Plain ' ' text
  deriving DecidableEq

/-- The calls that change the file, each for one conduit. -/
inductive Op where
  | enable (syncType : SyncType)
  | enableWithFirstSync (syncType first : SyncType) (slow : Bool)
  | removeFirstSync
  | saveConfig (config : ConduitConfig)
  | disable
  deriving DecidableEq

structure Call where
  id : ConduitId
  op : Op
  deriving DecidableEq

def step (kf : KeyFile) (call : Call) : KeyFile :=
  match call.op with
  | .enable syncType => enable format kf call.id.text syncType
  | .enableWithFirstSync syncType first slow =>
    enableWithFirstSync format kf call.id.text syncType first slow
  | .removeFirstSync => gnomePilotConduitConfigRemoveFirstSync format kf call.id.text
  | .saveConfig config => (saveConfig format kf call.id.text config).2
  | .disable => disable format kf call.id.text

def run (kf : KeyFile) (calls : List Call) : KeyFile := calls.foldl (step format) kf

/-! ## What the calls do to the list -/

/-- The list can be read back: no element is empty or holds a blank. -/
def Listed (kf : KeyFile) : Prop := ∀ name ∈ conduits format kf, Plain ' ' name

theorem listed_empty : Listed format .empty := by
  intro name hname
  exact absurd hname List.not_mem_nil

theorem isEnabled_iff {kf : KeyFile} {id : String} :
    isEnabled format kf id = true ↔ id ∈ conduits format kf := by
  simp [isEnabled]

theorem sameIgnoringCase_self (id : String) : sameIgnoringCase id id = true := by
  simp [sameIgnoringCase]

theorem conduits_setConduits (kf : KeyFile) {names : List String}
    (h : ∀ name ∈ names, Plain ' ' name) :
    conduits format (setConduits format kf names) = names :=
  kf.getStringList_setStringList format _ _ h

theorem conduits_setFirstSync (kf : KeyFile) (id : String) (first : SyncType) (slow : Bool) :
    conduits format (setFirstSync kf id first slow) = conduits format kf := by
  apply KeyFile.getStringList_congr
  unfold setFirstSync
  split <;> simp [KeyFile.getString_setString, KeyFile.getString_setBoolean,
    KeyFile.getString_removeKey]

theorem conduits_setString_sync_type (kf : KeyFile) (id : String) (text : Option String) :
    conduits format (kf.setString id "sync_type" text) = conduits format kf := by
  apply KeyFile.getStringList_congr
  simp [KeyFile.getString_setString]

theorem conduits_removeFirstSync (kf : KeyFile) (id : String) :
    conduits format (gnomePilotConduitConfigRemoveFirstSync format kf id) =
      conduits format kf := by
  unfold gnomePilotConduitConfigRemoveFirstSync
  split
  · apply KeyFile.getStringList_congr
    simp [removeFirstSync, KeyFile.getString_removeKey]
  · rfl

theorem conduits_saveConfig (kf : KeyFile) (id : String) (config : ConduitConfig) :
    conduits format (saveConfig format kf id config).2 = conduits format kf := by
  unfold saveConfig
  split
  · exact (conduits_setFirstSync format _ _ _ _).trans (conduits_setString_sync_type format _ _ _)
  · rfl

theorem conduits_enable {kf : KeyFile} (h : Listed format kf) (id : ConduitId)
    (syncType : SyncType) : conduits format (enable format kf id.text syncType) =
      if isEnabled format kf id.text then conduits format kf
      else conduits format kf ++ [id.text] := by
  unfold enable
  rw [conduits_setString_sync_type]
  split
  · rfl
  · apply conduits_setConduits
    intro name hname
    rcases List.mem_append.mp hname with hname | hname
    · exact h name hname
    · exact List.mem_singleton.mp hname ▸ id.plain

theorem getString_removeGroup_of_ne (kf : KeyFile) {group g : String} (h : g ≠ group)
    (key : String) : (kf.removeGroup (some group)).getString g key = kf.getString g key :=
  KeyFile.getString_congr (kf.value_removeGroup_of_ne fun heq => h (Option.some.inj heq)) key

/-- The names a call leaves listed when it disables a conduit.  The list itself is in the
group `General`. -/
def kept (names : List String) (id : String) : List String :=
  if id = "General" then [] else names.filter fun name => !sameIgnoringCase name id

theorem conduits_disable {kf : KeyFile} (h : Listed format kf) (id : String) :
    conduits format (disable format kf id) =
      if isEnabled format kf id then kept (conduits format kf) id else conduits format kf := by
  unfold disable kept
  cases henabled : isEnabled format kf id with
  | false => rfl
  | true =>
      simp only [Bool.true_eq_false, if_false, if_true]
      by_cases hgeneral : id = "General"
      · rw [if_pos hgeneral, hgeneral]
        unfold conduits KeyFile.getStringList
        rw [(KeyFile.lacks_removeGroup _ _).getString]
        rfl
      · rw [if_neg hgeneral]
        generalize hkept : (conduits format kf).filter (fun name => !sameIgnoringCase name id) =
          names
        have hplain : ∀ name ∈ names, Plain ' ' name := by
          intro name hname
          rw [← hkept] at hname
          exact h name (List.mem_of_mem_filter hname)
        have hgroup := fun file : KeyFile => KeyFile.getStringList_congr format
          (getString_removeGroup_of_ne file (Ne.symm hgeneral) "conduits")
        refine (hgroup _).trans ?_
        split
        · exact conduits_setConduits format kf hplain
        · rename_i hnil
          rw [not_not.mp hnil]
          simp [KeyFile.getStringList, KeyFile.getString_removeKey]

def listAfter (names : List String) (call : Call) : List String :=
  match call.op with
  | .enable _ | .enableWithFirstSync _ _ _ =>
    if names.contains call.id.text then names else names ++ [call.id.text]
  | .removeFirstSync | .saveConfig _ => names
  | .disable => if names.contains call.id.text then kept names call.id.text else names

theorem conduits_step {kf : KeyFile} (h : Listed format kf) (call : Call) :
    conduits format (step format kf call) = listAfter (conduits format kf) call := by
  obtain ⟨id, op⟩ := call
  cases op with
  | enable syncType => exact conduits_enable format h id syncType
  | enableWithFirstSync syncType first slow =>
      exact (conduits_setFirstSync format _ _ _ _).trans (conduits_enable format h id syncType)
  | removeFirstSync => exact conduits_removeFirstSync format kf id.text
  | saveConfig config => exact conduits_saveConfig format kf id.text config
  | disable => exact conduits_disable format h id.text

theorem mem_kept {names : List String} {id name : String} :
    name ∈ kept names id ↔
      id ≠ "General" ∧ name ∈ names ∧ sameIgnoringCase name id = false := by
  unfold kept
  split <;> simp [*]

theorem mem_listAfter {names : List String} {call : Call} {name : String}
    (h : name ∈ listAfter names call) : name ∈ names ∨ name = call.id.text := by
  obtain ⟨id, op⟩ := call
  cases op <;> simp only [listAfter] at h
  case removeFirstSync => exact Or.inl h
  case saveConfig => exact Or.inl h
  case disable =>
    split at h
    · exact Or.inl (mem_kept.mp h).2.1
    · exact Or.inl h
  all_goals
    split at h
    · exact Or.inl h
    · exact (List.mem_append.mp h).imp_right List.mem_singleton.mp

theorem Listed.step {kf : KeyFile} (h : Listed format kf) (call : Call) :
    Listed format (step format kf call) := by
  intro name hname
  rw [conduits_step format h] at hname
  rcases mem_listAfter hname with hname | rfl
  · exact h name hname
  · exact call.id.plain

theorem nodup_listAfter {names : List String} (h : names.Nodup) (call : Call) :
    (listAfter names call).Nodup := by
  obtain ⟨id, op⟩ := call
  have hadd : ¬ names.contains id.text = true → (names ++ [id.text]).Nodup := by
    intro hnew
    have hnot : id.text ∉ names := by simpa using hnew
    simpa using List.Nodup.concat hnot h
  have hkept : (kept names id.text).Nodup := by
    unfold kept
    split
    · exact List.nodup_nil
    · exact h.filter _
  cases op <;> simp only [listAfter]
  case removeFirstSync => exact h
  case saveConfig => exact h
  case disable =>
    split
    · exact hkept
    · exact h
  all_goals
    split
    · exact h
    · exact hadd ‹_›

/-! ## What the calls do to a group -/

/-- What is read for a conduit is in three values. -/
theorem loadConfig_congr_values {kf kf' : KeyFile} {id : String}
    (hsync : kf.getString id "sync_type" = kf'.getString id "sync_type")
    (hfirst : kf.getString id "first_sync_type" = kf'.getString id "first_sync_type")
    (hslow : kf.getBoolean id "slow_sync" = kf'.getBoolean id "slow_sync") :
    loadConfig kf id = loadConfig kf' id := by
  simp [loadConfig, hsync, hfirst, hslow]

theorem loadConfig_setConduits (kf : KeyFile) (names : List String) (id : String) :
    loadConfig (setConduits format kf names) id = loadConfig kf id := by
  apply loadConfig_congr_values <;>
    simp [setConduits, KeyFile.setStringList, KeyFile.getString_setString,
      KeyFile.getBoolean_setString]

theorem loadConfig_removeConduits (kf : KeyFile) (id : String) :
    loadConfig (kf.removeKey "General" "conduits") id = loadConfig kf id := by
  apply loadConfig_congr_values <;>
    simp [KeyFile.getString_removeKey, KeyFile.getBoolean_removeKey]

theorem loadConfig_setSyncType (kf : KeyFile) (id : String) (syncType : SyncType) :
    loadConfig (kf.setString id "sync_type" (some (syncTypeIntToStr syncType))) id =
      { loadConfig kf id with syncType := syncType } := by
  simp [loadConfig, KeyFile.getString_setString, KeyFile.getBoolean_setString,
    syncTypeStrToInt_intToStr]

/-- A configuration with a first action; only a synchronisation may be a slow one. -/
def marked (config : ConduitConfig) (first : SyncType) (slow : Bool) : ConduitConfig :=
  { config with firstSyncType := first, firstSlow := first = .synchronize && slow }

theorem loadConfig_setFirstSync (kf : KeyFile) (id : String) (first : SyncType) (slow : Bool) :
    loadConfig (setFirstSync kf id first slow) id = marked (loadConfig kf id) first slow := by
  unfold setFirstSync loadConfig marked
  by_cases h : first = .synchronize <;>
    simp [h, KeyFile.getString_setString, KeyFile.getString_setBoolean,
      KeyFile.getString_removeKey, KeyFile.getBoolean_setBoolean, KeyFile.getBoolean_removeKey,
      syncTypeStrToInt_intToStr]

/-- The fields of a group that was removed. -/
def unset : ConduitConfig := ⟨.notSet, .notSet, false⟩

theorem loadConfig_of_lacks {kf : KeyFile} {id : String} (h : kf.Lacks id) :
    loadConfig kf id = unset := by
  unfold loadConfig
  rw [h.getString, h.getString, h.getBoolean]
  rfl

theorem value_setFirstSync_of_ne (kf : KeyFile) {id id' : String} (h : id' ≠ id)
    (first : SyncType) (slow : Bool) :
    (setFirstSync kf id first slow).value id' = kf.value id' := by
  unfold setFirstSync
  split
  · exact ((kf.setString id _ _).value_set_of_ne h _ _).trans (kf.value_setString_of_ne h _ _)
  · rw [KeyFile.value_removeKey_of_ne _ h, kf.value_setString_of_ne h]

/-- What a conduit is, to those who ask for it. -/
structure View where
  enabled : Bool
  config : ConduitConfig
  deriving DecidableEq

def viewOf (kf : KeyFile) (id : String) : View := ⟨isEnabled format kf id, loadConfig kf id⟩

/-- What a call for a conduit does to the conduit itself. -/
def View.step (v : View) : Op → View
  | .enable syncType => ⟨true, { v.config with syncType := syncType }⟩
  | .enableWithFirstSync syncType first slow =>
    ⟨true, marked { v.config with syncType := syncType } first slow⟩
  | .removeFirstSync => if v.enabled then ⟨true, v.config.unmarked⟩ else v
  | .saveConfig config =>
    if v.enabled then
      ⟨true, marked { v.config with syncType := config.syncType } config.firstSyncType
        config.firstSlow⟩
    else v
  | .disable => if v.enabled then ⟨false, unset⟩ else v

theorem loadConfig_enable (kf : KeyFile) (id : String) (syncType : SyncType) :
    loadConfig (enable format kf id syncType) id =
      { loadConfig kf id with syncType := syncType } := by
  unfold enable
  rw [loadConfig_setSyncType]
  split
  · rfl
  · rw [loadConfig_setConduits]

theorem loadConfig_disable {kf : KeyFile} {id : String} (h : isEnabled format kf id = true) :
    loadConfig (disable format kf id) id = unset := by
  unfold disable
  rw [if_neg (by simp [h])]
  exact loadConfig_of_lacks (KeyFile.lacks_removeGroup _ _)

theorem loadConfig_step_self (kf : KeyFile) (call : Call) :
    loadConfig (step format kf call) call.id.text =
      ((viewOf format kf call.id.text).step call.op).config := by
  obtain ⟨id, op⟩ := call
  cases op with
  | enable syncType => exact loadConfig_enable format kf id.text syncType
  | enableWithFirstSync syncType first slow =>
      change loadConfig (setFirstSync _ _ _ _) _ = marked _ _ _
      rw [loadConfig_setFirstSync, loadConfig_enable]
      rfl
  | removeFirstSync =>
      change loadConfig (gnomePilotConduitConfigRemoveFirstSync _ _ _) _ =
        (if isEnabled format kf id.text then _ else _ : View).config
      unfold gnomePilotConduitConfigRemoveFirstSync
      split
      · exact loadConfig_removeFirstSync kf id.text
      · rfl
  | saveConfig config =>
      change loadConfig (saveConfig _ _ _ _).2 _ =
        (if isEnabled format kf id.text then _ else _ : View).config
      unfold saveConfig
      split
      · rw [loadConfig_setFirstSync, loadConfig_setSyncType]
        rfl
      · rfl
  | disable =>
      change loadConfig (disable _ _ _) _ =
        (if isEnabled format kf id.text then _ else _ : View).config
      split
      · exact loadConfig_disable format ‹_›
      · rename_i hnot
        rw [disable, if_pos (by simpa using hnot)]
        rfl

/-- A call writes to no group but the conduit's own and the list. -/
theorem loadConfig_step_of_ne (kf : KeyFile) (call : Call) {id : String}
    (h : id ≠ call.id.text) : loadConfig (step format kf call) id = loadConfig kf id := by
  obtain ⟨own, op⟩ := call
  have henable : ∀ syncType, loadConfig (enable format kf own.text syncType) id =
      loadConfig kf id := by
    intro syncType
    unfold enable
    rw [loadConfig_congr (KeyFile.value_setString_of_ne _ h _ _)]
    split
    · rfl
    · rw [loadConfig_setConduits]
  cases op with
  | enable syncType => exact henable syncType
  | enableWithFirstSync syncType first slow =>
      exact (loadConfig_congr (value_setFirstSync_of_ne _ h _ _)).trans (henable syncType)
  | removeFirstSync =>
      change loadConfig (gnomePilotConduitConfigRemoveFirstSync _ _ _) _ = _
      unfold gnomePilotConduitConfigRemoveFirstSync
      split
      · exact loadConfig_congr (value_removeFirstSync_of_ne kf h)
      · rfl
  | saveConfig config =>
      change loadConfig (saveConfig _ _ _ _).2 _ = _
      unfold saveConfig
      split
      · rw [loadConfig_congr (value_setFirstSync_of_ne _ h _ _),
          loadConfig_congr (KeyFile.value_setString_of_ne _ h _ _)]
      · rfl
  | disable =>
      change loadConfig (disable _ _ _) _ = _
      unfold disable
      split
      · rfl
      · rw [loadConfig_congr (KeyFile.value_removeGroup_of_ne _
          fun heq => h (Option.some.inj heq))]
        split
        · exact loadConfig_setConduits format kf _ id
        · exact loadConfig_removeConduits kf id

/-! ## Conduits among themselves -/

/-- No two of the IDs differ in case only, and one called like the group of the list
stands alone. -/
def Apart (ids : Set ConduitId) : Prop :=
  (∀ a ∈ ids, ∀ b ∈ ids, sameIgnoringCase b.text a.text = true → b = a) ∧
    ∀ a ∈ ids, a.text = "General" → ∀ b ∈ ids, b = a

theorem ConduitId.text_injective {a b : ConduitId} (h : a.text = b.text) : a = b := by
  cases a
  cases b
  cases h
  rfl

theorem isEnabled_step_self {kf : KeyFile} (h : Listed format kf) (call : Call) :
    isEnabled format (step format kf call) call.id.text =
      ((viewOf format kf call.id.text).step call.op).enabled := by
  have hkept : ∀ names, call.id.text ∉ kept names call.id.text := by
    intro names hmem
    have hsame := (mem_kept.mp hmem).2.2
    rw [sameIgnoringCase_self] at hsame
    cases hsame
  obtain ⟨id, op⟩ := call
  unfold isEnabled
  rw [conduits_step format h]
  by_cases hin : id.text ∈ conduits format kf <;>
    cases op <;> simp [listAfter, View.step, viewOf, isEnabled, hin, hkept]

theorem viewOf_step_self {kf : KeyFile} (h : Listed format kf) (call : Call) :
    viewOf format (step format kf call) call.id.text =
      (viewOf format kf call.id.text).step call.op := by
  rw [viewOf, isEnabled_step_self format h, loadConfig_step_self]

theorem viewOf_step_of_ne {ids : Set ConduitId} (hapart : Apart ids) {kf : KeyFile}
    (h : Listed format kf) {call : Call} (hcall : call.id ∈ ids) {id : ConduitId} (hid : id ∈ ids)
    (hne : id ≠ call.id) : viewOf format (step format kf call) id.text =
      viewOf format kf id.text := by
  have htext : id.text ≠ call.id.text := fun heq => hne (ConduitId.text_injective heq)
  have hkept : ∀ names, id.text ∈ kept names call.id.text ↔ id.text ∈ names := by
    intro names
    rw [mem_kept]
    have hgeneral : call.id.text ≠ "General" := fun heq => hne (hapart.2 _ hcall heq _ hid)
    have hcase : sameIgnoringCase id.text call.id.text = false := by
      rw [← Bool.not_eq_true]
      exact fun hsame => hne (hapart.1 _ hcall _ hid hsame)
    simp [hgeneral, hcase]
  have henabled : isEnabled format (step format kf call) id.text =
      isEnabled format kf id.text := by
    rw [Bool.eq_iff_iff, isEnabled_iff, isEnabled_iff, conduits_step format h]
    obtain ⟨own, op⟩ := call
    cases op <;> simp only [listAfter] <;> (try split) <;> simp_all
  rw [viewOf, henabled, loadConfig_step_of_ne format kf call htext]
  rfl

def callsOf (id : ConduitId) (calls : List Call) : List Op :=
  (calls.filter fun call => call.id = id).map Call.op

theorem viewOf_run {ids : Set ConduitId} (hapart : Apart ids) {calls : List Call}
    (hcalls : ∀ call ∈ calls, call.id ∈ ids) {id : ConduitId} (hid : id ∈ ids) {kf : KeyFile}
    (h : Listed format kf) : viewOf format (run format kf calls) id.text =
      (callsOf id calls).foldl View.step (viewOf format kf id.text) := by
  induction calls generalizing kf with
  | nil => rfl
  | cons call calls ih =>
      have hcall := hcalls call List.mem_cons_self
      have hrest := ih (fun c hc => hcalls c (List.mem_cons_of_mem _ hc)) (h.step format call)
      change viewOf format (run format (step format kf call) calls) id.text = _
      rw [hrest]
      unfold callsOf
      by_cases hne : call.id = id
      · rw [List.filter_cons_of_pos (by simpa using hne), List.map_cons, List.foldl_cons, ← hne,
          viewOf_step_self format h]
      · rw [List.filter_cons_of_neg (by simpa using hne),
          viewOf_step_of_ne format hapart h hcall hid (Ne.symm hne)]

def enableTwice (a b : ConduitId) : List Call :=
  [⟨a, .enable .synchronize⟩, ⟨b, .enable .synchronize⟩, ⟨a, .disable⟩]

theorem callsOf_enableTwice {a b : ConduitId} (h : b ≠ a) :
    ((callsOf b (enableTwice a b)).foldl View.step ⟨false, unset⟩).enabled = true := by
  simp [callsOf, enableTwice, Ne.symm h, View.step]

theorem isEnabled_enableTwice {a b : ConduitId} (h : b ≠ a)
    (hstruck : a.text = "General" ∨ sameIgnoringCase b.text a.text = true) :
    isEnabled format (run format .empty (enableTwice a b)) b.text = false := by
  have hempty := listed_empty format
  have htext : b.text ≠ a.text := fun heq => h (ConduitId.text_injective heq)
  have hnil : conduits format KeyFile.empty = [] := rfl
  have hlist : conduits format (run format .empty (enableTwice a b)) =
      kept [a.text, b.text] a.text := by
    have hrun : run format .empty (enableTwice a b) =
        step format (step format (step format .empty ⟨a, .enable .synchronize⟩)
          ⟨b, .enable .synchronize⟩) ⟨a, .disable⟩ := rfl
    rw [hrun, conduits_step format ((hempty.step format _).step format _),
      conduits_step format (hempty.step format _), conduits_step format hempty, hnil]
    simp [listAfter, htext]
  have hnot : b.text ∉ kept [a.text, b.text] a.text := by
    rw [mem_kept]
    rcases hstruck with hgeneral | hsame
    · exact fun hmem => hmem.1 hgeneral
    · simp [hsame]
  rw [← Bool.not_eq_true, isEnabled_iff, hlist]
  exact hnot

/-- Whether each of a set of conduits is enabled, and what is configured for it, depends
on the calls for it alone, whatever else is called, exactly when no two of the IDs differ
in case only and none is `General` beside others. -/
theorem independent_iff (ids : Set ConduitId) :
    (∀ kf, Listed format kf → ∀ calls, (∀ call ∈ calls, call.id ∈ ids) → ∀ id ∈ ids,
      viewOf format (run format kf calls) id.text =
        (callsOf id calls).foldl View.step (viewOf format kf id.text)) ↔ Apart ids := by
  constructor
  · intro h
    have hcounter : ∀ a ∈ ids, ∀ b ∈ ids,
        a.text = "General" ∨ sameIgnoringCase b.text a.text = true → b = a := by
      intro a ha b hb hstruck
      apply by_contra
      intro hne
      have hview := congrArg View.enabled (h .empty (listed_empty format) (enableTwice a b)
        (by simp [enableTwice, ha, hb]) b hb)
      have hlost : (viewOf format (run format .empty (enableTwice a b)) b.text).enabled = false :=
        isEnabled_enableTwice format hne hstruck
      have hstart : viewOf format .empty b.text = ⟨false, unset⟩ := rfl
      rw [hlost, hstart, callsOf_enableTwice hne] at hview
      cases hview
    exact ⟨fun a ha b hb hsame => hcounter a ha b hb (Or.inr hsame),
      fun a ha hgeneral b hb => hcounter a ha b hb (Or.inl hgeneral)⟩
  · intro hapart kf hkf calls hcalls id hid
    exact viewOf_run format hapart hcalls hid hkf

end GnomePilot.Daemon.Enablement
