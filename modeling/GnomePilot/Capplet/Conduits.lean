import GnomePilot.Daemon.Enablement
import GnomePilot.Lib.History
import Mathlib.Logic.Function.Basic

/-!
# The page of the conduits

The capplet reads a pilot's conduits once and keeps them in memory; every save, whatever
it is for, writes the conduits again that were ever changed.  The daemon takes the first
actions that it performs from the same file.  `alwaysWanted_iff` says in which runs of the
two the file is what the user wants.
-/

namespace GnomePilot.Capplet.Conduits

open Daemon Daemon.Enablement Queue

variable (format : ListFormat ' ')

/-! ## The conduits of a pilot -/

/-- The conduits that are installed. -/
structure Catalogue where
  conduits : List ConduitId
  nodup : conduits.Nodup
  apart : Apart {id | id ∈ conduits}
  defaultSyncType : ConduitId → SyncType

abbrev Catalogue.Conduit (cat : Catalogue) : Type := {id // id ∈ cat.conduits}

/-- The fields of `ConduitState` that a save depends on. -/
structure ConduitState where
  changed : Bool
  enabled : Bool
  syncType : SyncType
  firstSyncType : SyncType
  deriving DecidableEq

/-- `gnome_pilot_conduit_config_new`: the fields are 0. -/
def newConfig : ConduitConfig := ⟨.custom, .custom, false⟩

/-- A turn of the loop of `load_conduit_list`. -/
def loadConduitState (kf : KeyFile) (id : String) : ConduitState :=
  let config := (gnomePilotConduitConfigLoadConfig format kf id newConfig).2
  { changed := false
    enabled := isEnabled format kf id
    syncType := config.syncType
    firstSyncType := config.firstSyncType }

namespace ConduitState

/-- `gpcap_conduits_enable` -/
def enable (state : ConduitState) (defaultSyncType : SyncType) : ConduitState :=
  if defaultSyncType = .notSet then state
  else { state with changed := true, enabled := true, syncType := defaultSyncType }

/-- `gpcap_conduits_disable` -/
def disable (state : ConduitState) : ConduitState :=
  { state with enabled := false, changed := true }

/-- `gpcap_conduits_settings`, when OK was pressed. -/
def settings (syncType first : SyncType) : ConduitState :=
  { changed := true
    enabled := syncType ≠ .notSet
    syncType := syncType
    firstSyncType := first }

/-- A turn of the loop of `conduit_try_foreach`; the mark `changed` stays. -/
def tryForeach (state : ConduitState) : List Op :=
  (if state.changed && state.enabled then
    (if state.syncType = .custom then [.enable .custom]
      else [.enableWithFirstSync state.syncType state.firstSyncType true]) ++
    (if state.firstSyncType = .notSet then [.removeFirstSync] else [])
  else []) ++
  if state.changed && !state.enabled then [.disable] else []

end ConduitState

/-! ## The capplet and the daemon -/

/-- The file, the states of the capplet, and what the daemon loaded for the session. -/
structure State (cat : Catalogue) where
  file : KeyFile
  states : cat.Conduit → ConduitState
  loaded : cat.Conduit → Option ConduitConfig

/-- The capplet is opened on the page; no session was held since. -/
def start (cat : Catalogue) (kf : KeyFile) : State cat where
  file := kf
  states c := loadConduitState format kf c.1.text
  loaded _ := none

/-- What happens to the file.  `otherSave` is a save for a device, for a pilot, or for a
conduit of another pilot. -/
inductive Event (cat : Catalogue) where
  | enable (c : cat.Conduit)
  | disable (c : cat.Conduit)
  | settings (c : cat.Conduit) (syncType first : SyncType)
  | otherSave
  | session
  | syncDefault (c : cat.Conduit)

variable {format} {cat : Catalogue}

def saveCalls (states : cat.Conduit → ConduitState) (conduits : List cat.Conduit) : List Call :=
  conduits.flatMap fun c => (states c).tryForeach.map (Call.mk c.1)

variable (format)

namespace State

/-- `gpcap_save_state` -/
def save (s : State cat) : State cat :=
  { s with file := run format s.file (saveCalls s.states cat.conduits.attach) }

/-- A change at one conduit of the page, and the save that follows it. -/
def change (s : State cat) (c : cat.Conduit) (state : ConduitState) : State cat :=
  save format { s with states := Function.update s.states c state }

/-- `gpilot_load_conduits` -/
def session (s : State cat) : State cat :=
  { s with
    loaded := fun c =>
      if isEnabled format s.file c.1.text then some (loadConfig s.file c.1.text) else none }

/-- `conduit_sync_default`, as far as the file is concerned. -/
def syncDefault (s : State cat) (c : cat.Conduit) : State cat :=
  match s.loaded c with
  | none => s
  | some config =>
    if config.firstSyncType ≠ .notSet then
      { s with file := gnomePilotConduitConfigRemoveFirstSync format s.file c.1.text }
    else s

/-- The buttons of a conduit that is enabled, or is not, cannot be pressed. -/
def step (s : State cat) : Event cat → State cat
  | .enable c =>
    if (s.states c).enabled then s
    else s.change format c ((s.states c).enable (cat.defaultSyncType c))
  | .disable c =>
    if (s.states c).enabled then s.change format c (s.states c).disable else s
  | .settings c syncType first => s.change format c (.settings syncType first)
  | .otherSave => s.save format
  | .session => s.session format
  | .syncDefault c => s.syncDefault format c

end State

/-! ## What is wanted -/

/-- What the user wants of each conduit, and what the session carries out. -/
structure Purpose (cat : Catalogue) where
  view : cat.Conduit → View
  carried : cat.Conduit → Option ConduitConfig

namespace Purpose

def start (cat : Catalogue) (kf : KeyFile) : Purpose cat where
  view c := viewOf format kf c.1.text
  carried _ := none

variable {format}

def set (p : Purpose cat) (c : cat.Conduit) (v : View) : Purpose cat :=
  { p with view := Function.update p.view c v }

def SameFirst (config config' : ConduitConfig) : Prop :=
  config.firstSyncType = config'.firstSyncType ∧ config.firstSlow = config'.firstSlow

instance (config config' : ConduitConfig) : Decidable (SameFirst config config') :=
  inferInstanceAs (Decidable (_ ∧ _))

/-- A conduit is enabled without a first action; only the settings ask for one.  It is
wanted until a session has carried it out. -/
def step (p : Purpose cat) : Event cat → Purpose cat
  | .enable c =>
    if (p.view c).enabled || cat.defaultSyncType c = .notSet then p
    else p.set c ⟨true, cat.defaultSyncType c, .notSet, false⟩
  | .disable c => if (p.view c).enabled then p.set c ⟨false, unset⟩ else p
  | .settings c syncType first =>
    if syncType ≠ .notSet then p.set c ⟨true, syncType, first, first = .synchronize⟩
    else if (p.view c).enabled then p.set c ⟨false, unset⟩ else p
  | .otherSave => p
  | .session =>
    { p with carried := fun c => if (p.view c).enabled then some (p.view c).config else none }
  | .syncDefault c =>
    match p.carried c with
    | none => p
    | some config =>
      if config.firstSyncType ≠ .notSet ∧ (p.view c).enabled = true ∧
          SameFirst (p.view c).config config then
        p.set c ⟨true, (p.view c).config.unmarked⟩
      else p

end Purpose

/-! ## What a save does to a conduit -/

theorem callsOf_saveCalls (states : cat.Conduit → ConduitState) {conduits : List cat.Conduit}
    (hnodup : conduits.Nodup) (c : cat.Conduit) :
    callsOf c.1 (saveCalls states conduits) =
      if c ∈ conduits then (states c).tryForeach else [] := by
  induction conduits with
  | nil => rfl
  | cons d conduits ih =>
      have hhead : callsOf c.1 ((states d).tryForeach.map (Call.mk d.1)) =
          if d = c then (states d).tryForeach else [] := by
        unfold callsOf
        by_cases hdc : d = c
        · simp [hdc, List.filter_map, Function.comp_def]
        · have hid : d.1 ≠ c.1 := fun heq => hdc (Subtype.ext heq)
          simp [hdc, hid, List.filter_map, Function.comp_def]
      have happend : callsOf c.1 (saveCalls states (d :: conduits)) =
          callsOf c.1 ((states d).tryForeach.map (Call.mk d.1)) ++
            callsOf c.1 (saveCalls states conduits) := by
        simp [callsOf, saveCalls]
      rw [happend, hhead, ih hnodup.of_cons]
      by_cases hdc : d = c
      · have hnot : c ∉ conduits := hdc ▸ hnodup.notMem
        simp [hdc, hnot]
      · simp [hdc, Ne.symm hdc]

def ConduitState.apply (state : ConduitState) (v : View) : View :=
  state.tryForeach.foldl View.step v

theorem viewOf_save {s : State cat} (h : Listed format s.file) (c : cat.Conduit) :
    viewOf format (s.save format).file c.1.text =
      (s.states c).apply (viewOf format s.file c.1.text) := by
  have hcalls : ∀ call ∈ saveCalls s.states cat.conduits.attach,
      call.id ∈ {id | id ∈ cat.conduits} := by
    intro call hcall
    obtain ⟨d, hd, hcall⟩ := List.mem_flatMap.mp hcall
    obtain ⟨op, hop, rfl⟩ := List.mem_map.mp hcall
    exact d.2
  have hview := viewOf_run format cat.apart hcalls c.2 h
  rw [callsOf_saveCalls s.states (List.nodup_attach.mpr cat.nodup), if_pos (List.mem_attach _ c)]
    at hview
  exact hview

theorem listed_run {kf : KeyFile} (h : Listed format kf) (calls : List Call) :
    Listed format (run format kf calls) := by
  induction calls generalizing kf with
  | nil => exact h
  | cons call calls ih => exact ih (h.step format call)

namespace ConduitState

variable {state : ConduitState} {v : View}

theorem apply_of_unchanged (h : state.changed = false) : state.apply v = v := by
  simp [apply, tryForeach, h]

theorem apply_of_disabled (h : state.changed = true) (hoff : state.enabled = false) :
    state.apply v = if v.enabled then ⟨false, unset⟩ else v := by
  simp [apply, tryForeach, h, hoff, View.step]

theorem apply_of_custom (h : state.changed = true) (hon : state.enabled = true)
    (hcustom : state.syncType = .custom) :
    state.apply v = ⟨true,
      if state.firstSyncType = .notSet then { v.config with syncType := .custom }.unmarked
      else { v.config with syncType := .custom }⟩ := by
  by_cases hfirst : state.firstSyncType = .notSet <;>
    simp [apply, tryForeach, h, hon, hcustom, hfirst, View.step]

theorem apply_of_ne_custom (h : state.changed = true) (hon : state.enabled = true)
    (hcustom : state.syncType ≠ .custom) :
    state.apply v = ⟨true, state.syncType, state.firstSyncType,
      state.firstSyncType = .synchronize⟩ := by
  by_cases hfirst : state.firstSyncType = .notSet <;>
    simp [apply, tryForeach, h, hon, hcustom, hfirst, View.step, marked, ConduitConfig.unmarked]

theorem enabled_apply (h : state.changed = true) : (state.apply v).enabled = state.enabled := by
  by_cases hon : state.enabled = true
  · by_cases hcustom : state.syncType = .custom
    · rw [apply_of_custom h hon hcustom, hon]
    · rw [apply_of_ne_custom h hon hcustom, hon]
  · have hoff : state.enabled = false := by simpa using hon
    rw [apply_of_disabled h hoff, hoff]
    by_cases hv : v.enabled = true <;> simp [hv]

/-- A save that is repeated adds nothing. -/
theorem apply_apply (state : ConduitState) (v : View) :
    state.apply (state.apply v) = state.apply v := by
  by_cases h : state.changed = true
  · by_cases hon : state.enabled = true
    · by_cases hcustom : state.syncType = .custom
      · rw [apply_of_custom h hon hcustom, apply_of_custom h hon hcustom]
        by_cases hfirst : state.firstSyncType = .notSet <;>
          simp [hfirst, ConduitConfig.unmarked]
      · rw [apply_of_ne_custom h hon hcustom, apply_of_ne_custom h hon hcustom]
    · have hoff : state.enabled = false := by simpa using hon
      rw [apply_of_disabled h hoff, apply_of_disabled h hoff]
      by_cases hv : v.enabled = true <;> simp [hv]
  · rw [apply_of_unchanged (by simpa using h), apply_of_unchanged (by simpa using h)]

/-- The first action was asked for and has been carried out since. -/
def Spent (state : ConduitState) (v : View) : Prop :=
  state.enabled = true ∧ state.syncType ≠ .custom ∧ state.firstSyncType ≠ .notSet ∧
    v = ⟨true, state.syncType, .notSet, false⟩

/-- A changed conduit is in the file as it was saved, or its first action is spent. -/
def Settled (state : ConduitState) (v : View) : Prop :=
  state.changed = true → state.apply v = v ∨ state.Spent v

/-- Saving the conduit again does no harm: a first action that was asked for is still to
be carried out. -/
def Pending (state : ConduitState) (v : View) : Prop :=
  state.changed = true → state.enabled = true → state.syncType ≠ .custom →
    state.firstSyncType ≠ .notSet → v.config.firstSyncType ≠ .notSet

theorem Settled.apply_eq_iff (h : state.Settled v) : state.apply v = v ↔ state.Pending v := by
  constructor
  · intro heq hchanged hon hcustom hfirst
    rw [apply_of_ne_custom hchanged hon hcustom] at heq
    rw [← heq]
    exact hfirst
  · intro hpending
    by_cases hchanged : state.changed = true
    · rcases h hchanged with heq | ⟨hon, hcustom, hfirst, rfl⟩
      · exact heq
      · exact absurd rfl (hpending hchanged hon hcustom hfirst)
    · exact apply_of_unchanged (by simpa using hchanged)

/-- A session that carries out the first action leaves the conduit settled. -/
theorem Settled.unmarked (h : state.Settled v) (hv : v.enabled = true) :
    state.Settled ⟨true, v.config.unmarked⟩ := by
  intro hchanged
  have hon : state.enabled = true := by
    rcases h hchanged with heq | hspent
    · rw [← enabled_apply hchanged (v := v), heq, hv]
    · exact hspent.1
  by_cases hcustom : state.syncType = .custom
  · left
    have hsync : v.config.syncType = .custom := by
      rcases h hchanged with heq | hspent
      · rw [apply_of_custom hchanged hon hcustom] at heq
        rw [← heq]
        by_cases hfirst : state.firstSyncType = .notSet <;>
          simp [hfirst, ConduitConfig.unmarked]
      · exact absurd hcustom hspent.2.1
    rw [apply_of_custom hchanged hon hcustom]
    by_cases hfirst : state.firstSyncType = .notSet <;>
      simp [hfirst, ConduitConfig.unmarked, hsync]
  · have hsync : v.config.syncType = state.syncType := by
      rcases h hchanged with heq | ⟨_, _, _, rfl⟩
      · rw [apply_of_ne_custom hchanged hon hcustom] at heq
        rw [← heq]
      · rfl
    by_cases hfirst : state.firstSyncType = .notSet
    · left
      rw [apply_of_ne_custom hchanged hon hcustom]
      simp [hfirst, ConduitConfig.unmarked, hsync]
    · right
      exact ⟨hon, hcustom, hfirst, by simp [ConduitConfig.unmarked, hsync]⟩

end ConduitState

/-! ## Runs -/

/-- The file says of every conduit what is wanted. -/
def Wanted (x : State cat × Purpose cat) : Prop :=
  ∀ c, viewOf format x.1.file c.1.text = x.2.view c

/-- Both at once. -/
def stepBoth (x : State cat × Purpose cat) (event : Event cat) : State cat × Purpose cat :=
  (x.1.step format event, x.2.step event)

def startBoth (cat : Catalogue) (kf : KeyFile) : State cat × Purpose cat :=
  (start format cat kf, Purpose.start format cat kf)

variable {format}

def OthersPending (x : State cat × Purpose cat) (c : cat.Conduit) : Prop :=
  ∀ d, d ≠ c → (x.1.states d).Pending (x.2.view d)

/-- No save brings back a first action that was carried out.  A conduit that is enabled is not
remembered with a first action, which one that was never configured is with `custom`, or is
enabled as `custom`, for which none is written; nor do the settings ask for one then.  No
session removes a first action that it has not loaded. -/
def Harmless (x : State cat × Purpose cat) : Event cat → Prop
  | .enable c => (x.1.states c).enabled = false → OthersPending x c ∧
      (cat.defaultSyncType c = .notSet ∨ (x.1.states c).firstSyncType = .notSet ∨
        cat.defaultSyncType c = .custom ∧
          (x.2.view c).config.firstSyncType = .notSet ∧ (x.2.view c).config.firstSlow = false)
  | .disable c => (x.1.states c).enabled = true → OthersPending x c
  | .settings c syncType first => OthersPending x c ∧
      (syncType = .custom → first = .notSet ∨ (x.2.view c).config.firstSyncType = first ∧
        (x.2.view c).config.firstSlow = decide (first = .synchronize))
  | .otherSave => ∀ d, (x.1.states d).Pending (x.2.view d)
  | .session => True
  | .syncDefault c => ∀ config, x.1.loaded c = some config → config.firstSyncType ≠ .notSet →
      (x.2.view c).enabled = true → Purpose.SameFirst (x.2.view c).config config ∨
        (x.2.view c).config.firstSyncType = .notSet ∧ (x.2.view c).config.firstSlow = false

variable (format)

structure Inv (x : State cat × Purpose cat) : Prop where
  listed : Listed format x.1.file
  wanted : Wanted format x
  loaded : x.1.loaded = x.2.carried
  enabled : ∀ c, (x.1.states c).enabled = (x.2.view c).enabled
  settled : ∀ c, (x.1.states c).Settled (x.2.view c)

theorem inv_startBoth (cat : Catalogue) {kf : KeyFile} (h : Listed format kf) :
    Inv format (startBoth format cat kf) where
  listed := h
  wanted _ := rfl
  loaded := rfl
  enabled _ := rfl
  settled _ := fun hchanged => Bool.noConfusion hchanged

variable {format} {x : State cat × Purpose cat}

theorem Purpose.view_set (p : Purpose cat) (c : cat.Conduit) (v : View) :
    (p.set c v).view c = v := by
  simp [Purpose.set]

theorem Purpose.view_set_of_ne (p : Purpose cat) {c d : cat.Conduit} (h : d ≠ c) (v : View) :
    (p.set c v).view d = p.view d := by
  simp [Purpose.set, h]

theorem Purpose.set_view (p : Purpose cat) (c : cat.Conduit) : p.set c (p.view c) = p := by
  simp [Purpose.set]

theorem wanted_change_iff (h : Inv format x) (c : cat.Conduit) (state : ConduitState) (v : View) :
    (∀ d, viewOf format (x.1.change format c state).file d.1.text = (x.2.set c v).view d) ↔
      OthersPending x c ∧ state.apply (x.2.view c) = v := by
  have hview : ∀ d, viewOf format (x.1.change format c state).file d.1.text =
      (Function.update x.1.states c state d).apply (x.2.view d) := by
    intro d
    rw [← h.wanted d]
    let s : State cat := { x.1 with states := Function.update x.1.states c state }
    exact viewOf_save format (s := s) h.listed d
  constructor
  · intro hall
    constructor
    · intro d hd
      have heq := (hview d).symm.trans (hall d)
      rw [Function.update_of_ne hd, Purpose.view_set_of_ne _ hd] at heq
      exact (h.settled d).apply_eq_iff.mp heq
    · have heq := (hview c).symm.trans (hall c)
      rwa [Function.update_self, Purpose.view_set] at heq
  · intro ⟨hothers, hc⟩ d
    rw [hview d]
    by_cases hd : d = c
    · rw [hd, Function.update_self, Purpose.view_set, hc]
    · rw [Function.update_of_ne hd, Purpose.view_set_of_ne _ hd]
      exact (h.settled d).apply_eq_iff.mpr (hothers d hd)

/-- What is not carried out is in the file as before. -/
theorem wanted_otherSave_iff (h : Inv format x) :
    Wanted format (x.1.save format, x.2) ↔ ∀ d, (x.1.states d).Pending (x.2.view d) := by
  apply forall_congr'
  intro d
  have hview := viewOf_save format h.listed d
  rw [h.wanted d] at hview
  exact (Eq.congr_left hview).trans (h.settled d).apply_eq_iff

theorem enable_apply_iff {state : ConduitState} {v : View} {default : SyncType}
    (hdefault : default ≠ .notSet) :
    (state.enable default).apply v = ⟨true, default, .notSet, false⟩ ↔
      state.firstSyncType = .notSet ∨ default = .custom ∧
        v.config.firstSyncType = .notSet ∧ v.config.firstSlow = false := by
  have henable : state.enable default =
      { state with changed := true, enabled := true, syncType := default } := if_neg hdefault
  rw [henable]
  by_cases hcustom : default = .custom
  · rw [ConduitState.apply_of_custom rfl rfl hcustom]
    by_cases hfirst : state.firstSyncType = .notSet <;>
      simp [hfirst, hcustom, ConduitConfig.unmarked]
  · rw [ConduitState.apply_of_ne_custom rfl rfl hcustom]
    by_cases hfirst : state.firstSyncType = .notSet <;> simp [hfirst, hcustom]

theorem settings_apply_iff {v : View} {syncType first : SyncType} (hsync : syncType ≠ .notSet) :
    (ConduitState.settings syncType first).apply v =
        ⟨true, syncType, first, first = .synchronize⟩ ↔
      (syncType = .custom → first = .notSet ∨ v.config.firstSyncType = first ∧
        v.config.firstSlow = decide (first = .synchronize)) := by
  have hon : (ConduitState.settings syncType first).enabled = true := by
    simp [ConduitState.settings, hsync]
  by_cases hcustom : syncType = .custom
  · rw [ConduitState.apply_of_custom rfl hon hcustom]
    by_cases hfirst : first = .notSet <;>
      simp [ConduitState.settings, hfirst, hcustom, ConduitConfig.unmarked]
  · rw [ConduitState.apply_of_ne_custom rfl hon hcustom]
    simp [ConduitState.settings, hcustom]

theorem Inv.change (h : Inv format x) {c : cat.Conduit} {state : ConduitState} {v : View}
    (hothers : OthersPending x c) (happly : state.apply (x.2.view c) = v)
    (hon : state.enabled = v.enabled) :
    Inv format (x.1.change format c state, x.2.set c v) where
  listed := listed_run format h.listed _
  wanted := (wanted_change_iff h c state v).mpr ⟨hothers, happly⟩
  loaded := h.loaded
  enabled d := by
    change (Function.update x.1.states c state d).enabled = ((x.2.set c v).view d).enabled
    by_cases hd : d = c
    · rw [hd, Function.update_self, Purpose.view_set, hon]
    · rw [Function.update_of_ne hd, Purpose.view_set_of_ne _ hd, h.enabled d]
  settled d := by
    change (Function.update x.1.states c state d).Settled ((x.2.set c v).view d)
    by_cases hd : d = c
    · rw [hd, Function.update_self, Purpose.view_set, ← happly]
      exact fun _ => Or.inl (state.apply_apply _)
    · rw [Function.update_of_ne hd, Purpose.view_set_of_ne _ hd]
      exact h.settled d

theorem step_enable (h : Inv format x) (c : cat.Conduit) :
    (x.1.states c).enabled = true ∧ stepBoth format x (.enable c) = x ∨
    (x.1.states c).enabled = false ∧
      stepBoth format x (.enable c) =
        (x.1.change format c ((x.1.states c).enable (cat.defaultSyncType c)),
          x.2.set c (if cat.defaultSyncType c = .notSet then x.2.view c
            else ⟨true, cat.defaultSyncType c, .notSet, false⟩)) := by
  have hview := h.enabled c
  cases hon : (x.1.states c).enabled with
  | true =>
      rw [hon] at hview
      left
      exact ⟨rfl, by simp [stepBoth, State.step, Purpose.step, hon, ← hview]⟩
  | false =>
      rw [hon] at hview
      right
      refine ⟨rfl, ?_⟩
      by_cases hdefault : cat.defaultSyncType c = .notSet
      · simp [stepBoth, State.step, Purpose.step, hon, ← hview, hdefault, Purpose.set_view]
      · simp [stepBoth, State.step, Purpose.step, hon, ← hview, hdefault]

theorem step_disable (h : Inv format x) (c : cat.Conduit) :
    (x.1.states c).enabled = false ∧ stepBoth format x (.disable c) = x ∨
    (x.1.states c).enabled = true ∧ stepBoth format x (.disable c) =
        (x.1.change format c (x.1.states c).disable, x.2.set c ⟨false, unset⟩) := by
  have hview := h.enabled c
  cases hon : (x.1.states c).enabled with
  | false =>
      rw [hon] at hview
      left
      exact ⟨rfl, by simp [stepBoth, State.step, Purpose.step, hon, ← hview]⟩
  | true =>
      rw [hon] at hview
      right
      exact ⟨rfl, by simp [stepBoth, State.step, Purpose.step, hon, ← hview]⟩

def settingsView (v : View) (syncType first : SyncType) : View :=
  if syncType ≠ .notSet then ⟨true, syncType, first, first = .synchronize⟩
  else if v.enabled then ⟨false, unset⟩ else v

theorem step_settings (c : cat.Conduit) (syncType first : SyncType) :
    stepBoth format x (.settings c syncType first) =
      (x.1.change format c (.settings syncType first),
        x.2.set c (settingsView (x.2.view c) syncType first)) := by
  unfold stepBoth State.step Purpose.step settingsView
  by_cases hsync : syncType = .notSet
  · by_cases hv : (x.2.view c).enabled = true <;> simp [hsync, hv, Purpose.set_view]
  · simp [hsync]

theorem settingsView_apply_iff {v : View} {syncType first : SyncType} :
    (ConduitState.settings syncType first).apply v = settingsView v syncType first ↔
      (syncType = .custom → first = .notSet ∨ v.config.firstSyncType = first ∧
        v.config.firstSlow = decide (first = .synchronize)) := by
  unfold settingsView
  by_cases hsync : syncType = .notSet
  · have hoff : (ConduitState.settings syncType first).enabled = false := by
      simp [ConduitState.settings, hsync]
    rw [ConduitState.apply_of_disabled rfl hoff]
    simp [hsync]
  · rw [if_pos hsync]
    exact settings_apply_iff hsync

theorem enabled_settingsView {v : View} {syncType first : SyncType} :
    (ConduitState.settings syncType first).enabled =
      (settingsView v syncType first).enabled := by
  unfold settingsView ConduitState.settings
  by_cases hsync : syncType = .notSet
  · by_cases hv : v.enabled = true <;> simp [hsync, hv]
  · simp [hsync]

theorem enableView_apply_iff (h : Inv format x) {c : cat.Conduit}
    (hoff : (x.1.states c).enabled = false) :
    ((x.1.states c).enable (cat.defaultSyncType c)).apply (x.2.view c) =
        (if cat.defaultSyncType c = .notSet then x.2.view c
          else ⟨true, cat.defaultSyncType c, .notSet, false⟩) ↔
      cat.defaultSyncType c = .notSet ∨ (x.1.states c).firstSyncType = .notSet ∨
        cat.defaultSyncType c = .custom ∧
          (x.2.view c).config.firstSyncType = .notSet ∧
            (x.2.view c).config.firstSlow = false := by
  by_cases hdefault : cat.defaultSyncType c = .notSet
  · have hpending : (x.1.states c).Pending (x.2.view c) :=
      fun _ hon => Bool.noConfusion (hon.symm.trans hoff)
    have hsame : (x.1.states c).enable (cat.defaultSyncType c) = x.1.states c := if_pos hdefault
    rw [if_pos hdefault, hsame, (h.settled c).apply_eq_iff]
    simp [hpending, hdefault]
  · rw [if_neg hdefault, enable_apply_iff hdefault, or_iff_right hdefault]

theorem disable_apply {state : ConduitState} {v : View} (hv : v.enabled = true) :
    state.disable.apply v = ⟨false, unset⟩ := by
  rw [ConduitState.apply_of_disabled rfl rfl, if_pos hv]

theorem wanted_remove_iff (h : Inv format x) (c : cat.Conduit) (v : View) :
    (∀ d, viewOf format (gnomePilotConduitConfigRemoveFirstSync format x.1.file c.1.text)
        d.1.text = (x.2.set c v).view d) ↔ (x.2.view c).step .removeFirstSync = v := by
  have hself := viewOf_step_self format h.listed ⟨c.1, .removeFirstSync⟩
  have hother : ∀ d, d ≠ c → viewOf format (step format x.1.file ⟨c.1, .removeFirstSync⟩)
      d.1.text = viewOf format x.1.file d.1.text := by
    intro d hd
    have hid : (⟨c.1, .removeFirstSync⟩ : Call).id ∈ {id | id ∈ cat.conduits} := c.2
    exact viewOf_step_of_ne format cat.apart h.listed hid d.2 fun heq => hd (Subtype.ext heq)
  rw [h.wanted c] at hself
  constructor
  · intro hall
    have hc := hself.symm.trans (hall c)
    rwa [Purpose.view_set] at hc
  · intro hc d
    by_cases hd : d = c
    · rw [hd, Purpose.view_set]
      exact hself.trans hc
    · rw [Purpose.view_set_of_ne _ hd, ← h.wanted d]
      exact hother d hd

def carriedView (v : View) (config : ConduitConfig) : View :=
  if v.enabled = true ∧ Purpose.SameFirst v.config config then ⟨true, v.config.unmarked⟩ else v

theorem step_syncDefault (h : Inv format x) (c : cat.Conduit) :
    (∀ config, x.1.loaded c = some config → config.firstSyncType = .notSet) ∧
        stepBoth format x (.syncDefault c) = x ∨
    ∃ config, x.1.loaded c = some config ∧ config.firstSyncType ≠ .notSet ∧
      stepBoth format x (.syncDefault c) =
        ({ x.1 with
            file := gnomePilotConduitConfigRemoveFirstSync format x.1.file c.1.text },
          x.2.set c (carriedView (x.2.view c) config)) := by
  have hcarried : x.2.carried c = x.1.loaded c := congrFun h.loaded.symm c
  unfold stepBoth State.step State.syncDefault Purpose.step carriedView
  cases hloaded : x.1.loaded c with
  | none =>
      left
      simp [hcarried, hloaded]
  | some config =>
      by_cases hfirst : config.firstSyncType = .notSet
      · left
        simp [hcarried, hloaded, hfirst]
      · right
        refine ⟨config, rfl, hfirst, ?_⟩
        by_cases hsame : (x.2.view c).enabled = true ∧
            Purpose.SameFirst (x.2.view c).config config
        · simp [hcarried, hloaded, hfirst, hsame]
        · simp [hcarried, hloaded, hfirst, hsame, Purpose.set_view]

theorem carriedView_iff {v : View} {config : ConduitConfig} :
    v.step .removeFirstSync = carriedView v config ↔
      (v.enabled = true → Purpose.SameFirst v.config config ∨
        v.config.firstSyncType = .notSet ∧ v.config.firstSlow = false) := by
  unfold carriedView View.step
  by_cases hv : v.enabled = true
  · by_cases hsame : Purpose.SameFirst v.config config
    · simp [hv, hsame]
    · obtain ⟨enabled, syncType, first, slow⟩ := v
      cases hv
      simp [hsame, ConduitConfig.unmarked, eq_comm]
  · simp [hv]

theorem wanted_stepBoth_iff (h : Inv format x) (event : Event cat) :
    Wanted format (stepBoth format x event) ↔ Harmless x event := by
  cases event with
  | enable c =>
      rcases step_enable h c with ⟨hon, hstep⟩ | ⟨hoff, hstep⟩
      · rw [hstep]
        exact iff_of_true h.wanted fun hoff => Bool.noConfusion (hon.symm.trans hoff)
      · rw [hstep]
        refine (wanted_change_iff h c _ _).trans ?_
        rw [enableView_apply_iff h hoff]
        exact ⟨fun hboth _ => hboth, fun hboth => hboth hoff⟩
  | disable c =>
      rcases step_disable h c with ⟨hoff, hstep⟩ | ⟨hon, hstep⟩
      · rw [hstep]
        exact iff_of_true h.wanted fun hon => Bool.noConfusion (hon.symm.trans hoff)
      · rw [hstep]
        refine (wanted_change_iff h c _ _).trans ?_
        have happly : (x.1.states c).disable.apply _ = _ :=
          disable_apply ((h.enabled c).symm.trans hon)
        exact ⟨fun hboth _ => hboth.1, fun hothers => ⟨hothers hon, happly⟩⟩
  | settings c syncType first =>
      rw [step_settings]
      refine (wanted_change_iff h c _ _).trans ?_
      rw [settingsView_apply_iff]
      exact Iff.rfl
  | otherSave => exact wanted_otherSave_iff h
  | session => exact iff_of_true h.wanted trivial
  | syncDefault c =>
      rcases step_syncDefault h c with ⟨hnone, hstep⟩ | ⟨config, hloaded, hfirst, hstep⟩
      · rw [hstep]
        exact iff_of_true h.wanted fun config hloaded hfirst =>
          absurd (hnone config hloaded) hfirst
      · rw [hstep]
        refine (wanted_remove_iff h c _).trans ?_
        rw [carriedView_iff]
        constructor
        · intro hc config' hloaded' _
          cases hloaded.symm.trans hloaded'
          exact hc
        · intro hc
          exact hc config hloaded hfirst

theorem Inv.syncDefault (h : Inv format x) {c : cat.Conduit}
    (hok : Harmless x (.syncDefault c)) : Inv format (stepBoth format x (.syncDefault c)) := by
  have hwanted := (wanted_stepBoth_iff h (.syncDefault c)).mpr hok
  rcases step_syncDefault h c with ⟨_, hstep⟩ | ⟨config, _, _, hstep⟩
  · rw [hstep]
    exact h
  · rw [hstep] at hwanted ⊢
    have hview : ∀ d, (x.2.set c (carriedView (x.2.view c) config)).view d = x.2.view d ∨
        (x.2.view d).enabled = true ∧
          (x.2.set c (carriedView (x.2.view c) config)).view d =
            ⟨true, (x.2.view d).config.unmarked⟩ := by
      intro d
      by_cases hd : d = c
      · rw [hd, Purpose.view_set]
        unfold carriedView
        split
        · exact Or.inr ⟨(‹_ ∧ _›).1, rfl⟩
        · exact Or.inl rfl
      · exact Or.inl (Purpose.view_set_of_ne _ hd _)
    have hlisted : Listed format (step format x.1.file ⟨c.1, .removeFirstSync⟩) :=
      h.listed.step format _
    refine ⟨hlisted, hwanted, h.loaded, fun d => ?_, fun d => ?_⟩
    · rcases hview d with hsame | ⟨hv, hmarked⟩
      · rw [hsame]
        exact h.enabled d
      · rw [hmarked]
        exact (h.enabled d).trans hv
    · rcases hview d with hsame | ⟨hv, hmarked⟩
      · rw [hsame]
        exact h.settled d
      · rw [hmarked]
        exact (h.settled d).unmarked hv

theorem Inv.stepBoth (h : Inv format x) {event : Event cat} (hok : Harmless x event) :
    Inv format (stepBoth format x event) := by
  cases event with
  | enable c =>
      rcases step_enable h c with ⟨hon, hstep⟩ | ⟨hoff, hstep⟩
      · rw [hstep]
        exact h
      · rw [hstep]
        refine h.change (hok hoff).1 ((enableView_apply_iff h hoff).mpr (hok hoff).2) ?_
        have hview := (h.enabled c).symm.trans hoff
        unfold ConduitState.enable
        by_cases hdefault : cat.defaultSyncType c = .notSet <;> simp [hdefault, hoff, hview]
  | disable c =>
      rcases step_disable h c with ⟨hoff, hstep⟩ | ⟨hon, hstep⟩
      · rw [hstep]
        exact h
      · rw [hstep]
        exact h.change (hok hon) (disable_apply ((h.enabled c).symm.trans hon)) rfl
  | settings c syncType first =>
      rw [step_settings]
      exact h.change hok.1 (settingsView_apply_iff.mpr hok.2) enabled_settingsView
  | otherSave =>
      exact ⟨listed_run format h.listed _, (wanted_otherSave_iff h).mpr hok, h.loaded, h.enabled,
        h.settled⟩
  | session =>
      refine ⟨h.listed, h.wanted, ?_, h.enabled, h.settled⟩
      funext c
      have hview := h.wanted c
      change (if isEnabled format x.1.file c.1.text then some _ else none) =
        if (x.2.view c).enabled then some (x.2.view c).config else none
      rw [← hview]
      rfl
  | syncDefault c => exact h.syncDefault hok

/-- In a run of the capplet and the daemon the file says throughout what is wanted of
every conduit exactly when every event is harmless. -/
theorem alwaysWanted_iff (cat : Catalogue) {kf : KeyFile} (h : Listed format kf)
    (events : List (Event cat)) :
    History.Always (stepBoth format) (Wanted format) (startBoth format cat kf) events ↔
      History.Allowed (stepBoth format) Harmless (startBoth format cat kf) events :=
  History.always_iff_allowed (Inv format) (fun _ hinv => hinv.wanted)
    (fun _ _ hinv hok => hinv.stepBoth hok)
    (fun _ event hinv hnot hwanted => hnot ((wanted_stepBoth_iff hinv event).mp hwanted))
    (inv_startBoth format cat h)

theorem plain_memo : Plain ' ' "e_memo_conduit" := by decide

def memo : ConduitId := ⟨"e_memo_conduit", plain_memo⟩

theorem apart_memo : Apart {id | id ∈ [memo]} := by
  have hmemo : ∀ id ∈ {id | id ∈ [memo]}, id = memo := fun _ hid => List.mem_singleton.mp hid
  exact ⟨fun a ha b hb _ => (hmemo b hb).trans (hmemo a ha).symm,
    fun a ha _ b hb => (hmemo b hb).trans (hmemo a ha).symm⟩

def memoOnly : Catalogue where
  conduits := [memo]
  nodup := List.nodup_singleton memo
  apart := apart_memo
  defaultSyncType _ := .synchronize

theorem memo_mem : memo ∈ memoOnly.conduits := List.mem_singleton.mpr rfl

def memoCopied : List (Event memoOnly) :=
  [.settings ⟨memo, memo_mem⟩ .synchronize .copyFromPilot, .session, .syncDefault ⟨memo, memo_mem⟩]

theorem eq_memo (c : memoOnly.Conduit) : c = ⟨memo, memo_mem⟩ :=
  Subtype.ext (List.mem_singleton.mp c.2)

/-- The next save, for a device perhaps, brings the copy back. -/
theorem alwaysWanted_memoCopied :
    let both := startBoth (.separated ' ') memoOnly .empty
    History.Always (stepBoth (.separated ' ')) (Wanted (.separated ' ')) both memoCopied ∧
      ¬ History.Always (stepBoth (.separated ' ')) (Wanted (.separated ' ')) both
        (memoCopied ++ [.otherSave]) := by
  intro both
  have hempty := listed_empty (.separated ' ')
  have hothers : ∀ x : State memoOnly × Purpose memoOnly, OthersPending x ⟨memo, memo_mem⟩ :=
    fun x d hd => absurd (eq_memo d) hd
  have hcopied : History.Allowed (stepBoth (.separated ' ')) Harmless both memoCopied := by
    refine ⟨⟨hothers _, fun h => SyncType.noConfusion h⟩, trivial, ?_, trivial⟩
    intro config hloaded _ _
    left
    have hconfig : some config = some ⟨.synchronize, .copyFromPilot, false⟩ :=
      hloaded.symm.trans (by decide +kernel)
    rw [Option.some.inj hconfig]
    decide +kernel
  constructor
  · exact (alwaysWanted_iff memoOnly hempty memoCopied).mpr hcopied
  · rw [alwaysWanted_iff memoOnly hempty, History.allowed_append]
    intro h
    have hpending := h.2.1 ⟨memo, memo_mem⟩
    exact absurd (by decide +kernel) (hpending (by decide +kernel) (by decide +kernel)
      (by decide +kernel) (by decide +kernel))

end GnomePilot.Capplet.Conduits
