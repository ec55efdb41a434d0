import Mathlib.Logic.Function.Iterate

/-!
# The tray and the daemon

The tray shows whether the daemon waits, synchronises or is paused.  It asks for nothing
but the pilots' names and goes by the signals, which are under way for some time.
This is the tray, the daemon as it sees it, and what the signals do to its state.
-/

namespace GnomePilot.Applet

/-! ## The tray -/

/-- `state` -/
inductive TrayState where
  | initialising | paused | connectingToDaemon | syncing | waiting
  deriving DecidableEq, Repr

/-- `icon_names` -/
def iconName : TrayState → String
  | .initialising => "sync_broken"
  | .paused => "sync_paused"
  | .connectingToDaemon => "sync_icon"
  | .syncing => "syncing_icon"
  | .waiting => "sync_icon"

/-- `TrayApplet`.  `handlers` counts how often the client's callback is connected to its
proxy, which is there once it was connected first; `timeouts` are the sources that call
`timeout_cb`, `dialogs` the texts that were shown. -/
structure Tray where
  curstate : TrayState
  currentIconName : String
  tooltipText : String
  handlers : Nat
  pilotIds : List String
  druidAlreadyLaunched : Bool
  timeouts : Nat
  dialogs : List String
  deriving DecidableEq, Repr

namespace Tray

def appActivate : Tray where
  curstate := .initialising
  currentIconName := iconName .initialising
  tooltipText := "Trying to connect to the GnomePilot Daemon"
  handlers := 0
  pilotIds := []
  druidAlreadyLaunched := false
  timeouts := 1
  dialogs := []

/-- `tray_draw` -/
def draw (t : Tray) : Tray := { t with currentIconName := iconName t.curstate }

def sniSetTooltip (t : Tray) (text : String) : Tray := { t with tooltipText := text }

def showDialog (t : Tray) (text : String) : Tray := { t with dialogs := t.dialogs ++ [text] }

def gpilotdConnectCb (t : Tray) : Tray :=
  draw { t.sniSetTooltip "Synchronizing..." with curstate := .syncing }

def gpilotdDisconnectCb (t : Tray) : Tray :=
  draw { t.sniSetTooltip "Ready to synchronize" with curstate := .waiting }

def handleClientError (t : Tray) : Tray :=
  if t.curstate = .syncing then
    t.showDialog "PDA is currently synchronizing.\nPlease wait for it to finish."
  else
    (draw (sniSetTooltip { t with curstate := .initialising }
      "Not connected. Please restart daemon.")).showDialog
        "Not connected to gpilotd.\nPlease restart daemon."

def gpilotdDaemonPause (t : Tray) (onOff : Bool) : Tray :=
  if onOff then
    if t.curstate = .waiting then
      draw (sniSetTooltip { t with curstate := .paused } "Daemon paused...")
    else draw t.handleClientError
  else draw (sniSetTooltip { t with curstate := .waiting } "Ready to synchronize")

/-- `gnome_pilot_client_connect_to_daemon`: the callback is connected each time; `made`
says whether a proxy that is not there yet can be made. -/
def connectToDaemon (t : Tray) (made : Bool) : Bool × Tray :=
  if t.handlers = 0 ∧ made = false then (false, t)
  else (true, { t with handlers := t.handlers + 1 })

/-- The part of `timeout_cb` for a tray that just connected, with the answer to
`gnome_pilot_client_get_pilots`. -/
def getPilots (t : Tray) (pilots : List String) : Tray :=
  let t := { t with pilotIds := pilots }
  if pilots = [] then
    let t := t.sniSetTooltip "Not connected. Restart daemon to reconnect"
    draw { t with druidAlreadyLaunched := true, curstate := .initialising }
  else draw { t.sniSetTooltip "Ready to synchronize" with curstate := .waiting }

/-- `timeout_cb`: `gnome_pilot_client_noop` has no connection only without a proxy. -/
def timeoutCb (t : Tray) (made : Bool) (pilots : List String) : Tray :=
  let t :=
    if t.curstate = .initialising then
      let (connected, t) := t.draw.connectToDaemon made
      if connected then draw { t with curstate := .connectingToDaemon } else t
    else t
  let t := if t.curstate = .connectingToDaemon then t.getPilots pilots else t
  if t.curstate = .waiting ∧ t.handlers = 0 then { t with curstate := .initialising } else t

/-- `do_restart_daemon`, after the daemon was killed. -/
def doRestartDaemon (t : Tray) (made : Bool) : Tray :=
  let t := (connectToDaemon { t with curstate := .initialising } made).2
  let t := t.sniSetTooltip "Trying to connect to the GnomePilot Daemon"
  { t with timeouts := t.timeouts + 1 }

end Tray

/-! ## The daemon and the signals -/

/-- What the daemon does.  It answers no call while it synchronises. -/
inductive DaemonMode where
  | idle | syncing | paused
  deriving DecidableEq, Repr

/-- The signals that change the state of the tray. -/
inductive Signal where
  | connected
  | disconnected
  | paused (onOff : Bool)
  deriving DecidableEq, Repr

def Tray.receive (t : Tray) : Signal → Tray
  | .connected => t.gpilotdConnectCb
  | .disconnected => t.gpilotdDisconnectCb
  | .paused onOff => t.gpilotdDaemonPause onOff

/-- The signals under way are oldest first. -/
structure System where
  daemon : DaemonMode
  inFlight : List Signal
  tray : Tray
  deriving DecidableEq, Repr

def System.start : System := ⟨.idle, [], .appActivate⟩

namespace System

/-- A proxy gets what is emitted after it was made. -/
def emit (s : System) (daemon : DaemonMode) (signal : Signal) : System :=
  { s with
    daemon := daemon
    inFlight := if s.tray.handlers = 0 then s.inFlight else s.inFlight ++ [signal] }

def gpilotDaemonPause (s : System) (onOff : Bool) : System :=
  match s.daemon, onOff with
  | .idle, true => s.emit .paused (.paused true)
  | .paused, false => s.emit .idle (.paused false)
  | _, _ => s

/-- `menu_state_cb`: the call fails at a daemon that does not answer. -/
def menuStateCb (s : System) (answers : Bool) : System :=
  if answers = true ∧ s.daemon ≠ .syncing ∧ s.tray.handlers ≠ 0 then
    s.gpilotDaemonPause (s.tray.curstate = .waiting)
  else { s with tray := s.tray.handleClientError }

end System

/-- What happens: a session begins or ends, a client pauses the daemon, a signal arrives, a
timeout runs out, or an item of the menu is chosen.  A pilot is only offered for a restore
by a tray that waits, and `pid` says whether there is a daemon to be killed. -/
inductive TrayOp where
  | connect
  | disconnect
  | pause (onOff : Bool)
  | deliver
  | timeout (made : Bool) (pilots : List String)
  | menuState (answers : Bool)
  | menuRestore (answers : Bool)
  | restart (pid made : Bool)
  deriving DecidableEq, Repr

namespace System

def deliver (s : System) : System :=
  match s.inFlight with
  | [] => s
  | signal :: rest =>
    { s with inFlight := rest, tray := (fun t => t.receive signal)^[s.tray.handlers] s.tray }

def step (s : System) : TrayOp → System
  | .connect => if s.daemon = .idle then s.emit .syncing .connected else s
  | .disconnect => if s.daemon = .syncing then s.emit .idle .disconnected else s
  | .pause onOff => s.gpilotDaemonPause onOff
  | .deliver => s.deliver
  | .timeout made pilots => { s with tray := s.tray.timeoutCb made pilots }
  | .menuState answers => s.menuStateCb answers
  | .menuRestore answers =>
    if s.tray.curstate = .waiting ∧ answers = true then s
    else { s with tray := s.tray.handleClientError }
  | .restart pid made =>
    { s with
      daemon := if pid then .idle else s.daemon
      tray := s.tray.doRestartDaemon made }

end System

/-! ## What a signal does to the state -/

def TrayState.next : TrayState → Signal → TrayState
  | _, .connected => .syncing
  | _, .disconnected => .waiting
  | _, .paused false => .waiting
  | .waiting, .paused true => .paused
  | .syncing, .paused true => .syncing
  | _, .paused true => .initialising

theorem curstate_handleClientError (t : Tray) :
    t.handleClientError.curstate =
      if t.curstate = .syncing then .syncing else .initialising := by
  unfold Tray.handleClientError
  split <;> simp_all [Tray.showDialog, Tray.draw, Tray.sniSetTooltip]

theorem handlers_handleClientError (t : Tray) : t.handleClientError.handlers = t.handlers := by
  unfold Tray.handleClientError
  split <;> rfl

theorem curstate_receive (t : Tray) (signal : Signal) :
    (t.receive signal).curstate = t.curstate.next signal := by
  cases signal with
  | connected => rfl
  | disconnected => rfl
  | paused onOff =>
      cases onOff with
      | false => rfl
      | true =>
          change (if t.curstate = .waiting then _ else t.handleClientError.draw).curstate = _
          have herror : t.handleClientError.draw.curstate = t.handleClientError.curstate := rfl
          split
          · rename_i hwaiting
            rw [hwaiting]
            rfl
          · rw [herror, curstate_handleClientError]
            cases hstate : t.curstate <;> simp_all [TrayState.next]

theorem handlers_receive (t : Tray) (signal : Signal) :
    (t.receive signal).handlers = t.handlers := by
  cases signal with
  | connected => rfl
  | disconnected => rfl
  | paused onOff =>
      cases onOff with
      | false => rfl
      | true =>
          change (if t.curstate = .waiting then _ else t.handleClientError.draw).handlers = _
          split
          · rfl
          · exact handlers_handleClientError t

def TrayState.nexts (handlers : Nat) (state : TrayState) (signal : Signal) : TrayState :=
  (fun state => state.next signal)^[handlers] state

theorem receive_iterate (t : Tray) (signal : Signal) (n : Nat) :
    ((fun t => t.receive signal)^[n] t).curstate = t.curstate.nexts n signal ∧
      ((fun t => t.receive signal)^[n] t).handlers = t.handlers := by
  unfold TrayState.nexts
  induction n generalizing t with
  | zero => exact ⟨rfl, rfl⟩
  | succ n ih =>
      rw [Function.iterate_succ_apply, Function.iterate_succ_apply, ← curstate_receive]
      obtain ⟨hstate, hhandlers⟩ := ih (t.receive signal)
      exact ⟨hstate, hhandlers.trans (handlers_receive t signal)⟩

theorem nexts_fixed {state after : TrayState} {signal : Signal} (h : state.next signal = after)
    (hfixed : after.next signal = after) {n : Nat} (hn : n ≠ 0) :
    state.nexts n signal = after := by
  obtain ⟨m, rfl⟩ := Nat.exists_eq_succ_of_ne_zero hn
  unfold TrayState.nexts
  rw [Function.iterate_succ_apply, h]
  exact Function.iterate_fixed hfixed m

/-- What one or more callbacks make of a signal: the first pause is taken for one, the
second for a lost connection. -/
theorem nexts_eq (state : TrayState) (signal : Signal) {n : Nat} (hn : n ≠ 0) :
    state.nexts n signal =
      if state = .waiting ∧ signal = .paused true ∧ n ≠ 1 then .initialising
      else state.next signal := by
  by_cases hpause : state = .waiting ∧ signal = .paused true
  · obtain ⟨rfl, rfl⟩ := hpause
    by_cases hone : n = 1
    · subst hone
      rfl
    · rw [if_pos ⟨rfl, rfl, hone⟩]
      obtain ⟨m, rfl⟩ : ∃ m, n = m + 1 := ⟨n - 1, by omega⟩
      have hm : m ≠ 0 := by omega
      change TrayState.nexts m .paused (.paused true) = _
      exact nexts_fixed rfl rfl hm
  · rw [if_neg fun h => hpause ⟨h.1, h.2.1⟩]
    apply nexts_fixed rfl _ hn
    cases signal with
    | connected => rfl
    | disconnected => rfl
    | paused onOff =>
        cases onOff with
        | false => rfl
        | true => cases state <;> first | rfl | exact absurd ⟨rfl, rfl⟩ hpause

/-! ## Timeouts and restarts -/

theorem curstate_getPilots (t : Tray) (pilots : List String) :
    (t.getPilots pilots).curstate = (if pilots = [] then .initialising else .waiting) ∧
      (t.getPilots pilots).handlers = t.handlers := by
  unfold Tray.getPilots
  by_cases h : pilots = []
  · simp [h, Tray.draw, Tray.sniSetTooltip]
  · simp [h, Tray.draw, Tray.sniSetTooltip]

/-- The tray after `gnome_pilot_client_connect_to_daemon` succeeded. -/
def Tray.connecting (t : Tray) : Tray :=
  draw { t.draw with handlers := t.handlers + 1, curstate := .connectingToDaemon }

theorem timeoutCb_of_connects {t : Tray} (hstate : t.curstate = .initialising) {made : Bool}
    (hmade : t.handlers ≠ 0 ∨ made = true) (pilots : List String) :
    (t.timeoutCb made pilots).curstate = (if pilots = [] then .initialising else .waiting) ∧
      (t.timeoutCb made pilots).handlers = t.handlers + 1 := by
  have hconnect : t.draw.connectToDaemon made =
      (true, { t.draw with handlers := t.handlers + 1 }) := by
    apply if_neg
    rintro ⟨hnone, hmake⟩
    rcases hmade with hmade | hmade
    · exact hmade hnone
    · rw [hmade] at hmake
      cases hmake
  obtain ⟨hcurstate, hhandlers⟩ := curstate_getPilots t.connecting pilots
  have hcb : t.timeoutCb made pilots =
      if (t.connecting.getPilots pilots).curstate = .waiting ∧
          (t.connecting.getPilots pilots).handlers = 0 then
        { t.connecting.getPilots pilots with curstate := .initialising }
      else t.connecting.getPilots pilots := by
    unfold Tray.timeoutCb
    rw [if_pos hstate, hconnect]
    rfl
  have hmore : (t.connecting.getPilots pilots).handlers = t.handlers + 1 := hhandlers
  rw [hcb, if_neg (by omega)]
  exact ⟨hcurstate, hmore⟩

theorem timeoutCb_of_not_connects {t : Tray} (hstable : t.curstate ≠ .connectingToDaemon)
    (hwaiting : t.curstate = .waiting → t.handlers ≠ 0) {made : Bool}
    (h : ¬ (t.curstate = .initialising ∧ (t.handlers ≠ 0 ∨ made = true))) (pilots : List String) :
    (t.timeoutCb made pilots).curstate = t.curstate ∧
      (t.timeoutCb made pilots).handlers = t.handlers := by
  unfold Tray.timeoutCb
  by_cases hstate : t.curstate = .initialising
  · have hnone : t.handlers = 0 ∧ made = false := by
      constructor
      · by_contra hne
        exact h ⟨hstate, Or.inl hne⟩
      · rw [← Bool.not_eq_true]
        exact fun hmade => h ⟨hstate, Or.inr hmade⟩
    have hconnect : t.draw.connectToDaemon made = (false, t.draw) := if_pos hnone
    rw [if_pos hstate, hconnect]
    simp [hstate, Tray.draw]
  · rw [if_neg hstate]
    simp only [if_neg hstable]
    rw [if_neg fun hidle => hwaiting hidle.1 hidle.2]
    exact ⟨rfl, rfl⟩

theorem timeoutCb_ne_paused {t : Tray} (h : t.curstate ≠ .paused) (made : Bool)
    (pilots : List String) : (t.timeoutCb made pilots).curstate ≠ .paused := by
  have hpilots : ∀ t : Tray, (t.getPilots pilots).curstate ≠ .paused := by
    intro t
    rw [(curstate_getPilots t pilots).1]
    split <;> exact TrayState.noConfusion
  have hend : ∀ t : Tray, t.curstate ≠ .paused →
      (if t.curstate = .waiting ∧ t.handlers = 0 then { t with curstate := .initialising }
        else t).curstate ≠ .paused := by
    intro t ht
    split
    · exact TrayState.noConfusion
    · exact ht
  unfold Tray.timeoutCb
  apply hend
  by_cases hinit : t.curstate = .initialising
  · rw [if_pos hinit]
    unfold Tray.connectToDaemon
    by_cases hnone : t.draw.handlers = 0 ∧ made = false
    · rw [if_pos hnone]
      have hcur : t.draw.curstate = .initialising := hinit
      simp [hcur]
    · rw [if_neg hnone]
      exact hpilots _
  · rw [if_neg hinit]
    split
    · exact hpilots _
    · exact h

theorem curstate_doRestartDaemon (t : Tray) (made : Bool) :
    (t.doRestartDaemon made).curstate = .initialising ∧
      (t.doRestartDaemon made).handlers =
        if t.handlers = 0 ∧ made = false then t.handlers else t.handlers + 1 := by
  unfold Tray.doRestartDaemon Tray.connectToDaemon
  by_cases h : t.handlers = 0 ∧ made = false
  · simp [h, Tray.sniSetTooltip]
  · simp [h, Tray.sniSetTooltip]

end GnomePilot.Applet
