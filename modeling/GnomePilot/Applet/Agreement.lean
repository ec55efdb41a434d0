import GnomePilot.Applet.Tray
import GnomePilot.Lib.History
import Mathlib.Data.List.Induction

/-!
# What the tray shows

The tray is told of the daemon by signals and asks it for nothing but the pilots' names.
`alwaysAgrees_iff` says in which runs what it will show, once the signals under way have
arrived, is what the daemon does.
-/

namespace GnomePilot.Applet

/-! ## What the signals under way will show -/

def predict (handlers : Nat) (state : TrayState) (signals : List Signal) : TrayState :=
  signals.foldl (TrayState.nexts handlers) state

theorem predict_append (handlers : Nat) (state : TrayState) (signals : List Signal)
    (signal : Signal) : predict handlers state (signals ++ [signal]) =
      (predict handlers state signals).nexts handlers signal := by
  simp [predict]

def Forgets (state state' : TrayState) : Prop := state = .initialising ∨ state = state'

theorem Forgets.nexts {state state' : TrayState} (h : Forgets state state') (signal : Signal)
    {n n' : Nat} (hn : n ≠ 0) (hle : n ≤ n') :
    Forgets (state.nexts n' signal) (state'.nexts n signal) := by
  have hn' : n' ≠ 0 := by omega
  rw [nexts_eq _ _ hn, nexts_eq _ _ hn']
  unfold Forgets
  rcases h with rfl | rfl
  · cases signal with
    | connected => simp [TrayState.next]
    | disconnected => simp [TrayState.next]
    | paused onOff => cases onOff <;> simp [TrayState.next]
  · by_cases hpause : state = .waiting ∧ signal = .paused true
    · by_cases hone : n' = 1
      · have : n = 1 := by omega
        simp [hone, this]
      · simp [hpause, hone]
    · rw [if_neg fun h => hpause ⟨h.1, h.2.1⟩, if_neg fun h => hpause ⟨h.1, h.2.1⟩]
      exact Or.inr rfl

theorem predict_forgets {state state' : TrayState} (h : Forgets state state') {n n' : Nat}
    (hn : n ≠ 0) (hle : n ≤ n') (signals : List Signal) :
    Forgets (predict n' state signals) (predict n state' signals) := by
  induction signals generalizing state state' with
  | nil => exact h
  | cons signal signals ih => exact ih (h.nexts signal hn hle)

/-- A tray that is connected once more and waits does not make anything of the signals
under way that it did not make of them before. -/
theorem predict_waiting {n : Nat} (hn : n ≠ 0) {signals : List Signal} (h : signals ≠ []) :
    Forgets (predict (n + 1) .waiting signals) (predict n .initialising signals) := by
  obtain ⟨signal, rest, rfl⟩ := List.exists_cons_of_ne_nil h
  refine predict_forgets ?_ hn (Nat.le_succ n) rest
  rw [nexts_eq _ _ hn, nexts_eq _ _ (Nat.succ_ne_zero n)]
  cases signal with
  | connected => exact Or.inr rfl
  | disconnected => exact Or.inr rfl
  | paused onOff =>
      cases onOff with
      | false => exact Or.inr rfl
      | true => exact Or.inl (if_pos ⟨rfl, rfl, by omega⟩)

def endsInSession (signals : List Signal) : Bool :=
  (signals.filter (· ≠ .paused true)).getLast? = some .connected

/-- A lost connection and several callbacks: the tray does not come to show a pause. -/
theorem predict_initialising {n : Nat} (hn : 2 ≤ n) (signals : List Signal) :
    predict n .initialising signals = .syncing ∧ endsInSession signals = true ∨
      (predict n .initialising signals = .initialising ∨
        predict n .initialising signals = .waiting) ∧ endsInSession signals = false := by
  induction signals using List.reverseRecOn with
  | nil => exact Or.inr ⟨Or.inl rfl, rfl⟩
  | append_singleton signals signal ih =>
      have hnot : n ≠ 1 := by omega
      rw [predict_append, nexts_eq _ _ (by omega)]
      cases signal with
      | connected => exact Or.inl ⟨by simp [TrayState.next], by simp [endsInSession]⟩
      | disconnected =>
          exact Or.inr ⟨Or.inr (by simp [TrayState.next]), by simp [endsInSession]⟩
      | paused onOff =>
          cases onOff with
          | false =>
              exact Or.inr ⟨Or.inr (by simp [TrayState.next]), by simp [endsInSession]⟩
          | true =>
              have hends : endsInSession (signals ++ [.paused true]) =
                  endsInSession signals := by
                simp [endsInSession]
              rw [hends]
              rcases ih with ⟨hstate, hin⟩ | ⟨hstate | hstate, hin⟩
              · exact Or.inl ⟨by simp [hstate, TrayState.next], hin⟩
              · exact Or.inr ⟨Or.inl (by simp [hstate, TrayState.next]), hin⟩
              · exact Or.inr ⟨Or.inl (by simp [hstate, hnot]), hin⟩

/-! ## What the tray shows -/

def DaemonMode.shown : DaemonMode → TrayState
  | .idle => .waiting
  | .syncing => .syncing
  | .paused => .paused

namespace System

/-- What the tray shows once the signals under way have arrived. -/
def prediction (s : System) : TrayState := predict s.tray.handlers s.tray.curstate s.inFlight

/-- Once the signals have arrived the tray shows what the daemon does, or that it is not
connected to it. -/
def Agrees (s : System) : Prop := s.prediction = .initialising ∨ s.prediction = s.daemon.shown

/-- A tray that was never connected gets no signal, and none is left connecting. -/
structure Settled (s : System) : Prop where
  unconnected : s.tray.handlers = 0 → s.tray.curstate = .initialising ∧ s.inFlight = []
  stable : s.tray.curstate ≠ .connectingToDaemon

/-- A tray with no signals under way comes to wait at an idle daemon only, and the daemon
is not killed in a session whose begin the tray has still to hear of. -/
def Ok (s : System) : TrayOp → Prop
  | .timeout made pilots => s.tray.curstate = .initialising → s.tray.handlers ≠ 0 ∨ made = true →
    pilots ≠ [] → s.inFlight = [] → s.daemon = .idle
  | .restart pid _ => pid = true → endsInSession s.inFlight = false
  | _ => True

theorem Agrees.of_forgets {s s' : System} (h : s.Agrees)
    (hforgets : Forgets s'.prediction s.prediction) (hdaemon : s'.daemon = s.daemon) :
    s'.Agrees := by
  unfold Agrees at h ⊢
  rw [hdaemon]
  rcases hforgets with hinit | hsame
  · exact Or.inl hinit
  · rwa [hsame]

theorem settled_start : start.Settled where
  unconnected _ := ⟨rfl, rfl⟩
  stable := TrayState.noConfusion

theorem agrees_start : start.Agrees := Or.inl rfl

/-! ### Signals -/

theorem Settled.emit {s : System} (h : s.Settled) (daemon : DaemonMode) (signal : Signal) :
    (s.emit daemon signal).Settled where
  unconnected hnone := by
    have hqueue : (s.emit daemon signal).inFlight = s.inFlight := if_pos hnone
    exact ⟨(h.unconnected hnone).1, hqueue.trans (h.unconnected hnone).2⟩
  stable := h.stable

theorem Agrees.emit {s : System} (h : s.Agrees) (hsettled : s.Settled) {daemon : DaemonMode}
    {signal : Signal}
    (hsignal : ∀ state, state = .initialising ∨ state = s.daemon.shown →
      state.next signal = .initialising ∨ state.next signal = daemon.shown) :
    (s.emit daemon signal).Agrees := by
  by_cases hnone : s.tray.handlers = 0
  · obtain ⟨hstate, hqueue⟩ := hsettled.unconnected hnone
    have hsame : (s.emit daemon signal).inFlight = s.inFlight := if_pos hnone
    refine Or.inl ?_
    rw [prediction, hsame, hqueue]
    exact hstate
  · have hmore : (s.emit daemon signal).inFlight = s.inFlight ++ [signal] := if_neg hnone
    have hnext : (s.emit daemon signal).prediction =
        s.prediction.nexts s.tray.handlers signal := by
      rw [prediction, hmore]
      exact predict_append _ _ _ _
    unfold Agrees
    rw [hnext, nexts_eq _ _ hnone]
    split
    · exact Or.inl rfl
    · exact hsignal s.prediction h

theorem agrees_pause {s : System} (h : s.Agrees) (hsettled : s.Settled) (onOff : Bool) :
    (s.gpilotDaemonPause onOff).Settled ∧ (s.gpilotDaemonPause onOff).Agrees := by
  unfold gpilotDaemonPause
  split
  · rename_i hdaemon
    refine ⟨hsettled.emit _ _, h.emit hsettled ?_⟩
    rintro state (rfl | rfl)
    · exact Or.inl rfl
    · rw [hdaemon]
      exact Or.inr rfl
  · exact ⟨hsettled.emit _ _, h.emit hsettled fun _ _ => Or.inr rfl⟩
  · exact ⟨hsettled, h⟩

theorem agrees_deliver {s : System} (h : s.Agrees) (hsettled : s.Settled) :
    s.deliver.Settled ∧ s.deliver.Agrees := by
  unfold deliver
  cases hqueue : s.inFlight with
  | nil => exact ⟨hsettled, h⟩
  | cons signal rest =>
      obtain ⟨hstate, hhandlers⟩ := receive_iterate s.tray signal s.tray.handlers
      have hconnected : s.tray.handlers ≠ 0 := by
        intro hnone
        have hnil := (hsettled.unconnected hnone).2
        rw [hqueue] at hnil
        cases hnil
      constructor
      · refine ⟨fun hnone => absurd (hhandlers.symm.trans hnone) hconnected, ?_⟩
        change ((fun t => t.receive signal)^[s.tray.handlers] s.tray).curstate ≠ _
        rw [hstate, nexts_eq _ _ hconnected]
        split
        · exact TrayState.noConfusion
        · cases signal with
          | connected => exact TrayState.noConfusion
          | disconnected => exact TrayState.noConfusion
          | paused onOff =>
              cases onOff with
              | false => exact TrayState.noConfusion
              | true => cases s.tray.curstate <;> exact TrayState.noConfusion
      · have hsame : predict s.tray.handlers
            ((fun t => t.receive signal)^[s.tray.handlers] s.tray).curstate rest =
              s.prediction := by
          rw [hstate, prediction, hqueue]
          rfl
        unfold Agrees prediction at *
        rw [hhandlers, hsame]
        exact h

/-! ### The tray's own steps -/

/-- A tray that takes the connection for lost, possibly after one more connect. -/
theorem Agrees.forget {s : System} (h : s.Agrees) (hsettled : s.Settled) {t : Tray}
    (hstate : Forgets t.curstate s.tray.curstate) (hhandlers : s.tray.handlers ≤ t.handlers) :
    Agrees { s with tray := t } := by
  refine @Agrees.of_forgets s _ h ?_ rfl
  by_cases hnone : s.tray.handlers = 0
  · obtain ⟨hinit, hqueue⟩ := hsettled.unconnected hnone
    rw [hinit] at hstate
    unfold prediction
    rw [hqueue, hinit]
    exact hstate
  · exact predict_forgets hstate hnone hhandlers s.inFlight

theorem agrees_handleClientError {s : System} (h : s.Agrees) (hsettled : s.Settled) :
    Settled { s with tray := s.tray.handleClientError } ∧
      Agrees { s with tray := s.tray.handleClientError } := by
  have hhandlers := handlers_handleClientError s.tray
  have hstate := curstate_handleClientError s.tray
  constructor
  · refine ⟨fun hnone => ?_, ?_⟩
    · obtain ⟨hinit, hqueue⟩ := hsettled.unconnected (hhandlers.symm.trans hnone)
      refine ⟨hstate.trans ?_, hqueue⟩
      rw [hinit]
      rfl
    · change s.tray.handleClientError.curstate ≠ _
      rw [hstate]
      split <;> exact TrayState.noConfusion
  · apply h.forget hsettled _ (Nat.le_of_eq hhandlers.symm)
    rw [hstate]
    unfold Forgets
    split
    · exact Or.inr (by simp [*])
    · exact Or.inl rfl

theorem agrees_timeout {s : System} (h : s.Agrees) (hsettled : s.Settled) (made : Bool)
    (pilots : List String) :
    (s.step (.timeout made pilots)).Settled ∧
      ((s.step (.timeout made pilots)).Agrees ↔ s.Ok (.timeout made pilots)) := by
  have hwaiting : s.tray.curstate = .waiting → s.tray.handlers ≠ 0 := by
    intro hstate hnone
    rw [(hsettled.unconnected hnone).1] at hstate
    cases hstate
  by_cases hconnects : s.tray.curstate = .initialising ∧ (s.tray.handlers ≠ 0 ∨ made = true)
  · obtain ⟨hstate, hhandlers⟩ := timeoutCb_of_connects hconnects.1 hconnects.2 pilots
    have hsettles : (s.step (.timeout made pilots)).Settled := by
      refine ⟨fun hnone => ?_, ?_⟩
      · have hzero := hhandlers.symm.trans hnone
        omega
      · change (s.tray.timeoutCb made pilots).curstate ≠ _
        rw [hstate]
        split <;> exact TrayState.noConfusion
    refine ⟨hsettles, ?_⟩
    by_cases hpilots : pilots = []
    · -- no pilots: the tray is as it was, with a callback more
      have hagrees := @Agrees.forget s h hsettled (s.tray.timeoutCb made pilots)
        (Or.inl (hstate.trans (if_pos hpilots))) (by omega)
      exact ⟨fun _ _ _ hne => absurd hpilots hne, fun _ => hagrees⟩
    · rw [if_neg hpilots] at hstate
      cases hqueue : s.inFlight with
      | nil =>
          have hpredict : (s.step (.timeout made pilots)).prediction = .waiting := by
            have hnone : (s.step (.timeout made pilots)).inFlight = [] := hqueue
            rw [prediction, hnone]
            exact hstate
          unfold Agrees
          rw [hpredict]
          constructor
          · intro hshown _ _ _ _
            rcases hshown with hinit | hshown
            · cases hinit
            · change TrayState.waiting = s.daemon.shown at hshown
              cases hdaemon : s.daemon with
              | idle => rfl
              | syncing => rw [hdaemon] at hshown; cases hshown
              | paused => rw [hdaemon] at hshown; cases hshown
          · intro hok
            have hidle := hok hconnects.1 hconnects.2 hpilots hqueue
            refine Or.inr ?_
            change _ = s.daemon.shown
            rw [hidle]
            rfl
      | cons signal rest =>
          have hnonempty : s.inFlight ≠ [] := by simp [hqueue]
          have hconnected : s.tray.handlers ≠ 0 := fun hnone =>
            hnonempty (hsettled.unconnected hnone).2
          have hforgets := predict_waiting hconnected hnonempty
          have hagrees : (s.step (.timeout made pilots)).Agrees := by
            refine @Agrees.of_forgets s _ h ?_ rfl
            unfold prediction
            change Forgets (predict (s.tray.timeoutCb made pilots).handlers
              (s.tray.timeoutCb made pilots).curstate s.inFlight) _
            rw [hstate, hhandlers, hconnects.1]
            exact hforgets
          exact ⟨fun _ _ _ _ hnil => absurd hnil hnonempty, fun _ => hagrees⟩
  · obtain ⟨hstate, hhandlers⟩ :=
      timeoutCb_of_not_connects hsettled.stable hwaiting hconnects pilots
    have hagrees := @Agrees.forget s h hsettled (s.tray.timeoutCb made pilots) (Or.inr hstate)
      (Nat.le_of_eq hhandlers.symm)
    refine ⟨⟨fun hnone => ?_, ?_⟩, fun _ hinit hmade => absurd ⟨hinit, hmade⟩ hconnects,
      fun _ => hagrees⟩
    · obtain ⟨hinit, hqueue⟩ := hsettled.unconnected (hhandlers.symm.trans hnone)
      exact ⟨hstate.trans hinit, hqueue⟩
    · exact fun hstate' => hsettled.stable (hstate.symm.trans hstate')

theorem agrees_restart {s : System} (h : s.Agrees) (hsettled : s.Settled) (pid made : Bool) :
    (s.step (.restart pid made)).Settled ∧
      ((s.step (.restart pid made)).Agrees ↔ s.Ok (.restart pid made)) := by
  obtain ⟨hstate, hhandlers⟩ := curstate_doRestartDaemon s.tray made
  have hle : s.tray.handlers ≤ (s.tray.doRestartDaemon made).handlers := by
    rw [hhandlers]
    split <;> omega
  constructor
  · refine ⟨fun hnone => ⟨hstate, ?_⟩, ?_⟩
    · have hzero : (s.tray.doRestartDaemon made).handlers = 0 := hnone
      exact (hsettled.unconnected (by omega)).2
    · change (s.tray.doRestartDaemon made).curstate ≠ _
      rw [hstate]
      exact TrayState.noConfusion
  · cases pid with
    | false =>
        have hagrees := @Agrees.forget s h hsettled (s.tray.doRestartDaemon made)
          (Or.inl hstate) hle
        exact ⟨fun _ hpid => Bool.noConfusion hpid, fun _ => hagrees⟩
    | true =>
        have hpredict : (s.step (.restart true made)).prediction =
            predict (s.tray.doRestartDaemon made).handlers .initialising s.inFlight := by
          rw [← hstate]
          rfl
        unfold Agrees
        rw [hpredict]
        by_cases hnone : s.tray.handlers = 0
        · have hqueue := (hsettled.unconnected hnone).2
          rw [hqueue]
          exact ⟨fun _ _ => by rw [hqueue]; rfl, fun _ => Or.inl rfl⟩
        · have hmore : 2 ≤ (s.tray.doRestartDaemon made).handlers := by
            rw [hhandlers, if_neg fun hzero => hnone hzero.1]
            omega
          change _ = _ ∨ _ = DaemonMode.idle.shown ↔ (true = true → _)
          rcases predict_initialising hmore s.inFlight with ⟨hsync, hin⟩ | ⟨hout, hin⟩
          · rw [hsync, hin]
            simp [DaemonMode.shown]
          · rw [hin]
            exact ⟨fun _ _ => rfl, fun _ => hout⟩

theorem agrees_step {s : System} (h : s.Agrees) (hsettled : s.Settled) (op : TrayOp) :
    (s.step op).Settled ∧ ((s.step op).Agrees ↔ s.Ok op) := by
  have hkeeps : ∀ {s' : System}, s'.Settled ∧ s'.Agrees →
      s'.Settled ∧ (s'.Agrees ↔ True) := fun hs => ⟨hs.1, fun _ => trivial, fun _ => hs.2⟩
  cases op with
  | connect =>
      apply hkeeps
      change (if s.daemon = .idle then _ else s).Settled ∧
        (if s.daemon = .idle then _ else s).Agrees
      split
      · exact ⟨hsettled.emit _ _, h.emit hsettled fun _ _ => Or.inr rfl⟩
      · exact ⟨hsettled, h⟩
  | disconnect =>
      apply hkeeps
      change (if s.daemon = .syncing then _ else s).Settled ∧
        (if s.daemon = .syncing then _ else s).Agrees
      split
      · exact ⟨hsettled.emit _ _, h.emit hsettled fun _ _ => Or.inr rfl⟩
      · exact ⟨hsettled, h⟩
  | pause onOff => exact hkeeps (agrees_pause h hsettled onOff)
  | deliver => exact hkeeps (agrees_deliver h hsettled)
  | timeout made pilots => exact agrees_timeout h hsettled made pilots
  | menuState answers =>
      apply hkeeps
      change (s.menuStateCb answers).Settled ∧ (s.menuStateCb answers).Agrees
      unfold menuStateCb
      split
      · exact agrees_pause h hsettled _
      · exact agrees_handleClientError h hsettled
  | menuRestore answers =>
      apply hkeeps
      change (if s.tray.curstate = .waiting ∧ answers = true then s else _).Settled ∧
        (if s.tray.curstate = .waiting ∧ answers = true then s else _).Agrees
      split
      · exact ⟨hsettled, h⟩
      · exact agrees_handleClientError h hsettled
  | restart pid made => exact agrees_restart h hsettled pid made

/-- From the start and throughout a run the tray will show what the daemon does, or that it
is not connected, once the signals under way have arrived, exactly when it never comes to
wait at a daemon that is paused or synchronises with no signal under way, and no daemon is
killed in a session whose begin is the last the tray will hear of it. -/
theorem alwaysAgrees_iff (ops : List TrayOp) :
    History.Always step Agrees start ops ↔ History.Allowed step Ok start ops := by
  apply History.always_iff_allowed fun s => s.Agrees ∧ s.Settled
  · exact fun s h => h.1
  · intro s op h hok
    obtain ⟨hsettled, hiff⟩ := agrees_step h.1 h.2 op
    exact ⟨hiff.mpr hok, hsettled⟩
  · exact fun s op h hok hagrees => hok ((agrees_step h.1 h.2 op).2.mp hagrees)
  · exact ⟨agrees_start, settled_start⟩

end System

end GnomePilot.Applet
