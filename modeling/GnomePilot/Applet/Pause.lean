import GnomePilot.Applet.Tray

/-!
# The tray and pauses

Each connect of the tray's client adds a callback, and the second callback takes a pause
for an error.  `handlers_of_paused` says how often a tray may have connected that shows
a pause, `pause_lost` what becomes of a pause otherwise.
-/

namespace GnomePilot.Applet

namespace System

def PausedOnce (t : Tray) : Prop := t.curstate = .paused → t.handlers = 1

theorem pausedOnce_handleClientError (t : Tray) : PausedOnce t.handleClientError := by
  intro hpaused
  rw [curstate_handleClientError] at hpaused
  split at hpaused <;> cases hpaused

theorem pausedOnce_deliver {s : System} (h : PausedOnce s.tray) : PausedOnce s.deliver.tray := by
  unfold deliver
  cases s.inFlight with
  | nil => exact h
  | cons signal rest =>
      obtain ⟨hstate, hhandlers⟩ := receive_iterate s.tray signal s.tray.handlers
      intro hpaused
      refine hhandlers.trans ?_
      have hnext := hstate.symm.trans hpaused
      by_cases hnone : s.tray.handlers = 0
      · rw [hnone] at hnext
        have hzero := h hnext
        omega
      · rw [nexts_eq _ _ hnone] at hnext
        split at hnext
        · cases hnext
        · rename_i hfirst
          by_contra hmany
          cases signal with
          | connected => cases hnext
          | disconnected => cases hnext
          | paused onOff =>
              cases onOff with
              | false => cases hnext
              | true =>
                  cases hcur : s.tray.curstate with
                  | waiting => exact hfirst ⟨hcur, rfl, hmany⟩
                  | _ => rw [hcur] at hnext; cases hnext

theorem pausedOnce_step {s : System} (h : PausedOnce s.tray) (op : TrayOp) :
    PausedOnce (s.step op).tray := by
  have hpause : ∀ onOff, (s.gpilotDaemonPause onOff).tray = s.tray := by
    intro onOff
    unfold gpilotDaemonPause
    split <;> rfl
  cases op with
  | connect =>
      change PausedOnce (if s.daemon = .idle then s.emit _ _ else s).tray
      split <;> exact h
  | disconnect =>
      change PausedOnce (if s.daemon = .syncing then s.emit _ _ else s).tray
      split <;> exact h
  | pause onOff =>
      change PausedOnce (s.gpilotDaemonPause onOff).tray
      rw [hpause]
      exact h
  | deliver => exact pausedOnce_deliver h
  | timeout made pilots =>
      change PausedOnce (s.tray.timeoutCb made pilots)
      by_cases hconnects : s.tray.curstate = .initialising ∧ (s.tray.handlers ≠ 0 ∨ made = true)
      · intro hpaused
        rw [(timeoutCb_of_connects hconnects.1 hconnects.2 pilots).1] at hpaused
        split at hpaused <;> cases hpaused
      · intro hpaused
        by_cases hcur : s.tray.curstate = .paused
        · obtain ⟨-, hhandlers⟩ := timeoutCb_of_not_connects
            (by rw [hcur]; exact TrayState.noConfusion)
            (fun hwaiting => by rw [hcur] at hwaiting; cases hwaiting) hconnects pilots
          exact hhandlers.trans (h hcur)
        · exact absurd hpaused (timeoutCb_ne_paused hcur made pilots)
  | menuState answers =>
      change PausedOnce (s.menuStateCb answers).tray
      unfold menuStateCb
      split
      · rw [hpause]
        exact h
      · exact pausedOnce_handleClientError s.tray
  | menuRestore answers =>
      change PausedOnce (if s.tray.curstate = .waiting ∧ answers = true then s else _).tray
      split
      · exact h
      · exact pausedOnce_handleClientError s.tray
  | restart pid made =>
      intro hpaused
      rw [show (s.step (.restart pid made)).tray = s.tray.doRestartDaemon made from rfl,
        (curstate_doRestartDaemon s.tray made).1] at hpaused
      cases hpaused

/-- Whatever happens, a tray shows a pause only if it connected to the daemon just once: not
after a restart, nor if there was no pilot at first. -/
theorem handlers_of_paused (ops : List TrayOp) :
    (ops.foldl step start).tray.curstate = .paused →
      (ops.foldl step start).tray.handlers = 1 := by
  have hrun : ∀ s : System, PausedOnce s.tray → PausedOnce (ops.foldl step s).tray := by
    induction ops with
    | nil => exact fun s h => h
    | cons op ops ih => exact fun s h => ih (s.step op) (pausedOnce_step h op)
  exact hrun start TrayState.noConfusion

theorem handlers_of_paused_oncePaused :
    ([TrayOp.timeout true ["MyPDA"], .pause true, .deliver].foldl step start).tray.handlers = 1 :=
  handlers_of_paused [TrayOp.timeout true ["MyPDA"], .pause true, .deliver] (by decide)

/-- What neither ends the pause nor fails to reach the daemon. -/
def Quiet : TrayOp → Prop
  | .pause onOff => onOff = true
  | .menuState answers | .menuRestore answers => answers = true
  | .restart _ _ => False
  | .connect | .disconnect | .deliver | .timeout _ _ => True

structure Stuck (s : System) : Prop where
  daemon : s.daemon = .paused
  waiting : s.tray.curstate = .waiting
  connected : s.tray.handlers ≠ 0
  arrived : s.inFlight = []

theorem timeoutCb_waiting {t : Tray} (h : t.curstate = .waiting) (hconnected : t.handlers ≠ 0)
    (made : Bool) (pilots : List String) : t.timeoutCb made pilots = t := by
  have hinit : t.curstate ≠ .initialising := by
    rw [h]
    exact TrayState.noConfusion
  have hconnecting : t.curstate ≠ .connectingToDaemon := by
    rw [h]
    exact TrayState.noConfusion
  unfold Tray.timeoutCb
  rw [if_neg hinit]
  simp only [if_neg hconnecting]
  exact if_neg fun hnone => hconnected hnone.2

/-- Its own timeouts and its menu change nothing. -/
theorem step_of_stuck {s : System} (h : s.Stuck) {op : TrayOp} (hop : Quiet op) :
    s.step op = s := by
  obtain ⟨daemon, inFlight, tray⟩ := s
  obtain ⟨hdaemon, hwaiting, hconnected, harrived⟩ := h
  obtain rfl : daemon = .paused := hdaemon
  obtain rfl : inFlight = [] := harrived
  have hcur : tray.curstate = .waiting := hwaiting
  cases op with
  | connect => rfl
  | disconnect => rfl
  | pause onOff =>
      obtain rfl : onOff = true := hop
      rfl
  | deliver => rfl
  | timeout made pilots =>
      change (⟨_, _, tray.timeoutCb made pilots⟩ : System) = _
      rw [timeoutCb_waiting hcur hconnected]
  | menuState answers =>
      obtain rfl : answers = true := hop
      change (if _ then _ else _) = _
      rw [if_pos ⟨rfl, DaemonMode.noConfusion, hconnected⟩]
      simp [hcur, gpilotDaemonPause]
  | menuRestore answers =>
      obtain rfl : answers = true := hop
      exact if_pos ⟨hcur, rfl⟩
  | restart pid made => exact hop.elim

/-- The daemon is paused, the signal arrives and the next timeout runs out. -/
def pauseArrives (made : Bool) (pilots : List String) : List TrayOp :=
  [.pause true, .deliver, .timeout made pilots]

/-- A pause that comes to a tray which waits and connected more than once: the tray takes
the second callback for an error, connects again and waits.  From then on the daemon is
paused and the tray waits whatever its menu is used for, until someone else ends the pause,
a call fails or the daemon is restarted. -/
theorem pause_lost {s : System} (hdaemon : s.daemon = .idle) (hwaiting : s.tray.curstate = .waiting)
    (hmany : 2 ≤ s.tray.handlers) (harrived : s.inFlight = []) (made : Bool)
    {pilots : List String} (hpilots : pilots ≠ []) {ops : List TrayOp}
    (hops : ∀ op ∈ ops, Quiet op) :
    Stuck ((pauseArrives made pilots ++ ops).foldl step s) := by
  obtain ⟨hstate, hhandlers⟩ := receive_iterate s.tray (.paused true) s.tray.handlers
  have hconnected : s.tray.handlers ≠ 0 := by omega
  have hnot : s.tray.handlers ≠ 1 := by omega
  have hpause : s.step (.pause true) = ⟨.paused, [.paused true], s.tray⟩ := by
    change s.gpilotDaemonPause true = _
    unfold gpilotDaemonPause
    rw [hdaemon]
    simp [emit, hconnected, harrived]
  have hlost : ((fun t => t.receive (.paused true))^[s.tray.handlers] s.tray).curstate =
      .initialising := by
    rw [hstate, nexts_eq _ _ hconnected]
    exact if_pos ⟨hwaiting, rfl, hnot⟩
  obtain ⟨hagain, hagainHandlers⟩ := @timeoutCb_of_connects _ hlost made
    (Or.inl (by rw [hhandlers]; exact hconnected)) pilots
  have hstuck : Stuck ((pauseArrives made pilots).foldl step s) := by
    unfold pauseArrives
    rw [List.foldl_cons, hpause]
    have hmore := hagainHandlers.symm
    exact ⟨rfl, hagain.trans (if_neg hpilots), fun hnone => Nat.succ_ne_zero _ (hmore.trans hnone),
      rfl⟩
  rw [List.foldl_append]
  have hrun : ∀ s : System, Stuck s → Stuck (ops.foldl step s) := by
    induction ops with
    | nil => exact fun s h => h
    | cons op ops ih =>
        intro s h
        rw [List.foldl_cons, step_of_stuck h (hops op List.mem_cons_self)]
        exact ih (fun o ho => hops o (List.mem_cons_of_mem op ho)) s h
  exact hrun _ hstuck

def connectedTwice : System :=
  ((start.step (.timeout true [])).step (.timeout true ["MyPDA"]))

/-- The item of the menu does not end the pause. -/
theorem pause_lost_connectedTwice :
    Stuck ((pauseArrives true ["MyPDA"] ++ [TrayOp.menuState true]).foldl step connectedTwice) :=
  pause_lost (by decide) (by decide) (by decide) (by decide) true (by decide) fun op hop => by
    obtain rfl := List.mem_singleton.mp hop
    rfl

end System

end GnomePilot.Applet
