import GnomePilot.Daemon.Pause
import GnomePilot.Daemon.RemoveDevice

/-!
# Devices stay monitored

The invariant of the running daemon: as long as it is not paused the watches the
devices hold are the live ones, while it is paused there are none, and a callback in
the middle of its work is at a listed device or at one that was freed.
-/

namespace GnomePilot.Daemon.Devices

open Config

/-! ## The invariant -/

/-- What a running callback found at its device. -/
def Frame.At : Frame → Device → Prop
  | .deviceIn source _ _, device => ∃ c, (source, ⟨c, .deviceIn⟩) ∈ device.watches
  | .networkDeviceIn source _ _, device => ∃ c, (source, ⟨c, .networkDeviceIn⟩) ∈ device.watches
  | .deviceErr _ _, _ => True
  | .usbDeviceAdded _ _ _, device => device.io = none

/-- The device a callback is at. -/
def Frame.device : Frame → Nat
  | .deviceIn _ p _ => p
  | .networkDeviceIn _ p _ => p
  | .deviceErr _ p => p
  | .usbDeviceAdded p _ _ => p

def Frame.Connected : Frame → Prop
  | .networkDeviceIn _ _ connectError => connectError ≠ 1
  | _ => True

/-- The device a running callback is at is freed, or listed as the callback found it. -/
structure Frame.Held (s : Context) (frame : Frame) : Prop where
  connected : frame.Connected
  device : frame.device ∈ s.freed ∨
    ∃ l ∈ s.devices, l.data = frame.device ∧ frame.At (s.heap l.data)

/-- Who watches what, in the two states of the daemon. -/
structure Watched (s : Context) : Prop where
  sound : Sound s s.devices
  active : s.paused = false → s.main.Accounts (watchesOf s s.devices)
  idle : s.paused = true → s.main.Accounts [] ∧
    ∀ x ∈ watchesOf s s.devices, x.1 ≠ 0 ∧ x.1 ∈ s.main.removed

structure Inv (d : GpilotDaemon) : Prop where
  watched : Watched d.context
  held : ∀ frame ∈ d.running, frame.Held d.context
  sources : (d.running.filterMap Frame.source).Nodup

theorem Frame.At.congr {frame : Frame} {device device' : Device} (h : frame.At device)
    (hwatches : device'.watches = device.watches) (hio : device'.io = device.io) :
    frame.At device' := by
  cases frame <;> simp_all [Frame.At]

/-- A callback stays at its device as long as the list stays and what it found there. -/
theorem Frame.Held.congr {s t : Context} {frame : Frame} (h : frame.Held s)
    (hfreed : t.freed = s.freed) (hdevices : t.devices = s.devices)
    (hat : ∀ l ∈ s.devices, frame.At (s.heap l.data) → frame.At (t.heap l.data)) :
    frame.Held t := by
  refine ⟨h.connected, ?_⟩
  rw [hfreed, hdevices]
  refine h.device.imp_right ?_
  rintro ⟨l, hl, hp, hlat⟩
  exact ⟨l, hl, hp, hat l hl hlat⟩

/-- Once every listed device has been freed, so has the device of every callback. -/
theorem Frame.Held.of_freed {s t : Context} {frame : Frame} (h : frame.Held s)
    (hfreed : s.freed ⊆ t.freed) (hlisted : ∀ l ∈ s.devices, l.data ∈ t.freed) :
    frame.Held t := by
  refine ⟨h.connected, Or.inl (h.device.elim (fun hp => hfreed hp) ?_)⟩
  rintro ⟨l, hl, hp, -⟩
  exact hp ▸ hlisted l hl

/-- A step that neither starts nor ends a callback. -/
theorem Inv.with_context {d : GpilotDaemon} (h : Inv d) {s : Context} (hs : Watched s)
    (hheld : ∀ frame : Frame, frame.Held d.context → frame.Held s) : Inv { d with context := s } :=
  ⟨hs, fun frame hframe => hheld frame (h.held frame hframe), h.sources⟩

/-! ## The property -/

def Installed (s : Context) (device : Device) : Prop :=
  ∃ c both, device.io = some c ∧ callbacks device.configured.type = some both ∧
    (device.inHandle, ⟨c, both.1⟩) ∈ s.main.live ∧ (device.errHandle, ⟨c, both.2⟩) ∈ s.main.live

def Silent (s : Context) (device : Device) : Prop :=
  ∀ x ∈ s.main.live, device.io ≠ some x.2.channel

/-- Every listed device is there; if it has a channel it is watched unless the daemon is
paused, and then it is not; and no number was removed twice. -/
def Monitored (s : Context) : Prop :=
  (∀ l ∈ s.devices, ∃ device, s.deref l.data = some device ∧
    (device.io.isSome → if s.paused then Silent s device else Installed s device)) ∧
  s.main.removed.Nodup

theorem installed_of_watches {s : Context} {device : Device} (htyped : device.Typed)
    (hio : device.io.isSome) (h : ∀ x ∈ device.watches, x ∈ s.main.live) :
    Installed s device := by
  rcases htyped.cases with hnone | ⟨c, both, hc, hboth⟩
  · rw [hnone] at hio
    cases hio
  · rw [watches_of_io hc hboth] at h
    exact ⟨c, both, hc, hboth, h _ List.mem_cons_self,
      h _ (List.mem_cons_of_mem _ List.mem_cons_self)⟩

theorem Watched.monitored {s : Context} (h : Watched s) : Monitored s := by
  cases hpaused : s.paused with
  | false =>
      have haccounts := h.active hpaused
      refine ⟨fun l hl => ⟨s.heap l.data, h.sound.deref hl, fun hio => ?_⟩,
        haccounts.removed_nodup⟩
      rw [if_neg (by simp [hpaused])]
      exact installed_of_watches (h.sound.typed l hl) hio fun x hx =>
        haccounts.mem_live.mpr (mem_watchesOf.mpr ⟨l, hl, hx⟩)
  | true =>
      have haccounts := (h.idle hpaused).1
      refine ⟨fun l hl => ⟨s.heap l.data, h.sound.deref hl, fun _ => ?_⟩,
        haccounts.removed_nodup⟩
      rw [if_pos hpaused, Silent, haccounts.live_eq_nil]
      simp

/-! ## Pausing -/

/-- Pausing removes every watch and remembers none of them. -/
theorem Watched.pause {s : Context} (h : Watched s) (hpaused : s.paused = false) :
    ∃ t, gpilotDaemonPause s true = some t ∧ Watched t ∧ t.heap = s.heap ∧
      t.freed = s.freed ∧ t.devices = s.devices := by
  have haccounts := h.active hpaused
  have hfor := pauseAll_eq (s := { s with paused := true }) h.sound.live
  refine ⟨{ s with paused := true, main := releaseAll s s.devices s.main }, ?_, ?_,
    rfl, rfl, rfl⟩
  · rw [gpilotDaemonPause, if_neg (by simp [hpaused])]
    exact hfor
  · exact {
      sound := h.sound.congr rfl rfl rfl fun _ _ => ⟨rfl, rfl⟩
      active := fun hfalse => by cases hfalse
      idle := fun _ => ⟨releaseAll_accounts h.sound.typed haccounts, fun x hx =>
        ⟨haccounts.pos x hx, mem_removed_releaseAll hx (haccounts.pos x hx)⟩⟩ }

/-- Resuming is harmless only if there is nothing to monitor. -/
theorem Watched.unpause {s : Context} (h : Watched s) (hpaused : s.paused = true)
    (hnone : channels s s.devices = []) : Watched { s with paused := false } where
  sound := h.sound.congr rfl rfl rfl fun _ _ => ⟨rfl, rfl⟩
  active := by
    intro _
    have hwatches : watchesOf { s with paused := false } s.devices = [] := watchesOf_eq_nil hnone
    rw [hwatches]
    exact (h.idle hpaused).1
  idle := fun htrue => by cases htrue

/-! ## Rereading -/

/-- The devices can be freed without removing a number twice. -/
theorem gpilotContextFree_spec {s : Context} (h : Sound s s.devices)
    (haccounts : s.main.Accounts (watchesOf s s.devices)) :
    ∃ t, gpilotContextFree s = some t ∧ t.paused = s.paused ∧ t.main.Accounts [] ∧
      (∀ b ∈ t.freed, b < t.nextBlock) ∧ s.freed ⊆ t.freed ∧
      ∀ l ∈ s.devices, l.data ∈ t.freed := by
  refine ⟨_, gpilotContextFree_eq h, rfl, releaseAll_accounts h.typed haccounts, freedWith_lt h,
    fun b hb => ?_, fun l hl => ?_⟩
  · exact mem_freedWith.mpr (Or.inr (Or.inr hb))
  · exact mem_freedWith.mpr (Or.inr (Or.inl ⟨l, hl, rfl⟩))

theorem initUserAndMonitor_spec (configured : List Configured) {s : Context}
    (hfreed : ∀ b ∈ s.freed, b < s.nextBlock) (haccounts : s.main.Accounts []) :
    ∃ t, initUserAndMonitor configured s = some t ∧ t.paused = s.paused ∧ t.freed = s.freed ∧
      Sound t t.devices ∧ t.main.Accounts (watchesOf t t.devices) ∧
      (channels t t.devices = [] ↔ ∀ c ∈ configured, ¬ c.Opens) := by
  obtain ⟨hloaded, hsound, hchannels⟩ := gpilotContextInitUser_spec configured hfreed
  rw [← hloaded.main] at haccounts
  obtain ⟨t, ht, hkept, haccounts⟩ := monitorAll_accounts hsound haccounts
  refine ⟨t, ht, hkept.paused.trans hloaded.paused, hkept.freed.trans hloaded.freed, ?_, ?_, ?_⟩
  · rw [hkept.devices]
    exact hkept.sound hsound
  · rw [hkept.devices]
    exact haccounts
  · rw [hkept.devices, channels_congr fun l _ => hkept.io l.data]
    exact hchannels

/-- Rereading keeps the watches in order, outside a pause or if neither the old nor the
new devices have a channel. -/
theorem Watched.reread {s : Context} (h : Watched s) {configured : List Configured}
    (hok : s.paused = false ∨
      (channels s s.devices = [] ∧ ∀ c ∈ configured, ¬ c.Opens)) :
    ∃ t, gpilotDaemonRereadConfig s configured = some t ∧ Watched t ∧ s.freed ⊆ t.freed ∧
      ∀ l ∈ s.devices, l.data ∈ t.freed := by
  have haccounts : s.main.Accounts (watchesOf s s.devices) := by
    cases hpaused : s.paused with
    | false => exact h.active hpaused
    | true =>
        rcases hok with hfalse | ⟨hnone, -⟩
        · rw [hpaused] at hfalse
          cases hfalse
        · rw [watchesOf_eq_nil hnone]
          exact (h.idle hpaused).1
  obtain ⟨t, ht, htpaused, htaccounts, htfreed, hsub, hlisted⟩ :=
    gpilotContextFree_spec h.sound haccounts
  obtain ⟨u, hu, hupaused, hufreed, husound, huaccounts, huchannels⟩ :=
    initUserAndMonitor_spec configured htfreed htaccounts
  refine ⟨u, ?_, ?_, by rw [hufreed]; exact hsub, by rw [hufreed]; exact hlisted⟩
  · rw [gpilotDaemonRereadConfig, ht]
    exact hu
  · refine ⟨husound, fun _ => huaccounts, fun hpaused => ?_⟩
    have hclosed : watchesOf u u.devices = [] := by
      rcases hok with hfalse | ⟨-, hclosed⟩
      · rw [hupaused, htpaused, hfalse] at hpaused
        cases hpaused
      · exact watchesOf_eq_nil (huchannels.mpr hclosed)
    rw [hclosed] at huaccounts ⊢
    exact ⟨huaccounts, by simp⟩

end GnomePilot.Daemon.Devices
