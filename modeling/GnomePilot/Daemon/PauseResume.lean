import GnomePilot.Daemon.Resume

/-!
# When devices stay monitored

Over any history the devices stay monitored exactly as long as no event takes a device's
watches away for good: resuming does not bring them back, rereading during a pause
removes them again or installs new ones, and a callback may lose them at its end.
-/

namespace GnomePilot.Daemon.Devices

open Config History

/-! ## The events that keep devices monitored -/

/-- A callback may end when its device was not freed in between; an error callback may
not end at all, a serial one not after a failed connection, and an IrDA one not during a
pause. -/
def Frame.MayReturn (s : Context) : Frame → Prop
  | .deviceIn _ p connectError => p ∉ s.freed ∧
      if (s.heap p).configured.type = PILOT_DEVICE_IRDA then s.paused = false
      else s.paused = true ∨ connectError ≠ 1
  | .networkDeviceIn _ p _ => p ∉ s.freed
  | .deviceErr _ _ => False
  | .usbDeviceAdded p connectError visorNet =>
      p ∉ s.freed ∨ (visorNet = true ∧ connectError = 1)

/-- What an event must not do. -/
def Keeps (d : GpilotDaemon) : Event → Prop
  | .pause onOff => onOff = true ∨ d.context.paused = false ∨
      channels d.context d.context.devices = []
  | .rereadConfig configured => d.context.paused = false ∨
      (channels d.context d.context.devices = [] ∧ ∀ c ∈ configured, ¬ c.Opens)
  | .ready _ _ => True
  | .usbDeviceAdded _ _ => True
  | .resume _ => ∀ frame ∈ d.running.head?, frame.MayReturn d.context

/-! ## They keep the invariant -/

/-- Of the callbacks at a serial device only the one its in watch called and an error
callback look for anything there. -/
theorem Frame.At.any {frame : Frame} {device : Device} (h : frame.At device) {source c : Nat}
    (hx : (source, Watch.mk c .deviceIn) ∈ device.watches) (hne : frame.source ≠ some source)
    (device' : Device) : frame.At device' := by
  obtain ⟨hsource, hio, hcallbacks⟩ := deviceIn_of_mem_watches hx
  cases frame with
  | deviceIn source' p connectError =>
      obtain ⟨c', hc'⟩ := h
      have hsame := (deviceIn_of_mem_watches hc').1
      exact absurd (congrArg some (hsame.symm.trans hsource)) hne
  | networkDeviceIn source' p connectError =>
      obtain ⟨c', hc'⟩ := h
      obtain ⟨_, both, -, hboth, heq⟩ := mem_watches_iff.mp hc'
      rw [hcallbacks, Option.some_inj] at hboth
      subst hboth
      simp at heq
  | deviceErr source' p => trivial
  | usbDeviceAdded p connectError visorNet =>
      rw [Frame.At, hio] at h
      cases h

theorem Frame.Held.restarted {s t : Context} {frame : Frame} (h : frame.Held s) {l : Link}
    (hfreed : t.freed = s.freed) (hdevices : t.devices = s.devices)
    (hothers : ∀ q, q ≠ l.data → t.heap q = s.heap q) {source c : Nat}
    (hx : (source, Watch.mk c .deviceIn) ∈ (s.heap l.data).watches)
    (hne : frame.source ≠ some source) : frame.Held t := by
  refine h.congr hfreed hdevices fun m _ hat => ?_
  by_cases hdata : m.data = l.data
  · rw [hdata] at hat
    exact hat.any hx hne _
  · rw [hothers m.data hdata]
    exact hat

theorem Inv.pop {s : Context} {frame : Frame} {rest : List Frame}
    (h : Inv ⟨s, frame :: rest⟩) : Inv ⟨s, rest⟩ where
  watched := h.watched
  held := fun f hf => h.held f (List.mem_cons_of_mem _ hf)
  sources := h.sources.sublist ((List.sublist_cons_self frame rest).filterMap _)

/-- A source nobody holds any more is not there to be dropped. -/
theorem returned_eq_of_accounts {d : GpilotDaemon} {held : List (Nat × Watch)} {source : Nat}
    (h : d.context.main.Accounts held) (hsource : source ∉ held.map Prod.fst) (result : Bool) :
    d.returned source result = d := by
  cases result with
  | true => rfl
  | false =>
      rw [GpilotDaemon.returned, h.drop_eq_self hsource]
      rfl

theorem Inv.deviceIn_held {s : Context} {rest : List Frame} {source p connectError : Nat}
    (h : Inv ⟨s, .deviceIn source p connectError :: rest⟩) (hlive : p ∉ s.freed) :
    ∃ l ∈ s.devices, l.data = p ∧ ∃ c, (source, Watch.mk c .deviceIn) ∈ (s.heap l.data).watches :=
  (h.held _ List.mem_cons_self).device.resolve_left hlive

/-- The end of a serial or IrDA callback that may end. -/
theorem Inv.deviceInReturn {s : Context} {rest : List Frame} {source p connectError : Nat}
    (h : Inv ⟨s, .deviceIn source p connectError :: rest⟩)
    (hok : (Frame.deviceIn source p connectError).MayReturn s) (opening : Opening) :
    ∃ d, Devices.resume ⟨s, .deviceIn source p connectError :: rest⟩ opening = some d ∧
      Inv d := by
  obtain ⟨hlive, hok⟩ := hok
  obtain ⟨l, hl, rfl, c, hx⟩ := h.deviceIn_held hlive
  have hpop := h.pop
  have hderef : s.deref l.data = some (s.heap l.data) := deref_of_not_freed hlive
  have hsync : syncDeviceReturn s l.data connectError = some (decide (connectError ≠ 1)) := by
    rw [syncDeviceReturn, hderef]
    by_cases herror : connectError = 1 <;> simp [herror]
  unfold Devices.resume
  dsimp only
  rw [Devices.deviceInReturn, hsync, Option.bind_some, hderef, Option.bind_some]
  by_cases hirda : (s.heap l.data).configured.type = PILOT_DEVICE_IRDA
  · rw [if_pos hirda] at hok ⊢
    obtain ⟨t, ht, hwatched, htfreed, htdevices, hothers, hremoved⟩ :=
      h.watched.restartIrda hok hl opening
    rw [ht]
    refine ⟨⟨t, rest⟩, ?_, hwatched, fun f hf => ?_, hpop.sources⟩
    · -- the source was removed when the device was closed
      have hgone : source ∈ t.main.removed := hremoved _ hx
      have hnot : ∀ held, t.main.Accounts held → source ∉ held.map Prod.fst := by
        intro held hheld hmem
        obtain ⟨y, hy, rfl⟩ := List.mem_map.mp hmem
        exact hheld.fresh y hy hgone
      simp only [Option.map_some, Option.some_inj]
      cases hpaused : t.paused with
      | false =>
          exact returned_eq_of_accounts (hwatched.active hpaused)
            (hnot _ (hwatched.active hpaused)) false
      | true =>
          exact returned_eq_of_accounts (hwatched.idle hpaused).1
            (hnot _ (hwatched.idle hpaused).1) false
    · have hne : f.source ≠ some source := by
        intro heq
        have hnodup := h.sources
        rw [List.filterMap_cons_some (by rfl : Frame.source (.deviceIn source l.data
          connectError) = some source), List.nodup_cons] at hnodup
        exact hnodup.1 (List.mem_filterMap.mpr ⟨f, hf, heq⟩)
      exact (hpop.held f hf).restarted htfreed htdevices hothers hx hne
  · rw [if_neg hirda] at hok ⊢
    refine ⟨⟨s, rest⟩, ?_, hpop⟩
    simp only [Option.map_some, Option.some_inj]
    rcases hok with hpaused | herror
    · exact returned_eq_of_accounts (d := ⟨s, rest⟩) (h.watched.idle hpaused).1 (by simp) _
    · simp [herror, GpilotDaemon.returned]

theorem Inv.usb_held {s : Context} {rest : List Frame} {p connectError : Nat} {visorNet : Bool}
    (h : Inv ⟨s, .usbDeviceAdded p connectError visorNet :: rest⟩) (hlive : p ∉ s.freed) :
    ∃ l ∈ s.devices, l.data = p ∧ (s.heap l.data).io = none :=
  (h.held _ List.mem_cons_self).device.resolve_left hlive

theorem Inv.networkDeviceInReturn {s : Context} {rest : List Frame} {source p connectError : Nat}
    (h : Inv ⟨s, .networkDeviceIn source p connectError :: rest⟩) (hlive : p ∉ s.freed)
    (opening : Opening) :
    ∃ d, Devices.resume ⟨s, .networkDeviceIn source p connectError :: rest⟩ opening = some d ∧
      Inv d := by
  have herror := (h.held _ List.mem_cons_self).connected
  refine ⟨⟨s, rest⟩, ?_, h.pop⟩
  unfold Devices.resume
  dsimp only
  rw [syncDeviceReturn, if_neg herror, deref_of_not_freed hlive]
  rfl

theorem Inv.usbReturn {s : Context} {rest : List Frame} {p connectError : Nat} {visorNet : Bool}
    (h : Inv ⟨s, .usbDeviceAdded p connectError visorNet :: rest⟩)
    (hok : (Frame.usbDeviceAdded p connectError visorNet).MayReturn s) (opening : Opening) :
    ∃ d, Devices.resume ⟨s, .usbDeviceAdded p connectError visorNet :: rest⟩ opening = some d ∧
      Inv d := by
  unfold Devices.resume
  dsimp only
  by_cases hfreed : p ∈ s.freed
  · obtain ⟨hnet, herror⟩ := hok.resolve_left (not_not_intro hfreed)
    refine ⟨⟨s, rest⟩, ?_, h.pop⟩
    rw [usbDeviceAddedReturn, syncDeviceReturn, if_pos herror, hnet]
    rfl
  · obtain ⟨l, hl, rfl, hio⟩ := h.usb_held hfreed
    have hderef : s.deref l.data = some (s.heap l.data) := deref_of_not_freed hfreed
    have hsync : ∃ result, syncDeviceReturn s l.data connectError = some result := by
      rw [syncDeviceReturn, hderef]
      by_cases herror : connectError = 1 <;> simp [herror]
    obtain ⟨result, hresult⟩ := hsync
    rw [usbDeviceAddedReturn, hresult, Option.bind_some, hderef]
    cases visorNet with
    | true => exact ⟨⟨s, rest⟩, rfl, h.pop⟩
    | false => exact ⟨_, rfl, h.pop.setType hl hio PILOT_DEVICE_USB_VISOR⟩

theorem Inv.resume {d : GpilotDaemon} (h : Inv d) (opening : Opening)
    (hok : ∀ frame ∈ d.running.head?, frame.MayReturn d.context) :
    ∃ e, Devices.resume d opening = some e ∧ Inv e := by
  obtain ⟨s, running⟩ := d
  cases running with
  | nil => exact ⟨⟨s, []⟩, rfl, h⟩
  | cons frame rest =>
      have hframe : frame.MayReturn s := hok frame rfl
      cases frame with
      | deviceIn source p connectError => exact h.deviceInReturn hframe opening
      | networkDeviceIn source p connectError => exact h.networkDeviceInReturn hframe opening
      | deviceErr source p => exact hframe.elim
      | usbDeviceAdded p connectError visorNet => exact h.usbReturn hframe opening

theorem Inv.handle {d : GpilotDaemon} (h : Inv d) {event : Event} (hok : Keeps d event) :
    ∃ e, d.handle event = some e ∧ Inv e := by
  cases event with
  | pause onOff =>
      by_cases hsame : d.context.paused = onOff
      · refine ⟨d, ?_, h⟩
        rw [GpilotDaemon.handle, gpilotDaemonPause, if_pos hsame]
        rfl
      · cases onOff with
        | true =>
            obtain ⟨t, ht, hwatched, hheap, hfreed, hdevices⟩ :=
              h.watched.pause (by simpa using hsame)
            refine ⟨{ d with context := t }, by rw [GpilotDaemon.handle, ht]; rfl,
              h.with_context hwatched fun frame hframe => ?_⟩
            exact hframe.congr hfreed hdevices fun l _ hat => by rwa [hheap]
        | false =>
            have hpaused : d.context.paused = true := by simpa using hsame
            have hnone : channels d.context d.context.devices = [] := by
              rcases hok with hfalse | hfalse | hnone
              · cases hfalse
              · rw [hpaused] at hfalse
                cases hfalse
              · exact hnone
            refine ⟨{ d with context := { d.context with paused := false } }, ?_,
              h.with_context (h.watched.unpause hpaused hnone) fun frame hframe =>
                hframe.congr rfl rfl fun _ _ hat => hat⟩
            rw [GpilotDaemon.handle, gpilotDaemonPause, if_neg hsame]
            rfl
  | rereadConfig configured =>
      obtain ⟨t, ht, hwatched, hfreed, hlisted⟩ := h.watched.reread hok
      exact ⟨{ d with context := t }, by rw [GpilotDaemon.handle, ht]; rfl,
        h.with_context hwatched fun frame hframe => hframe.of_freed hfreed hlisted⟩
  | ready source line => exact h.ready source line
  | usbDeviceAdded visorNet line => exact h.usb visorNet line
  | resume opening => exact h.resume opening hok

/-! ## The others break it -/

/-- A listed device with a channel, as `Monitored` sees it. -/
theorem Monitored.device {s : Context} (h : Monitored s) {l : Link} (hl : l ∈ s.devices)
    (hio : (s.heap l.data).io.isSome) :
    if s.paused then Silent s (s.heap l.data) else Installed s (s.heap l.data) := by
  obtain ⟨device, hderef, hdevice⟩ := h.1 l hl
  obtain ⟨-, rfl⟩ := deref_eq_some_iff.mp hderef
  exact hdevice hio

theorem exists_io_of_channels {s : Context} {links : List Link} (h : channels s links ≠ []) :
    ∃ l ∈ links, ∃ c, (s.heap l.data).io = some c := by
  obtain ⟨c, hc⟩ := List.exists_mem_of_ne_nil _ h
  obtain ⟨l, hl, hio⟩ := mem_channels_iff.mp hc
  exact ⟨l, hl, c, hio⟩

theorem Watched.not_monitored_unpaused {s : Context} (h : Watched s) (hpaused : s.paused = true)
    (hsome : channels s s.devices ≠ []) : ¬ Monitored { s with paused := false } := by
  obtain ⟨l, hl, c, hio⟩ := exists_io_of_channels hsome
  intro hmonitored
  obtain ⟨c', both, -, -, hin, -⟩ := hmonitored.device (s := { s with paused := false }) hl
    (by simp [hio])
  rw [(h.idle hpaused).1.live_eq_nil] at hin
  cases hin

theorem gListForeach_removed {links : List Link} {s t : Context}
    (h : gListForeach monitorChannel links s = some t) : t.main.removed = s.main.removed := by
  induction links generalizing s with
  | nil => rw [Option.some_inj.mp h]
  | cons l rest ih =>
      rw [gListForeach] at h
      split at h
      · cases h
      · obtain ⟨u, hu, h⟩ := Option.bind_eq_some_iff.mp h
        exact (ih h).trans (monitorChannel_removed hu)

theorem Watched.reread_not_nodup {s t : Context} (h : Watched s) (hpaused : s.paused = true)
    (hsome : channels s s.devices ≠ []) {configured : List Configured}
    (ht : gpilotDaemonRereadConfig s configured = some t) : ¬ t.main.removed.Nodup := by
  obtain ⟨l, hl, c, hio⟩ := exists_io_of_channels hsome
  rw [gpilotDaemonRereadConfig, gpilotContextFree_eq h.sound, Option.bind_some,
    initUserAndMonitor] at ht
  have hloaded := (gpilotContextInitUser_spec configured (s := { s with
    main := releaseAll s s.devices s.main
    freed := freedWith s s.devices
    devices := [] }) (freedWith_lt h.sound)).1
  rw [gListForeach_removed ht, hloaded.main]
  obtain ⟨callback, hx⟩ := inHandle_mem_watches (h.sound.typed l hl) hio
  obtain ⟨hpos, hgone⟩ := (h.idle hpaused).2 _ (mem_watchesOf.mpr ⟨l, hl, hx⟩)
  exact releaseAll_not_nodup hl (by simp [hio]) hpos hgone

theorem Watched.reread_not_silent {s t : Context} (h : Watched s) (hpaused : s.paused = true)
    (hnone : channels s s.devices = []) {configured : List Configured}
    (hopens : ¬ ∀ c ∈ configured, ¬ c.Opens)
    (ht : gpilotDaemonRereadConfig s configured = some t) : ¬ Monitored t := by
  have haccounts : s.main.Accounts (watchesOf s s.devices) := by
    rw [watchesOf_eq_nil hnone]
    exact (h.idle hpaused).1
  obtain ⟨u, hu, hupaused, huaccounts, hufreed, -, -⟩ := gpilotContextFree_spec h.sound haccounts
  obtain ⟨v, hv, hvpaused, -, hvsound, hvaccounts, hvchannels⟩ :=
    initUserAndMonitor_spec configured hufreed huaccounts
  rw [gpilotDaemonRereadConfig, hu, Option.bind_some, hv, Option.some_inj] at ht
  subst ht
  obtain ⟨l, hl, c, hio⟩ := exists_io_of_channels fun hclosed => hopens (hvchannels.mp hclosed)
  obtain ⟨callback, hx⟩ := inHandle_mem_watches (hvsound.typed l hl) hio
  intro hmonitored
  have hdevice := hmonitored.device hl (by simp [hio])
  rw [if_pos (hvpaused.trans (hupaused.trans hpaused))] at hdevice
  have hlive := hvaccounts.mem_live.mpr (mem_watchesOf.mpr ⟨l, hl, hx⟩)
  exact hdevice _ hlive hio

theorem returned_removed_suffix (d : GpilotDaemon) (source : Nat) (result : Bool) :
    d.context.main.removed <:+ (d.returned source result).context.main.removed := by
  cases result with
  | true => exact List.suffix_refl _
  | false => exact d.context.main.removed_suffix_drop source

@[simp] theorem returned_devices (d : GpilotDaemon) (source : Nat) (result : Bool) :
    (d.returned source result).context.devices = d.context.devices := by
  cases result <;> rfl

@[simp] theorem returned_freed (d : GpilotDaemon) (source : Nat) (result : Bool) :
    (d.returned source result).context.freed = d.context.freed := by
  cases result <;> rfl

/-- The end of a serial or IrDA callback that may not end. -/
theorem Inv.deviceIn_breaks {s : Context} {rest : List Frame} {source p connectError : Nat}
    (h : Inv ⟨s, .deviceIn source p connectError :: rest⟩)
    (hbad : ¬ (Frame.deviceIn source p connectError).MayReturn s) {opening : Opening}
    {d : GpilotDaemon}
    (hd : Devices.resume ⟨s, .deviceIn source p connectError :: rest⟩ opening = some d) :
    ¬ Monitored d.context := by
  unfold Devices.resume at hd
  dsimp only at hd
  obtain ⟨⟨result, t⟩, hreturn, rfl⟩ := Option.map_eq_some_iff.mp hd
  rw [Devices.deviceInReturn] at hreturn
  obtain ⟨synced, hsync, hreturn⟩ := Option.bind_eq_some_iff.mp hreturn
  obtain ⟨device, hderef, hreturn⟩ := Option.bind_eq_some_iff.mp hreturn
  obtain ⟨hlive, rfl⟩ := deref_eq_some_iff.mp hderef
  obtain ⟨l, hl, rfl, c, hx⟩ := h.deviceIn_held hlive
  obtain ⟨hsource, hio, -⟩ := deviceIn_of_mem_watches hx
  have hwatch : (source, Watch.mk c .deviceIn) ∈ watchesOf s s.devices :=
    mem_watchesOf.mpr ⟨l, hl, hx⟩
  by_cases hirda : (s.heap l.data).configured.type = PILOT_DEVICE_IRDA
  · -- during a pause the watches are removed a second time
    have hpaused : s.paused = true := by
      simpa [Frame.MayReturn, hlive, hirda] using hbad
    rw [if_pos hirda] at hreturn
    obtain ⟨u, hrestart, hreturn⟩ := Option.map_eq_some_iff.mp hreturn
    obtain ⟨-, rfl⟩ := Prod.mk.inj hreturn
    rw [Devices.restartIrda, gpilotDeviceDeinit_eq hlive (h.watched.sound.typed l hl),
      Option.bind_some] at hrestart
    obtain ⟨hpos, hgone⟩ := (h.watched.idle hpaused).2 _ hwatch
    rw [← hsource] at hpos hgone
    have htwice := release_not_nodup (by simp [hio]) hpos hgone
    intro hmonitored
    have hnodup := hmonitored.2.sublist (returned_removed_suffix ⟨u, rest⟩ source result).sublist
    rw [monitorChannel_removed hrestart] at hnodup
    exact htwice hnodup
  · -- the in watch is dropped
    have hactive : s.paused = false ∧ connectError = 1 := by
      simpa [Frame.MayReturn, hlive, hirda] using hbad
    rw [if_neg hirda, Option.some_inj] at hreturn
    obtain ⟨rfl, rfl⟩ := Prod.mk.inj hreturn
    rw [syncDeviceReturn, if_pos hactive.2, Option.some_inj] at hsync
    subst hsync
    intro hmonitored
    have hdevice := hmonitored.device (s := (GpilotDaemon.returned ⟨s, rest⟩ source false).context)
      (l := l) hl (by simp [GpilotDaemon.returned, hio])
    have haccounts := h.watched.active hactive.1
    have hmem : source ∈ s.main.live.map Prod.fst :=
      List.mem_map.mpr ⟨_, haccounts.mem_live.mpr hwatch, rfl⟩
    simp only [GpilotDaemon.returned, Bool.false_eq_true, if_false, hactive.1] at hdevice
    obtain ⟨c', both, -, -, hin, -⟩ := hdevice
    rw [Registry.drop, if_pos hmem, Registry.remove_of_ne_zero _ (haccounts.pos _ hwatch)] at hin
    simp [hsource] at hin

theorem Inv.deviceErr_held {s : Context} {rest : List Frame} {source p : Nat}
    (h : Inv ⟨s, .deviceErr source p :: rest⟩) : p ∈ s.freed ∨ ∃ l ∈ s.devices, l.data = p := by
  refine (h.held _ List.mem_cons_self).device.imp_right ?_
  rintro ⟨l, hl, hp, -⟩
  exact ⟨l, hl, hp⟩

/-- The device of an error callback stays in the list, freed. -/
theorem Inv.deviceErr_breaks {s : Context} {rest : List Frame} {source p : Nat}
    (h : Inv ⟨s, .deviceErr source p :: rest⟩) {opening : Opening} {d : GpilotDaemon}
    (hd : Devices.resume ⟨s, .deviceErr source p :: rest⟩ opening = some d) :
    ¬ Monitored d.context := by
  unfold Devices.resume at hd
  dsimp only at hd
  obtain ⟨t, hremove, rfl⟩ := Option.map_eq_some_iff.mp hd
  rcases h.deviceErr_held with hfreed | ⟨l, hl, rfl⟩
  · rw [removeDevice, deref_of_freed hfreed] at hremove
    cases hremove
  · obtain ⟨t', ht', hdevices, -, hfreed, -⟩ := removeDevice_of_mem h.watched.sound hl
    have heq : t' = t := Option.some_inj.mp (ht'.symm.trans hremove)
    subst heq
    intro hmonitored
    obtain ⟨device, hderef, -⟩ := hmonitored.1 l (by rw [returned_devices, hdevices]; exact hl)
    have hlive := (deref_eq_some_iff.mp hderef).1
    rw [returned_freed] at hlive
    exact hlive hfreed

theorem Inv.resume_breaks {d e : GpilotDaemon} (h : Inv d) {opening : Opening}
    (hbad : ¬ ∀ frame ∈ d.running.head?, frame.MayReturn d.context)
    (he : Devices.resume d opening = some e) : ¬ Monitored e.context := by
  obtain ⟨s, running⟩ := d
  cases running with
  | nil => exact absurd (fun frame hframe => by cases hframe) hbad
  | cons frame rest =>
      have hframe : ¬ frame.MayReturn s := by simpa using hbad
      cases frame with
      | deviceIn source p connectError => exact h.deviceIn_breaks hframe he
      | networkDeviceIn source p connectError =>
          have herror : connectError ≠ 1 := (h.held _ List.mem_cons_self).connected
          unfold Devices.resume at he
          dsimp only at he
          rw [syncDeviceReturn, if_neg herror, deref_of_freed (not_not.mp hframe)] at he
          cases he
      | deviceErr source p => exact h.deviceErr_breaks he
      | usbDeviceAdded p connectError visorNet =>
          have hfreed : p ∈ s.freed := not_not.mp fun hlive => hframe (Or.inl hlive)
          have hnot : ¬ (visorNet = true ∧ connectError = 1) := fun hb => hframe (Or.inr hb)
          unfold Devices.resume at he
          dsimp only at he
          rw [usbDeviceAddedReturn, syncDeviceReturn, deref_of_freed hfreed] at he
          cases visorNet <;> by_cases herror : connectError = 1 <;> simp_all

theorem Inv.breaks {d e : GpilotDaemon} (h : Inv d) {event : Event} (hbad : ¬ Keeps d event)
    (he : d.handle event = some e) : ¬ Monitored e.context := by
  cases event with
  | pause onOff =>
      simp only [Keeps, not_or, Bool.not_eq_true, Bool.not_eq_false] at hbad
      obtain ⟨hoff, hpaused, hsome⟩ := hbad
      rw [GpilotDaemon.handle, gpilotDaemonPause, hoff, hpaused] at he
      obtain ⟨t, ht, rfl⟩ := Option.map_eq_some_iff.mp he
      cases ht
      exact h.watched.not_monitored_unpaused hpaused hsome
  | rereadConfig configured =>
      simp only [Keeps, not_or, Bool.not_eq_false] at hbad
      obtain ⟨hpaused, hopens⟩ := hbad
      obtain ⟨t, ht, rfl⟩ := Option.map_eq_some_iff.mp he
      by_cases hnone : channels d.context d.context.devices = []
      · exact h.watched.reread_not_silent hpaused hnone (fun hc => hopens ⟨hnone, hc⟩) ht
      · exact fun hmonitored => h.watched.reread_not_nodup hpaused hnone ht hmonitored.2
  | ready source line => exact absurd trivial hbad
  | usbDeviceAdded visorNet line => exact absurd trivial hbad
  | resume opening => exact h.resume_breaks hbad he

/-! ## Histories -/

theorem start_inv (configured : List Configured) :
    ∃ d, start configured = some d ∧ Inv d := by
  obtain ⟨s, hs, hpaused, -, hsound, haccounts, -⟩ := initUserAndMonitor_spec configured
    (s := gpilotContextNew) (by simp [gpilotContextNew]) Registry.Accounts.empty
  refine ⟨⟨s, []⟩, ?_, ⟨hsound, fun _ => haccounts, fun htrue => ?_⟩, ?_, List.nodup_nil⟩
  · rw [start, gpilotDaemonInit, hs]
    rfl
  · rw [hpaused] at htrue
    cases htrue
  · intro frame hframe
    cases hframe

/-- For every set of configured devices and every sequence of events: the devices are
monitored in every state reached, with no watch removed twice, if and only if every event
keeps to the conditions. -/
theorem monitored_iff (configured : List Configured) (events : List Event) :
    Always step (fun d => ∃ e, d = some e ∧ Monitored e.context) (start configured) events ↔
      Allowed step (fun d event => ∃ e, d = some e ∧ Keeps e event) (start configured) events := by
  refine always_iff_allowed (fun d => ∃ e, d = some e ∧ Inv e) ?_ ?_ ?_ (start_inv configured)
  · rintro d ⟨e, rfl, hinv⟩
    exact ⟨e, rfl, hinv.watched.monitored⟩
  · rintro d event ⟨e, rfl, hinv⟩ ⟨e', he', hok⟩
    cases he'
    exact hinv.handle hok
  · rintro d event ⟨e, rfl, hinv⟩ hbad ⟨e', he', hmonitored⟩
    exact hinv.breaks (fun hok => hbad ⟨e, rfl, hok⟩) he' hmonitored

/-! ## One serial cradle -/

def oneCradle : List Configured := [serialCradle "Cradle" "/dev/ttyS0"]

/-- Paused and resumed, the cradle has a channel and nobody watches it; reread during the
pause, its watches are removed twice. -/
theorem resumedCradle_deaf :
    ¬ Always step (fun d => ∃ e, d = some e ∧ Monitored e.context) (start oneCradle)
        [.pause true, .pause false] ∧
      (step (step (start oneCradle) (.pause true)) (.pause false)).map
          (fun d => (d.context.paused, d.context.devices, d.context.main.live)) =
        some (false, [⟨1, 0⟩], []) ∧
      (step (step (start oneCradle) (.pause true)) (.rereadConfig oneCradle)).map
          (fun d => d.context.main.removed) = some [2, 1, 2, 1] := by
  have hstate : (step (step (start oneCradle) (.pause true)) (.pause false)).map
      (fun d => (d.context.paused, d.context.devices, d.context.main.live)) =
        some (false, [⟨1, 0⟩], []) := by rfl
  have hio : (step (step (start oneCradle) (.pause true)) (.pause false)).map
      (fun d => (d.context.heap 0).io) = some (some 0) := by rfl
  refine ⟨?_, hstate, by rfl⟩
  rintro ⟨-, -, d, hd, hmonitored⟩
  rw [hd, Option.map_some, Option.some_inj] at hstate hio
  simp only [Prod.mk.injEq] at hstate
  obtain ⟨hpaused, hdevices, hlive⟩ := hstate
  have hdevice := hmonitored.device (l := ⟨1, 0⟩) (by simp [hdevices]) (by simp [hio])
  rw [hpaused] at hdevice
  obtain ⟨c, both, -, -, hin, -⟩ := hdevice
  rw [hlive] at hin
  cases hin

end GnomePilot.Daemon.Devices
