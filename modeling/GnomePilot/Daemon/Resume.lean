import GnomePilot.Daemon.Monitored

/-!
# Callbacks and the invariant

A watch that becomes ready is a listed device's, so its callback starts there.  When a
callback goes on, its device must not have been freed in between; then it keeps the
invariant unless it loses the device's watches or restarts them during a pause.
-/

namespace GnomePilot.Daemon.Devices

open Config

/-! ## Starting a callback -/

theorem mem_running_source {running : List Frame} {source : Nat} :
    source ∈ running.filterMap Frame.source ↔ some source ∈ running.map Frame.source := by
  simp [List.mem_filterMap]

theorem Inv.push {d : GpilotDaemon} (h : Inv d) {frame : Frame} (hheld : frame.Held d.context)
    (hsource : ∀ source, frame.source = some source →
      some source ∉ d.running.map Frame.source) : Inv (d.push frame) where
  watched := h.watched
  held := by
    intro f hf
    rcases List.mem_cons.mp hf with rfl | hf
    · exact hheld
    · exact h.held f hf
  sources := by
    rw [GpilotDaemon.push]
    cases hframe : frame.source with
    | none =>
        rw [List.filterMap_cons_none hframe]
        exact h.sources
    | some source =>
        rw [List.filterMap_cons_some hframe, List.nodup_cons]
        refine ⟨fun hmem => hsource source hframe ?_, h.sources⟩
        exact mem_running_source.mp hmem

theorem Watched.find_of_live {s : Context} (h : Watched s) {source : Nat} {watch : Watch}
    (hlive : (source, watch) ∈ s.main.live) :
    s.paused = false ∧ ∃ l ∈ s.devices, (source, watch) ∈ (s.heap l.data).watches ∧
      findByIo s watch.channel = some (some l) := by
  cases hpaused : s.paused with
  | true =>
      rw [(h.idle hpaused).1.live_eq_nil] at hlive
      cases hlive
  | false =>
      obtain ⟨l, hl, hx⟩ := mem_watchesOf.mp ((h.active hpaused).mem_live.mp hlive)
      exact ⟨rfl, l, hl, hx, findByIo_of_mem h.sound hl (io_of_mem_watches hx)⟩

/-- Connecting to a network device never ends with the error that gives it up. -/
theorem pilotConnect_network {type : Int32} (line : Line)
    (h : type = PILOT_DEVICE_NETWORK ∨ type = PILOT_DEVICE_BLUETOOTH) :
    pilotConnect type line ≠ 1 := by
  rw [pilotConnect, if_pos h]
  split <;> decide

theorem network_of_mem_watches {device : Device} {source c : Nat}
    (hx : (source, Watch.mk c .networkDeviceIn) ∈ device.watches) :
    device.configured.type = PILOT_DEVICE_NETWORK ∨
      device.configured.type = PILOT_DEVICE_BLUETOOTH := by
  obtain ⟨c', both, -, hcallbacks, heq⟩ := mem_watches_iff.mp hx
  rcases callbacks_eq_some hcallbacks with ⟨rfl, -⟩ | ⟨-, htype⟩
  · simp at heq
  · exact htype

theorem startIn_eq {d : GpilotDaemon} {source channel : Nat} {line : Line} {l : Link}
    (frame : Nat → Nat → Nat → Frame) (hfound : findByIo d.context channel = some (some l))
    (hpaused : d.context.paused = false) :
    startIn d source channel line frame = some (d.push (frame source l.data
      (pilotConnect (d.context.heap l.data).configured.type line))) := by
  rw [startIn, hfound, Option.map_some]
  simp [hpaused]

theorem startErr_eq {d : GpilotDaemon} {source channel : Nat} {l : Link}
    (hfound : findByIo d.context channel = some (some l)) :
    startErr d source channel = some (d.push (.deviceErr source l.data)) := by
  rw [startErr, hfound, Option.map_some]

/-- Dispatching a source starts at most a callback. -/
theorem Inv.ready {d : GpilotDaemon} (h : Inv d) (source : Nat) (line : Line) :
    ∃ e, Devices.ready d source line = some e ∧ Inv e := by
  unfold Devices.ready
  split
  · exact ⟨d, rfl, h⟩
  · rename_i i watch hfind
    have hlive := List.mem_of_find?_eq_some hfind
    have hi : i = source := by simpa using List.find?_some hfind
    rw [hi] at hlive
    split
    · exact ⟨d, rfl, h⟩
    · rename_i hidle
      obtain ⟨hpaused, l, hl, hx, hfound⟩ := h.watched.find_of_live hlive
      have hother : ∀ n, some source = some n → some n ∉ d.running.map Frame.source := by
        rintro n ⟨⟩
        exact hidle
      obtain ⟨channel, callback⟩ := watch
      cases callback with
      | deviceIn =>
          exact ⟨_, startIn_eq .deviceIn hfound hpaused,
            h.push ⟨trivial, Or.inr ⟨l, hl, rfl, channel, hx⟩⟩ hother⟩
      | networkDeviceIn =>
          have herror := pilotConnect_network line (network_of_mem_watches hx)
          exact ⟨_, startIn_eq .networkDeviceIn hfound hpaused,
            h.push ⟨herror, Or.inr ⟨l, hl, rfl, channel, hx⟩⟩ hother⟩
      | deviceErr =>
          exact ⟨_, startErr_eq hfound,
            h.push ⟨trivial, Or.inr ⟨l, hl, rfl, trivial⟩⟩ hother⟩
      | networkDeviceErr =>
          exact ⟨_, startErr_eq hfound,
            h.push ⟨trivial, Or.inr ⟨l, hl, rfl, trivial⟩⟩ hother⟩

/-! ## USB devices -/

theorem setType_watches {s : Context} {p : Nat} (type : Int32) (hio : (s.heap p).io = none)
    (q : Nat) : ((setType s p type).heap q).watches = (s.heap q).watches ∧
      ((setType s p type).heap q).io = (s.heap q).io := by
  by_cases hq : q = p
  · rw [hq, setType, write_heap_self]
    refine ⟨?_, rfl⟩
    rw [watches_of_io_none hio]
    refine watches_of_io_none ?_
    exact hio
  · rw [setType, write_heap_other s _ hq]
    exact ⟨rfl, rfl⟩

/-- The type of a device without a channel can be changed. -/
theorem Watched.setType {s : Context} (h : Watched s) {l : Link} (hl : l ∈ s.devices)
    (hio : (s.heap l.data).io = none) (type : Int32) : Watched (setType s l.data type) := by
  have hwatches : watchesOf (Devices.setType s l.data type) s.devices = watchesOf s s.devices :=
    watchesOf_congr fun m _ => (setType_watches type hio m.data).1
  exact {
    sound := h.sound.write hl (fun hsome => by rw [hio] at hsome; cases hsome)
      (Nat.le_refl _) (Or.inl hio)
    active := fun hpaused => by
      have haccounts := h.active hpaused
      rw [← hwatches] at haccounts
      exact haccounts
    idle := fun hpaused => by
      have hidle := h.idle hpaused
      rw [← hwatches] at hidle
      exact hidle }

theorem Inv.setType {d : GpilotDaemon} (h : Inv d) {l : Link} (hl : l ∈ d.context.devices)
    (hio : (d.context.heap l.data).io = none) (type : Int32) :
    Inv { d with context := Devices.setType d.context l.data type } :=
  h.with_context (h.watched.setType hl hio type) fun _ hframe =>
    hframe.congr rfl rfl fun m _ hat =>
      hat.congr (setType_watches type hio m.data).1 (setType_watches type hio m.data).2

theorem io_of_usb {device : Device} (htyped : device.Typed)
    (htype : device.configured.type = PILOT_DEVICE_USB_VISOR) : device.io = none := by
  rcases htyped.cases with hio | ⟨c, both, -, hboth⟩
  · exact hio
  · rw [htype] at hboth
    cases hboth

/-- A USB device that is plugged in starts at most a callback. -/
theorem Inv.usb {d : GpilotDaemon} (h : Inv d) (visorNet : Option Bool) (line : Line) :
    ∃ e, startUsb d visorNet line = some e ∧ Inv e := by
  unfold startUsb
  split
  · exact ⟨d, rfl, h⟩
  · cases visorNet with
    | none => exact ⟨d, rfl, h⟩
    | some visorNet =>
        dsimp only
        rw [gListFindCustom_eq _ h.watched.sound.live, Option.map_some]
        cases hfind : d.context.devices.find? fun l =>
            (decide ((d.context.heap l.data).configured.type = PILOT_DEVICE_USB_VISOR)) with
        | none => exact ⟨d, rfl, h⟩
        | some l =>
            have hl := List.mem_of_find?_eq_some hfind
            have htype : (d.context.heap l.data).configured.type = PILOT_DEVICE_USB_VISOR := by
              simpa using List.find?_some hfind
            have hio := io_of_usb (h.watched.sound.typed l hl) htype
            have hset := h.setType hl hio
              (if visorNet then PILOT_DEVICE_USB_VISOR else PILOT_DEVICE_SERIAL)
            refine ⟨_, rfl, hset.push ⟨trivial, Or.inr ⟨l, hl, rfl, ?_⟩⟩
              (fun source hsource => ?_)⟩
            · exact ((setType_watches _ hio l.data).2).trans hio
            · cases hsource

/-! ## Restarting an IrDA device -/

theorem deviceIn_of_mem_watches {device : Device} {source c : Nat}
    (hx : (source, Watch.mk c .deviceIn) ∈ device.watches) :
    device.inHandle = source ∧ device.io = some c ∧
      callbacks device.configured.type = some (.deviceIn, .deviceErr) := by
  obtain ⟨c', both, hio, hcallbacks, heq⟩ := mem_watches_iff.mp hx
  rcases callbacks_eq_some hcallbacks with ⟨rfl, -⟩ | ⟨rfl, -⟩
  · simp only [Prod.mk.injEq, Watch.mk.injEq, and_true, reduceCtorEq, and_false, or_false] at heq
    exact ⟨heq.1.symm, heq.2 ▸ hio, hcallbacks⟩
  · simp at heq

/-- Outside a pause the device is closed, opened and watched anew. -/
theorem Watched.restartIrda {s : Context} (h : Watched s) (hpaused : s.paused = false) {l : Link}
    (hl : l ∈ s.devices) (opening : Opening) :
    ∃ t, restartIrda s l.data opening = some t ∧ Watched t ∧ t.freed = s.freed ∧
      t.devices = s.devices ∧ (∀ q, q ≠ l.data → t.heap q = s.heap q) ∧
      ∀ x ∈ (s.heap l.data).watches, x.1 ∈ t.main.removed := by
  have hlive := (h.sound.live l hl).2
  have htyped := h.sound.typed l hl
  have hperm := List.perm_cons_erase hl
  have haccounts : s.main.Accounts
      ((s.heap l.data).watches ++ watchesOf s (s.devices.erase l)) :=
    (h.active hpaused).perm (watchesOf_perm s hperm)
  -- the device without its watches, then opened again
  generalize hu : reinit { s with main := release s.main (s.heap l.data) } l.data opening = u
  have hdevice : u.heap l.data =
      (gpilotDeviceInit opening s.nextChannel (s.heap l.data)).2 := by
    rw [← hu]
    exact write_heap_self _ _ _
  have hothers : ∀ q, q ≠ l.data → u.heap q = s.heap q := fun q hq => by
    rw [← hu]
    exact write_heap_other s _ hq
  have hsound : Sound u s.devices := by
    rw [← hu]
    have hio := gpilotDeviceInit_io opening s.nextChannel (s.heap l.data)
    refine (h.sound.write hl (gpilotDeviceInit_typed opening s.nextChannel htyped)
      (Nat.le_succ s.nextChannel) ?_).congr rfl rfl rfl fun _ _ => ⟨rfl, rfl⟩
    rcases hio with hio | hio | hio
    · exact Or.inr (Or.inr ⟨hio, Nat.lt_succ_self _⟩)
    · exact Or.inl hio
    · exact Or.inr (Or.inl hio)
  have hrest : watchesOf u (s.devices.erase l) = watchesOf s (s.devices.erase l) :=
    watchesOf_congr fun m hm =>
      congrArg Device.watches (hothers m.data (h.sound.ne_of_mem_erase hl hm))
  have hreleased : u.main.Accounts (watchesOf u (s.devices.erase l)) := by
    rw [hrest, ← hu]
    exact release_accounts htyped haccounts
  obtain ⟨t, ht, hkept, hsame, hwatched⟩ := monitorChannel_accounts (hsound.live l hl).2
    (hsound.typed l hl) hreleased
  have htmain : t.main.Accounts (watchesOf t s.devices) := by
    have hkeep : watchesOf t (s.devices.erase l) = watchesOf u (s.devices.erase l) :=
      watchesOf_congr fun m hm =>
        congrArg Device.watches (hsame m.data (h.sound.ne_of_mem_erase hl hm))
    rw [← hkeep] at hwatched
    exact hwatched.perm (watchesOf_perm t hperm.symm)
  have hufreed : u.freed = s.freed := by rw [← hu]; rfl
  have hudevices : u.devices = s.devices := by rw [← hu]; rfl
  have hupaused : u.paused = s.paused := by rw [← hu]; rfl
  refine ⟨t, ?_, ?_, hkept.freed.trans hufreed, hkept.devices.trans hudevices,
    fun q hq => (hsame q hq).trans (hothers q hq), fun x hx => ?_⟩
  · rw [Devices.restartIrda, gpilotDeviceDeinit_eq hlive htyped, Option.bind_some, hu]
    exact ht
  · refine ⟨?_, fun _ => ?_, fun hpaused' => ?_⟩
    · rw [hkept.devices, hudevices]
      exact hkept.sound hsound
    · rw [hkept.devices, hudevices]
      exact htmain
    · rw [hkept.paused, hupaused, hpaused] at hpaused'
      cases hpaused'
  · rw [monitorChannel_removed ht, ← hu]
    exact mem_removed_release hx (haccounts.pos x (List.mem_append_left _ hx))

end GnomePilot.Daemon.Devices
