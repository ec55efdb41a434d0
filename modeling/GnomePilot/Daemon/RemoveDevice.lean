import GnomePilot.Daemon.Watches
import GnomePilot.Lib.History

/-!
# Failing devices

`remove_device` frees the device and its link, and asks `g_list_remove` for the link
where devices are compared.  Nothing is taken out: the list keeps a freed link that
points to a freed device.
-/

namespace GnomePilot.Daemon.Devices

open History

/-! ## Devices at the start -/

theorem gpilotContextInitUser_spec (configured : List Configured) {s : Context}
    (hfreed : ∀ b ∈ s.freed, b < s.nextBlock) :
    Loaded s (gpilotContextInitUser configured s) ∧
      Sound (gpilotContextInitUser configured s) (gpilotContextInitUser configured s).devices ∧
      (channels (gpilotContextInitUser configured s)
        (gpilotContextInitUser configured s).devices = [] ↔ ∀ c ∈ configured, ¬ c.Opens) := by
  obtain ⟨hloaded, hsound, hchannels⟩ := getDevices_spec configured (Sound.nil hfreed)
  refine ⟨⟨hloaded.paused, hloaded.freed, hloaded.main⟩,
    hsound.congr rfl rfl rfl fun _ _ => ⟨rfl, rfl⟩, ?_⟩
  exact hchannels.trans (by simp)

theorem gpilotDaemonInit_sound (configured : List Configured) :
    ∃ s, gpilotDaemonInit configured = some s ∧ Sound s s.devices := by
  have hsound := (gpilotContextInitUser_spec configured (s := gpilotContextNew)
    (by simp [gpilotContextNew])).2.1
  obtain ⟨s, hs, hkept⟩ := monitorAll_kept hsound
  refine ⟨s, hs, ?_⟩
  rw [hkept.devices]
  exact hkept.sound hsound

/-! ## One failure -/

theorem removeDevice_of_mem {s : Context} (h : Sound s s.devices) {l : Link}
    (hl : l ∈ s.devices) :
    ∃ t, removeDevice s l.data = some t ∧ t.devices = s.devices ∧ l.addr ∈ t.freed ∧
      l.data ∈ t.freed ∧ t.paused = s.paused := by
  have hfind : gListFind s l.data s.devices = some (some l) := by
    rw [gListFind_eq _ fun x hx => (h.live x hx).1]
    cases hm : s.devices.find? fun x => x.data = l.data with
    | none =>
        have hne := List.find?_eq_none.mp hm l hl
        simp at hne
    | some m =>
        have hdata : m.data = l.data := by simpa using List.find?_some hm
        rw [h.eq_of_data_eq (List.mem_of_find?_eq_some hm) hl hdata]
  -- the device as `gpilot_device_free` leaves it
  generalize ht : { s with
    main := release s.main (s.heap l.data), freed := l.data :: s.freed } = t
  have hfree : gpilotDeviceFree s l.data = some t := by
    rw [gpilotDeviceFree, gpilotDeviceDeinit_eq (h.live l hl).2 (h.typed l hl), Option.bind_some,
      gFree, if_neg (h.live l hl).2, ← ht]
  have htdevices : t.devices = s.devices := by rw [← ht]
  have haddr : ∀ m ∈ s.devices, m.addr ∉ t.freed := by
    intro m hm hgone
    rw [← ht] at hgone
    rcases List.mem_cons.mp hgone with heq | hgone
    · exact h.addr_ne_data hm hl heq
    · exact (h.live m hm).1 hgone
  -- no device is where the link is, so the search for the link finds nothing
  have hremove : gListRemove t l.addr t.devices = some (s.devices, none) := by
    rw [htdevices]
    exact gListRemove_eq_self haddr fun m hm heq => h.addr_ne_data hl hm heq.symm
  refine ⟨{ t with devices := s.devices, freed := l.addr :: t.freed }, ?_, rfl,
    List.mem_cons_self, ?_, ?_⟩
  · rw [removeDevice, h.deref hl, Option.bind_some, hfind, Option.bind_some]
    simp only [hfree, Option.bind_some, hremove]
    rw [gFree, if_neg (haddr l hl)]
  · rw [← ht]
    exact List.mem_cons_of_mem _ List.mem_cons_self
  · rw [← ht]

/-! ## Histories of failures -/

/-- No link of the list and no device on it has been freed, so that no look-up can
reach one. -/
def NoneFreed (s : Context) : Prop := ∀ l ∈ s.devices, l.addr ∉ s.freed ∧ l.data ∉ s.freed

def RemovesFailed (s : Context) (channel : Nat) (t : Context) : Prop :=
  t.devices = s.devices.eraseP (fun l => deviceEqualByIo channel (s.heap l.data)) ∧ NoneFreed t

/-- The error callback of a channel, as long as no freed block was met before. -/
def failStep (s : Option Context) (channel : Nat) : Option Context :=
  s.bind fun s => deviceErr s channel

def FailsWell (s : Option Context) (channel : Nat) : Prop :=
  ∃ before after, s = some before ∧ deviceErr before channel = some after ∧
    RemovesFailed before channel after

theorem deviceErr_of_forall_ne {s : Context} (h : Sound s s.devices) {channel : Nat}
    (hnone : ∀ l ∈ s.devices, (s.heap l.data).io ≠ some channel) :
    deviceErr s channel = some s := by
  rw [deviceErr, findByIo_of_forall_ne h hnone]
  rfl

theorem failsWell_of_forall_ne {s : Context} (h : Sound s s.devices) {channel : Nat}
    (hnone : ∀ l ∈ s.devices, (s.heap l.data).io ≠ some channel) :
    FailsWell (some s) channel := by
  refine ⟨s, s, rfl, deviceErr_of_forall_ne h hnone, ?_, h.live⟩
  refine (List.eraseP_of_forall_not ?_).symm
  intro l hl hequal
  exact hnone l hl (deviceEqualByIo_iff.mp hequal)

/-- The failure of a listed device is never handled well. -/
theorem not_failsWell_of_mem {s : Context} (h : Sound s s.devices) {l : Link} {channel : Nat}
    (hl : l ∈ s.devices) (hio : (s.heap l.data).io = some channel) :
    ¬ FailsWell (some s) channel := by
  rintro ⟨before, after, hbefore, herr, -, hnone⟩
  cases hbefore
  obtain ⟨t, ht, hdevices, hfreed, -⟩ := removeDevice_of_mem h hl
  rw [deviceErr, findByIo_of_mem h hl hio, Option.bind_some] at herr
  have heq : t = after := Option.some_inj.mp (ht.symm.trans herr)
  rw [heq] at hdevices hfreed
  exact (hnone l (hdevices ▸ hl)).1 hfreed

theorem allowed_failsWell_iff {s : Context} (h : Sound s s.devices) (channels : List Nat) :
    Allowed failStep FailsWell (some s) channels ↔
      ∀ channel ∈ channels, ∀ l ∈ s.devices, (s.heap l.data).io ≠ some channel := by
  induction channels with
  | nil => simp [Allowed]
  | cons channel rest ih =>
      rw [List.forall_mem_cons, Allowed]
      by_cases hnone : ∀ l ∈ s.devices, (s.heap l.data).io ≠ some channel
      · have hstep : failStep (some s) channel = some s := deviceErr_of_forall_ne h hnone
        rw [hstep, ih]
        exact and_congr_left fun _ => iff_of_true (failsWell_of_forall_ne h hnone) hnone
      · refine iff_of_false ?_ fun hall => hnone hall.1
        simp only [not_forall, not_not] at hnone
        obtain ⟨l, hl, hio⟩ := hnone
        exact fun hall => not_failsWell_of_mem h hl hio hall.1

/-- For every configuration and every sequence of errors, each step takes out the failed
device and leaves no freed one behind if and only if no error is a listed device's. -/
theorem removesFailed_iff (configured : List Configured) (channels : List Nat) :
    Allowed failStep FailsWell (gpilotDaemonInit configured) channels ↔
      ∀ s, gpilotDaemonInit configured = some s →
        ∀ channel ∈ channels, ∀ l ∈ s.devices, (s.heap l.data).io ≠ some channel := by
  obtain ⟨s, hs, hsound⟩ := gpilotDaemonInit_sound configured
  rw [hs, allowed_failsWell_iff hsound]
  exact ⟨fun h t ht => Option.some_inj.mp ht ▸ h, fun h => h s rfl⟩

/-! ## Two serial cradles -/

def serialCradle (name port : String) : Configured :=
  ⟨⟨some name, some port, 57600, none, 3, Config.PILOT_DEVICE_SERIAL⟩, .opened⟩

def twoCradles : List Configured :=
  [serialCradle "Cradle" "/dev/ttyS0", serialCradle "Travel" "/dev/ttyS1"]

/-- The first cradle hangs up: the list keeps it, freed, and the error of the second
cradle then walks into it. -/
theorem firstCradle_not_removed :
    ¬ Allowed failStep FailsWell (gpilotDaemonInit twoCradles) [0] ∧
      (failStep (gpilotDaemonInit twoCradles) 0).map (fun s => (s.devices, s.freed)) =
        some ([⟨1, 0⟩, ⟨3, 2⟩], [1, 0]) ∧
      failStep (failStep (gpilotDaemonInit twoCradles) 0) 1 = none := by
  have hstep : (failStep (gpilotDaemonInit twoCradles) 0).map (fun s => (s.devices, s.freed)) =
      some ([⟨1, 0⟩, ⟨3, 2⟩], [1, 0]) := by rfl
  refine ⟨?_, hstep, by rfl⟩
  rintro ⟨⟨before, after, hbefore, hafter, -, hnone⟩, -⟩
  rw [hbefore, failStep, Option.bind_some, hafter, Option.map_some, Option.some_inj,
    Prod.mk.injEq] at hstep
  have hlink := hnone ⟨1, 0⟩ (by simp [hstep.1])
  exact hlink.1 (by simp [hstep.2])

end GnomePilot.Daemon.Devices
