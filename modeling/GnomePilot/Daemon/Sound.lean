import GnomePilot.Daemon.Devices
import Mathlib.Data.List.Pairwise

/-!
# Sound lists of devices

In a sound list no block is freed or shared, no two devices share a channel, and
only devices of a type that is watched have one.  On such a list the operations
have a result.
-/

namespace GnomePilot.Daemon.Devices

open Config

/-! ## What a list of devices has to satisfy -/

def Device.Typed (device : Device) : Prop :=
  device.io.isSome → (callbacks device.configured.type).isSome

def channels (s : Context) (links : List Link) : List Nat :=
  links.filterMap fun l => (s.heap l.data).io

structure Sound (s : Context) (links : List Link) : Prop where
  nodup : (links.map Link.addr ++ links.map Link.data).Nodup
  live : ∀ l ∈ links, l.addr ∉ s.freed ∧ l.data ∉ s.freed
  lt : ∀ l ∈ links, l.addr < s.nextBlock ∧ l.data < s.nextBlock
  freed_lt : ∀ b ∈ s.freed, b < s.nextBlock
  typed : ∀ l ∈ links, (s.heap l.data).Typed
  channels_nodup : (channels s links).Nodup
  channels_lt : ∀ c ∈ channels s links, c < s.nextChannel

theorem mem_channels_iff {s : Context} {links : List Link} {c : Nat} :
    c ∈ channels s links ↔ ∃ l ∈ links, (s.heap l.data).io = some c := by
  simp [channels]

@[simp] theorem channels_nil (s : Context) : channels s [] = [] := rfl

theorem channels_append (s : Context) (links more : List Link) :
    channels s (links ++ more) = channels s links ++ channels s more := by
  simp [channels]

theorem channels_congr {s t : Context} {links : List Link}
    (h : ∀ l ∈ links, (t.heap l.data).io = (s.heap l.data).io) :
    channels t links = channels s links := List.filterMap_congr h

namespace Sound

variable {s : Context} {links : List Link}

theorem data_nodup (h : Sound s links) : (links.map Link.data).Nodup :=
  (List.nodup_append.mp h.nodup).2.1

theorem addr_nodup (h : Sound s links) : (links.map Link.addr).Nodup :=
  (List.nodup_append.mp h.nodup).1

theorem addr_ne_data (h : Sound s links) {l m : Link} (hl : l ∈ links) (hm : m ∈ links) :
    l.addr ≠ m.data :=
  (List.nodup_append.mp h.nodup).2.2 l.addr (List.mem_map_of_mem hl) m.data
    (List.mem_map_of_mem hm)

theorem eq_of_data_eq (h : Sound s links) {l m : Link} (hl : l ∈ links) (hm : m ∈ links)
    (heq : l.data = m.data) : l = m := List.inj_on_of_nodup_map h.data_nodup hl hm heq

/-- Two devices of the list with one channel are one. -/
theorem eq_of_io_eq (h : Sound s links) {l m : Link} {c : Nat} (hl : l ∈ links) (hm : m ∈ links)
    (hlc : (s.heap l.data).io = some c) (hmc : (s.heap m.data).io = some c) : l = m := by
  by_contra hne
  have hpair := List.pairwise_filterMap.mp h.channels_nodup
  have hsymm : Std.Symm fun l m : Link => ∀ b, (s.heap l.data).io = some b →
      ∀ b', (s.heap m.data).io = some b' → b ≠ b' :=
    ⟨fun l m hlm b hb b' hb' heq => hlm b' hb' b hb heq.symm⟩
  exact hpair.forall hl hm hne c hlc c hmc rfl

/-- A list stays sound as long as its devices keep their types and channels and
nothing is freed. -/
theorem congr {t : Context} (h : Sound s links) (hfreed : t.freed = s.freed)
    (hblock : t.nextBlock = s.nextBlock) (hchannel : t.nextChannel = s.nextChannel)
    (hdevices : ∀ l ∈ links, (t.heap l.data).io = (s.heap l.data).io ∧
      (t.heap l.data).configured.type = (s.heap l.data).configured.type) : Sound t links where
  nodup := h.nodup
  live := by rw [hfreed]; exact h.live
  lt := by rw [hblock]; exact h.lt
  freed_lt := by rw [hfreed, hblock]; exact h.freed_lt
  typed := by
    intro l hl
    rw [Device.Typed, (hdevices l hl).1, (hdevices l hl).2]
    exact h.typed l hl
  channels_nodup := by
    rw [channels_congr fun l hl => (hdevices l hl).1]
    exact h.channels_nodup
  channels_lt := by
    rw [channels_congr fun l hl => (hdevices l hl).1, hchannel]
    exact h.channels_lt

theorem nil (hfreed : ∀ b ∈ s.freed, b < s.nextBlock) : Sound s [] where
  nodup := List.nodup_nil
  live := by simp
  lt := by simp
  freed_lt := hfreed
  typed := by simp
  channels_nodup := List.nodup_nil
  channels_lt := by simp

theorem deref (h : Sound s links) {l : Link} (hl : l ∈ links) :
    s.deref l.data = some (s.heap l.data) := deref_of_not_freed (h.live l hl).2

end Sound

/-! ## Walking a list -/

/-- An invariant of the walk, on the links still to come and the context. -/
theorem gListForeach_rule {f : Context → Nat → Option Context} {I : List Link → Context → Prop}
    (hlive : ∀ l rest s, I (l :: rest) s → l.addr ∉ s.freed)
    (hstep : ∀ l rest s, I (l :: rest) s → ∃ t, f s l.data = some t ∧ I rest t)
    (links : List Link) (s : Context) (h : I links s) :
    ∃ t, gListForeach f links s = some t ∧ I [] t := by
  induction links generalizing s with
  | nil => exact ⟨s, rfl, h⟩
  | cons l rest ih =>
      obtain ⟨t, ht, hI⟩ := hstep l rest s h
      obtain ⟨u, hu, hI⟩ := ih t hI
      refine ⟨u, ?_, hI⟩
      rw [gListForeach, if_neg (hlive l rest s h), ht]
      exact hu

/-- On a sound list a look-up gives the first device that compares as equal. -/
theorem gListFindCustom_eq {s : Context} {links : List Link} (equal : Device → Bool)
    (hlive : ∀ l ∈ links, l.addr ∉ s.freed ∧ l.data ∉ s.freed) :
    gListFindCustom s equal links = some (links.find? fun l => equal (s.heap l.data)) := by
  induction links with
  | nil => rfl
  | cons l rest ih =>
      have hl := hlive l List.mem_cons_self
      rw [gListFindCustom, if_neg hl.1, deref_of_not_freed hl.2, Option.bind_some,
        ih fun x hx => hlive x (List.mem_cons_of_mem _ hx), List.find?_cons]
      cases equal (s.heap l.data) <;> rfl

theorem gListFind_eq {s : Context} {links : List Link} (data : Nat)
    (hlive : ∀ l ∈ links, l.addr ∉ s.freed) :
    gListFind s data links = some (links.find? fun l => l.data = data) := by
  induction links with
  | nil => rfl
  | cons l rest ih =>
      rw [gListFind, if_neg (hlive l List.mem_cons_self),
        ih fun x hx => hlive x (List.mem_cons_of_mem _ hx), List.find?_cons]
      by_cases h : l.data = data <;> simp [h]

/-- A pointer no link holds is not taken out. -/
theorem gListRemove_eq_self {s : Context} {links : List Link} {data : Nat}
    (hlive : ∀ l ∈ links, l.addr ∉ s.freed) (hdata : ∀ l ∈ links, l.data ≠ data) :
    gListRemove s data links = some (links, none) := by
  induction links with
  | nil => rfl
  | cons l rest ih =>
      rw [gListRemove, if_neg (hlive l List.mem_cons_self), if_neg (hdata l List.mem_cons_self),
        ih (fun x hx => hlive x (List.mem_cons_of_mem _ hx))
          fun x hx => hdata x (List.mem_cons_of_mem _ hx)]
      rfl

theorem gListFree_eq {s : Context} {links : List Link} (hnodup : (links.map Link.addr).Nodup)
    (hlive : ∀ l ∈ links, l.addr ∉ s.freed) :
    gListFree links s = some { s with freed := (links.map Link.addr).reverse ++ s.freed } := by
  induction links generalizing s with
  | nil => rfl
  | cons l rest ih =>
      have hhead := List.nodup_cons.mp hnodup
      rw [gListFree, gFree, if_neg (hlive l List.mem_cons_self), Option.bind_some, ih hhead.2]
      · simp
      · intro x hx hgone
        rcases List.mem_cons.mp hgone with heq | hgone
        · exact hhead.1 (heq ▸ List.mem_map_of_mem hx)
        · exact hlive x (List.mem_cons_of_mem _ hx) hgone

theorem findByIo_eq {s : Context} (h : Sound s s.devices) (channel : Nat) :
    findByIo s channel =
      some (s.devices.find? fun l => deviceEqualByIo channel (s.heap l.data)) :=
  gListFindCustom_eq _ h.live

@[simp] theorem deviceEqualByIo_iff {channel : Nat} {device : Device} :
    deviceEqualByIo channel device = true ↔ device.io = some channel := by
  simp [deviceEqualByIo]

theorem findByIo_of_mem {s : Context} (h : Sound s s.devices) {l : Link} {channel : Nat}
    (hl : l ∈ s.devices) (hio : (s.heap l.data).io = some channel) :
    findByIo s channel = some (some l) := by
  rw [findByIo_eq h]
  cases hfind : s.devices.find? fun l => deviceEqualByIo channel (s.heap l.data) with
  | none =>
      have hnone := List.find?_eq_none.mp hfind l hl
      exact absurd (deviceEqualByIo_iff.mpr hio) hnone
  | some m =>
      have hm := List.find?_some hfind
      rw [deviceEqualByIo_iff] at hm
      rw [h.eq_of_io_eq (List.mem_of_find?_eq_some hfind) hl hm hio]

theorem findByIo_of_forall_ne {s : Context} (h : Sound s s.devices) {channel : Nat}
    (hnone : ∀ l ∈ s.devices, (s.heap l.data).io ≠ some channel) :
    findByIo s channel = some none := by
  rw [findByIo_eq h, List.find?_eq_none.mpr]
  intro l hl
  rw [deviceEqualByIo_iff]
  exact hnone l hl

/-! ## What watching leaves alone -/

/-- From one context to the next only watches and their numbers change. -/
structure Kept (s t : Context) : Prop where
  paused : t.paused = s.paused
  devices : t.devices = s.devices
  freed : t.freed = s.freed
  nextBlock : t.nextBlock = s.nextBlock
  nextChannel : t.nextChannel = s.nextChannel
  io : ∀ p, (t.heap p).io = (s.heap p).io
  configured : ∀ p, (t.heap p).configured = (s.heap p).configured

namespace Kept

variable {s t u : Context}

theorem refl (s : Context) : Kept s s :=
  ⟨rfl, rfl, rfl, rfl, rfl, fun _ => rfl, fun _ => rfl⟩

theorem trans (h : Kept s t) (h' : Kept t u) : Kept s u where
  paused := h'.paused.trans h.paused
  devices := h'.devices.trans h.devices
  freed := h'.freed.trans h.freed
  nextBlock := h'.nextBlock.trans h.nextBlock
  nextChannel := h'.nextChannel.trans h.nextChannel
  io := fun p => (h'.io p).trans (h.io p)
  configured := fun p => (h'.configured p).trans (h.configured p)

theorem sound (h : Kept s t) {links : List Link} (hs : Sound s links) : Sound t links :=
  hs.congr h.freed h.nextBlock h.nextChannel
    fun l _ => ⟨h.io l.data, by rw [h.configured]⟩

end Kept

theorem gIoAddWatch_kept (s : Context) (channel : Option Nat) (callback : Callback) :
    Kept s (gIoAddWatch s channel callback).2 := by
  cases channel with
  | none => exact Kept.refl s
  | some c => exact ⟨rfl, rfl, rfl, rfl, rfl, fun _ => rfl, fun _ => rfl⟩

theorem write_handles_kept (s : Context) (p inHandle errHandle : Nat) :
    Kept s (s.write p { s.heap p with inHandle := inHandle, errHandle := errHandle }) where
  paused := rfl
  devices := rfl
  freed := rfl
  nextBlock := rfl
  nextChannel := rfl
  io := by
    intro q
    by_cases hq : q = p
    · rw [hq, write_heap_self]
    · rw [write_heap_other s _ hq]
  configured := by
    intro q
    by_cases hq : q = p
    · rw [hq, write_heap_self]
    · rw [write_heap_other s _ hq]

@[simp] theorem gIoAddWatch_heap (s : Context) (channel : Option Nat) (callback : Callback) :
    (gIoAddWatch s channel callback).2.heap = s.heap := by
  cases channel <;> rfl

theorem addWatches_kept (s : Context) (p : Nat) (onIn onErr : Callback) :
    Kept s (addWatches s p onIn onErr) := by
  have hin := gIoAddWatch_kept s (s.heap p).io onIn
  have herr := gIoAddWatch_kept (gIoAddWatch s (s.heap p).io onIn).2 (s.heap p).io onErr
  have hwrite := write_handles_kept
    (gIoAddWatch (gIoAddWatch s (s.heap p).io onIn).2 (s.heap p).io onErr).2 p
    (gIoAddWatch s (s.heap p).io onIn).1
    (gIoAddWatch (gIoAddWatch s (s.heap p).io onIn).2 (s.heap p).io onErr).1
  rw [gIoAddWatch_heap, gIoAddWatch_heap] at hwrite
  exact (hin.trans herr).trans hwrite

/-- Watching a device that is there succeeds. -/
theorem monitorChannel_kept {s : Context} {p : Nat} (hp : p ∉ s.freed) :
    ∃ t, monitorChannel s p = some t ∧ Kept s t := by
  rw [monitorChannel, deref_of_not_freed hp]
  cases hcallbacks : callbacks (s.heap p).configured.type with
  | none => exact ⟨s, by simp [hcallbacks], Kept.refl s⟩
  | some both =>
      exact ⟨addWatches s p both.1 both.2, by simp [hcallbacks], addWatches_kept s p _ _⟩

/-- Watching a sound list of devices succeeds. -/
theorem monitorAll_kept {s : Context} {links : List Link} (h : Sound s links) :
    ∃ t, gListForeach monitorChannel links s = some t ∧ Kept s t := by
  have hrule := gListForeach_rule (f := monitorChannel)
    (I := fun rest t => (∀ l ∈ rest, l ∈ links) ∧ Kept s t) ?_ ?_ links s
    ⟨fun _ hl => hl, Kept.refl s⟩
  · obtain ⟨t, ht, -, hkept⟩ := hrule
    exact ⟨t, ht, hkept⟩
  · intro l rest t ⟨hmem, hkept⟩
    rw [hkept.freed]
    exact (h.live l (hmem l List.mem_cons_self)).1
  · intro l rest t ⟨hmem, hkept⟩
    have hlive : l.data ∉ t.freed := by
      rw [hkept.freed]
      exact (h.live l (hmem l List.mem_cons_self)).2
    obtain ⟨u, hu, hstep⟩ := monitorChannel_kept hlive
    exact ⟨u, hu, fun x hx => hmem x (List.mem_cons_of_mem _ hx), hkept.trans hstep⟩

/-! ## Opening what is configured -/

theorem gpilotDeviceInit_type (opening : Opening) (channel : Nat) (device : Device) :
    (gpilotDeviceInit opening channel device).2.configured.type = device.configured.type := by
  unfold gpilotDeviceInit
  split_ifs <;> cases opening <;> rfl

theorem gpilotDeviceInit_io (opening : Opening) (channel : Nat) (device : Device) :
    (gpilotDeviceInit opening channel device).2.io = some channel ∨
      (gpilotDeviceInit opening channel device).2.io = none ∨
      (gpilotDeviceInit opening channel device).2.io = device.io := by
  unfold gpilotDeviceInit gpilotIrdaDeviceInit
  split_ifs <;> cases opening <;>
    simp [gpilotSerialDeviceInit, gpilotUsbDeviceInit, gpilotNetworkDeviceInit]

theorem gpilotDeviceInit_unwatched (opening : Opening) (channel : Nat) {device : Device}
    (h : callbacks device.configured.type = none) :
    (gpilotDeviceInit opening channel device).2.io = none ∨
      (gpilotDeviceInit opening channel device).2.io = device.io := by
  unfold callbacks at h
  unfold gpilotDeviceInit
  split_ifs at h ⊢ <;> simp_all [gpilotUsbDeviceInit]

theorem gpilotDeviceInit_typed (opening : Opening) (channel : Nat) {device : Device}
    (h : device.Typed) : (gpilotDeviceInit opening channel device).2.Typed := by
  rw [Device.Typed, gpilotDeviceInit_type]
  intro hio
  by_contra hnone
  have hcallbacks : callbacks device.configured.type = none := by simpa using hnone
  rcases gpilotDeviceInit_unwatched opening channel hcallbacks with hnew | hold
  · simp [hnew] at hio
  · exact hnone (h (hold ▸ hio))

def Configured.Opens (c : Configured) : Prop :=
  c.opening = .opened ∧ (callbacks c.device.type).isSome

/-- A new device is put in the list with a channel, put there without one, or left out. -/
theorem gpilotDeviceInit_new (c : Configured) (channel : Nat) :
    (c.Opens ∧ (gpilotDeviceInit c.opening channel ⟨c.device, none, 0, 0⟩).1 = true ∧
      (gpilotDeviceInit c.opening channel ⟨c.device, none, 0, 0⟩).2.io = some channel) ∨
    (¬ c.Opens ∧ (gpilotDeviceInit c.opening channel ⟨c.device, none, 0, 0⟩).2.io = none) := by
  by_cases hcallbacks : (callbacks c.device.type).isSome
  · have hopens : c.Opens ↔ c.opening = .opened := by simp [Configured.Opens, hcallbacks]
    have hinit : gpilotDeviceInit c.opening channel ⟨c.device, none, 0, 0⟩ =
          gpilotSerialDeviceInit c.opening channel ⟨c.device, none, 0, 0⟩ ∨
        gpilotDeviceInit c.opening channel ⟨c.device, none, 0, 0⟩ =
          gpilotNetworkDeviceInit c.opening channel ⟨c.device, none, 0, 0⟩ := by
      unfold callbacks at hcallbacks
      unfold gpilotDeviceInit gpilotIrdaDeviceInit
      split_ifs at hcallbacks ⊢ <;> simp_all [PILOT_DEVICE_USB_VISOR, PILOT_DEVICE_NETWORK,
        PILOT_DEVICE_BLUETOOTH]
    rw [hopens]
    rcases hinit with hinit | hinit <;> rw [hinit] <;> cases c.opening <;>
      simp [gpilotSerialDeviceInit, gpilotNetworkDeviceInit]
  · have hopens : ¬ c.Opens := fun h => hcallbacks h.2
    have hio := @gpilotDeviceInit_unwatched c.opening channel ⟨c.device, none, 0, 0⟩
      (by simpa using hcallbacks)
    simp only [or_self] at hio
    exact Or.inr ⟨hopens, hio⟩

/-- A new device in a new block, at the start of `blocks` new ones. -/
def allocate (s : Context) (device : Device) (blocks : Nat) : Context :=
  { s.write s.nextBlock device with
    nextChannel := s.nextChannel + 1, nextBlock := s.nextBlock + blocks }

theorem allocate_heap_old {s : Context} {links : List Link} (h : Sound s links) (device : Device)
    (blocks : Nat) {l : Link} (hl : l ∈ links) :
    (allocate s device blocks).heap l.data = s.heap l.data :=
  write_heap_other s device (Nat.ne_of_lt (h.lt l hl).2)

@[simp] theorem allocate_heap_new (s : Context) (device : Device) (blocks : Nat) :
    (allocate s device blocks).heap s.nextBlock = device := write_heap_self s s.nextBlock device

theorem channels_allocate {s : Context} {links : List Link} (h : Sound s links) (device : Device)
    (blocks : Nat) : channels (allocate s device blocks) links = channels s links :=
  channels_congr fun l hl => by rw [allocate_heap_old h device blocks hl]

theorem Sound.allocate {s : Context} {links : List Link} (h : Sound s links) (device : Device)
    (blocks : Nat) : Sound (allocate s device blocks) links where
  nodup := h.nodup
  live := h.live
  lt := fun l hl =>
    ⟨Nat.lt_add_right blocks (h.lt l hl).1, Nat.lt_add_right blocks (h.lt l hl).2⟩
  freed_lt := fun b hb => Nat.lt_add_right blocks (h.freed_lt b hb)
  typed := by
    intro l hl
    rw [allocate_heap_old h device blocks hl]
    exact h.typed l hl
  channels_nodup := by
    rw [channels_allocate h]
    exact h.channels_nodup
  channels_lt := by
    rw [channels_allocate h]
    exact fun c hc => Nat.lt_succ_of_lt (h.channels_lt c hc)

theorem channels_append_new {s : Context} {links : List Link} (h : Sound s links)
    (device : Device) :
    channels (allocate s device 2) (links ++ [⟨s.nextBlock + 1, s.nextBlock⟩]) =
      channels s links ++ device.io.toList := by
  rw [channels_append, channels_allocate h]
  cases hio : device.io <;> simp [channels, hio]

theorem blocks_append_perm (links : List Link) (l : Link) :
    ((links ++ [l]).map Link.addr ++ (links ++ [l]).map Link.data).Perm
      (l.addr :: l.data :: (links.map Link.addr ++ links.map Link.data)) := by
  have hmiddle : (links.map Link.addr ++ l.addr :: (links.map Link.data ++ [l.data])).Perm
      (l.addr :: (links.map Link.addr ++ (links.map Link.data ++ [l.data]))) := List.perm_middle
  have hend : (links.map Link.addr ++ (links.map Link.data ++ [l.data])).Perm
      (l.data :: (links.map Link.addr ++ links.map Link.data)) := by
    rw [← List.append_assoc]
    exact List.perm_append_singleton l.data _
  simpa using hmiddle.trans (hend.cons l.addr)

theorem Sound.append_new {s : Context} {links : List Link} (h : Sound s links) {device : Device}
    (htyped : device.Typed) (hio : device.io = some s.nextChannel ∨ device.io = none) :
    Sound (Devices.allocate s device 2)
      (links ++ [⟨s.nextBlock + 1, s.nextBlock⟩]) := by
  have hold := h.allocate device 2
  have hio' : ∀ c ∈ device.io.toList, c = s.nextChannel := by
    rcases hio with hio | hio <;> simp [hio]
  exact {
    nodup := by
      have hblocks : ∀ b ∈ links.map Link.addr ++ links.map Link.data, b < s.nextBlock := by
        intro b hb
        rcases List.mem_append.mp hb with hb | hb <;> obtain ⟨l, hl, rfl⟩ := List.mem_map.mp hb
        · exact (h.lt l hl).1
        · exact (h.lt l hl).2
      rw [(blocks_append_perm links _).nodup_iff, List.nodup_cons, List.nodup_cons, List.mem_cons]
      refine ⟨?_, fun hb => Nat.lt_irrefl _ (hblocks _ hb), h.nodup⟩
      rintro (heq | hb)
      · exact Nat.succ_ne_self s.nextBlock heq
      · exact absurd (hblocks _ hb) (by simp)
    live := by
      intro l hl
      rcases List.mem_append.mp hl with hl | hl
      · exact hold.live l hl
      · rw [List.mem_singleton.mp hl]
        exact ⟨fun hgone => absurd (h.freed_lt _ hgone) (by simp),
          fun hgone => absurd (h.freed_lt _ hgone) (by simp)⟩
    lt := by
      intro l hl
      rcases List.mem_append.mp hl with hl | hl
      · exact hold.lt l hl
      · rw [List.mem_singleton.mp hl]
        exact ⟨Nat.lt_succ_self _, Nat.lt_add_of_pos_right (by omega)⟩
    freed_lt := hold.freed_lt
    typed := by
      intro l hl
      rcases List.mem_append.mp hl with hl | hl
      · exact hold.typed l hl
      · rw [List.mem_singleton.mp hl, allocate_heap_new]
        exact htyped
    channels_nodup := by
      rw [channels_append_new h, List.nodup_append]
      refine ⟨h.channels_nodup, by cases device.io <;> simp, ?_⟩
      intro c hc c' hc' heq
      have hlt := h.channels_lt c hc
      rw [heq, hio' c' hc'] at hlt
      exact Nat.lt_irrefl _ hlt
    channels_lt := by
      rw [channels_append_new h]
      intro c hc
      rcases List.mem_append.mp hc with hc | hc
      · exact Nat.lt_succ_of_lt (h.channels_lt c hc)
      · rw [hio' c hc]
        exact Nat.lt_succ_self _ }

/-- What `get_devices` leaves of the context it reads into. -/
structure Loaded (s t : Context) : Prop where
  paused : t.paused = s.paused
  freed : t.freed = s.freed
  main : t.main = s.main

/-- The devices read are appended to a sound list, which stays sound.  One of them has a
channel if and only if opening a configured device made one. -/
theorem getDevices_spec (configured : List Configured) {retval : List Link} {s : Context}
    (h : Sound s retval) :
    Loaded s (getDevices configured retval s).2 ∧
      Sound (getDevices configured retval s).2 (getDevices configured retval s).1 ∧
      (channels (getDevices configured retval s).2 (getDevices configured retval s).1 = [] ↔
        channels s retval = [] ∧ ∀ c ∈ configured, ¬ c.Opens) := by
  induction configured generalizing retval s with
  | nil => exact ⟨⟨rfl, rfl, rfl⟩, h, by simp [getDevices]⟩
  | cons c rest ih =>
      generalize hdevice : gpilotDeviceInit c.opening s.nextChannel ⟨c.device, none, 0, 0⟩ = init
      have htyped : init.2.Typed := by
        rw [← hdevice]
        exact gpilotDeviceInit_typed _ _ (by simp [Device.Typed])
      have hnew := gpilotDeviceInit_new c s.nextChannel
      rw [hdevice] at hnew
      by_cases hok : init.1
      · have hgo : getDevices (c :: rest) retval s =
            getDevices rest (retval ++ [⟨s.nextBlock + 1, s.nextBlock⟩])
              (allocate s init.2 2) := by
          simp only [getDevices, hdevice, hok, if_true]
          rfl
        have hio : init.2.io = some s.nextChannel ∨ init.2.io = none :=
          hnew.imp (fun h => h.2.2) fun h => h.2
        obtain ⟨hloaded, hsound, hchannels⟩ := ih (h.append_new htyped hio)
        rw [hgo]
        refine ⟨⟨hloaded.paused, hloaded.freed, hloaded.main⟩, hsound, ?_⟩
        rw [hchannels, channels_append_new h]
        rcases hnew with hnew | hnew <;> simp [hnew]
      · have hgo : getDevices (c :: rest) retval s =
            getDevices rest retval (allocate s init.2 1) := by
          simp only [getDevices, hdevice, hok]
          rfl
        obtain ⟨hloaded, hsound, hchannels⟩ := ih (h.allocate init.2 1)
        have hclosed : ¬ c.Opens := by
          rcases hnew with hnew | hnew
          · exact absurd hnew.2.1 hok
          · exact hnew.1
        rw [hgo]
        refine ⟨⟨hloaded.paused, hloaded.freed, hloaded.main⟩, hsound, ?_⟩
        rw [hchannels, channels_allocate h]
        simp [hclosed]

/-! ## Changing one device -/

theorem Sound.ne_of_mem_erase {s : Context} {links : List Link} (h : Sound s links) {l m : Link}
    (hl : l ∈ links) (hm : m ∈ links.erase l) : m.data ≠ l.data := by
  intro heq
  have hlinks : links.Nodup := h.data_nodup.of_map
  obtain ⟨hne, hm⟩ := hlinks.mem_erase_iff.mp hm
  exact hne (h.eq_of_data_eq hm hl heq)

/-- The channel of one device and those of the others. -/
theorem channels_perm_erase (s : Context) {links : List Link} {l : Link} (hl : l ∈ links) :
    (channels s links).Perm ((s.heap l.data).io.toList ++ channels s (links.erase l)) := by
  have hcons : channels s (l :: links.erase l) =
      (s.heap l.data).io.toList ++ channels s (links.erase l) := by
    cases hio : (s.heap l.data).io <;> simp [channels, hio]
  rw [← hcons]
  exact (List.perm_cons_erase hl).filterMap _

/-- One device may lose its channel or get a new one. -/
theorem Sound.write {s : Context} {links : List Link} (h : Sound s links) {l : Link}
    (hl : l ∈ links) {device : Device} (htyped : device.Typed) {next : Nat}
    (hnext : s.nextChannel ≤ next)
    (hio : device.io = none ∨ device.io = (s.heap l.data).io ∨
      device.io = some s.nextChannel ∧ s.nextChannel < next) :
    Sound { s.write l.data device with nextChannel := next } links := by
  generalize ht : { s.write l.data device with nextChannel := next } = t
  have hheap : t.heap = (s.write l.data device).heap := by rw [← ht]
  have hself : t.heap l.data = device := by rw [hheap, write_heap_self]
  have hothers : ∀ m ∈ links.erase l, (t.heap m.data).io = (s.heap m.data).io := fun m hm => by
    rw [hheap, write_heap_other s device (h.ne_of_mem_erase hl hm)]
  have hold := channels_perm_erase s hl
  have hnew : (channels t links).Perm (device.io.toList ++ channels s (links.erase l)) := by
    have hperm := channels_perm_erase t hl
    rwa [hself, channels_congr hothers] at hperm
  have hrest : (channels s (links.erase l)).Nodup ∧
      ∀ c ∈ channels s (links.erase l), c < s.nextChannel := by
    refine ⟨(List.nodup_append.mp (hold.nodup_iff.mp h.channels_nodup)).2.1, fun c hc => ?_⟩
    exact h.channels_lt c (hold.mem_iff.mpr (List.mem_append_right _ hc))
  have hdevice : ∀ c ∈ device.io.toList, c ∉ channels s (links.erase l) ∧ c < next := by
    intro c hc
    rcases hio with hio | hio | ⟨hio, hlt⟩
    · rw [hio] at hc
      cases hc
    · rw [hio] at hc
      have hapart := (List.nodup_append.mp (hold.nodup_iff.mp h.channels_nodup)).2.2
      have hmem := hold.mem_iff.mpr (List.mem_append_left _ hc)
      exact ⟨fun hc' => hapart c hc c hc' rfl, Nat.lt_of_lt_of_le (h.channels_lt c hmem) hnext⟩
    · rw [hio, Option.toList_some, List.mem_singleton] at hc
      rw [hc]
      exact ⟨fun hc' => Nat.lt_irrefl _ (hrest.2 _ hc'), hlt⟩
  exact {
    nodup := h.nodup
    live := by
      rw [← ht]
      exact h.live
    lt := by
      rw [← ht]
      exact h.lt
    freed_lt := by
      rw [← ht]
      exact h.freed_lt
    typed := by
      intro m hm
      by_cases heq : m.data = l.data
      · rw [heq, hself]
        exact htyped
      · rw [hheap, write_heap_other s device heq]
        exact h.typed m hm
    channels_nodup := by
      rw [hnew.nodup_iff, List.nodup_append]
      refine ⟨by cases device.io <;> simp, hrest.1, ?_⟩
      intro c hc c' hc' heq
      exact (hdevice c hc).1 (heq ▸ hc')
    channels_lt := by
      intro c hc
      rw [← ht]
      rcases List.mem_append.mp (hnew.mem_iff.mp hc) with hc | hc
      · exact (hdevice c hc).2
      · exact Nat.lt_of_lt_of_le (hrest.2 c hc) hnext }

end GnomePilot.Daemon.Devices
