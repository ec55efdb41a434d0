import GnomePilot.Daemon.Sound

/-!
# Who holds which watch

A device with a channel holds two watches.  Watching a list of devices, pausing and
freeing it each do the same to every device; the watches the devices hold are then
exactly those the main loop knows, or none.
-/

namespace GnomePilot.Daemon.Devices

open Config

/-! ## The watches of a device -/

/-- The watches a device with a channel holds. -/
def Device.watches (device : Device) : List (Nat × Watch) :=
  match device.io, callbacks device.configured.type with
  | some c, some (onIn, onErr) =>
    [(device.inHandle, ⟨c, onIn⟩), (device.errHandle, ⟨c, onErr⟩)]
  | _, _ => []

def watchesOf (s : Context) (links : List Link) : List (Nat × Watch) :=
  links.flatMap fun l => (s.heap l.data).watches

theorem watches_of_io_none {device : Device} (h : device.io = none) : device.watches = [] := by
  simp [Device.watches, h]

theorem watches_of_io {device : Device} {c : Nat} {both : Callback × Callback}
    (hio : device.io = some c) (hcallbacks : callbacks device.configured.type = some both) :
    device.watches = [(device.inHandle, ⟨c, both.1⟩), (device.errHandle, ⟨c, both.2⟩)] := by
  simp [Device.watches, hio, hcallbacks]

/-- A device of a watched type either has no channel or holds two watches on it. -/
theorem Device.Typed.cases {device : Device} (h : device.Typed) :
    device.io = none ∨ ∃ c both, device.io = some c ∧
      callbacks device.configured.type = some both := by
  cases hio : device.io with
  | none => exact Or.inl rfl
  | some c =>
      obtain ⟨both, hboth⟩ := Option.isSome_iff_exists.mp (h (by simp [hio]))
      exact Or.inr ⟨c, both, rfl, hboth⟩

@[simp] theorem watchesOf_nil (s : Context) : watchesOf s [] = [] := rfl

@[simp] theorem watchesOf_cons (s : Context) (l : Link) (rest : List Link) :
    watchesOf s (l :: rest) = (s.heap l.data).watches ++ watchesOf s rest := rfl

theorem watchesOf_congr {s t : Context} {links : List Link}
    (h : ∀ l ∈ links, (t.heap l.data).watches = (s.heap l.data).watches) :
    watchesOf t links = watchesOf s links := List.flatMap_congr h

theorem mem_watchesOf {s : Context} {links : List Link} {x : Nat × Watch} :
    x ∈ watchesOf s links ↔ ∃ l ∈ links, x ∈ (s.heap l.data).watches := List.mem_flatMap

theorem watchesOf_perm (s : Context) {links links' : List Link} (h : links.Perm links') :
    (watchesOf s links).Perm (watchesOf s links') := h.flatMap_right _

/-- A watch a device holds is on its channel, and it is one of two. -/
theorem mem_watches_iff {device : Device} {x : Nat × Watch} :
    x ∈ device.watches ↔ ∃ c both, device.io = some c ∧
      callbacks device.configured.type = some both ∧
      (x = (device.inHandle, ⟨c, both.1⟩) ∨ x = (device.errHandle, ⟨c, both.2⟩)) := by
  unfold Device.watches
  split
  · rename_i c onIn onErr hio hcallbacks
    simp [hio, hcallbacks]
  · rename_i hnone
    constructor
    · intro hx
      cases hx
    · rintro ⟨c, both, hio, hcallbacks, -⟩
      exact absurd hcallbacks (hnone c both.1 both.2 hio)

theorem io_of_mem_watches {device : Device} {x : Nat × Watch} (hx : x ∈ device.watches) :
    device.io = some x.2.channel := by
  obtain ⟨c, both, hio, -, rfl | rfl⟩ := mem_watches_iff.mp hx <;> exact hio

theorem inHandle_mem_watches {device : Device} (htyped : device.Typed) {c : Nat}
    (hio : device.io = some c) :
    ∃ callback, (device.inHandle, Watch.mk c callback) ∈ device.watches := by
  obtain ⟨both, hboth⟩ := Option.isSome_iff_exists.mp (htyped (by simp [hio]))
  exact ⟨both.1, mem_watches_iff.mpr ⟨c, both, hio, hboth, Or.inl rfl⟩⟩

/-- The pairs of callbacks and the types they are for. -/
theorem callbacks_eq_some {type : Int32} {both : Callback × Callback}
    (h : callbacks type = some both) :
    both = (.deviceIn, .deviceErr) ∧ (type = PILOT_DEVICE_SERIAL ∨ type = PILOT_DEVICE_IRDA) ∨
      both = (.networkDeviceIn, .networkDeviceErr) ∧
        (type = PILOT_DEVICE_NETWORK ∨ type = PILOT_DEVICE_BLUETOOTH) := by
  unfold callbacks at h
  split_ifs at h with hserial hnetwork
  · exact Or.inl ⟨(Option.some_inj.mp h).symm, hserial⟩
  · exact Or.inr ⟨(Option.some_inj.mp h).symm, hnetwork⟩

/-- Devices without channels hold no watches. -/
theorem watchesOf_eq_nil {s : Context} {links : List Link} (h : channels s links = []) :
    watchesOf s links = [] := by
  rw [watchesOf, List.flatMap_eq_nil_iff]
  intro l hl
  refine watches_of_io_none ?_
  rw [Option.eq_none_iff_forall_ne_some]
  intro c hc
  have hmem := mem_channels_iff.mpr ⟨l, hl, hc⟩
  rw [h] at hmem
  cases hmem

/-! ## Removing the watches of one device -/

/-- What `removeWatches` does to the main loop. -/
def release (r : Registry Watch) (device : Device) : Registry Watch :=
  if device.io.isSome then (r.remove device.inHandle).remove device.errHandle else r

theorem removeWatches_eq (s : Context) (device : Device) :
    removeWatches s device = { s with main := release s.main device } := by
  rw [removeWatches, release]
  split <;> rfl

theorem release_accounts {r : Registry Watch} {device : Device} {held : List (Nat × Watch)}
    (htyped : device.Typed) (h : r.Accounts (device.watches ++ held)) :
    (release r device).Accounts held := by
  rcases htyped.cases with hio | ⟨c, both, hio, hboth⟩
  · rw [watches_of_io_none hio, List.nil_append] at h
    rw [release, hio]
    exact h
  · rw [watches_of_io hio hboth] at h
    rw [release, hio]
    have hin : (r.remove device.inHandle).Accounts ((device.errHandle, ⟨c, both.2⟩) :: held) :=
      h.remove
    exact hin.remove

theorem release_suffix (r : Registry Watch) (device : Device) :
    r.removed <:+ (release r device).removed := by
  rw [release]
  split
  · exact (r.removed_suffix_remove _).trans (Registry.removed_suffix_remove _ _)
  · exact List.suffix_refl _

theorem mem_removed_release {r : Registry Watch} {device : Device} {x : Nat × Watch}
    (hx : x ∈ device.watches) (hpos : x.1 ≠ 0) : x.1 ∈ (release r device).removed := by
  have hio : device.io.isSome := by rw [io_of_mem_watches hx]; rfl
  have hhandle : x.1 = device.inHandle ∨ x.1 = device.errHandle := by
    obtain ⟨c, both, -, -, rfl | rfl⟩ := mem_watches_iff.mp hx
    · exact Or.inl rfl
    · exact Or.inr rfl
  rw [release, if_pos hio]
  rcases hhandle with heq | heq
  · rw [heq] at hpos ⊢
    exact (Registry.removed_suffix_remove _ _).mem (r.mem_removed_remove hpos)
  · rw [heq] at hpos ⊢
    exact Registry.mem_removed_remove _ hpos

/-- Removing the watches of a device a second time shows in the record. -/
theorem release_not_nodup {r : Registry Watch} {device : Device} (hio : device.io.isSome)
    (hpos : device.inHandle ≠ 0) (hgone : device.inHandle ∈ r.removed) :
    ¬ (release r device).removed.Nodup := by
  rw [release, if_pos hio]
  intro hnodup
  have hsuffix := Registry.removed_suffix_remove (r.remove device.inHandle) device.errHandle
  exact Registry.remove_not_nodup hpos hgone (hnodup.sublist hsuffix.sublist)

/-! ## Removing the watches of a list -/

def releaseAll (s : Context) (links : List Link) (r : Registry Watch) : Registry Watch :=
  links.foldl (fun r l => release r (s.heap l.data)) r

theorem releaseAll_accounts {s : Context} {links : List Link} {r : Registry Watch}
    (htyped : ∀ l ∈ links, (s.heap l.data).Typed) (h : r.Accounts (watchesOf s links)) :
    (releaseAll s links r).Accounts [] := by
  induction links generalizing r with
  | nil => exact h
  | cons l rest ih =>
      exact ih (fun m hm => htyped m (List.mem_cons_of_mem _ hm))
        (release_accounts (htyped l List.mem_cons_self) h)

theorem releaseAll_suffix (s : Context) (links : List Link) (r : Registry Watch) :
    r.removed <:+ (releaseAll s links r).removed := by
  induction links generalizing r with
  | nil => exact List.suffix_refl _
  | cons l rest ih => exact (release_suffix r _).trans (ih _)

theorem mem_removed_releaseAll {s : Context} {links : List Link} {r : Registry Watch}
    {x : Nat × Watch} (hx : x ∈ watchesOf s links) (hpos : x.1 ≠ 0) :
    x.1 ∈ (releaseAll s links r).removed := by
  induction links generalizing r with
  | nil => cases hx
  | cons l rest ih =>
      rcases List.mem_append.mp hx with hx | hx
      · exact (releaseAll_suffix s rest _).mem (mem_removed_release hx hpos)
      · exact ih hx

theorem releaseAll_not_nodup {s : Context} {links : List Link} {r : Registry Watch} {l : Link}
    (hl : l ∈ links) (hio : (s.heap l.data).io.isSome) (hpos : (s.heap l.data).inHandle ≠ 0)
    (hgone : (s.heap l.data).inHandle ∈ r.removed) :
    ¬ (releaseAll s links r).removed.Nodup := by
  induction links generalizing r with
  | nil => cases hl
  | cons m rest ih =>
      rcases List.mem_cons.mp hl with rfl | hl
      · intro hnodup
        exact release_not_nodup hio hpos hgone
          (hnodup.sublist (releaseAll_suffix s rest _).sublist)
      · exact ih hl ((release_suffix r _).mem hgone)

theorem pauseAll_eq {s : Context} {links : List Link}
    (hlive : ∀ l ∈ links, l.addr ∉ s.freed ∧ l.data ∉ s.freed) :
    gListForeach gpilotDaemonPauseDevice links s =
      some { s with main := releaseAll s links s.main } := by
  induction links generalizing s with
  | nil => rfl
  | cons l rest ih =>
      have hl := hlive l List.mem_cons_self
      rw [gListForeach, if_neg hl.1, gpilotDaemonPauseDevice, deref_of_not_freed hl.2,
        Option.map_some, Option.bind_some, removeWatches_eq, ih]
      · rfl
      · exact fun m hm => hlive m (List.mem_cons_of_mem _ hm)

theorem gpilotDeviceDeinit_eq {s : Context} {p : Nat} (hp : p ∉ s.freed)
    (htyped : (s.heap p).Typed) :
    gpilotDeviceDeinit s p = some { s with main := release s.main (s.heap p) } := by
  rw [gpilotDeviceDeinit, deref_of_not_freed hp, Option.map_some, ← removeWatches_eq]
  split
  · rfl
  · rename_i hcallbacks
    -- a device of a type that is not watched has no channel
    have hio : ¬ (s.heap p).io.isSome := fun hio => hcallbacks (htyped hio)
    rw [removeWatches, if_neg hio]

theorem freeAll_eq {s : Context} {links : List Link} (hnodup : (links.map Link.data).Nodup)
    (happart : ∀ l ∈ links, ∀ m ∈ links, l.addr ≠ m.data)
    (hlive : ∀ l ∈ links, l.addr ∉ s.freed ∧ l.data ∉ s.freed)
    (htyped : ∀ l ∈ links, (s.heap l.data).Typed) :
    gListForeach gpilotDeviceFree links s =
      some { s with
        main := releaseAll s links s.main, freed := (links.map Link.data).reverse ++ s.freed } := by
  induction links generalizing s with
  | nil => rfl
  | cons l rest ih =>
      have hl := hlive l List.mem_cons_self
      have hhead := List.nodup_cons.mp hnodup
      rw [gListForeach, if_neg hl.1, gpilotDeviceFree,
        gpilotDeviceDeinit_eq hl.2 (htyped l List.mem_cons_self), Option.bind_some, gFree,
        if_neg hl.2, Option.bind_some, ih hhead.2]
      · simp [releaseAll]
      · exact fun k hk m hm => happart k (List.mem_cons_of_mem _ hk) m (List.mem_cons_of_mem _ hm)
      · intro m hm
        have hm' : m ∈ l :: rest := List.mem_cons_of_mem _ hm
        have hdata : m.data ≠ l.data := fun heq => hhead.1 (heq ▸ List.mem_map_of_mem hm)
        simp only [List.mem_cons, not_or]
        exact ⟨⟨happart m hm' l List.mem_cons_self, (hlive m hm').1⟩, hdata, (hlive m hm').2⟩
      · exact fun m hm => htyped m (List.mem_cons_of_mem _ hm)

def freedWith (s : Context) (links : List Link) : List Nat :=
  (links.map Link.addr).reverse ++ ((links.map Link.data).reverse ++ s.freed)

theorem mem_freedWith {s : Context} {links : List Link} {b : Nat} :
    b ∈ freedWith s links ↔
      (∃ l ∈ links, l.addr = b) ∨ (∃ l ∈ links, l.data = b) ∨ b ∈ s.freed := by
  simp [freedWith]

theorem freedWith_lt {s : Context} {links : List Link} (h : Sound s links) :
    ∀ b ∈ freedWith s links, b < s.nextBlock := by
  intro b hb
  rcases mem_freedWith.mp hb with ⟨l, hl, rfl⟩ | ⟨l, hl, rfl⟩ | hb
  · exact (h.lt l hl).1
  · exact (h.lt l hl).2
  · exact h.freed_lt b hb

theorem gpilotContextFree_eq {s : Context} (h : Sound s s.devices) :
    gpilotContextFree s = some { s with
      main := releaseAll s s.devices s.main
      freed := freedWith s s.devices
      devices := [] } := by
  rw [gpilotContextFree, freeAll_eq h.data_nodup (fun l hl m hm => h.addr_ne_data hl hm) h.live
    h.typed, Option.bind_some, gListFree_eq h.addr_nodup]
  · rfl
  · intro l hl hgone
    simp only [List.mem_append, List.mem_reverse, List.mem_map] at hgone
    rcases hgone with ⟨m, hm, heq⟩ | hgone
    · exact h.addr_ne_data hl hm heq.symm
    · exact (h.live l hl).1 hgone

/-! ## Watching one device -/

theorem gIoAddWatch_removed (s : Context) (channel : Option Nat) (callback : Callback) :
    (gIoAddWatch s channel callback).2.main.removed = s.main.removed := by
  cases channel <;> rfl

/-- With a channel, two watches are added and the device gets their numbers. -/
theorem addWatches_of_io {s : Context} {p c : Nat} (hio : (s.heap p).io = some c)
    (onIn onErr : Callback) :
    (addWatches s p onIn onErr).main = (s.main.add ⟨c, onIn⟩).add ⟨c, onErr⟩ ∧
      (addWatches s p onIn onErr).heap p =
        { s.heap p with inHandle := s.main.next, errHandle := s.main.next + 1 } := by
  simp only [addWatches, hio, gIoAddWatch]
  exact ⟨rfl, write_heap_self _ p _⟩

/-- Without one nothing is added. -/
theorem addWatches_of_io_none {s : Context} {p : Nat} (hio : (s.heap p).io = none)
    (onIn onErr : Callback) : (addWatches s p onIn onErr).main = s.main := by
  simp only [addWatches, hio, gIoAddWatch]
  rfl

theorem addWatches_heap_other (s : Context) {p q : Nat} (onIn onErr : Callback) (hq : q ≠ p) :
    (addWatches s p onIn onErr).heap q = s.heap q := by
  simp only [addWatches]
  rw [write_heap_other _ _ hq, gIoAddWatch_heap, gIoAddWatch_heap]

theorem addWatches_removed (s : Context) (p : Nat) (onIn onErr : Callback) :
    (addWatches s p onIn onErr).main.removed = s.main.removed := by
  simp only [addWatches]
  exact (gIoAddWatch_removed _ _ _).trans (gIoAddWatch_removed _ _ _)

theorem monitorChannel_removed {s t : Context} {p : Nat} (h : monitorChannel s p = some t) :
    t.main.removed = s.main.removed := by
  rw [monitorChannel, Option.map_eq_some_iff] at h
  obtain ⟨device, -, rfl⟩ := h
  cases callbacks device.configured.type with
  | none => rfl
  | some both => exact addWatches_removed s p _ _

/-- `monitor_channel` gives the device the watches it is to hold; the other devices are
not touched. -/
theorem monitorChannel_accounts {s : Context} {p : Nat} {held : List (Nat × Watch)}
    (hp : p ∉ s.freed) (htyped : (s.heap p).Typed) (h : s.main.Accounts held) :
    ∃ t, monitorChannel s p = some t ∧ Kept s t ∧ (∀ q, q ≠ p → t.heap q = s.heap q) ∧
      t.main.Accounts ((t.heap p).watches ++ held) := by
  obtain ⟨t, ht, hkept⟩ := monitorChannel_kept hp
  refine ⟨t, ht, hkept, ?_⟩
  rw [monitorChannel, deref_of_not_freed hp, Option.map_some, Option.some_inj] at ht
  cases hcallbacks : callbacks (s.heap p).configured.type with
  | none =>
      rw [hcallbacks] at ht
      have hio : (s.heap p).io = none := by
        rcases htyped.cases with hio | ⟨c, both, -, hboth⟩
        · exact hio
        · rw [hcallbacks] at hboth
          cases hboth
      rw [← ht, watches_of_io_none hio]
      exact ⟨fun _ _ => rfl, h⟩
  | some both =>
      rw [hcallbacks] at ht
      refine ⟨fun q hq => by rw [← ht]; exact addWatches_heap_other s _ _ hq, ?_⟩
      cases hio : (s.heap p).io with
      | none =>
          rw [watches_of_io_none (by rw [hkept.io, hio]), List.nil_append, ← ht]
          rw [addWatches_of_io_none hio]
          exact h
      | some c =>
          obtain ⟨hmain, hheap⟩ := addWatches_of_io hio both.1 both.2
          have hwatches : (t.heap p).watches =
              [(s.main.next, ⟨c, both.1⟩), (s.main.next + 1, ⟨c, both.2⟩)] := by
            rw [← ht, hheap]
            exact watches_of_io hio hcallbacks
          rw [hwatches, ← ht, hmain]
          have hadded := (h.add ⟨c, both.1⟩).add ⟨c, both.2⟩
          exact hadded.perm (List.Perm.swap _ _ _)

/-! ## All devices of a list -/

theorem monitorAll_accounts {s : Context} {links : List Link} (h : Sound s links)
    (hmain : s.main.Accounts []) :
    ∃ t, gListForeach monitorChannel links s = some t ∧ Kept s t ∧
      t.main.Accounts (watchesOf t links) := by
  have hrule := gListForeach_rule (f := monitorChannel)
    (I := fun rest t => ∃ done, links = done ++ rest ∧ Kept s t ∧
      t.main.Accounts (watchesOf t done)) ?_ ?_ links s
    ⟨[], rfl, Kept.refl s, hmain⟩
  · obtain ⟨t, ht, done, hdone, hkept, haccounts⟩ := hrule
    rw [List.append_nil] at hdone
    exact ⟨t, ht, hkept, hdone ▸ haccounts⟩
  · rintro l rest t ⟨done, hdone, hkept, -⟩
    rw [hkept.freed]
    exact (h.live l (by simp [hdone])).1
  · rintro l rest t ⟨done, hdone, hkept, haccounts⟩
    have hl : l ∈ links := by simp [hdone]
    have hsound := hkept.sound h
    obtain ⟨u, hu, hstep, hothers, haccounts⟩ :=
      monitorChannel_accounts (hsound.live l hl).2 (hsound.typed l hl) haccounts
    refine ⟨u, hu, done ++ [l], by simp [hdone], hkept.trans hstep, ?_⟩
    -- the devices watched so far are other devices
    have hdata : (links.map Link.data).Nodup := h.data_nodup
    have hsame : watchesOf u done = watchesOf t done := by
      refine watchesOf_congr fun m hm => congrArg Device.watches (hothers m.data ?_)
      intro heq
      rw [hdone, List.map_append, List.map_cons, List.nodup_append] at hdata
      exact hdata.2.2 m.data (List.mem_map_of_mem hm) l.data List.mem_cons_self heq
    have hperm : ((u.heap l.data).watches ++ watchesOf t done).Perm
        (watchesOf u (done ++ [l])) := by
      rw [← hsame]
      exact (watchesOf_perm u (List.perm_append_singleton l done)).symm
    exact haccounts.perm hperm

end GnomePilot.Daemon.Devices
