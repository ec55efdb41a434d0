import GnomePilot.Capplet.State
import GnomePilot.Queue.Request

/-!
# What a save leaves for the daemon

Loading the configuration into the capplet and saving it unchanged should leave the
daemon reading the devices and pilots it read before.  `preserves_iff` says for which
configurations it does.
-/

namespace GnomePilot.Capplet

open Config

/-! ## Groups -/

theorem deviceGroup_inj {i j : Nat} (h : deviceGroup i = deviceGroup j) : i = j := by
  have hlist := congrArg String.toList h
  simp only [deviceGroup, String.toList_append, List.append_cancel_left_eq] at hlist
  exact Numeral.toString_nat_injective (String.toList_inj.mp hlist)

theorem pilotGroup_inj {i j : Nat} (h : pilotGroup i = pilotGroup j) : i = j := by
  have hlist := congrArg String.toList h
  simp only [pilotGroup, String.toList_append, List.append_cancel_left_eq] at hlist
  exact Numeral.toString_nat_injective (String.toList_inj.mp hlist)

/-- The first letter of a group's name tells what it is for. -/
theorem head_deviceGroup (i : Nat) : (deviceGroup i).toList.head? = some 'D' := by
  rw [deviceGroup, String.toList_append]
  rfl

theorem head_pilotGroup (i : Nat) : (pilotGroup i).toList.head? = some 'P' := by
  rw [pilotGroup, String.toList_append]
  rfl

theorem deviceGroup_ne_pilotGroup (i j : Nat) : deviceGroup i ≠ pilotGroup j := by
  intro h
  have hhead := head_deviceGroup i
  rw [h, head_pilotGroup] at hhead
  revert hhead
  decide

theorem deviceGroup_ne_general (i : Nat) : deviceGroup i ≠ "General" := by
  intro h
  have hhead := head_deviceGroup i
  rw [h] at hhead
  revert hhead
  decide

theorem pilotGroup_ne_general (i : Nat) : pilotGroup i ≠ "General" := by
  intro h
  have hhead := head_pilotGroup i
  rw [h] at hhead
  revert hhead
  decide

/-! ## The loops of savePilotState -/

section SaveEach

variable {β γ : Type} {group : Nat → String} {save : KeyFile → Nat → β → KeyFile}

def KeepsToGroup (group : Nat → String) (save : KeyFile → Nat → β → KeyFile) : Prop :=
  ∀ kf i x g, g ≠ group i → (save kf i x).value g = kf.value g

theorem saveEach_value_other (h : KeepsToGroup group save) {i : Nat} (xs : List β)
    (kf : KeyFile) {g : String} (hg : ∀ j, i ≤ j → g ≠ group j) :
    (saveEach save i xs kf).value g = kf.value g := by
  induction xs generalizing i kf with
  | nil => rfl
  | cons x xs ih =>
    rw [saveEach, ih (save kf i x) fun j hj => hg j (by omega), h kf i x g (hg i (by omega))]

/-- What is read of an element's group is what its own turn wrote there. -/
theorem saveEach_read (h : KeepsToGroup group save) (hinj : ∀ i j, group i = group j → i = j)
    (read : KeyFile → Nat → γ) (back : Nat → β → γ)
    (hcongr : ∀ kf kf' i, kf.value (group i) = kf'.value (group i) → read kf i = read kf' i)
    (hback : ∀ kf i x, read (save kf i x) i = back i x)
    {i k : Nat} {x : β} {xs : List β} (hx : xs[k]? = some x) (kf : KeyFile) :
    read (saveEach save i xs kf) (i + k) = back (i + k) x := by
  induction xs generalizing i k kf with
  | nil => cases hx
  | cons y ys ih =>
    cases k with
    | zero =>
      obtain rfl : y = x := Option.some.inj hx
      change read (saveEach save (i + 1) ys (save kf i y)) i = back i y
      rw [← hback kf i y]
      apply hcongr
      apply saveEach_value_other h
      intro j hj heq
      have := hinj i j heq
      omega
    | succ k =>
      rw [saveEach, show i + (k + 1) = i + 1 + k by omega]
      exact ih hx _

end SaveEach

/-! ## What the daemon reads back -/

theorem saveDevice_keepsToGroup : KeepsToGroup deviceGroup saveDevice := by
  intro kf i device g hg
  have hsome : some g ≠ some (deviceGroup i) := fun h => hg (Option.some.inj h)
  unfold saveDevice KeyFile.setInteger
  split_ifs <;>
    simp only [KeyFile.value_set_of_ne _ hg, KeyFile.value_setString_of_ne _ hg,
      KeyFile.value_removeGroup_of_ne _ hsome]

theorem savePilot_keepsToGroup : KeepsToGroup pilotGroup savePilot := by
  intro kf i pilot g hg
  have hsome : some g ≠ some (pilotGroup i) := fun h => hg (Option.some.inj h)
  simp only [savePilot, KeyFile.setInteger, KeyFile.value_set_of_ne _ hg,
    KeyFile.value_setString_of_ne _ hg, KeyFile.value_removeGroup_of_ne _ hsome]

def deviceReadBack (device : GPilotDevice) : GPilotDevice :=
  if sharesSerialLoader device.type then { device with ip := none }
  else if device.type = PILOT_DEVICE_NETWORK then { device with port := none, speed := 0 }
  else { device with port := none, speed := 0, ip := none }

section Keys

variable {kf : KeyFile} {i : Nat} {device : GPilotDevice}

theorem saveDevice_type : (saveDevice kf i device).getInteger? (deviceGroup i) "type" =
    some device.type := by
  unfold saveDevice
  split_ifs <;> simp [KeyFile.getInteger?_setInteger, KeyFile.getInteger?_setString]

theorem saveDevice_timeout : (saveDevice kf i device).getInteger? (deviceGroup i) "timeout" =
    some device.timeout := by
  unfold saveDevice
  simp [KeyFile.getInteger?_setInteger]

theorem saveDevice_name : (saveDevice kf i device).getString (deviceGroup i) "name" =
    device.name := by
  have hlacks := (kf.lacks_removeGroup (deviceGroup i)).getString "name"
  unfold saveDevice
  split_ifs <;> simp [KeyFile.getString_setInteger, KeyFile.getString_setString, hlacks]

theorem saveDevice_ip (h : device.type = PILOT_DEVICE_NETWORK) :
    (saveDevice kf i device).getString (deviceGroup i) "ip" = device.ip := by
  have hlacks := (kf.lacks_removeGroup (deviceGroup i)).getString "ip"
  simp only [saveDevice, if_pos h]
  simp [KeyFile.getString_setInteger, KeyFile.getString_setString, hlacks]

theorem saveDevice_serial (h : device.type ≠ PILOT_DEVICE_NETWORK)
    (h' : device.type ≠ PILOT_DEVICE_BLUETOOTH) :
    (saveDevice kf i device).getString (deviceGroup i) "device" = device.port ∧
      (saveDevice kf i device).getInteger? (deviceGroup i) "speed" =
        some device.speed.toInt32 := by
  have hlacks := (kf.lacks_removeGroup (deviceGroup i)).getString "device"
  simp only [saveDevice, if_neg h, if_neg h']
  simp [KeyFile.getString_setInteger, KeyFile.getString_setString,
    KeyFile.getInteger?_setInteger, hlacks]

end Keys

theorem sharesSerialLoader_ne {type : Int32} (h : sharesSerialLoader type = true) :
    type ≠ PILOT_DEVICE_NETWORK ∧ type ≠ PILOT_DEVICE_BLUETOOTH := by
  constructor <;> rintro rfl <;> revert h <;> decide

theorem gpilotDeviceLoad_saveDevice (kf : KeyFile) (i : Nat) (device : GPilotDevice) :
    gpilotDeviceLoad (saveDevice kf i device) i = deviceReadBack device := by
  unfold gpilotDeviceLoad deviceReadBack
  simp only [saveDevice_type, saveDevice_timeout, saveDevice_name, Option.getD_some]
  by_cases hserial : sharesSerialLoader device.type = true
  · obtain ⟨hnet, hblue⟩ := sharesSerialLoader_ne hserial
    obtain ⟨hport, hspeed⟩ := @saveDevice_serial kf i device hnet hblue
    simp [hserial, hport, hspeed, gpilotDeviceNew]
  · by_cases hnet : device.type = PILOT_DEVICE_NETWORK
    · rw [if_neg hserial, if_neg hserial, if_pos hnet, if_pos hnet, saveDevice_ip hnet]
      rfl
    · simp [hserial, hnet, gpilotDeviceNew]

def pilotReadBack (env : Environment) (i : Nat) (pilot : GPilotPilot) : GPilotPilot :=
  { pilot with
    passwd := none
    number := i
    creation := ulongOfInt (intOfUlong pilot.creation)
    romversion := ulongOfInt (intOfUlong pilot.romversion)
    pilotCharset := some (pilot.pilotCharset.getD (getDefaultPilotCharset env)) }

theorem gpilotPilotInit_savePilot (env : Environment) (kf : KeyFile) (i : Nat)
    (pilot : GPilotPilot) :
    gpilotPilotInit env (savePilot kf i pilot) i = pilotReadBack env i pilot := by
  have hlacks := (kf.lacks_removeGroup (pilotGroup i)).getString
  simp [gpilotPilotInit, pilotReadBack, savePilot, KeyFile.getString_setInteger,
    KeyFile.getString_setString, KeyFile.getInteger_setInteger, KeyFile.getInteger_setString,
    hlacks]

/-! ## The saved file -/

section Saved

variable {env : Environment} {kf : KeyFile} {state : PilotState}

theorem saveCount_value_of_ne (key : String) (i : Nat) (kf : KeyFile) {g : String}
    (hg : g ≠ "General") : (saveCount key i kf).value g = kf.value g := by
  unfold saveCount KeyFile.setInteger
  split_ifs
  · exact kf.value_set_of_ne hg _ _
  · rfl

theorem savePilotState_device {j : Nat} {device : GPilotDevice}
    (h : state.devices[j]? = some device) :
    gpilotDeviceLoad (savePilotState kf state) j = deviceReadBack device := by
  have hread := saveEach_read (i := 0) saveDevice_keepsToGroup (fun _ _ => deviceGroup_inj)
    gpilotDeviceLoad (fun _ => deviceReadBack) (fun _ _ _ => gpilotDeviceLoad_congr)
    gpilotDeviceLoad_saveDevice h
  rw [Nat.zero_add] at hread
  have hafter : ∀ kf' : KeyFile, (saveCount "num_pilots" state.pilots.length
      (saveEach savePilot 0 state.pilots
        (saveCount "num_devices" state.devices.length kf'))).value (deviceGroup j) =
      kf'.value (deviceGroup j) := by
    intro kf'
    rw [saveCount_value_of_ne _ _ _ (deviceGroup_ne_general j),
      saveEach_value_other savePilot_keepsToGroup _ _ fun k _ => deviceGroup_ne_pilotGroup j k,
      saveCount_value_of_ne _ _ _ (deviceGroup_ne_general j)]
  exact (gpilotDeviceLoad_congr (hafter _)).trans (hread _)

theorem savePilotState_pilot {j : Nat} {pilot : GPilotPilot}
    (h : state.pilots[j]? = some pilot) :
    gpilotPilotInit env (savePilotState kf state) j = pilotReadBack env j pilot := by
  have hread := saveEach_read (i := 0) savePilot_keepsToGroup (fun _ _ => pilotGroup_inj)
    (gpilotPilotInit env) (pilotReadBack env) (fun _ _ _ => gpilotPilotInit_congr)
    (gpilotPilotInit_savePilot env) h
  rw [Nat.zero_add] at hread
  exact (gpilotPilotInit_congr (saveCount_value_of_ne _ _ _ (pilotGroup_ne_general j))).trans
    (hread _)

theorem saveCount_getInteger (kf : KeyFile) (key : String) (i : Nat) (k : String) :
    (saveCount key i kf).getInteger "General" k =
      if k = key ∧ 0 < i then Int32.ofNat i else kf.getInteger "General" k := by
  unfold saveCount
  by_cases hi : 0 < i
  · rw [if_pos hi, KeyFile.getInteger_setInteger]
    simp [hi]
  · simp [hi]

/-- The groups of the elements are not looked at for the counts. -/
theorem saveEach_getInteger {β : Type} {group : Nat → String}
    {save : KeyFile → Nat → β → KeyFile} (h : KeepsToGroup group save)
    (hgroup : ∀ j, group j ≠ "General") (xs : List β) (kf : KeyFile) (k : String) :
    (saveEach save 0 xs kf).getInteger "General" k = kf.getInteger "General" k :=
  KeyFile.getInteger_congr (saveEach_value_other h xs kf fun j _ => (hgroup j).symm) k

theorem savePilotState_counts (kf : KeyFile) (state : PilotState) :
    (savePilotState kf state).getInteger "General" "num_devices" =
        Int32.ofNat state.devices.length ∧
      (savePilotState kf state).getInteger "General" "num_pilots" =
        Int32.ofNat state.pilots.length := by
  have hlacks := (kf.lacks_removeGroup "General").getInteger
  have hzero : ∀ i, (if 0 < i then Int32.ofNat i else 0) = Int32.ofNat i := by
    intro i
    cases i <;> simp
  constructor
  · simp only [savePilotState, saveCount_getInteger,
      saveEach_getInteger savePilot_keepsToGroup pilotGroup_ne_general,
      saveEach_getInteger saveDevice_keepsToGroup deviceGroup_ne_general,
      KeyFile.getInteger_setInteger, hlacks]
    simpa using hzero state.devices.length
  · simp only [savePilotState, saveCount_getInteger,
      saveEach_getInteger savePilot_keepsToGroup pilotGroup_ne_general,
      saveEach_getInteger saveDevice_keepsToGroup deviceGroup_ne_general,
      KeyFile.getInteger_setInteger, hlacks]
    simpa using hzero state.pilots.length

theorem counted_ofNat {n : Nat} (h : n < 2 ^ 31) : counted (Int32.ofNat n) = List.range n := by
  rw [counted, Int32.toInt_ofNat_of_lt h, Int.toNat_natCast]

theorem counted_eq_range (n : Int32) :
    ∃ m, m < 2 ^ 31 ∧ counted n = List.range m := by
  have hlt := n.toInt_lt
  exact ⟨n.toInt.toNat, by omega, rfl⟩

theorem getDevices_savePilotState {n : Int32} {f : Nat → GPilotDevice}
    (h : state.devices = (counted n).map f) :
    getDevices (savePilotState kf state) = (counted n).map fun j => deviceReadBack (f j) := by
  obtain ⟨m, hm, hcount⟩ := counted_eq_range n
  have hlen : state.devices.length = m := by simp [h, hcount]
  rw [getDevices, (savePilotState_counts kf state).1, hlen, counted_ofNat hm, hcount]
  apply List.map_congr_left
  intro j hj
  apply savePilotState_device
  simp [h, hcount, List.mem_range.mp hj]

theorem getPilots_savePilotState {n : Int32} {f : Nat → GPilotPilot}
    (h : state.pilots = (counted n).map f) :
    getPilots env (savePilotState kf state) =
      (counted n).map fun j => pilotReadBack env j (f j) := by
  obtain ⟨m, hm, hcount⟩ := counted_eq_range n
  have hlen : state.pilots.length = m := by simp [h, hcount]
  rw [getPilots, (savePilotState_counts kf state).2, hlen, counted_ofNat hm, hcount]
  apply List.map_congr_left
  intro j hj
  apply savePilotState_pilot
  simp [h, hcount, List.mem_range.mp hj]

end Saved

/-! ## Unchanged, directly and through a duplicate -/

/-- A device as `copy_device` makes it. -/
def withoutIp (device : GPilotDevice) : GPilotDevice := { device with ip := none }

/-- A pilot as `copy_pilot` makes it. -/
def withoutNumber (pilot : GPilotPilot) : GPilotPilot := { pilot with number := 0 }

theorem foldl_copyPilot (pilots : List GPilotPilot) (dest : PilotState) :
    pilots.foldl (fun dest pilot => copyPilot pilot dest) dest =
      { dest with pilots := dest.pilots ++ pilots.map withoutNumber } := by
  induction pilots generalizing dest with
  | nil => simp
  | cons pilot pilots ih =>
    rw [List.foldl_cons, ih]
    simp [copyPilot, withoutNumber, gpilotPilotNew]

theorem foldl_copyDevice (devices : List GPilotDevice) (dest : PilotState) :
    devices.foldl (fun dest device => copyDevice device dest) dest =
      { dest with devices := dest.devices ++ devices.map withoutIp } := by
  induction devices generalizing dest with
  | nil => simp
  | cons device devices ih =>
    rw [List.foldl_cons, ih]
    simp [copyDevice, withoutIp, gpilotDeviceNew]

theorem dupPilotState_eq (src : PilotState) : dupPilotState src =
    { src with
      pilots := src.pilots.map withoutNumber
      devices := src.devices.map withoutIp } := by
  rw [dupPilotState, copyPilotState, foldl_copyPilot, foldl_copyDevice]
  simp [newPilotState]

theorem loadDeviceCfg_eq {kf : KeyFile} {p : PilotState} (hp : p.devices = []) :
    loadDeviceCfg kf p =
      { p with
        devices := (counted (kf.getInteger "General" "num_devices")).map (loadDevice kf) } := by
  by_cases hnum : kf.getInteger "General" "num_devices" = 0
  · simp only [loadDeviceCfg, hnum]
    rfl
  · simp only [loadDeviceCfg, if_neg hnum, hp, List.nil_append]

theorem loadPilotPilot_eq {env : Environment} {kf : KeyFile} {p : PilotState}
    (hp : p.pilots = []) : loadPilotPilot env kf p =
      { p with
        pilots := (counted (kf.getInteger "General" "num_pilots")).map (loadPilot env kf) } := by
  by_cases hnum : kf.getInteger "General" "num_pilots" = 0
  · simp only [loadPilotPilot, hnum]
    rfl
  · simp only [loadPilotPilot, if_neg hnum, hp, List.nil_append]

theorem loadPilotState_lists (env : Environment) (kf : KeyFile) :
    (loadPilotState env kf).devices =
        (counted (kf.getInteger "General" "num_devices")).map (loadDevice kf) ∧
      (loadPilotState env kf).pilots =
        (counted (kf.getInteger "General" "num_pilots")).map (loadPilot env kf) := by
  have hpilots := @loadPilotPilot_eq env kf (loadHostID env kf newPilotState) rfl
  rw [loadPilotState, hpilots, loadDeviceCfg_eq rfl]
  exact ⟨rfl, rfl⟩

/-- The daemon reads the devices and pilots of `kf` again after the capplet has loaded
and saved it, directly or through a duplicate of the state. -/
def Preserves (env : Environment) (kf : KeyFile) : Prop :=
  ∀ state, state = loadPilotState env kf ∨ state = dupPilotState (loadPilotState env kf) →
    getDevices (savePilotState kf state) = getDevices kf ∧
      getPilots env (savePilotState kf state) = getPilots env kf

def deviceType (kf : KeyFile) (i : Nat) : Int32 :=
  (kf.getInteger? (deviceGroup i) "type").getD 0

/-- A device whose every setting that the capplet has another default for is there, and
that has no network address to be lost. -/
def DeviceComplete (kf : KeyFile) (i : Nat) : Prop :=
  (kf.getString (deviceGroup i) "name").isSome = true ∧
    (kf.getInteger? (deviceGroup i) "timeout").isSome = true ∧
    (sharesSerialLoader (deviceType kf i) = true →
      (kf.getInteger? (deviceGroup i) "speed").isSome = true) ∧
    (deviceType kf i = PILOT_DEVICE_NETWORK →
      kf.getString (deviceGroup i) "ip" = none)

/-- A pilot with every setting the capplet makes up when it is not there, and none that
it does not keep. -/
def PilotComplete (env : Environment) (kf : KeyFile) (i : Nat) : Prop :=
  (kf.getString (pilotGroup i) "name").isSome = true ∧
    ((kf.getInteger? (pilotGroup i) "pilotid").isSome = true ∨ env.uid = 0) ∧
    (kf.getString (pilotGroup i) "basedir").isSome = true ∧
    kf.getString (pilotGroup i) "password" = none ∧
    ∀ charset ∈ kf.getString (pilotGroup i) "charset", charset = getDefaultPilotCharset env

/-! ## Element by element -/

section Elements

variable {kf : KeyFile} {i : Nat}

theorem loadDevice_serial (h : sharesSerialLoader (deviceType kf i) = true) :
    loadDevice kf i =
      { name := some ((kf.getString (deviceGroup i) "name").getD ("Cradle" ++ toString i))
        port := kf.getString (deviceGroup i) "device"
        speed := ((kf.getInteger? (deviceGroup i) "speed").getD 9600).toUInt32
        ip := none
        timeout := (kf.getInteger? (deviceGroup i) "timeout").getD 2
        type := deviceType kf i } := by
  obtain ⟨hnet, hblue⟩ := sharesSerialLoader_ne h
  unfold deviceType at hnet hblue
  simp only [loadDevice, if_neg hnet, if_neg hblue]
  rfl

theorem loadDevice_network (h : deviceType kf i = PILOT_DEVICE_NETWORK) :
    loadDevice kf i =
      { name := some ((kf.getString (deviceGroup i) "name").getD ("Cradle" ++ toString i))
        port := none
        speed := 0
        ip := kf.getString (deviceGroup i) "ip"
        timeout := (kf.getInteger? (deviceGroup i) "timeout").getD 2
        type := deviceType kf i } := by
  unfold deviceType at h
  simp only [loadDevice, if_pos h]
  rfl

theorem loadDevice_type (kf : KeyFile) (i : Nat) :
    (loadDevice kf i).type = deviceType kf i := by
  unfold loadDevice deviceType
  dsimp only
  split_ifs <;> rfl

/-- Whatever is loaded of a device of another type, only these fields are kept. -/
theorem deviceReadBack_other (h : sharesSerialLoader (deviceType kf i) = false)
    (h' : deviceType kf i ≠ PILOT_DEVICE_NETWORK) :
    deviceReadBack (loadDevice kf i) =
      { name := some ((kf.getString (deviceGroup i) "name").getD ("Cradle" ++ toString i))
        port := none
        speed := 0
        ip := none
        timeout := (kf.getInteger? (deviceGroup i) "timeout").getD 2
        type := deviceType kf i } := by
  have hname : (loadDevice kf i).name =
      some ((kf.getString (deviceGroup i) "name").getD ("Cradle" ++ toString i)) := by
    unfold loadDevice
    dsimp only
    split_ifs <;> rfl
  unfold deviceReadBack
  rw [loadDevice_type, if_neg (by simp [h]), if_neg h', hname]
  rfl

/-- An optional setting with two different defaults is the same when it is there. -/
theorem getD_eq_getD_iff {β : Type} {o : Option β} {a b : β} (h : a ≠ b) :
    o.getD a = o.getD b ↔ o.isSome = true := by
  cases o <;> simp [h]

theorem some_getD_eq_iff {β : Type} {o : Option β} {a : β} :
    some (o.getD a) = o ↔ o.isSome = true := by
  cases o <;> simp

theorem speed_eq_iff {o : Option Int32} :
    (o.getD 9600).toUInt32 = (o.getD 57600).toUInt32 ↔ o.isSome = true := by
  cases o with
  | none => decide
  | some n => simp

theorem gpilotDeviceLoad_serial (h : sharesSerialLoader (deviceType kf i) = true) :
    gpilotDeviceLoad kf i =
      { name := kf.getString (deviceGroup i) "name"
        port := kf.getString (deviceGroup i) "device"
        speed := ((kf.getInteger? (deviceGroup i) "speed").getD 57600).toUInt32
        ip := none
        timeout := (kf.getInteger? (deviceGroup i) "timeout").getD 3
        type := deviceType kf i } := by
  exact (if_pos h :)

theorem gpilotDeviceLoad_network (h : deviceType kf i = PILOT_DEVICE_NETWORK) :
    gpilotDeviceLoad kf i =
      { name := kf.getString (deviceGroup i) "name"
        port := none
        speed := 0
        ip := kf.getString (deviceGroup i) "ip"
        timeout := (kf.getInteger? (deviceGroup i) "timeout").getD 3
        type := deviceType kf i } := by
  have hserial : ¬sharesSerialLoader (deviceType kf i) = true := by
    rw [h]
    decide
  exact (if_neg hserial).trans (if_pos h)

theorem gpilotDeviceLoad_other (h : ¬sharesSerialLoader (deviceType kf i) = true)
    (h' : deviceType kf i ≠ PILOT_DEVICE_NETWORK) :
    gpilotDeviceLoad kf i =
      { name := kf.getString (deviceGroup i) "name"
        port := none
        speed := 0
        ip := none
        timeout := (kf.getInteger? (deviceGroup i) "timeout").getD 3
        type := deviceType kf i } :=
  (if_neg h).trans (if_neg h')

/-- The capplet's own defaults for a name, a timeout and a speed come back in place of
the daemon's. -/
theorem deviceReadBack_loadDevice_iff :
    deviceReadBack (loadDevice kf i) = gpilotDeviceLoad kf i ↔
      (kf.getString (deviceGroup i) "name").isSome = true ∧
        (kf.getInteger? (deviceGroup i) "timeout").isSome = true ∧
        (sharesSerialLoader (deviceType kf i) = true →
          (kf.getInteger? (deviceGroup i) "speed").isSome = true) := by
  have htimeout := getD_eq_getD_iff (o := kf.getInteger? (deviceGroup i) "timeout")
    (show (2 : Int32) ≠ 3 by decide)
  by_cases hserial : sharesSerialLoader (deviceType kf i) = true
  · rw [gpilotDeviceLoad_serial hserial, loadDevice_serial hserial]
    simp [deviceReadBack, hserial, some_getD_eq_iff, htimeout, speed_eq_iff, and_comm]
  · by_cases hnet : deviceType kf i = PILOT_DEVICE_NETWORK
    · have hnot : sharesSerialLoader PILOT_DEVICE_NETWORK = false := by decide
      rw [gpilotDeviceLoad_network hnet, loadDevice_network hnet]
      simp [deviceReadBack, hnot, hnet, some_getD_eq_iff, htimeout]
    · rw [gpilotDeviceLoad_other hserial hnet, deviceReadBack_other (by simpa using hserial) hnet]
      simp [hserial, some_getD_eq_iff, htimeout]

theorem deviceReadBack_withoutIp {device : GPilotDevice}
    (h : device.type ≠ PILOT_DEVICE_NETWORK) :
    deviceReadBack (withoutIp device) = deviceReadBack device := by
  simp [deviceReadBack, withoutIp, h]

/-- A duplicate loses the address of a network device besides. -/
theorem deviceReadBack_copied_iff :
    deviceReadBack (withoutIp (loadDevice kf i)) = gpilotDeviceLoad kf i ↔
      DeviceComplete kf i := by
  by_cases hnet : deviceType kf i = PILOT_DEVICE_NETWORK
  · have htimeout := getD_eq_getD_iff (o := kf.getInteger? (deviceGroup i) "timeout")
      (show (2 : Int32) ≠ 3 by decide)
    have hnot : sharesSerialLoader PILOT_DEVICE_NETWORK = false := by decide
    rw [gpilotDeviceLoad_network hnet, loadDevice_network hnet]
    have hip : none = kf.getString (deviceGroup i) "ip" ↔
        kf.getString (deviceGroup i) "ip" = none := eq_comm
    simp [deviceReadBack, withoutIp, DeviceComplete, hnot, hnet, some_getD_eq_iff, htimeout,
      hip, and_comm]
  · rw [deviceReadBack_withoutIp ((loadDevice_type kf i).symm ▸ hnet),
      deviceReadBack_loadDevice_iff]
    simp [DeviceComplete, hnet]

theorem pilotReadBack_loadPilot_iff {env : Environment} :
    pilotReadBack env i (loadPilot env kf i) = gpilotPilotInit env kf i ↔
      PilotComplete env kf i := by
  have hid : ((kf.getInteger? (pilotGroup i) "pilotid").map Int32.toUInt32).getD env.uid =
      (kf.getInteger (pilotGroup i) "pilotid").toUInt32 ↔
        (kf.getInteger? (pilotGroup i) "pilotid").isSome = true ∨ env.uid = 0 := by
    rw [KeyFile.getInteger_eq_getD]
    have hzero : Int32.toUInt32 0 = 0 := rfl
    cases kf.getInteger? (pilotGroup i) "pilotid" <;> simp [hzero]
  have hcharset : getDefaultPilotCharset env =
      (kf.getString (pilotGroup i) "charset").getD (getDefaultPilotCharset env) ↔
        ∀ charset ∈ kf.getString (pilotGroup i) "charset",
          charset = getDefaultPilotCharset env := by
    cases kf.getString (pilotGroup i) "charset" <;> simp [eq_comm]
  simp only [pilotReadBack, loadPilot, gpilotPilotInit, GPilotPilot.mk.injEq, PilotComplete,
    gpilotPilotNew, intOfUlong_ulongOfInt, some_getD_eq_iff, hid, hcharset, Option.getD_none,
    Option.some.injEq, true_and]
  constructor
  · rintro ⟨hname, hpasswd, hid, hcharset, hbasedir⟩
    exact ⟨hname, hid, hbasedir, hpasswd.symm, hcharset⟩
  · rintro ⟨hname, hid, hbasedir, hpasswd, hcharset⟩
    exact ⟨hname, hpasswd.symm, hid, hcharset, hbasedir⟩

end Elements

/-- The daemon reads the same devices and pilots again exactly when none of them leaves
out what the capplet has its own default for, or has what the capplet does not keep. -/
theorem preserves_iff (env : Environment) (kf : KeyFile) :
    Preserves env kf ↔
      (∀ i ∈ counted (kf.getInteger "General" "num_devices"), DeviceComplete kf i) ∧
        ∀ i ∈ counted (kf.getInteger "General" "num_pilots"), PilotComplete env kf i := by
  obtain ⟨hdevices, hpilots⟩ := loadPilotState_lists env kf
  have hdup := dupPilotState_eq (loadPilotState env kf)
  have hdupDevices : (dupPilotState (loadPilotState env kf)).devices =
      (counted (kf.getInteger "General" "num_devices")).map
        fun i => withoutIp (loadDevice kf i) := by
    rw [hdup, hdevices, List.map_map]
    rfl
  have hdupPilots : (dupPilotState (loadPilotState env kf)).pilots =
      (counted (kf.getInteger "General" "num_pilots")).map
        fun i => withoutNumber (loadPilot env kf i) := by
    rw [hdup, hpilots, List.map_map]
    rfl
  have hcopied : getDevices (savePilotState kf (dupPilotState (loadPilotState env kf))) =
      getDevices kf ↔
        ∀ i ∈ counted (kf.getInteger "General" "num_devices"), DeviceComplete kf i := by
    rw [getDevices_savePilotState hdupDevices, getDevices, List.map_inj_left]
    exact forall₂_congr fun i _ => deviceReadBack_copied_iff
  have hnumbered : getPilots env (savePilotState kf (dupPilotState (loadPilotState env kf))) =
      getPilots env kf ↔
        ∀ i ∈ counted (kf.getInteger "General" "num_pilots"), PilotComplete env kf i := by
    rw [getPilots_savePilotState hdupPilots, getPilots, List.map_inj_left]
    exact forall₂_congr fun i _ => pilotReadBack_loadPilot_iff
  constructor
  · intro h
    obtain ⟨hdev, hpil⟩ := h _ (Or.inr rfl)
    exact ⟨hcopied.mp hdev, hnumbered.mp hpil⟩
  · rintro ⟨hdev, hpil⟩ state (rfl | rfl)
    · -- what survives a duplicate survives without one
      rw [getDevices_savePilotState hdevices, getPilots_savePilotState hpilots, getDevices,
        getPilots, List.map_inj_left, List.map_inj_left]
      refine ⟨fun i hi => ?_, fun i hi => pilotReadBack_loadPilot_iff.mpr (hpil i hi)⟩
      obtain ⟨hname, htimeout, hspeed, -⟩ := hdev i hi
      exact deviceReadBack_loadDevice_iff.mpr ⟨hname, htimeout, hspeed⟩
    · exact ⟨hcopied.mpr hdev, hnumbered.mpr hpil⟩

def networkCradle : KeyFile :=
  KeyFile.empty.setInteger "General" "sync_PC_Id" 7
    |>.setInteger "General" "num_devices" 1
    |>.setInteger "Device0" "type" 4
    |>.setString "Device0" "name" (some "Network")
    |>.setString "Device0" "ip" (some "192.168.0.5")
    |>.setInteger "Device0" "timeout" 2
    |>.setInteger "General" "num_pilots" 1
    |>.setString "Pilot0" "name" (some "MyPilot")
    |>.setInteger "Pilot0" "pilotid" 500
    |>.setString "Pilot0" "pilotusername" (some "Ann")
    |>.setString "Pilot0" "basedir" (some "/home/ann/MyPilot")
    |>.setString "Pilot0" "charset" (some "CP1250")
    |>.setString "Pilot0" "password" (some "secret")

def atHome : Environment := ⟨none, "/home/ann", 1000, 1⟩

/-- The address goes with the duplicate, the charset and the password with the pilot. -/
theorem networkCradle_lost :
    (getDevices networkCradle).map GPilotDevice.ip = [some "192.168.0.5"] ∧
      (getPilots atHome networkCradle).map (fun p => (p.pilotCharset, p.passwd)) =
        [(some "CP1250", some "secret")] ∧
      (let kf := savePilotState networkCradle
        (dupPilotState (loadPilotState atHome networkCradle))
      (getDevices kf).map GPilotDevice.ip = [none] ∧
        (getPilots atHome kf).map (fun p => (p.pilotCharset, p.passwd)) =
          [(some "CP1252", none)]) ∧
      ¬Preserves atHome networkCradle := by
  have hbefore : (getDevices networkCradle).map GPilotDevice.ip = [some "192.168.0.5"] := by
    decide
  have hafter : (getDevices (savePilotState networkCradle
      (dupPilotState (loadPilotState atHome networkCradle)))).map GPilotDevice.ip = [none] := by
    decide
  refine ⟨hbefore, by decide, ⟨hafter, by decide⟩, fun h => ?_⟩
  rw [(h _ (Or.inr rfl)).1, hbefore] at hafter
  cases hafter

end GnomePilot.Capplet
