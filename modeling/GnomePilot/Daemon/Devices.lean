import GnomePilot.Daemon.Config
import GnomePilot.Lib.Registry
import Mathlib.Logic.Function.Basic

/-!
# The devices of the running daemon

`context->devices` is a list of links, each holding a pointer to a device.  A
device owns an IO channel and the numbers of two watches on it, which the main
loop knows.  Blocks that were freed are recorded; an operation that follows a
pointer to one of them has no result.
-/

namespace GnomePilot.Daemon.Devices

open Config

/-! ## Memory -/

/-- What a watch on an IO channel calls. -/
inductive Callback
  | deviceIn
  | deviceErr
  | networkDeviceIn
  | networkDeviceErr
  deriving DecidableEq, Repr

/-- A watch: the channel it is on and what it calls. -/
structure Watch where
  channel : Nat
  callback : Callback
  deriving DecidableEq, Repr

/-- A `GPilotDevice` while the daemon runs. -/
structure Device where
  configured : GPilotDevice
  io : Option Nat
  inHandle : Nat
  errHandle : Nat

/-- A link of a `GList`: where it is and the pointer it holds. -/
structure Link where
  addr : Nat
  data : Nat
  deriving DecidableEq, Repr

/-- A `GPilotContext` with the memory its devices are in and the main loop's watches. -/
structure Context where
  paused : Bool
  devices : List Link
  heap : Nat → Device
  freed : List Nat
  nextBlock : Nat
  nextChannel : Nat
  main : Registry Watch

def Context.deref (s : Context) (p : Nat) : Option Device :=
  if p ∈ s.freed then none else some (s.heap p)

def Context.write (s : Context) (p : Nat) (device : Device) : Context :=
  { s with heap := Function.update s.heap p device }

theorem deref_of_not_freed {s : Context} {p : Nat} (h : p ∉ s.freed) :
    s.deref p = some (s.heap p) := if_neg h

theorem deref_of_freed {s : Context} {p : Nat} (h : p ∈ s.freed) : s.deref p = none := if_pos h

theorem deref_eq_some_iff {s : Context} {p : Nat} {device : Device} :
    s.deref p = some device ↔ p ∉ s.freed ∧ s.heap p = device := by
  by_cases h : p ∈ s.freed
  · simp [deref_of_freed h, h]
  · simp [deref_of_not_freed h, h]

@[simp] theorem write_heap_self (s : Context) (p : Nat) (device : Device) :
    (s.write p device).heap p = device := Function.update_self ..

theorem write_heap_other (s : Context) {p q : Nat} (device : Device) (h : q ≠ p) :
    (s.write p device).heap q = s.heap q := Function.update_of_ne h ..

@[simp] theorem write_heap_eq_self (s : Context) (p : Nat) : s.write p (s.heap p) = s := by
  simp [Context.write]

/-! ## Lists of devices -/

def gListForeach (f : Context → Nat → Option Context) : List Link → Context → Option Context
  | [], s => some s
  | l :: rest, s =>
    if l.addr ∈ s.freed then none else (f s l.data).bind fun s => gListForeach f rest s

/-- `g_list_find_custom`, with a comparison that looks into the device. -/
def gListFindCustom (s : Context) (equal : Device → Bool) : List Link → Option (Option Link)
  | [] => some none
  | l :: rest =>
    if l.addr ∈ s.freed then none
    else
      (s.deref l.data).bind fun device =>
        if equal device then some (some l) else gListFindCustom s equal rest

def gListFind (s : Context) (data : Nat) : List Link → Option (Option Link)
  | [] => some none
  | l :: rest =>
    if l.addr ∈ s.freed then none
    else if l.data = data then some (some l) else gListFind s data rest

/-- `g_list_remove`: the list without the first link that holds `data`, and that link. -/
def gListRemove (s : Context) (data : Nat) : List Link → Option (List Link × Option Link)
  | [] => some ([], none)
  | l :: rest =>
    if l.addr ∈ s.freed then none
    else if l.data = data then some (rest, some l)
    else (gListRemove s data rest).map fun r => (l :: r.1, r.2)

/-- `g_free` on one block. -/
def gFree (s : Context) (block : Nat) : Option Context :=
  if block ∈ s.freed then none else some { s with freed := block :: s.freed }

/-- `g_list_free`, block by block. -/
def gListFree : List Link → Context → Option Context
  | [], s => some s
  | l :: rest, s => (gFree s l.addr).bind fun s => gListFree rest s

/-! ## Watches -/

def gSourceRemove (s : Context) (tag : Nat) : Context := { s with main := s.main.remove tag }

/-- `g_io_add_watch` gives the number of the watch; without a channel it refuses and
gives 0. -/
def gIoAddWatch (s : Context) (channel : Option Nat) (callback : Callback) : Nat × Context :=
  match channel with
  | none => (0, s)
  | some c => (s.main.next, { s with main := s.main.add ⟨c, callback⟩ })

/-- The callbacks of a type of device that has a channel to watch. -/
def callbacks (type : Int32) : Option (Callback × Callback) :=
  if type = PILOT_DEVICE_SERIAL ∨ type = PILOT_DEVICE_IRDA then some (.deviceIn, .deviceErr)
  else if type = PILOT_DEVICE_NETWORK ∨ type = PILOT_DEVICE_BLUETOOTH then
    some (.networkDeviceIn, .networkDeviceErr)
  else none

/-- Both watches of `monitor_channel`, their numbers stored in the device. -/
def addWatches (s : Context) (p : Nat) (onIn onErr : Callback) : Context :=
  let device := s.heap p
  let (inHandle, s) := gIoAddWatch s device.io onIn
  let (errHandle, s) := gIoAddWatch s device.io onErr
  s.write p { device with inHandle := inHandle, errHandle := errHandle }

/-- `monitor_channel`.  A USB device is only marked as not there: udev is always
initialised before. -/
def monitorChannel (s : Context) (p : Nat) : Option Context :=
  (s.deref p).map fun device =>
    match callbacks device.configured.type with
    | some (onIn, onErr) => addWatches s p onIn onErr
    | none => s

/-- What pausing and shutting down do alike: `if (device->io)` both handles are removed. -/
def removeWatches (s : Context) (device : Device) : Context :=
  if device.io.isSome then gSourceRemove (gSourceRemove s device.inHandle) device.errHandle
  else s

def gpilotDaemonPauseDevice (s : Context) (p : Nat) : Option Context :=
  (s.deref p).map fun device => removeWatches s device

/-! ## Opening and closing -/

/-- How opening a device goes: the port or socket is opened, or it is not, or the lock
file is held by another process. -/
inductive Opening
  | opened
  | failed
  | locked
  deriving DecidableEq, Repr

/-- `gpilot_serial_device_init`, with the channel that is made for an open port. -/
def gpilotSerialDeviceInit (opening : Opening) (channel : Nat) (device : Device) : Bool × Device :=
  match opening with
  | .opened => (true, { device with io := some channel })
  | .failed =>
    (false, { device with
      configured := { device.configured with name := none, port := none }, io := none })
  | .locked => (false, device)

def gpilotIrdaDeviceInit (opening : Opening) (channel : Nat) (device : Device) : Bool × Device :=
  gpilotSerialDeviceInit opening channel device

def gpilotUsbDeviceInit (device : Device) : Bool × Device := (true, { device with io := none })

def gpilotNetworkDeviceInit (opening : Opening) (channel : Nat) (device : Device) :
    Bool × Device :=
  match opening with
  | .opened => (true, { device with io := some channel })
  | .failed | .locked => (false, device)

/-- `gpilot_device_init`: whether it returns 0, and the device. -/
def gpilotDeviceInit (opening : Opening) (channel : Nat) (device : Device) : Bool × Device :=
  if device.configured.type = PILOT_DEVICE_SERIAL then
    gpilotSerialDeviceInit opening channel device
  else if device.configured.type = PILOT_DEVICE_IRDA then
    gpilotIrdaDeviceInit opening channel device
  else if device.configured.type = PILOT_DEVICE_USB_VISOR then gpilotUsbDeviceInit device
  else if device.configured.type = PILOT_DEVICE_NETWORK ∨
      device.configured.type = PILOT_DEVICE_BLUETOOTH then
    gpilotNetworkDeviceInit opening channel device
  else
    -- "Unknown device type"
    (false, device)

/-- `gpilot_device_deinit`: the serial, IrDA, network and Bluetooth ways are one; a USB
device and an unknown type have nothing to take down. -/
def gpilotDeviceDeinit (s : Context) (p : Nat) : Option Context :=
  (s.deref p).map fun device =>
    if (callbacks device.configured.type).isSome then removeWatches s device else s

def gpilotDeviceFree (s : Context) (p : Nat) : Option Context :=
  (gpilotDeviceDeinit s p).bind fun s => gFree s p

/-- A device the configuration names, and how opening it goes. -/
structure Configured where
  device : GPilotDevice
  opening : Opening

/-- `get_devices`: a device that cannot be initialised is not put in the list. -/
def getDevices : List Configured → List Link → Context → List Link × Context
  | [], retval, s => (retval, s)
  | c :: rest, retval, s =>
    let p := s.nextBlock
    let (ok, device) := gpilotDeviceInit c.opening s.nextChannel ⟨c.device, none, 0, 0⟩
    let s := { s.write p device with nextChannel := s.nextChannel + 1 }
    if ok then
      getDevices rest (retval ++ [⟨p + 1, p⟩]) { s with nextBlock := p + 2 }
    else getDevices rest retval { s with nextBlock := p + 1 }

/-- `gpilot_context_init_user`, as far as the devices go. -/
def gpilotContextInitUser (configured : List Configured) (s : Context) : Context :=
  let (devices, s) := getDevices configured [] s
  { s with devices := devices }

/-- `gpilot_context_free`, as far as the devices go. -/
def gpilotContextFree (s : Context) : Option Context :=
  (gListForeach gpilotDeviceFree s.devices s).bind fun t =>
    (gListFree s.devices t).map fun t => { t with devices := [] }

/-- A context before any device: `gpilot_context_new`. -/
def gpilotContextNew : Context where
  paused := false
  devices := []
  heap := fun _ => ⟨gpilotDeviceNew, none, 0, 0⟩
  freed := []
  nextBlock := 0
  nextChannel := 0
  main := Registry.empty

/-- Reads the configuration into a context without devices and watches what it names. -/
def initUserAndMonitor (configured : List Configured) (s : Context) : Option Context :=
  let s := gpilotContextInitUser configured s
  gListForeach monitorChannel s.devices s

def gpilotDaemonInit (configured : List Configured) : Option Context :=
  initUserAndMonitor configured gpilotContextNew

/-! ## Failing devices -/

/-- `device_equal_by_io` finds a device by its channel. -/
def deviceEqualByIo (channel : Nat) (device : Device) : Bool := device.io = some channel

/-- The look-up at the head of every callback of a watch. -/
def findByIo (s : Context) (channel : Nat) : Option (Option Link) :=
  gListFindCustom s (deviceEqualByIo channel) s.devices

/-- `remove_device`.  What `g_list_remove` is given is the link, where it compares with
what links hold. -/
def removeDevice (s : Context) (p : Nat) : Option Context :=
  -- "Removing %s" reads the name
  (s.deref p).bind fun _ =>
    (gListFind s p s.devices).bind fun found =>
      match found with
      | some l =>
        (gpilotDeviceFree s l.data).bind fun s =>
          (gListRemove s l.addr s.devices).bind fun (devices, taken) =>
            match taken with
            | some taken => (gFree { s with devices := devices } taken.addr).bind fun s =>
                gFree s l.addr
            | none => gFree { s with devices := devices } l.addr
      | none => some s

/-- `device_err` and `network_device_err`, which differ in the texts they show. -/
def deviceErr (s : Context) (channel : Nat) : Option Context :=
  (findByIo s channel).bind fun found =>
    match found with
    | some l => removeDevice s l.data
    | none => some s

end GnomePilot.Daemon.Devices
