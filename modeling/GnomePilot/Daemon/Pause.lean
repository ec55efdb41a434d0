import GnomePilot.Daemon.Devices

/-!
# Pausing, rereading and device events

The daemon as its main loop drives it: calls to pause it and to reread the
configuration, watches that become ready, USB devices that are plugged in.  A
callback shows dialogs, and a dialog runs the main loop until it is answered; so a
callback is started by one event and goes on with another, and other events can come
in between.
-/

namespace GnomePilot.Daemon.Devices

open Config

/-! ## The calls -/

/-- `sig_hup_handler` only installs itself again. -/
def sigHupHandler (s : Context) : Context := s

def gpilotDaemonPause (s : Context) (onOff : Bool) : Option Context :=
  if s.paused = onOff then some s
  else
    let s := { s with paused := onOff }
    if onOff then gListForeach gpilotDaemonPauseDevice s.devices s
    else some (sigHupHandler s)

def gpilotDaemonRereadConfig (s : Context) (configured : List Configured) : Option Context :=
  (gpilotContextFree s).bind (initUserAndMonitor configured)

/-! ## Connecting -/

/-- How far `pilot_connect` gets. -/
inductive Line
  | noSocket
  | noBind
  | noListen
  | noAccept
  | connected
  deriving DecidableEq, Repr

/-- What `pilot_connect` leaves in `*error`; network sockets are listening already. -/
def pilotConnect (type : Int32) (line : Line) : Nat :=
  if type = PILOT_DEVICE_NETWORK ∨ type = PILOT_DEVICE_BLUETOOTH then
    if line = .noAccept then 2 else 0
  else if line = .noSocket ∨ line = .noBind then 1
  else if line = .noListen ∨ line = .noAccept then 2
  else 0

/-- How `sync_device` ends: it gives up on the device for an error of 1, and looks at its
type once more otherwise. -/
def syncDeviceReturn (s : Context) (p connectError : Nat) : Option Bool :=
  if connectError = 1 then some false else (s.deref p).map fun _ => true

/-! ## Callbacks -/

/-- A callback in the middle of its work: the source it was called for, the device, and
how connecting went. -/
inductive Frame
  | deviceIn (source p connectError : Nat)
  | networkDeviceIn (source p connectError : Nat)
  | deviceErr (source p : Nat)
  | usbDeviceAdded (p connectError : Nat) (visorNet : Bool)
  deriving DecidableEq, Repr

/-- The source a callback was called for. -/
def Frame.source : Frame → Option Nat
  | .deviceIn source _ _ => some source
  | .networkDeviceIn source _ _ => some source
  | .deviceErr source _ => some source
  | .usbDeviceAdded _ _ _ => none

/-- The context and the callbacks that are running, the innermost first. -/
structure GpilotDaemon where
  context : Context
  running : List Frame

/-- A callback that returned `FALSE` loses its source. -/
def GpilotDaemon.returned (d : GpilotDaemon) (source : Nat) (result : Bool) : GpilotDaemon :=
  if result then d
  else { d with context := { d.context with main := d.context.main.drop source } }

def GpilotDaemon.push (d : GpilotDaemon) (frame : Frame) : GpilotDaemon :=
  { d with running := frame :: d.running }

/-- `device_in` and `network_device_in` up to the call of `sync_device`. -/
def startIn (d : GpilotDaemon) (source channel : Nat) (line : Line)
    (frame : Nat → Nat → Nat → Frame) : Option GpilotDaemon :=
  (findByIo d.context channel).map fun found =>
    match found with
    | none =>
      -- "cannot find device for active IO channel"
      d.returned source false
    | some l =>
      if d.context.paused then d.returned source false
      else
        d.push (frame source l.data
          (pilotConnect (d.context.heap l.data).configured.type line))

/-- `device_err` and `network_device_err` up to the dialog. -/
def startErr (d : GpilotDaemon) (source channel : Nat) : Option GpilotDaemon :=
  (findByIo d.context channel).map fun found =>
    match found with
    | none =>
      -- "Device error on some device, caught %s"
      d.returned source false
    | some l => d.push (.deviceErr source l.data)

/-- The main loop dispatches a source, which it does not do while its callback runs. -/
def ready (d : GpilotDaemon) (source : Nat) (line : Line) : Option GpilotDaemon :=
  match d.context.main.live.find? fun x => x.1 = source with
  | none => some d
  | some (_, watch) =>
    if some source ∈ d.running.map Frame.source then some d
    else
      match watch.callback with
      | .deviceIn => startIn d source watch.channel line .deviceIn
      | .networkDeviceIn => startIn d source watch.channel line .networkDeviceIn
      | .deviceErr => startErr d source watch.channel
      | .networkDeviceErr => startErr d source watch.channel

def setType (s : Context) (p : Nat) (type : Int32) : Context :=
  s.write p { s.heap p with configured := { (s.heap p).configured with type := type } }

/-- `usb_device_added` up to the call of `sync_device`; `visorNet` is what `devices.xml`
says of the vendor and product, if it knows them. -/
def startUsb (d : GpilotDaemon) (visorNet : Option Bool) (line : Line) : Option GpilotDaemon :=
  if d.context.paused then some d
  else
    match visorNet with
    | none => some d
    | some visorNet =>
      (gListFindCustom d.context (fun device => device.configured.type = PILOT_DEVICE_USB_VISOR)
        d.context.devices).map fun found =>
        match found with
        | none => d
        | some l =>
          let type := if visorNet then PILOT_DEVICE_USB_VISOR else PILOT_DEVICE_SERIAL
          { context := setType d.context l.data type
            running := .usbDeviceAdded l.data (pilotConnect type line) visorNet :: d.running }

/-- `gpilot_device_init` on a device of the list. -/
def reinit (s : Context) (p : Nat) (opening : Opening) : Context :=
  { s.write p (gpilotDeviceInit opening s.nextChannel (s.heap p)).2 with
    nextChannel := s.nextChannel + 1 }

def restartIrda (s : Context) (p : Nat) (opening : Opening) : Option Context :=
  (gpilotDeviceDeinit s p).bind fun s => monitorChannel (reinit s p opening) p

/-- `device_in` after `sync_device`: its result and the context. -/
def deviceInReturn (s : Context) (p connectError : Nat) (opening : Opening) :
    Option (Bool × Context) :=
  (syncDeviceReturn s p connectError).bind fun result =>
    (s.deref p).bind fun device =>
      if device.configured.type = PILOT_DEVICE_IRDA then
        (restartIrda s p opening).map fun s => (false, s)
      else some (result, s)

/-- `usb_device_added` after `sync_device`, whose result it does not look at. -/
def usbDeviceAddedReturn (s : Context) (p connectError : Nat) (visorNet : Bool) :
    Option Context :=
  (syncDeviceReturn s p connectError).bind fun _ =>
    if visorNet then some s else (s.deref p).map fun _ => setType s p PILOT_DEVICE_USB_VISOR

/-- The innermost callback goes on to its end; `opening` is how an IrDA port opens again. -/
def resume (d : GpilotDaemon) (opening : Opening) : Option GpilotDaemon :=
  match d.running with
  | [] => some d
  | .deviceIn source p connectError :: rest =>
    (deviceInReturn d.context p connectError opening).map fun (result, s) =>
      GpilotDaemon.returned ⟨s, rest⟩ source result
  | .networkDeviceIn source p connectError :: rest =>
    (syncDeviceReturn d.context p connectError).map fun result =>
      GpilotDaemon.returned ⟨d.context, rest⟩ source result
  | .deviceErr source p :: rest =>
    (removeDevice d.context p).map fun s => GpilotDaemon.returned ⟨s, rest⟩ source false
  | .usbDeviceAdded p connectError visorNet :: rest =>
    (usbDeviceAddedReturn d.context p connectError visorNet).map fun s => ⟨s, rest⟩

/-! ## Runs -/

/-- What the daemon is driven by. -/
inductive Event
  | pause (onOff : Bool)
  | rereadConfig (configured : List Configured)
  | ready (source : Nat) (line : Line)
  | usbDeviceAdded (visorNet : Option Bool) (line : Line)
  | resume (opening : Opening)

def GpilotDaemon.handle (d : GpilotDaemon) : Event → Option GpilotDaemon
  | .pause onOff => (gpilotDaemonPause d.context onOff).map fun s => { d with context := s }
  | .rereadConfig configured =>
    (gpilotDaemonRereadConfig d.context configured).map fun s => { d with context := s }
  | .ready source line => Devices.ready d source line
  | .usbDeviceAdded visorNet line => startUsb d visorNet line
  | .resume opening => Devices.resume d opening

/-- The daemon handles an event, unless a freed block was followed before. -/
def step (d : Option GpilotDaemon) (event : Event) : Option GpilotDaemon :=
  d.bind fun d => d.handle event

/-- The daemon when its main loop starts. -/
def start (configured : List Configured) : Option GpilotDaemon :=
  (gpilotDaemonInit configured).map fun s => ⟨s, []⟩

end GnomePilot.Daemon.Devices
