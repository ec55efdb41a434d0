import GnomePilot.Daemon.Config

/-!
# The capplet's state

`loadPilotState` reads the daemon's key file on its own, `savePilotState` writes it
back, and `dupPilotState` copies a state field by field.
-/

namespace GnomePilot.Capplet

open Config

/-- `PilotState` without the conduits, which are kept in files of their own. -/
structure PilotState where
  syncPCid : UInt32
  progress_stepping : Int32
  pilots : List GPilotPilot
  devices : List GPilotDevice
  deriving DecidableEq, Repr

def newPilotState : PilotState := ⟨0, 0, [], []⟩

/-! ## Copying -/

/-- `copy_device` makes the new device of these fields only. -/
def copyDevice (device : GPilotDevice) (dest : PilotState) : PilotState :=
  let device2 := { gpilotDeviceNew with
    name := device.name
    port := device.port
    speed := device.speed
    type := device.type
    timeout := device.timeout }
  { dest with devices := dest.devices ++ [device2] }

def copyPilot (pilot : GPilotPilot) (dest : PilotState) : PilotState :=
  let pilot2 := { gpilotPilotNew with
    name := pilot.name
    passwd := pilot.passwd
    pilotUsername := pilot.pilotUsername
    pilotId := pilot.pilotId
    creation := pilot.creation
    romversion := pilot.romversion
    basedir := pilot.basedir
    pilotCharset := pilot.pilotCharset }
  { dest with pilots := dest.pilots ++ [pilot2] }

def copyPilotState (dest src : PilotState) : PilotState :=
  let dest := { dest with
    syncPCid := src.syncPCid
    progress_stepping := src.progress_stepping }
  let dest := src.pilots.foldl (fun dest pilot => copyPilot pilot dest) dest
  src.devices.foldl (fun dest device => copyDevice device dest) dest

def dupPilotState (src : PilotState) : PilotState := copyPilotState newPilotState src

/-! ## Loading -/

def loadHostID (env : Environment) (kf : KeyFile) (p : PilotState) : PilotState :=
  let id := (kf.getInteger? "General" "sync_PC_Id").getD 0
  { p with
    syncPCid := if id = 0 then env.random else id.toUInt32
    progress_stepping := (kf.getInteger? "General" "progress_stepping").getD 5 }

/-- A turn of the loop of `loadDeviceCfg`. -/
def loadDevice (kf : KeyFile) (i : Nat) : GPilotDevice :=
  let iDevice := deviceGroup i
  let device := { gpilotDeviceNew with
    type := (kf.getInteger? iDevice "type").getD 0
    name := some ((kf.getString iDevice "name").getD ("Cradle" ++ toString i)) }
  let device :=
    if device.type = PILOT_DEVICE_NETWORK then
      { device with ip := kf.getString iDevice "ip" }
    else if device.type = PILOT_DEVICE_BLUETOOTH then device
    else
      { device with
        port := kf.getString iDevice "device"
        speed := ((kf.getInteger? iDevice "speed").getD 9600).toUInt32 }
  { device with timeout := (kf.getInteger? iDevice "timeout").getD 2 }

def loadDeviceCfg (kf : KeyFile) (p : PilotState) : PilotState :=
  let num := kf.getInteger "General" "num_devices"
  if num = 0 then { p with devices := [] }
  else { p with devices := p.devices ++ (counted num).map (loadDevice kf) }

/-- A turn of the loop of `loadPilotPilot`.  The charset is read and then dropped. -/
def loadPilot (env : Environment) (kf : KeyFile) (i : Nat) : GPilotPilot :=
  let iPilot := pilotGroup i
  let name := (kf.getString iPilot "name").getD "MyPilot"
  { gpilotPilotNew with
    name := some name
    pilotId := ((kf.getInteger? iPilot "pilotid").map Int32.toUInt32).getD env.uid
    pilotUsername := kf.getString iPilot "pilotusername"
    creation := ulongOfInt (kf.getInteger iPilot "creation")
    romversion := ulongOfInt (kf.getInteger iPilot "romversion")
    basedir := some ((kf.getString iPilot "basedir").getD (env.homeDir ++ "/" ++ name))
    pilotCharset := none
    number := i }

def loadPilotPilot (env : Environment) (kf : KeyFile) (p : PilotState) : PilotState :=
  let num := kf.getInteger "General" "num_pilots"
  if num = 0 then { p with pilots := [] }
  else { p with pilots := p.pilots ++ (counted num).map (loadPilot env kf) }

def loadPilotState (env : Environment) (kf : KeyFile) : PilotState :=
  loadDeviceCfg kf (loadPilotPilot env kf (loadHostID env kf newPilotState))

/-! ## Saving -/

/-- A turn of the loop over the devices of `savePilotState`. -/
def saveDevice (kf : KeyFile) (i : Nat) (device : GPilotDevice) : KeyFile :=
  let iDevice := deviceGroup i
  let kf := kf.removeGroup (some iDevice)
  let kf := kf.setInteger iDevice "type" device.type
  let kf := kf.setString iDevice "name" device.name
  let kf :=
    if device.type = PILOT_DEVICE_NETWORK then kf.setString iDevice "ip" device.ip
    else if device.type = PILOT_DEVICE_BLUETOOTH then kf
    else
      (kf.setString iDevice "device" device.port).setInteger iDevice "speed"
        device.speed.toInt32
  kf.setInteger iDevice "timeout" device.timeout

def savePilot (kf : KeyFile) (i : Nat) (pilot : GPilotPilot) : KeyFile :=
  let iPilot := pilotGroup i
  let kf := kf.removeGroup (some iPilot)
  let kf := kf.setString iPilot "name" pilot.name
  let kf := kf.setInteger iPilot "pilotid" pilot.pilotId.toInt32
  let kf := kf.setInteger iPilot "creation" (intOfUlong pilot.creation)
  let kf := kf.setInteger iPilot "romversion" (intOfUlong pilot.romversion)
  let kf := kf.setString iPilot "pilotusername" pilot.pilotUsername
  let kf := kf.setString iPilot "basedir" pilot.basedir
  kf.setString iPilot "charset" pilot.pilotCharset

def saveEach {β : Type} (save : KeyFile → Nat → β → KeyFile) : Nat → List β → KeyFile → KeyFile
  | _, [], kf => kf
  | i, x :: xs, kf => saveEach save (i + 1) xs (save kf i x)

/-- `if (i>0) g_key_file_set_integer (kfile, "General", key, i)` -/
def saveCount (key : String) (i : Nat) (kf : KeyFile) : KeyFile :=
  if 0 < i then kf.setInteger "General" key (Int32.ofNat i) else kf

/-- `savePilotState`, which starts from the file as it is. -/
def savePilotState (kf : KeyFile) (state : PilotState) : KeyFile :=
  let kf := kf.removeGroup (some "General")
  let kf := kf.setInteger "General" "sync_PC_Id" state.syncPCid.toInt32
  let kf := kf.setInteger "General" "progress_stepping" state.progress_stepping
  let kf := saveEach saveDevice 0 state.devices kf
  let kf := saveCount "num_devices" state.devices.length kf
  let kf := saveEach savePilot 0 state.pilots kf
  saveCount "num_pilots" state.pilots.length kf

end GnomePilot.Capplet
