import GnomePilot.Lib.KeyFile
import Mathlib.Data.List.Basic

/-!
# The daemon's configuration

`gpilot_device_load` and `gpilot_pilot_init` read the devices and the pilots of the
key file `gpilotd`, each from a group of its own.
-/

namespace GnomePilot.Config

/-! ## Devices and pilots -/

def PILOT_DEVICE_SERIAL : Int32 := 0
def PILOT_DEVICE_USB_VISOR : Int32 := 1
def PILOT_DEVICE_IRDA : Int32 := 2
def PILOT_DEVICE_NETWORK : Int32 := 4
def PILOT_DEVICE_BLUETOOTH : Int32 := 5

/-- A `GPilotDevice` as far as it is configured.  The type is the number in the file. -/
structure GPilotDevice where
  name : Option String
  port : Option String
  speed : UInt32
  ip : Option String
  timeout : Int32
  type : Int32
  deriving DecidableEq, Repr

def gpilotDeviceNew : GPilotDevice := ⟨none, none, 0, none, 0, 0⟩

structure GPilotPilot where
  name : Option String
  passwd : Option String
  number : Nat
  pilotUsername : Option String
  pilotId : UInt32
  creation : UInt64
  romversion : UInt64
  pilotCharset : Option String
  basedir : Option String
  deriving DecidableEq, Repr

def gpilotPilotNew : GPilotPilot := ⟨none, none, 0, none, 0, 0, 0, none, none⟩

/-- What the process is run with; `random` is the number the capplet draws. -/
structure Environment where
  PILOT_CHARSET : Option String
  homeDir : String
  uid : UInt32
  random : UInt32

def GPILOT_DEFAULT_CHARSET : String := "CP1252"

/-- `get_default_pilot_charset`, and what `gpilot_pilot_init` falls back to. -/
def getDefaultPilotCharset (env : Environment) : String :=
  env.PILOT_CHARSET.getD GPILOT_DEFAULT_CHARSET

/-- A `gint` assigned to an `unsigned long`. -/
def ulongOfInt (n : Int32) : UInt64 := n.toInt64.toUInt64

/-- An `unsigned long` passed for a `gint`. -/
def intOfUlong (n : UInt64) : Int32 := n.toInt64.toInt32

@[simp] theorem intOfUlong_ulongOfInt (n : Int32) : intOfUlong (ulongOfInt n) = n := by
  simp [intOfUlong, ulongOfInt]

def deviceGroup (i : Nat) : String := "Device" ++ toString i

def pilotGroup (i : Nat) : String := "Pilot" ++ toString i

/-! ## The daemon's reader -/

def sharesSerialLoader (type : Int32) : Bool :=
  type = PILOT_DEVICE_SERIAL || type = PILOT_DEVICE_USB_VISOR || type = PILOT_DEVICE_IRDA

/-- `gpilot_device_load`; it returns 0 for every device. -/
def gpilotDeviceLoad (kf : KeyFile) (i : Nat) : GPilotDevice :=
  let iDevice := deviceGroup i
  let device := { gpilotDeviceNew with
    type := (kf.getInteger? iDevice "type").getD 0
    name := kf.getString iDevice "name"
    timeout := (kf.getInteger? iDevice "timeout").getD 3 }
  if sharesSerialLoader device.type then
    { device with
      port := kf.getString iDevice "device"
      speed := ((kf.getInteger? iDevice "speed").getD 57600).toUInt32 }
  else if device.type = PILOT_DEVICE_NETWORK then
    { device with ip := kf.getString iDevice "ip" }
  else
    -- nothing more for Bluetooth, and a warning for an unknown type
    device

def gpilotPilotInit (env : Environment) (kf : KeyFile) (i : Nat) : GPilotPilot :=
  let iPilot := pilotGroup i
  { name := kf.getString iPilot "name"
    pilotId := (kf.getInteger iPilot "pilotid").toUInt32
    pilotUsername := kf.getString iPilot "pilotusername"
    passwd := kf.getString iPilot "password"
    creation := ulongOfInt (kf.getInteger iPilot "creation")
    romversion := ulongOfInt (kf.getInteger iPilot "romversion")
    number := i
    basedir := kf.getString iPilot "basedir"
    pilotCharset := some ((kf.getString iPilot "charset").getD (getDefaultPilotCharset env)) }

/-- The turns of `for (i=0;i<n;i++)`. -/
def counted (n : Int32) : List Nat := List.range n.toInt.toNat

/-- The devices `get_devices` loads, before they are opened. -/
def getDevices (kf : KeyFile) : List GPilotDevice :=
  (counted (kf.getInteger "General" "num_devices")).map (gpilotDeviceLoad kf)

def getPilots (env : Environment) (kf : KeyFile) : List GPilotPilot :=
  (counted (kf.getInteger "General" "num_pilots")).map (gpilotPilotInit env kf)

theorem gpilotDeviceLoad_congr {kf kf' : KeyFile} {i : Nat}
    (h : kf.value (deviceGroup i) = kf'.value (deviceGroup i)) :
    gpilotDeviceLoad kf i = gpilotDeviceLoad kf' i := by
  simp only [gpilotDeviceLoad, KeyFile.getInteger?_congr h, KeyFile.getString_congr h]

theorem gpilotPilotInit_congr {env : Environment} {kf kf' : KeyFile} {i : Nat}
    (h : kf.value (pilotGroup i) = kf'.value (pilotGroup i)) :
    gpilotPilotInit env kf i = gpilotPilotInit env kf' i := by
  simp only [gpilotPilotInit, KeyFile.getInteger_congr h, KeyFile.getString_congr h]

end GnomePilot.Config
