import GnomePilot.Lib.Variant

/-!
# The daemon's signals

`dbus_notify_*` writes a signal's arguments with one format string, the client library's
`gnome_pilot_client_on_dbus_signal` reads them with another, chosen by the signal's
name.
-/

namespace GnomePilot.Daemon.Signals

open Variant

/-! ## What is notified -/

/-- A C string, its bytes before the terminating zero. -/
abbrev CString := ByteArray

structure PilotUser where
  userID : UInt64
  username : CString

structure SysInfo where
  romVersion : UInt64

structure CardInfo where
  romSize : UInt64
  ramSize : UInt64
  ramFree : UInt64
  name : CString
  manufacturer : CString
  creation : Int64

/-- A `GnomePilotConduit`: its name property, null when never set, and the database of a
standard conduit. -/
structure Conduit where
  name : Option CString
  isStandard : Bool
  dbName : Option CString

structure Signal where
  name : String
  format : String
  args : List Slot

def str (s : CString) : Slot := .pointer (some s)

def dbusNotifyPaused (onOff : Bool) : Signal :=
  ⟨"Paused", "(b)", [.word (if onOff then 1 else 0)]⟩

def dbusNotifyConnected (pilotId : CString) (userInfo : PilotUser) : Signal :=
  ⟨"Connected", "(sus)", [str pilotId, .word userInfo.userID.toUInt32, str userInfo.username]⟩

def dbusNotifyDisconnected (pilotId : CString) : Signal :=
  ⟨"Disconnected", "(s)", [str pilotId]⟩

/-- `cradle` and `handle` are the request's. -/
def dbusNotifyCompletion (cradle : Option CString) (handle : UInt32) : Signal :=
  let pilotName := cradle.getD "".toByteArray
  ⟨"RequestCompleted", "(su)", [str pilotName, .word handle]⟩

/-- The name converted to UTF-8 is overwritten by a copy of the name as it is. -/
def dbusNotifyUserinfo (userInfo : PilotUser) (cradle : Option CString) : Signal :=
  ⟨"UserInfoRequested", "(sus)",
    [.pointer cradle, .word userInfo.userID.toUInt32, str userInfo.username]⟩

def dbusNotifySysinfo (pilotId : CString) (sysinfo : SysInfo) (cardinfo : CardInfo) :
    Signal :=
  ⟨"SysInfoRequested", "(suuussuu)",
    [str pilotId,
      .word (cardinfo.romSize / 1024).toUInt32,
      .word (cardinfo.ramSize / 1024).toUInt32,
      .word (cardinfo.ramFree / 1024).toUInt32,
      str cardinfo.name,
      str cardinfo.manufacturer,
      .word cardinfo.creation.toUInt64.toUInt32,
      .word sysinfo.romVersion.toUInt32]⟩

/-- What `gettext` makes of the daemon's own texts. -/
abbrev Gettext := String → CString

def dbusNotifyConduitStart (gettext : Gettext) (pilotId : CString) (conduit : Conduit) :
    Signal :=
  let database := if conduit.isStandard then conduit.dbName else some (gettext "(unknown DB)")
  ⟨"ConduitStart", "(sss)", [str pilotId, .pointer conduit.name, .pointer database]⟩

def dbusNotifyConduitEnd (pilotId : CString) (conduit : Conduit) : Signal :=
  ⟨"ConduitEnd", "(ss)", [str pilotId, .pointer conduit.name]⟩

def dbusNotifyConduitProgress (pilotId : CString) (conduit : Conduit)
    (current total : UInt32) : Signal :=
  ⟨"ConduitProgress", "(ssuu)",
    [str pilotId, .pointer conduit.name, .word current, .word total]⟩

def dbusNotifyOverallProgress (pilotId : CString) (current total : UInt32) : Signal :=
  ⟨"OverallProgress", "(suu)", [str pilotId, .word current, .word total]⟩

/-- `IS_STR_SET (name) ? name : ""` -/
def setOrEmpty : Option CString → CString
  | some name => if name.size ≠ 0 then name else "".toByteArray
  | none => "".toByteArray

/-- `dbus_notify_message`; without a conduit the name is empty. -/
def dbusNotifyMessage (pilotId : CString) (conduit : Option Conduit) (msg : CString)
    (signalName : String) : Signal :=
  let name := conduit.elim (some "".toByteArray) Conduit.name
  ⟨signalName, "(sss)", [str pilotId, str (setOrEmpty name), str msg]⟩

def dbusNotifyConduitError (pilotId : CString) (conduit : Option Conduit)
    (message : CString) : Signal :=
  dbusNotifyMessage pilotId conduit message "ConduitError"

def dbusNotifyConduitMessage (pilotId : CString) (conduit : Option Conduit)
    (message : CString) : Signal :=
  dbusNotifyMessage pilotId conduit message "ConduitMessage"

def dbusNotifyDaemonMessage (pilotId : CString) (conduit : Option Conduit)
    (message : CString) : Signal :=
  dbusNotifyMessage pilotId conduit message "DaemonMessage"

def dbusNotifyDaemonError (pilotId : CString) (message : CString) : Signal :=
  dbusNotifyMessage pilotId none message "DaemonError"

/-- The calls of `dbus_notify_*` with their arguments. -/
inductive Notification where
  | paused (onOff : Bool)
  | connected (pilotId : CString) (userInfo : PilotUser)
  | disconnected (pilotId : CString)
  | completion (cradle : Option CString) (handle : UInt32)
  | userinfo (userInfo : PilotUser) (cradle : Option CString)
  | sysinfo (pilotId : CString) (sysinfo : SysInfo) (cardinfo : CardInfo)
  | conduitStart (pilotId : CString) (conduit : Conduit)
  | conduitEnd (pilotId : CString) (conduit : Conduit)
  | conduitProgress (pilotId : CString) (conduit : Conduit) (current total : UInt32)
  | overallProgress (pilotId : CString) (current total : UInt32)
  | conduitError (pilotId : CString) (conduit : Option Conduit) (message : CString)
  | conduitMessage (pilotId : CString) (conduit : Option Conduit) (message : CString)
  | daemonMessage (pilotId : CString) (conduit : Option Conduit) (message : CString)
  | daemonError (pilotId : CString) (message : CString)

def Notification.signal (gettext : Gettext) : Notification → Signal
  | .paused onOff => dbusNotifyPaused onOff
  | .connected pilotId userInfo => dbusNotifyConnected pilotId userInfo
  | .disconnected pilotId => dbusNotifyDisconnected pilotId
  | .completion cradle handle => dbusNotifyCompletion cradle handle
  | .userinfo userInfo cradle => dbusNotifyUserinfo userInfo cradle
  | .sysinfo pilotId info cardinfo => dbusNotifySysinfo pilotId info cardinfo
  | .conduitStart pilotId conduit => dbusNotifyConduitStart gettext pilotId conduit
  | .conduitEnd pilotId conduit => dbusNotifyConduitEnd pilotId conduit
  | .conduitProgress pilotId conduit current total =>
    dbusNotifyConduitProgress pilotId conduit current total
  | .overallProgress pilotId current total => dbusNotifyOverallProgress pilotId current total
  | .conduitError pilotId conduit message => dbusNotifyConduitError pilotId conduit message
  | .conduitMessage pilotId conduit message => dbusNotifyConduitMessage pilotId conduit message
  | .daemonMessage pilotId conduit message => dbusNotifyDaemonMessage pilotId conduit message
  | .daemonError pilotId message => dbusNotifyDaemonError pilotId message

/-! ## The client -/

/-- The functions `gnome_pilot_client_dbus_*` a signal is passed on to. -/
inductive Callback where
  | connect | disconnect | requestCompleted | userInfoRequested | systemInfoRequested
  | conduitStart | conduitEnd | overallProgress | conduitProgress
  | conduitMessage | daemonMessage | daemonError | conduitError | paused
  deriving DecidableEq, Repr

/-- The branch `gnome_pilot_client_on_dbus_signal` takes for a name, and the format it
reads the parameters with. -/
def branch (signalName : String) : Option (Callback × String) :=
  if signalName = "Connected" then some (.connect, "(&su&s)")
  else if signalName = "Disconnected" then some (.disconnect, "(&s)")
  else if signalName = "RequestCompleted" then some (.requestCompleted, "(&su)")
  else if signalName = "UserInfoRequested" then some (.userInfoRequested, "(&su&s)")
  else if signalName = "SysInfoRequested" then some (.systemInfoRequested, "(&siii&s&sii)")
  else if signalName = "ConduitStart" then some (.conduitStart, "(&s&s&s)")
  else if signalName = "ConduitEnd" then some (.conduitEnd, "(&s&s)")
  else if signalName = "OverallProgress" then some (.overallProgress, "(&suu)")
  else if signalName = "ConduitProgress" then some (.conduitProgress, "(&s&suu)")
  else if signalName = "ConduitMessage" then some (.conduitMessage, "(&s&s&s)")
  else if signalName = "DaemonMessage" then some (.daemonMessage, "(&s&s&s)")
  else if signalName = "DaemonError" then some (.daemonError, "(&s&s)")
  else if signalName = "ConduitError" then some (.conduitError, "(&s&s&s)")
  else if signalName = "Paused" then some (.paused, "(b)")
  else none

/-- `gnome_pilot_client_on_dbus_signal`: the function called and the values handed to it. -/
def onDbusSignal (signalName : String) (parameters : List Basic) :
    Option (Callback × List Slot) :=
  (branch signalName).bind fun b => (gVariantGet b.2 parameters).map (b.1, ·)

def expectedType (signalName : String) : Option String :=
  (branch signalName).bind fun b => (parseFormat b.2).map typeString

/-- The signal goes out with the type string the client expects, and the client's branch
for it reads the arguments it was made of. -/
def Signal.Decoded (repair : Option ByteArray → Option String) (sig : Signal) : Prop :=
  ∃ parameters, gVariantNew repair sig.format sig.args = some parameters ∧
    expectedType sig.name = some (typeString (parameters.map Basic.type)) ∧
    (onDbusSignal sig.name parameters).map Prod.snd = some sig.args

/-! ## When the two agree -/

/-- Only what the two formats name and what the components carry decides. -/
theorem Signal.decoded_iff {repair : Option ByteArray → Option String} {sig : Signal}
    {callback : Callback} {format : String} {ts us : List BasicType}
    (hbranch : branch sig.name = some (callback, format))
    (hwritten : parseFormat sig.format = some ts) (hread : parseFormat format = some us) :
    sig.Decoded repair ↔ ts = us ∧ List.Forall₂ BasicType.Carries ts sig.args := by
  rw [← @gVariantGet_new_iff repair _ _ _ _ hwritten hread, Option.bind_eq_some_iff]
  constructor
  · rintro ⟨parameters, hnew, -, hget⟩
    refine ⟨parameters, hnew, ?_⟩
    simpa [onDbusSignal, hbranch] using hget
  · rintro ⟨parameters, hnew, hget⟩
    have htypes : us = parameters.map Basic.type := by
      rw [gVariantGet, hread, Option.bind_some] at hget
      split_ifs at hget with htypes
      exact htypes.symm
    refine ⟨parameters, hnew, ?_, ?_⟩
    · simp [expectedType, hbranch, hread, htypes]
    · simp [onDbusSignal, hbranch, hget]

/-- The two signals the client reads with another type string than they have. -/
def Notification.isMisread : Notification → Bool
  | .sysinfo _ _ _ => true
  | .daemonError _ _ => true
  | _ => false

/-- The strings a notification is made of.  A message does without the conduit's name when
there is none. -/
def Notification.texts (gettext : Gettext) : Notification → List (Option CString)
  | .paused _ => []
  | .connected pilotId userInfo => [some pilotId, some userInfo.username]
  | .disconnected pilotId => [some pilotId]
  | .completion cradle _ => cradle.toList.map some
  | .userinfo userInfo cradle => [cradle, some userInfo.username]
  | .sysinfo pilotId _ cardinfo => [some pilotId, some cardinfo.name, some cardinfo.manufacturer]
  | .conduitStart pilotId conduit =>
    [some pilotId, conduit.name,
      if conduit.isStandard then conduit.dbName else some (gettext "(unknown DB)")]
  | .conduitEnd pilotId conduit => [some pilotId, conduit.name]
  | .conduitProgress pilotId conduit _ _ => [some pilotId, conduit.name]
  | .overallProgress pilotId _ _ => [some pilotId]
  | .conduitError pilotId conduit message
  | .conduitMessage pilotId conduit message
  | .daemonMessage pilotId conduit message =>
    [some pilotId, some message] ++ (conduit.bind Conduit.name).toList.map some
  | .daemonError pilotId message => [some pilotId, some message]

theorem isText_empty : IsText (some "".toByteArray) := "".isValidUTF8

theorem isText_setOrEmpty (name : Option CString) :
    IsText (some (setOrEmpty name)) ↔ ∀ s ∈ name, IsText (some s) := by
  cases name with
  | none => exact ⟨fun _ _ hs => (Option.not_mem_none _ hs).elim, fun _ => isText_empty⟩
  | some s =>
    have hsome : (∀ t ∈ some s, IsText (some t)) ↔ IsText (some s) := by simp
    rw [hsome, setOrEmpty]
    by_cases hs : s.size = 0
    · rw [if_neg (not_not.mpr hs), show s = "".toByteArray from ByteArray.size_eq_zero_iff.mp hs]
    · rw [if_pos hs]

theorem carries_message {pilotId msg : CString} {conduit : Option Conduit} {name : String} :
    List.Forall₂ BasicType.Carries [.string, .string, .string]
        (dbusNotifyMessage pilotId conduit msg name).args ↔
      ∀ t ∈ [some pilotId, some msg] ++ (conduit.bind Conduit.name).toList.map some,
        IsText t := by
  have hempty : IsText (some ByteArray.empty) := isText_empty
  cases conduit with
  | none => simp [dbusNotifyMessage, BasicType.Carries, str, isText_setOrEmpty, hempty]
  | some c =>
    cases hc : c.name <;>
      simp [dbusNotifyMessage, BasicType.Carries, str, isText_setOrEmpty, hc, and_comm]

theorem message_decoded_iff {repair : Option ByteArray → Option String} {name : String}
    {callback : Callback} (hbranch : branch name = some (callback, "(&s&s&s)"))
    {pilotId msg : CString} {conduit : Option Conduit} :
    (dbusNotifyMessage pilotId conduit msg name).Decoded repair ↔
      ∀ t ∈ [some pilotId, some msg] ++ (conduit.bind Conduit.name).toList.map some,
        IsText t := by
  have hwritten : parseFormat "(sss)" = some [.string, .string, .string] := by decide
  have hread : parseFormat "(&s&s&s)" = some [.string, .string, .string] := by decide
  rw [Signal.decoded_iff hbranch hwritten hread, carries_message]
  exact and_iff_right rfl

/-- Five integers of `SysInfoRequested` leave unsigned and are read signed; `DaemonError`
takes an empty conduit name along, and two strings are read. -/
theorem not_decoded_of_isMisread {repair : Option ByteArray → Option String}
    {gettext : Gettext} {n : Notification} (h : n.isMisread = true) :
    ¬(n.signal gettext).Decoded repair := by
  cases n with
  | sysinfo pilotId info cardinfo =>
    have hwritten : parseFormat "(suuussuu)" = some [.string, .uint32, .uint32, .uint32,
      .string, .string, .uint32, .uint32] := by decide
    have hread : parseFormat "(&siii&s&sii)" = some [.string, .int32, .int32, .int32,
      .string, .string, .int32, .int32] := by decide
    intro hdecoded
    have htypes := ((Signal.decoded_iff rfl hwritten hread).mp hdecoded).1
    exact absurd htypes (by decide)
  | daemonError pilotId message =>
    have hwritten : parseFormat "(sss)" = some [.string, .string, .string] := by decide
    have hread : parseFormat "(&s&s)" = some [.string, .string] := by decide
    intro hdecoded
    have htypes := ((Signal.decoded_iff rfl hwritten hread).mp hdecoded).1
    exact absurd htypes (by decide)
  | _ => cases h

/-- A signal is decoded into what it was made of exactly when it is neither
`SysInfoRequested` nor `DaemonError` and all of its strings are UTF-8. -/
theorem signal_decoded_iff (repair : Option ByteArray → Option String) (gettext : Gettext)
    (n : Notification) :
    (n.signal gettext).Decoded repair ↔
      n.isMisread = false ∧ ∀ t ∈ n.texts gettext, IsText t := by
  have hs : parseFormat "(s)" = some [.string] := by decide
  have hs' : parseFormat "(&s)" = some [.string] := by decide
  have hss : parseFormat "(ss)" = some [.string, .string] := by decide
  have hss' : parseFormat "(&s&s)" = some [.string, .string] := by decide
  have hsss : parseFormat "(sss)" = some [.string, .string, .string] := by decide
  have hsss' : parseFormat "(&s&s&s)" = some [.string, .string, .string] := by decide
  have hsu : parseFormat "(su)" = some [.string, .uint32] := by decide
  have hsu' : parseFormat "(&su)" = some [.string, .uint32] := by decide
  have hsus : parseFormat "(sus)" = some [.string, .uint32, .string] := by decide
  have hsus' : parseFormat "(&su&s)" = some [.string, .uint32, .string] := by decide
  have hsuu : parseFormat "(suu)" = some [.string, .uint32, .uint32] := by decide
  have hsuu' : parseFormat "(&suu)" = some [.string, .uint32, .uint32] := by decide
  have hssuu : parseFormat "(ssuu)" = some [.string, .string, .uint32, .uint32] := by decide
  have hssuu' : parseFormat "(&s&suu)" = some [.string, .string, .uint32, .uint32] := by decide
  cases n with
  | paused onOff =>
    have hb : parseFormat "(b)" = some [.boolean] := by decide
    refine (Signal.decoded_iff rfl hb hb).trans ?_
    cases onOff <;> simp [Notification.signal, Notification.isMisread, Notification.texts,
      dbusNotifyPaused, BasicType.Carries]
  | connected pilotId userInfo =>
    refine (Signal.decoded_iff rfl hsus hsus').trans ?_
    simp [Notification.signal, Notification.isMisread, Notification.texts,
      dbusNotifyConnected, BasicType.Carries, str]
  | disconnected pilotId =>
    refine (Signal.decoded_iff rfl hs hs').trans ?_
    simp [Notification.signal, Notification.isMisread, Notification.texts,
      dbusNotifyDisconnected, BasicType.Carries, str]
  | completion cradle handle =>
    refine (Signal.decoded_iff rfl hsu hsu').trans ?_
    have hempty : IsText (some ByteArray.empty) := isText_empty
    cases cradle <;> simp [Notification.signal, Notification.isMisread, Notification.texts,
      dbusNotifyCompletion, BasicType.Carries, str, hempty]
  | userinfo userInfo cradle =>
    refine (Signal.decoded_iff rfl hsus hsus').trans ?_
    simp [Notification.signal, Notification.isMisread, Notification.texts,
      dbusNotifyUserinfo, BasicType.Carries, str]
  | sysinfo pilotId info cardinfo =>
    exact iff_of_false (not_decoded_of_isMisread rfl) fun h => Bool.noConfusion h.1
  | conduitStart pilotId conduit =>
    refine (Signal.decoded_iff rfl hsss hsss').trans ?_
    simp [Notification.signal, Notification.isMisread, Notification.texts,
      dbusNotifyConduitStart, BasicType.Carries, str]
  | conduitEnd pilotId conduit =>
    refine (Signal.decoded_iff rfl hss hss').trans ?_
    simp [Notification.signal, Notification.isMisread, Notification.texts,
      dbusNotifyConduitEnd, BasicType.Carries, str]
  | conduitProgress pilotId conduit current total =>
    refine (Signal.decoded_iff rfl hssuu hssuu').trans ?_
    simp [Notification.signal, Notification.isMisread, Notification.texts,
      dbusNotifyConduitProgress, BasicType.Carries, str]
  | overallProgress pilotId current total =>
    refine (Signal.decoded_iff rfl hsuu hsuu').trans ?_
    simp [Notification.signal, Notification.isMisread, Notification.texts,
      dbusNotifyOverallProgress, BasicType.Carries, str]
  | conduitError pilotId conduit message =>
    exact (message_decoded_iff rfl).trans (and_iff_right rfl).symm
  | conduitMessage pilotId conduit message =>
    exact (message_decoded_iff rfl).trans (and_iff_right rfl).symm
  | daemonMessage pilotId conduit message =>
    exact (message_decoded_iff rfl).trans (and_iff_right rfl).symm
  | daemonError pilotId message =>
    exact iff_of_false (not_decoded_of_isMisread rfl) fun h => Bool.noConfusion h.1

/-- A pilot's answer about itself, and a fault reported by the daemon. -/
theorem sysInfo_and_daemonError_misread :
    (¬((Notification.sysinfo "MyPilot".toByteArray ⟨0x03503000⟩
        ⟨4194304, 8388608, 1048576, "PalmCard".toByteArray, "Palm".toByteArray, 0⟩).signal
          String.toByteArray).Decoded fun _ => none) ∧
      ¬((Notification.daemonError "MyPilot".toByteArray "No response".toByteArray).signal
          String.toByteArray).Decoded fun _ => none :=
  ⟨not_decoded_of_isMisread rfl, not_decoded_of_isMisread rfl⟩

end GnomePilot.Daemon.Signals
