import GnomePilot.Desktop.Todo

/-!
# Appointments and components

`comp_from_remote_record` and `local_record_from_comp` of the calendar conduit, with the
rules for repeats, the exceptions and the alarm; and what `compare` sees of an appointment.
-/

namespace GnomePilot.Datebook

open Category (CategoryAppInfo Slot)
open Todo (ComponentDateTime Classification)

/-! ## Records -/

/-- `enum repeatTypes` -/
inductive RepeatType where
  | repeatNone
  | repeatDaily
  | repeatWeekly
  | repeatMonthlyByDay
  | repeatMonthlyByDate
  | repeatYearly
  deriving DecidableEq, Repr

/-- `enum alarmTypes` -/
inductive AdvanceUnits where
  | advMinutes
  | advHours
  | advDays
  deriving DecidableEq, Repr

/-- `struct Appointment` -/
structure Appointment where
  event : Bool
  beginTime : Tm
  endTime : Tm
  alarm : Bool
  advance : Nat
  advanceUnits : AdvanceUnits
  repeatType : RepeatType
  repeatForever : Bool
  repeatEnd : Tm
  repeatFrequency : Int
  repeatDay : Int
  repeatDays : Fin 7 → Bool
  repeatWeekstart : Int
  exceptions : List Tm
  description : Option CString
  note : Option CString

def Tm.zero : Tm := ⟨0, 0, 0, 0, 0, 0⟩

/-- `g_new0` -/
def Appointment.zero : Appointment where
  event := false
  beginTime := Tm.zero
  endTime := Tm.zero
  alarm := false
  advance := 0
  advanceUnits := .advMinutes
  repeatType := .repeatNone
  repeatForever := false
  repeatEnd := Tm.zero
  repeatFrequency := 0
  repeatDay := 0
  repeatDays _ := false
  repeatWeekstart := 0
  exceptions := []
  description := none
  note := none

/-- What a record has of an appointment that is repeated. -/
@[ext] structure RepeatContent where
  repeatType : RepeatType
  repeatEnd : Option (Int × Int × Int)
  repeatFrequency : Int
  repeatDay : Int
  repeatDays : Fin 7 → Bool
  repeatWeekstart : Int
  deriving DecidableEq

/-- What a record has of an appointment: the times only of one that is no event, the advance
only of one with an alarm. -/
@[ext] structure Content where
  date : Int × Int × Int
  times : Option ((Int × Int) × (Int × Int))
  alarm : Option (Nat × AdvanceUnits)
  repeats : Option RepeatContent
  exceptions : List (Int × Int × Int)
  description : Option CString
  note : Option CString
  deriving DecidableEq

def Appointment.content (appt : Appointment) : Content where
  date := appt.beginTime.date
  times :=
    if appt.event then none
    else some ((appt.beginTime.hour, appt.beginTime.min), (appt.endTime.hour, appt.endTime.min))
  alarm := if appt.alarm then some (appt.advance, appt.advanceUnits) else none
  repeats :=
    if appt.repeatType = .repeatNone then none
    else
      some {
        repeatType := appt.repeatType
        repeatEnd := if appt.repeatForever then none else some appt.repeatEnd.date
        repeatFrequency := appt.repeatFrequency
        repeatDay := if appt.repeatType = .repeatMonthlyByDay then appt.repeatDay else 0
        repeatDays := fun i => appt.repeatType = .repeatWeekly && appt.repeatDays i
        repeatWeekstart := appt.repeatWeekstart }
  exceptions := appt.exceptions.map Tm.date
  description := appt.description
  note := appt.note

/-- `pack_Appointment`; `β` stands for the bytes of a record. -/
structure Packing (β : Type) where
  packAppointment : Appointment → β
  pack_eq_iff : ∀ a b, packAppointment a = packAppointment b ↔ a.content = b.content

/-- A record of the pilot, unpacked. -/
structure RemoteAppointment where
  appt : Appointment
  category : Slot
  secret : Bool

/-- `compare` of the bytes of both records -/
def compare {β : Type} [DecidableEq β] (localPilot remote : β) : Int :=
  if localPilot ≠ remote then 1 else 0

/-! ## Components -/

/-- `icalrecurrencetype_frequency` -/
inductive Frequency where
  | secondlyRecurrence
  | minutelyRecurrence
  | hourlyRecurrence
  | dailyRecurrence
  | weeklyRecurrence
  | monthlyRecurrence
  | yearlyRecurrence
  | noRecurrence
  deriving DecidableEq, Repr

/-- `struct icalrecurrencetype`; of its arrays what stands before
`ICAL_RECURRENCE_ARRAY_MAX`. -/
structure Recurrence where
  freq : Frequency
  untilTime : ICalTime
  count : Int
  interval : Int
  byDay : List Int
  byMonthDay : List Int
  bySetPos : List Int
  weekStart : Int
  deriving DecidableEq, Repr

/-- `ICAL_RECURRENCE_ARRAY_MAX` -/
def recurrenceArrayMax : Int := 0x7f7f

/-- `ICalDuration` -/
structure Duration where
  isNeg : Bool
  weeks : Nat
  days : Nat
  hours : Nat
  minutes : Nat
  seconds : Nat
  deriving DecidableEq, Repr

/-- `ECalComponentAlarmTrigger` -/
inductive Trigger where
  | relativeStart (duration : Option Duration)
  | other
  deriving DecidableEq, Repr

structure Alarm where
  trigger : Option Trigger
  deriving DecidableEq, Repr

/-- The properties of an `ECalComponent` that the conduit writes and reads. -/
structure CalComponent where
  summary : Option CString
  descriptions : List (Option CString)
  categories : List CString
  dtstart : Option ComponentDateTime
  dtend : Option ComponentDateTime
  isInstance : Bool
  rrules : List Recurrence
  exdates : List ComponentDateTime
  alarms : List Alarm
  classification : Classification

/-- `e_cal_component_new` -/
def CalComponent.new : CalComponent :=
  ⟨none, [], [], none, none, false, [], [], [], .classNone⟩

/-! ## Weekdays -/

/-- `get_ical_day`: the weekdays of libical count from 1, a Sunday. -/
def getIcalDay (day : Int) : Int := if 0 ≤ day ∧ day ≤ 6 then day + 1 else 0

def getPilotDay (wd : Int) : Int := if 1 ≤ wd ∧ wd ≤ 7 then wd - 1 else -1

def nthWeekday (pos weekday : Int) : Int :=
  ((pos.natAbs : Int) * 8 + weekday) * (if pos < 0 then -1 else 1)

/-- What the conduit also uses of libical and of the calendar: the parts of a day in a rule,
the time of the last instance of a component, and the date of a time. -/
structure CalLibrary (ζ : Type) extends ICalLibrary ζ where
  dayOfWeek : Int → Int
  dayPosition : Int → Int
  lastInstance : CalComponent → ζ → Int
  dateFromTimet : Int → ζ → ICalTime
  dayOfWeek_nth : ∀ pos wd, pos.natAbs ≤ 5 → 1 ≤ wd → wd ≤ 7 → dayOfWeek (nthWeekday pos wd) = wd
  dayPosition_nth : ∀ pos wd, pos.natAbs ≤ 5 → 1 ≤ wd → wd ≤ 7 →
    dayPosition (nthWeekday pos wd) = pos

section Convert

variable {ζ : Type} (lib : CalLibrary ζ) (charset : Charset)

/-! ## A record as a component -/

/-- The start and the end; a time that is empty leaves the component's. -/
def writeTimes (timezone : ζ) (appt : Appointment) (comp : CalComponent) : CalComponent :=
  if appt.event && !isEmptyTime appt.beginTime then
    let edt : ComponentDateTime := ⟨tmToIcaltimetype appt.beginTime true, none⟩
    { comp with dtstart := some edt, dtend := some edt }
  else
    let tzid := lib.getTzid timezone
    { comp with
      dtstart :=
        if !isEmptyTime appt.beginTime then some ⟨tmToIcaltimetype appt.beginTime false, tzid⟩
        else comp.dtstart
      dtend :=
        if !isEmptyTime appt.endTime then some ⟨tmToIcaltimetype appt.endTime false, tzid⟩
        else comp.dtend }

/-- `icalrecurrencetype_clear` -/
def clearedRecurrence : Recurrence := ⟨.noRecurrence, icaltimeNullTime, 0, 1, [], [], [], 2⟩

def weeklyDays (repeatDays : Fin 7 → Bool) : List Int :=
  ((List.finRange 7).filter repeatDays).map fun i : Fin 7 => getIcalDay (i : Int)

/-- The day of a monthly rule: the last ones from `domLastSun` on. -/
def monthlyDay (repeatDay : Int) : Int :=
  if repeatDay < 28 then nthWeekday (repeatDay / 7 + 1) (getIcalDay (repeatDay % 7))
  else nthWeekday (-1) (getIcalDay (repeatDay % 7))

def recurrenceByType (appt : Appointment) : Option Recurrence :=
  let recur := { clearedRecurrence with interval := appt.repeatFrequency }
  match appt.repeatType with
  | .repeatNone => none
  | .repeatDaily => some { recur with freq := .dailyRecurrence }
  | .repeatWeekly =>
      some { recur with freq := .weeklyRecurrence, byDay := weeklyDays appt.repeatDays }
  | .repeatMonthlyByDay =>
      some { recur with freq := .monthlyRecurrence, byDay := [monthlyDay appt.repeatDay] }
  | .repeatMonthlyByDate =>
      some { recur with freq := .monthlyRecurrence, byMonthDay := [appt.beginTime.mday] }
  | .repeatYearly => some { recur with freq := .yearlyRecurrence }

def recurrenceOf (appt : Appointment) : Option Recurrence :=
  (recurrenceByType appt).map fun recur =>
    { recur with
      weekStart := getIcalDay appt.repeatWeekstart
      untilTime :=
        if appt.repeatForever then recur.untilTime else tmToIcaltimetype appt.repeatEnd true }

def rrulesMostlyEqual (a b : Recurrence) : Bool :=
  { a with untilTime := icaltimeNullTime, count := 0 } =
    { b with untilTime := icaltimeNullTime, count := 0 }

/-- If the desktop uses a count and the rules are equivalent, the desktop keeps the count:
the rule of `in_comp` whose count is kept. -/
def keptCount (timezone : ζ) (appt : Appointment) (recur : Recurrence) (comp : CalComponent)
    (inComp : Option CalComponent) : Option Recurrence :=
  inComp.bind fun old =>
    old.rrules.head?.filter fun erecur =>
      !appt.repeatForever && rrulesMostlyEqual recur erecur &&
        icaltimeIsNullTime erecur.untilTime && 0 < erecur.count &&
        lib.lastInstance comp timezone = lib.lastInstance old timezone

def writeRules (timezone : ζ) (appt : Appointment) (inComp : Option CalComponent)
    (comp : CalComponent) : CalComponent :=
  match recurrenceOf appt with
  | none => { comp with rrules := [] }
  | some recur =>
      let comp := { comp with rrules := [recur] }
      match keptCount lib timezone appt recur comp inComp with
      | none => comp
      | some erecur =>
          { comp with
            rrules := [{ recur with untilTime := icaltimeNullTime, count := erecur.count }] }

def Alarm.isBefore (alarm : Alarm) : Bool :=
  match alarm.trigger with
  | some (.relativeStart (some duration)) => duration.isNeg
  | _ => false

def durationOf (advance : Nat) : AdvanceUnits → Duration
  | .advMinutes => ⟨true, 0, 0, 0, advance, 0⟩
  | .advHours => ⟨true, 0, 0, advance, 0, 0⟩
  | .advDays => ⟨true, 0, advance, 0, 0, 0⟩

/-- An alarm before the start is found; but `e_cal_component_get_alarm` gives a copy, whose new
trigger is not put back. -/
def writeAlarm (appt : Appointment) (alarms : List Alarm) : List Alarm :=
  if appt.alarm then
    if alarms.any Alarm.isBefore then alarms
    else
      alarms ++ [⟨some (.relativeStart (some (durationOf appt.advance appt.advanceUnits)))⟩]
  else alarms

def startedComp (timezone : ζ) (ai : CategoryAppInfo) (remote : RemoteAppointment)
    (inComp : Option CalComponent) : CalComponent :=
  let base := inComp.getD CalComponent.new
  writeTimes lib timezone remote.appt { base with
    summary := remote.appt.description.map charset.utf8FromPchar
    categories := Category.Shared.ePilotRemoteCategoryToLocal charset remote.category
      base.categories ai
    descriptions := (remote.appt.note.map fun note => some (charset.utf8FromPchar note)).toList }

def compFromRemoteRecord (timezone : ζ) (ai : CategoryAppInfo) (remote : RemoteAppointment)
    (inComp : Option CalComponent) : CalComponent :=
  let comp := writeRules lib timezone remote.appt inComp
    (startedComp lib charset timezone ai remote inComp)
  -- Every exception is put before those that were made already.
  { comp with
    exdates := remote.appt.exceptions.foldl (fun edl ex => ⟨tmToIcaltimetype ex true, none⟩ :: edl)
      []
    alarms := writeAlarm remote.appt comp.alarms
    classification := if remote.secret then .classPrivate else .classPublic }

/-! ## A component as a record -/

def isAllDay (dtStart dtEnd : ComponentDateTime) : Bool :=
  (dtStart.value.isDate && dtEnd.value.isDate) ||
    lib.asTimet dtEnd.value (lib.getTimezone dtEnd.tzid) =
      lib.timeAddDay (lib.asTimet dtStart.value (lib.getTimezone dtStart.tzid))
        (lib.getTimezone dtStart.tzid)

/-- `icaltimezone_convert_time` of a time of the component, in place: the zone stays. -/
def convertInPlace (defaultTz : ζ) (dt : ComponentDateTime) : ComponentDateTime :=
  { dt with value := lib.convertTime dt.value (lib.getTimezone dt.tzid) defaultTz }

def readTimes (defaultTz : ζ) (comp : CalComponent) (appt : Appointment) : Appointment :=
  let toTm (dt : ComponentDateTime) := icaltimetypeToTm lib.toICalLibrary dt.value
  let dtstart := comp.dtstart.map (convertInPlace lib defaultTz)
  let appt := { appt with beginTime := (dtstart.map toTm).getD appt.beginTime }
  match dtstart, comp.dtend with
  | some dtStart, some dtEnd =>
      if isAllDay lib dtStart dtEnd then { appt with event := true }
      else { appt with endTime := toTm (convertInPlace lib defaultTz dtEnd), event := false }
  | _, _ => { appt with event := true }

/-- `repeatDays[day] = 1` -/
def setDay (repeatDays : Fin 7 → Bool) (day : Int) (i : Fin 7) : Bool :=
  if (i : Int) = day then true else repeatDays i

def repeatDayOfPosition (pos : Int) : Int :=
  if pos = 1 then 0
  else if pos = 2 then 7
  else if pos = 3 then 14
  else if pos = 4 then 21
  else if pos = -1 ∨ pos = 5 then 28
  else 0

def readFrequency (recur : Recurrence) (appt : Appointment) : Appointment :=
  match recur.freq with
  | .dailyRecurrence => { appt with repeatType := .repeatDaily }
  | .weeklyRecurrence =>
      { appt with
        repeatType := .repeatWeekly
        repeatDays := (recur.byDay.take 8).foldl
          (fun days day => setDay days (getPilotDay (lib.dayOfWeek day))) appt.repeatDays }
  | .monthlyRecurrence =>
      if recur.byMonthDay ≠ [] then { appt with repeatType := .repeatMonthlyByDate }
      else
        let day := recur.byDay.headD recurrenceArrayMax
        { appt with
          repeatType := .repeatMonthlyByDay
          repeatDay := repeatDayOfPosition (recur.bySetPos.headD (lib.dayPosition day)) +
            getPilotDay (lib.dayOfWeek day) }
  | .yearlyRecurrence => { appt with repeatType := .repeatYearly }
  | _ => appt

/-- The end of a rule; the pilot does not support a count. -/
def readUntil (defaultTz : ζ) (comp : CalComponent) (recur : Recurrence) (appt : Appointment) :
    Appointment :=
  if !icaltimeIsNullTime recur.untilTime then
    { appt with
      repeatForever := false
      repeatEnd := icaltimetypeToTm lib.toICalLibrary
        (lib.convertTime recur.untilTime lib.utcTimezone defaultTz) }
  else if 0 < recur.count then
    { appt with
      repeatForever := false
      repeatEnd := icaltimetypeToTm lib.toICalLibrary
        (lib.dateFromTimet (lib.lastInstance comp defaultTz) defaultTz) }
  else { appt with repeatForever := true }

def readRules (defaultTz : ζ) (comp : CalComponent) (appt : Appointment) : Appointment :=
  match comp.rrules with
  | [] => appt
  | recur :: _ =>
      let appt := readFrequency lib recur appt
      let appt :=
        if appt.repeatType ≠ .repeatNone then { appt with repeatFrequency := recur.interval }
        else appt
      readUntil lib defaultTz comp recur appt

def readExceptions (defaultTz : ζ) (comp : CalComponent) (appt : Appointment) : Appointment :=
  { appt with
    exceptions := comp.exdates.map fun dt =>
      icaltimetypeToTm lib.toICalLibrary (lib.convertTime dt.value lib.utcTimezone defaultTz) }

def readRepeats (defaultTz : ζ) (comp : CalComponent) (appt : Appointment) : Appointment :=
  let appt := { appt with repeatType := .repeatNone }
  if comp.isInstance then appt
  else readExceptions lib defaultTz comp (readRules lib defaultTz comp appt)

def advanceOfDuration (d : Duration) : Nat × AdvanceUnits :=
  let minutes := d.minutes + d.hours * 60 + d.days * 60 * 24 + d.weeks * 7 * 60 * 24
  let hours := d.minutes / 60 + d.hours + d.days * 24 + d.weeks * 7 * 24
  let days := d.minutes / (60 * 24) + d.hours / 24 + d.days + d.weeks * 7
  if minutes ≤ 99 then (minutes, .advMinutes)
  else if hours ≤ 99 then (hours, .advHours)
  else (min days 99, .advDays)

/-- `i_cal_duration_as_int` -/
def Duration.asInt (d : Duration) : Int :=
  (if d.isNeg then -1 else 1) *
    (d.seconds + 60 * (d.minutes + 60 * (d.hours + 24 * (d.days + 7 * d.weeks))) : Nat)

def Alarm.advance (alarm : Alarm) : Option (Nat × AdvanceUnits) :=
  match alarm.trigger with
  | some (.relativeStart (some duration)) =>
      if duration.isNeg then some (advanceOfDuration duration)
      else if duration.asInt = 0 then some (0, .advMinutes)
      else none
  | _ => none

def readAlarm (alarms : List Alarm) : Option (Nat × AdvanceUnits) := alarms.findSome? Alarm.advance

/-- What is kept of the record that the pilot has, if it has one. -/
def unsynced : Option Appointment → Appointment
  | none => Appointment.zero
  | some appt =>
      { Appointment.zero with
        alarm := appt.alarm
        advance := appt.advance
        advanceUnits := appt.advanceUnits }

def setAlarm (alarms : List Alarm) (appt : Appointment) : Appointment :=
  match readAlarm alarms with
  | some (advance, units) =>
      { appt with alarm := true, advance := advance, advanceUnits := units }
  | none => { appt with alarm := false }

def setTexts (comp : CalComponent) (appt : Appointment) : Appointment :=
  { appt with
    description := comp.summary.map charset.utf8ToPchar
    note := comp.descriptions.head?.join.map charset.utf8ToPchar }

/-- `local_record_from_comp`, where `dlp_ReadRecordById` has found the record `previous`, and
the categories afterwards. -/
def localRecordFromComp (defaultTz : ζ) (ai : CategoryAppInfo) (previous : Option Appointment)
    (comp : CalComponent) : RemoteAppointment × CategoryAppInfo :=
  let (category, ai) := Category.Shared.ePilotLocalCategoryToRemote charset comp.categories ai
  let appt := readTimes lib defaultTz comp (setTexts charset comp (unsynced previous))
  let appt := setAlarm comp.alarms (readRepeats lib defaultTz comp appt)
  (⟨appt, category, comp.classification = .classPrivate⟩, ai)

end Convert

end GnomePilot.Datebook
