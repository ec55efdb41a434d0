import GnomePilot.Desktop.Appointment

/-!
# Appointments written to a component and read again

Part by part: the texts, the times, the rule with its end, the exceptions and the alarm.
-/

namespace GnomePilot.Datebook

open Category (CategoryAppInfo Slot)
open Todo (ComponentDateTime Classification KeepsPilot map_map_eq_iff)

/-- An appointment as it is in an unpacked record. -/
structure Appointment.Valid {ζ : Type} (lib : CalLibrary ζ) (appt : Appointment) : Prop where
  beginTime : appt.beginTime.Valid lib.toICalLibrary
  endTime : appt.event = false → appt.endTime.Valid lib.toICalLibrary
  repeatEnd : appt.repeatType ≠ .repeatNone → appt.repeatForever = false →
    appt.repeatEnd.Valid lib.toICalLibrary
  repeatDay : appt.repeatType = .repeatMonthlyByDay → 0 ≤ appt.repeatDay ∧ appt.repeatDay < 35
  exceptions : ∀ ex ∈ appt.exceptions, ex.Valid lib.toICalLibrary

section Frames

variable {ζ : Type} {lib : CalLibrary ζ} {charset : Charset} {timezone : ζ} {ai : CategoryAppInfo}
  {remote : RemoteAppointment} {inComp : Option CalComponent}

theorem writeTimes_eq (appt : Appointment) (comp : CalComponent) :
    writeTimes lib timezone appt comp = { comp with
      dtstart := (writeTimes lib timezone appt comp).dtstart
      dtend := (writeTimes lib timezone appt comp).dtend } := by
  unfold writeTimes
  split_ifs
  all_goals rfl

theorem writeRules_eq (appt : Appointment) (comp : CalComponent) :
    writeRules lib timezone appt inComp comp =
      { comp with rrules := (writeRules lib timezone appt inComp comp).rrules } := by
  unfold writeRules
  cases recurrenceOf appt with
  | none => rfl
  | some recur =>
      dsimp only
      cases keptCount lib timezone appt recur { comp with rrules := [recur] } inComp with
      | none => rfl
      | some erecur => rfl

theorem foldl_prepend {α β : Type} (f : α → β) (l : List α) (acc : List β) :
    l.foldl (fun acc x => f x :: acc) acc = (l.map f).reverse ++ acc := by
  induction l generalizing acc with
  | nil => rfl
  | cons x l ih =>
      rw [List.foldl_cons, ih, List.map_cons, List.reverse_cons, List.append_assoc]
      rfl

/-- The properties of the component that are read afterwards. -/
theorem compFromRemoteRecord_spec :
    let comp := compFromRemoteRecord lib charset timezone ai remote inComp
    let started := startedComp lib charset timezone ai remote inComp
    let base := inComp.getD CalComponent.new
    comp.summary = remote.appt.description.map charset.utf8FromPchar ∧
    comp.descriptions.head?.join = remote.appt.note.map charset.utf8FromPchar ∧
    comp.dtstart = (writeTimes lib timezone remote.appt base).dtstart ∧
    comp.dtend = (writeTimes lib timezone remote.appt base).dtend ∧
    comp.isInstance = base.isInstance ∧
    comp.rrules = (writeRules lib timezone remote.appt inComp started).rrules ∧
    comp.exdates = (remote.appt.exceptions.map fun ex =>
      (⟨tmToIcaltimetype ex true, none⟩ : ComponentDateTime)).reverse ∧
    comp.alarms = writeAlarm remote.appt base.alarms := by
  dsimp only [compFromRemoteRecord]
  rw [writeRules_eq]
  dsimp only [startedComp]
  rw [writeTimes_eq]
  refine ⟨rfl, ?_, ?_, ?_, rfl, rfl, ?_, rfl⟩
  · cases remote.appt.note with
    | none => rfl
    | some note => rfl
  · unfold writeTimes
    split_ifs
    all_goals rfl
  · unfold writeTimes
    split_ifs
    all_goals rfl
  · rw [foldl_prepend, List.append_nil]

end Frames

/-! ## The alarm -/

section Alarm

theorem Alarm.advance_isSome_of_isBefore {alarm : Alarm} (h : alarm.isBefore = true) :
    alarm.advance.isSome = true := by
  unfold Alarm.isBefore at h
  unfold Alarm.advance
  split at h
  · rw [if_pos h]
    rfl
  · exact absurd h Bool.false_ne_true

def FitsUnits (advance : Nat) : AdvanceUnits → Prop
  | .advMinutes => advance ≤ 99
  | .advHours => 2 ≤ advance ∧ advance ≤ 99
  | .advDays => 5 ≤ advance ∧ advance ≤ 99

theorem advanceOfDuration_iff (advance : Nat) (units : AdvanceUnits) :
    advanceOfDuration (durationOf advance units) = (advance, units) ↔ FitsUnits advance units := by
  cases units
  all_goals
    simp only [advanceOfDuration, durationOf, FitsUnits, Nat.zero_mul, Nat.zero_add, Nat.add_zero,
      Nat.zero_div]
    split_ifs <;> simp <;> omega

theorem readAlarm_writeAlarm (appt : Appointment) (alarms : List Alarm) :
    readAlarm (writeAlarm appt alarms) =
      if appt.alarm then
        (readAlarm alarms).or (some (advanceOfDuration (durationOf appt.advance appt.advanceUnits)))
      else readAlarm alarms := by
  unfold writeAlarm
  cases appt.alarm with
  | false => rfl
  | true =>
      rw [if_pos rfl, if_pos rfl]
      split_ifs with hfound
      · obtain ⟨alarm, hmem, hbefore⟩ := List.any_eq_true.mp hfound
        have hsome : (readAlarm alarms).isSome = true :=
          List.findSome?_isSome_iff.mpr ⟨alarm, hmem, Alarm.advance_isSome_of_isBefore hbefore⟩
        rw [Option.or_of_isSome hsome]
      · unfold readAlarm
        rw [List.findSome?_append]
        cases appt.advanceUnits <;> rfl

/-- The alarm comes back if the component has none and its advance is in the units that are
read, or if the component has one of this advance. -/
def AlarmComesBack (appt : Appointment) (alarms : List Alarm) : Prop :=
  if appt.alarm then
    readAlarm alarms = some (appt.advance, appt.advanceUnits) ∨
      readAlarm alarms = none ∧ FitsUnits appt.advance appt.advanceUnits
  else readAlarm alarms = none

theorem readAlarm_iff (appt : Appointment) (alarms : List Alarm) :
    readAlarm (writeAlarm appt alarms) = appt.content.alarm ↔ AlarmComesBack appt alarms := by
  rw [readAlarm_writeAlarm]
  unfold AlarmComesBack Appointment.content
  dsimp only
  cases appt.alarm with
  | false => rfl
  | true =>
      rw [if_pos rfl, if_pos rfl, if_pos rfl, ← advanceOfDuration_iff]
      cases readAlarm alarms with
      | none => simp
      | some found => simp

theorem content_setAlarm (alarms : List Alarm) (appt : Appointment) :
    (setAlarm alarms appt).content = { appt.content with alarm := readAlarm alarms } := by
  unfold setAlarm
  cases readAlarm alarms with
  | none => rfl
  | some found => rfl

end Alarm

/-! ## The times -/

section Times

variable {ζ : Type} {lib : CalLibrary ζ} {timezone : ζ}

/-- The appointment ends a day after it begins, as `is_all_day` finds it. -/
def LastsOneDay (lib : CalLibrary ζ) (timezone : ζ) (appt : Appointment) : Prop :=
  let tzid := lib.getTzid timezone
  isAllDay lib ⟨tmToIcaltimetype appt.beginTime false, tzid⟩
    ⟨tmToIcaltimetype appt.endTime false, tzid⟩ = true

theorem convertInPlace_timed (t : ICalTime) :
    convertInPlace lib timezone ⟨t, lib.getTzid timezone⟩ = ⟨t, lib.getTzid timezone⟩ := by
  rw [convertInPlace, lib.convertTime_same]

theorem convertInPlace_date (time : Tm) (tzid : Option String) :
    convertInPlace lib timezone ⟨tmToIcaltimetype time true, tzid⟩ =
      ⟨tmToIcaltimetype time true, tzid⟩ := by
  rw [convertInPlace, lib.convertTime_date _ _ _ rfl]

theorem isAllDay_dates (a b : Tm) (tzid tzid' : Option String) :
    isAllDay lib ⟨tmToIcaltimetype a true, tzid⟩ ⟨tmToIcaltimetype b true, tzid'⟩ = true := rfl

theorem readTimes_spec {appt : Appointment} (h : appt.Valid lib) (base comp : CalComponent)
    (hstart : comp.dtstart = (writeTimes lib timezone appt base).dtstart)
    (hend : comp.dtend = (writeTimes lib timezone appt base).dtend) (start : Appointment) :
    let read := readTimes lib timezone comp start
    read.beginTime = appt.beginTime ∧
    (read.event = true ↔ appt.event = true ∨ LastsOneDay lib timezone appt) ∧
    (read.event = false → read.endTime = appt.endTime) := by
  have hbegin := isEmptyTime_eq_false h.beginTime
  unfold writeTimes at hstart hend
  unfold readTimes
  cases hevent : appt.event with
  | true =>
      simp only [hevent, hbegin, Bool.not_false, Bool.and_self, if_true] at hstart hend
      simp only [hstart, hend, Option.map_some, Option.getD_some, convertInPlace_date,
        isAllDay_dates, if_true, true_or]
      exact ⟨icaltimetypeToTm_tmToIcaltimetype h.beginTime true, trivial,
        fun h => absurd h (by simp)⟩
  | false =>
      have hendtime := h.endTime hevent
      simp only [hevent, hbegin, isEmptyTime_eq_false hendtime, Bool.false_and, Bool.not_false,
        Bool.false_eq_true, if_false, if_true] at hstart hend
      simp only [hstart, hend, Option.map_some, Option.getD_some, convertInPlace_timed]
      unfold LastsOneDay
      split_ifs with hday
      · exact ⟨icaltimetypeToTm_tmToIcaltimetype h.beginTime false, by simp [hday],
          fun h => absurd h (by simp)⟩
      · exact ⟨icaltimetypeToTm_tmToIcaltimetype h.beginTime false, by simp [hday],
          fun _ => icaltimetypeToTm_tmToIcaltimetype hendtime false⟩

end Times

/-! ## The days of a rule -/

section Days

variable {ζ : Type} {lib : CalLibrary ζ}

theorem getIcalDay_bounds {day : Int} (h0 : 0 ≤ day) (h6 : day ≤ 6) :
    1 ≤ getIcalDay day ∧ getIcalDay day ≤ 7 ∧ getPilotDay (getIcalDay day) = day := by
  rw [getIcalDay, if_pos ⟨h0, h6⟩, getPilotDay, if_pos (by omega)]
  omega

theorem pilotDay_nth {pos day : Int} (hpos : pos.natAbs ≤ 5) (h0 : 0 ≤ day) (h6 : day ≤ 6) :
    getPilotDay (lib.dayOfWeek (nthWeekday pos (getIcalDay day))) = day ∧
      lib.dayPosition (nthWeekday pos (getIcalDay day)) = pos := by
  obtain ⟨h1, h7, hback⟩ := getIcalDay_bounds h0 h6
  rw [lib.dayOfWeek_nth pos _ hpos h1 h7, lib.dayPosition_nth pos _ hpos h1 h7]
  exact ⟨hback, rfl⟩

theorem repeatDayOfPosition_succ {week : Int} (h0 : 0 ≤ week) (h3 : week ≤ 3) :
    repeatDayOfPosition (week + 1) = 7 * week := by
  obtain rfl | rfl | rfl | rfl : week = 0 ∨ week = 1 ∨ week = 2 ∨ week = 3 := by omega
  all_goals rfl

theorem monthlyDay_back {day : Int} (h0 : 0 ≤ day) (h35 : day < 35) :
    repeatDayOfPosition (lib.dayPosition (monthlyDay day)) +
      getPilotDay (lib.dayOfWeek (monthlyDay day)) = day := by
  unfold monthlyDay
  by_cases hlast : day < 28
  · rw [if_pos hlast]
    obtain ⟨hday, hpos⟩ := @pilotDay_nth _ lib (day / 7 + 1) (day % 7) (by omega) (by omega)
      (by omega)
    rw [hday, hpos, repeatDayOfPosition_succ (by omega) (by omega)]
    omega
  · rw [if_neg hlast]
    obtain ⟨hday, hpos⟩ := @pilotDay_nth _ lib (-1) (day % 7) (by decide) (by omega) (by omega)
    have hlast : repeatDayOfPosition (-1) = 28 := rfl
    rw [hday, hpos, hlast]
    omega

theorem foldl_setDay (dayOf : Int → Int) (days : List Int) (init : Fin 7 → Bool) (i : Fin 7) :
    days.foldl (fun set day => setDay set (dayOf day)) init i =
      (init i || days.any fun day => (i : Int) = dayOf day) := by
  induction days generalizing init with
  | nil => simp
  | cons day days ih =>
      rw [List.foldl_cons, ih, setDay, List.any_cons]
      by_cases h : (i : Int) = dayOf day <;> simp [h]

theorem weeklyDays_back (repeatDays : Fin 7 → Bool) :
    ((weeklyDays repeatDays).take 8).foldl
      (fun days day => setDay days (getPilotDay (lib.dayOfWeek day))) (fun _ => false) =
        repeatDays := by
  have hlength : (weeklyDays repeatDays).length ≤ 8 := by
    rw [weeklyDays, List.length_map]
    exact (List.length_filter_le _ _).trans (by simp)
  have hback : ∀ i : Fin 7, getPilotDay (lib.dayOfWeek (getIcalDay (i : Int))) = i := by
    intro i
    have hday := (@pilotDay_nth _ lib 0 (i : Int) (by decide) (by omega) (by omega)).1
    simpa [nthWeekday] using hday
  funext i
  rw [List.take_of_length_le hlength, foldl_setDay, weeklyDays, List.any_map, Bool.false_or,
    Bool.eq_iff_iff, List.any_eq_true]
  constructor
  · rintro ⟨k, hk, hday⟩
    have hday : (i : Int) = getPilotDay (lib.dayOfWeek (getIcalDay (k : Int))) := by
      simpa using hday
    rw [hback k] at hday
    have hik : i = k := by omega
    rw [hik]
    exact (List.mem_filter.mp hk).2
  · intro hi
    exact ⟨i, List.mem_filter.mpr ⟨List.mem_finRange i, hi⟩, by simp [hback i]⟩

end Days

/-! ## The rule and its end -/

section Rules

variable {ζ : Type} {lib : CalLibrary ζ} {timezone : ζ} {appt start : Appointment}
  {inComp : Option CalComponent}

/-- Nothing was read of the repeats so far. -/
structure Unrepeated (start : Appointment) : Prop where
  repeatType : start.repeatType = .repeatNone
  repeatDay : start.repeatDay = 0
  repeatDays : start.repeatDays = fun _ => false
  repeatWeekstart : start.repeatWeekstart = 0
  exceptions : start.exceptions = []

/-- The rules differ in their ends at most. -/
structure SameKind (rule recur : Recurrence) : Prop where
  freq : rule.freq = recur.freq
  interval : rule.interval = recur.interval
  byDay : rule.byDay = recur.byDay
  byMonthDay : rule.byMonthDay = recur.byMonthDay
  bySetPos : rule.bySetPos = recur.bySetPos

/-- The kind of a rule is read as it was written; the start of the week is not read. -/
theorem readFrequency_spec (h : appt.Valid lib) (hstart : Unrepeated start)
    {rule recur : Recurrence} (hrecur : recurrenceOf appt = some recur)
    (hkind : SameKind rule recur) :
    readFrequency lib rule start = { start with
      repeatType := appt.repeatType
      repeatDay := if appt.repeatType = .repeatMonthlyByDay then appt.repeatDay else 0
      repeatDays := fun i => appt.repeatType = .repeatWeekly && appt.repeatDays i } := by
  obtain ⟨-, hstartDay, hstartDays, -, -⟩ := hstart
  obtain ⟨recur', hrecur', rfl⟩ := Option.map_eq_some_iff.mp hrecur
  unfold recurrenceByType at hrecur'
  unfold readFrequency
  rw [hkind.freq, hkind.byDay, hkind.byMonthDay, hkind.bySetPos]
  cases htype : appt.repeatType with
  | repeatNone => simp [htype] at hrecur'
  | repeatDaily =>
      simp only [htype, Option.some.injEq] at hrecur'
      subst hrecur'
      simp [← hstartDay, ← hstartDays]
  | repeatWeekly =>
      simp only [htype, Option.some.injEq] at hrecur'
      subst hrecur'
      simp [← hstartDay, hstartDays, weeklyDays_back]
  | repeatMonthlyByDay =>
      obtain ⟨h0, h35⟩ := h.repeatDay htype
      simp only [htype, Option.some.injEq] at hrecur'
      subst hrecur'
      simp [← hstartDays, clearedRecurrence, monthlyDay_back h0 h35]
  | repeatMonthlyByDate =>
      simp only [htype, Option.some.injEq] at hrecur'
      subst hrecur'
      simp [← hstartDay, ← hstartDays]
  | repeatYearly =>
      simp only [htype, Option.some.injEq] at hrecur'
      subst hrecur'
      simp [← hstartDay, ← hstartDays]

theorem recurrenceOf_eq_none_iff : recurrenceOf appt = none ↔ appt.repeatType = .repeatNone := by
  unfold recurrenceOf recurrenceByType
  cases appt.repeatType <;> simp

theorem recurrenceOf_end {recur : Recurrence} (hrecur : recurrenceOf appt = some recur) :
    recur.interval = appt.repeatFrequency ∧ recur.count = 0 ∧
    recur.untilTime =
      if appt.repeatForever then icaltimeNullTime else tmToIcaltimetype appt.repeatEnd true := by
  obtain ⟨recur', hrecur', rfl⟩ := Option.map_eq_some_iff.mp hrecur
  unfold recurrenceByType at hrecur'
  cases htype : appt.repeatType
  all_goals
    simp only [htype, Option.some.injEq] at hrecur'
    try subst hrecur'
  case repeatNone => exact absurd hrecur' (Option.some_ne_none recur').symm
  all_goals exact ⟨rfl, rfl, rfl⟩

def KeepsCount (lib : CalLibrary ζ) (timezone : ζ) (appt : Appointment)
    (inComp : Option CalComponent) (started : CalComponent) : Prop :=
  ∃ recur erecur, recurrenceOf appt = some recur ∧
    keptCount lib timezone appt recur { started with rrules := [recur] } inComp = some erecur

def lastDay (lib : CalLibrary ζ) (timezone : ζ) (comp : CalComponent) : Tm :=
  icaltimetypeToTm lib.toICalLibrary (lib.dateFromTimet (lib.lastInstance comp timezone) timezone)

theorem keptCount_spec {recur erecur : Recurrence} {comp : CalComponent}
    (h : keptCount lib timezone appt recur comp inComp = some erecur) :
    appt.repeatForever = false ∧ 0 < erecur.count := by
  obtain ⟨old, -, hfilter⟩ := Option.bind_eq_some_iff.mp h
  obtain ⟨-, hkept⟩ := Option.filter_eq_some_iff.mp hfilter
  simp only [Bool.and_eq_true, Bool.not_eq_true', decide_eq_true_eq] at hkept
  exact ⟨hkept.1.1.1.1, hkept.1.2⟩

/-- The rule that is written ends with the appointment, or it has the count of the desktop. -/
theorem writeRules_cases {recur : Recurrence} (hrecur : recurrenceOf appt = some recur)
    (started : CalComponent) :
    ∃ rule : Recurrence, (writeRules lib timezone appt inComp started).rrules = [rule] ∧
      SameKind rule recur ∧
      ((rule = recur ∧ ¬ KeepsCount lib timezone appt inComp started) ∨
        (rule.untilTime = icaltimeNullTime ∧ 0 < rule.count ∧ appt.repeatForever = false ∧
          KeepsCount lib timezone appt inComp started)) := by
  unfold writeRules
  rw [hrecur]
  dsimp only
  cases hkept : keptCount lib timezone appt recur { started with rrules := [recur] } inComp with
  | none =>
      refine ⟨recur, rfl, ⟨rfl, rfl, rfl, rfl, rfl⟩, Or.inl ⟨rfl, ?_⟩⟩
      rintro ⟨recur', erecur, hrecur', hkept'⟩
      rw [Option.some.inj (hrecur'.symm.trans hrecur), hkept] at hkept'
      exact Option.some_ne_none erecur hkept'.symm
  | some erecur =>
      obtain ⟨hforever, hpositive⟩ := keptCount_spec hkept
      exact ⟨_, rfl, ⟨rfl, rfl, rfl, rfl, rfl⟩,
        Or.inr ⟨rfl, hpositive, hforever, recur, erecur, hrecur, hkept⟩⟩

theorem readRules_spec (h : appt.Valid lib) (hstart : Unrepeated start)
    (htype : appt.repeatType ≠ .repeatNone) {comp started : CalComponent}
    (hrules : comp.rrules = (writeRules lib timezone appt inComp started).rrules) :
    ∃ repeatEnd, readRules lib timezone comp start = { start with
        repeatType := appt.repeatType
        repeatForever := appt.repeatForever
        repeatEnd := repeatEnd
        repeatFrequency := appt.repeatFrequency
        repeatDay := if appt.repeatType = .repeatMonthlyByDay then appt.repeatDay else 0
        repeatDays := fun i => appt.repeatType = .repeatWeekly && appt.repeatDays i } ∧
      (appt.repeatForever = false →
        (KeepsCount lib timezone appt inComp started → repeatEnd = lastDay lib timezone comp) ∧
        (¬ KeepsCount lib timezone appt inComp started → repeatEnd = appt.repeatEnd)) := by
  obtain ⟨recur, hrecur⟩ := Option.ne_none_iff_exists'.mp
    (fun hnone => htype (recurrenceOf_eq_none_iff.mp hnone))
  obtain ⟨hinterval, hcount, huntil⟩ := recurrenceOf_end hrecur
  obtain ⟨rule, hrule, hkind, hend⟩ := @writeRules_cases _ lib timezone appt inComp _ hrecur started
  unfold readRules
  rw [hrules, hrule]
  dsimp only
  rw [readFrequency_spec h hstart hrecur hkind, if_pos htype, hkind.interval, hinterval, readUntil]
  rcases hend with ⟨rfl, hkeeps⟩ | ⟨hnull, hpositive, hforever, hkeeps⟩
  · rw [huntil, hcount]
    cases hforever : appt.repeatForever with
    | true => exact ⟨start.repeatEnd, rfl, fun h => absurd h (by simp)⟩
    | false =>
        have hvalid := h.repeatEnd htype hforever
        refine ⟨appt.repeatEnd, ?_, fun _ => ⟨fun h => absurd h hkeeps, fun _ => rfl⟩⟩
        simp [icaltimeIsNullTime_eq_false hvalid, icaltimetypeToTm_date hvalid]
  · have hisNull : icaltimeIsNullTime icaltimeNullTime = true := rfl
    refine ⟨lastDay lib timezone comp, ?_, fun _ => ⟨fun _ => rfl, fun h => absurd hkeeps h⟩⟩
    simp [hnull, hisNull, hpositive, hforever, lastDay]

end Rules

/-! ## A record written and read again -/

section RoundTrip

variable {ζ : Type} {lib : CalLibrary ζ} {charset : Charset} {timezone : ζ}
  {ai ai' : CategoryAppInfo} {previous : Option Appointment} {remote : RemoteAppointment}
  {inComp : Option CalComponent}

/-- The record after it was written over a component and read back, with the categories of
either time. -/
def rewritten (lib : CalLibrary ζ) (charset : Charset) (timezone : ζ) (ai ai' : CategoryAppInfo)
    (previous : Option Appointment) (remote : RemoteAppointment) (inComp : Option CalComponent) :
    RemoteAppointment :=
  (localRecordFromComp lib charset timezone ai' previous
    (compFromRemoteRecord lib charset timezone ai remote inComp)).1

/-- What an appointment has to be like, and the component it is written over, to come back. -/
structure ComesBack (lib : CalLibrary ζ) (charset : Charset) (timezone : ζ) (ai : CategoryAppInfo)
    (remote : RemoteAppointment) (inComp : Option CalComponent) : Prop where
  description : KeepsPilot charset remote.appt.description
  note : KeepsPilot charset remote.appt.note
  times : remote.appt.event = false → ¬ LastsOneDay lib timezone remote.appt
  standalone : remote.appt.repeatType ≠ .repeatNone ∨ remote.appt.exceptions ≠ [] →
    (inComp.getD CalComponent.new).isInstance = false
  weekstart : remote.appt.repeatType ≠ .repeatNone → remote.appt.repeatWeekstart = 0
  count : KeepsCount lib timezone remote.appt inComp
      (startedComp lib charset timezone ai remote inComp) →
    (lastDay lib timezone (compFromRemoteRecord lib charset timezone ai remote inComp)).date =
      remote.appt.repeatEnd.date
  exceptions : (remote.appt.exceptions.map Tm.date).reverse = remote.appt.exceptions.map Tm.date
  alarm : AlarmComesBack remote.appt (inComp.getD CalComponent.new).alarms

theorem readTimes_eq (comp : CalComponent) (start : Appointment) :
    readTimes lib timezone comp start = { start with
      beginTime := (readTimes lib timezone comp start).beginTime
      endTime := (readTimes lib timezone comp start).endTime
      event := (readTimes lib timezone comp start).event } := by
  unfold readTimes
  dsimp only
  split
  · split_ifs
    all_goals rfl
  · rfl

theorem unrepeated_start (comp : CalComponent) :
    Unrepeated (readTimes lib timezone comp (setTexts charset comp (unsynced previous))) := by
  rw [readTimes_eq]
  cases previous with
  | none => exact ⟨rfl, rfl, rfl, rfl, rfl⟩
  | some appt => exact ⟨rfl, rfl, rfl, rfl, rfl⟩

theorem content_readRepeats_instance {comp : CalComponent} {start : Appointment}
    (hstart : Unrepeated start) (hinstance : comp.isInstance = true) :
    (readRepeats lib timezone comp start).content =
      { start.content with repeats := none, exceptions := [] } := by
  unfold readRepeats
  rw [hinstance, if_pos rfl]
  simp [Appointment.content, hstart.exceptions]

theorem content_readRepeats {appt start : Appointment} (h : appt.Valid lib)
    (hstart : Unrepeated start) {comp started : CalComponent}
    (hinstance : comp.isInstance = false)
    (hrules : comp.rrules = (writeRules lib timezone appt inComp started).rrules)
    (hexdates : comp.exdates = (appt.exceptions.map fun ex =>
      (⟨tmToIcaltimetype ex true, none⟩ : ComponentDateTime)).reverse) :
    ∃ repeatEnd : Tm, (readRepeats lib timezone comp start).content = { start.content with
        repeats := appt.content.repeats.map fun r => { r with
          repeatEnd := if appt.repeatForever then none else some repeatEnd.date
          repeatWeekstart := 0 }
        exceptions := (appt.exceptions.map Tm.date).reverse } ∧
      (appt.repeatType ≠ .repeatNone → appt.repeatForever = false →
        (KeepsCount lib timezone appt inComp started → repeatEnd = lastDay lib timezone comp) ∧
        (¬ KeepsCount lib timezone appt inComp started → repeatEnd = appt.repeatEnd)) := by
  have hexceptions : comp.exdates.map (fun dt => icaltimetypeToTm lib.toICalLibrary
      (lib.convertTime dt.value lib.utcTimezone timezone)) = appt.exceptions.reverse := by
    rw [hexdates, List.map_reverse, List.map_map]
    refine congrArg List.reverse ((List.map_congr_left fun ex hex => ?_).trans (List.map_id _))
    exact icaltimetypeToTm_date (h.exceptions ex hex) _ _
  have hnone : { start with repeatType := .repeatNone } = start := by
    rw [← hstart.repeatType]
  unfold readRepeats
  rw [hinstance, if_neg Bool.false_ne_true, hnone]
  unfold readExceptions
  rw [hexceptions]
  by_cases htype : appt.repeatType = .repeatNone
  · have hrrules : comp.rrules = [] := by
      rw [hrules, writeRules, recurrenceOf_eq_none_iff.mpr htype]
    refine ⟨appt.repeatEnd, ?_, fun h => absurd htype h⟩
    simp [readRules, hrrules, Appointment.content, htype, hstart.repeatType, List.map_reverse]
  · obtain ⟨repeatEnd, hread, hend⟩ := readRules_spec h hstart htype hrules
    refine ⟨repeatEnd, ?_, fun _ => hend⟩
    rw [hread]
    simp [Appointment.content, htype, hstart.repeatWeekstart, List.map_reverse]
    exact fun hday heq => absurd heq hday

theorem KeepsCount.ends {appt : Appointment} {started : CalComponent}
    (h : KeepsCount lib timezone appt inComp started) :
    appt.repeatType ≠ .repeatNone ∧ appt.repeatForever = false := by
  obtain ⟨recur, erecur, hrecur, hkept⟩ := h
  refine ⟨fun hnone => ?_, (keptCount_spec hkept).1⟩
  rw [recurrenceOf_eq_none_iff.mpr hnone] at hrecur
  exact Option.some_ne_none recur hrecur.symm

theorem content_repeats_eq_none_iff {appt : Appointment} :
    appt.content.repeats = none ↔ appt.repeatType = .repeatNone := by
  simp [Appointment.content]

theorem repeats_eq_iff {appt : Appointment} {started : CalComponent} {last repeatEnd : Tm}
    (hend : appt.repeatType ≠ .repeatNone → appt.repeatForever = false →
      (KeepsCount lib timezone appt inComp started → repeatEnd = last) ∧
      (¬ KeepsCount lib timezone appt inComp started → repeatEnd = appt.repeatEnd)) :
    (appt.content.repeats.map fun r => { r with
        repeatEnd := if appt.repeatForever then none else some repeatEnd.date
        repeatWeekstart := 0 }) = appt.content.repeats ↔
      (appt.repeatType ≠ .repeatNone → appt.repeatWeekstart = 0) ∧
      (KeepsCount lib timezone appt inComp started → last.date = appt.repeatEnd.date) := by
  by_cases htype : appt.repeatType = .repeatNone
  · rw [content_repeats_eq_none_iff.mpr htype, Option.map_none]
    exact iff_of_true rfl ⟨fun hne => absurd htype hne, fun hkeeps => absurd htype hkeeps.ends.1⟩
  · have hsame : (appt.content.repeats.map fun r => { r with
        repeatEnd := if appt.repeatForever then none else some repeatEnd.date
        repeatWeekstart := 0 }) = appt.content.repeats ↔
          (appt.repeatForever = false → repeatEnd.date = appt.repeatEnd.date) ∧
            0 = appt.repeatWeekstart := by
      cases hforever : appt.repeatForever
      all_goals simp [Appointment.content, htype, hforever]
    rw [hsame]
    constructor
    · rintro ⟨hdate, hweekstart⟩
      refine ⟨fun _ => hweekstart.symm, fun hkeeps => ?_⟩
      have hforever := hkeeps.ends.2
      exact ((hend htype hforever).1 hkeeps) ▸ hdate hforever
    · rintro ⟨hweekstart, hcount⟩
      refine ⟨fun hforever => ?_, (hweekstart htype).symm⟩
      by_cases hkeeps : KeepsCount lib timezone appt inComp started
      · rw [(hend htype hforever).1 hkeeps]
        exact hcount hkeeps
      · rw [(hend htype hforever).2 hkeeps]

/-- What has to hold of the repeats and of the exceptions. -/
theorem repeats_iff (h : remote.appt.Valid lib) {start : Appointment} (hstart : Unrepeated start) :
    let comp := compFromRemoteRecord lib charset timezone ai remote inComp
    let read := (readRepeats lib timezone comp start).content
    (read.repeats = remote.appt.content.repeats ∧
        read.exceptions = remote.appt.content.exceptions) ↔
      (remote.appt.repeatType ≠ .repeatNone ∨ remote.appt.exceptions ≠ [] →
        (inComp.getD CalComponent.new).isInstance = false) ∧
      ((remote.appt.repeatType ≠ .repeatNone → remote.appt.repeatWeekstart = 0) ∧
        (KeepsCount lib timezone remote.appt inComp
            (startedComp lib charset timezone ai remote inComp) →
          (lastDay lib timezone comp).date = remote.appt.repeatEnd.date)) ∧
      (remote.appt.exceptions.map Tm.date).reverse = remote.appt.exceptions.map Tm.date := by
  intro comp read
  obtain ⟨-, -, -, -, hinstance, hrules, hexdates, -⟩ :=
    @compFromRemoteRecord_spec _ lib charset timezone ai remote inComp
  cases hbase : (inComp.getD CalComponent.new).isInstance with
  | true =>
      have hread : read = { start.content with repeats := none, exceptions := [] } :=
        content_readRepeats_instance hstart (hinstance.trans hbase)
      rw [hread]
      dsimp only
      rw [eq_comm, content_repeats_eq_none_iff]
      constructor
      · rintro ⟨hnone, hempty⟩
        have hempty : remote.appt.exceptions = [] := List.map_eq_nil_iff.mp hempty.symm
        refine ⟨fun hor => ?_, ⟨fun hne => absurd hnone hne, fun hkeeps => ?_⟩, by rw [hempty]; rfl⟩
        · exact hor.elim (fun hne => absurd hnone hne) fun hne => absurd hempty hne
        · exact absurd hnone hkeeps.ends.1
      · rintro ⟨hor, -, -⟩
        refine ⟨by_contra fun hne => absurd (hor (Or.inl hne)) (by simp), ?_⟩
        have hempty : remote.appt.exceptions = [] :=
          by_contra fun hne => absurd (hor (Or.inr hne)) (by simp)
        simp [Appointment.content, hempty]
  | false =>
      obtain ⟨repeatEnd, hread, hend⟩ := content_readRepeats h hstart (hinstance.trans hbase)
        hrules hexdates
      have hread : read = _ := hread
      rw [hread]
      dsimp only
      rw [repeats_eq_iff hend]
      exact (and_iff_right fun _ => rfl).symm

theorem exists_content_readRepeats (h : remote.appt.Valid lib) {start : Appointment}
    (hstart : Unrepeated start) :
    ∃ repeats exceptions, (readRepeats lib timezone
      (compFromRemoteRecord lib charset timezone ai remote inComp) start).content =
        { start.content with repeats := repeats, exceptions := exceptions } := by
  obtain ⟨-, -, -, -, hinstance, hrules, hexdates, -⟩ :=
    @compFromRemoteRecord_spec _ lib charset timezone ai remote inComp
  cases hbase : (inComp.getD CalComponent.new).isInstance with
  | true => exact ⟨_, _, content_readRepeats_instance hstart (hinstance.trans hbase)⟩
  | false =>
      obtain ⟨repeatEnd, hread, -⟩ := content_readRepeats h hstart (hinstance.trans hbase) hrules
        hexdates
      exact ⟨_, _, hread⟩

theorem times_iff {appt read : Appointment} (hbegin : read.beginTime = appt.beginTime)
    (hevent : read.event = true ↔ appt.event = true ∨ LastsOneDay lib timezone appt)
    (hend : read.event = false → read.endTime = appt.endTime) :
    read.content.times = appt.content.times ↔
      (appt.event = false → ¬ LastsOneDay lib timezone appt) := by
  unfold Appointment.content
  dsimp only
  cases hread : read.event with
  | true =>
      cases happt : appt.event with
      | true => simp
      | false =>
          have hday : LastsOneDay lib timezone appt := by simpa [hread, happt] using hevent
          simp [hday]
  | false =>
      have hnot : ¬ (appt.event = true ∨ LastsOneDay lib timezone appt) := by
        rw [← hevent, hread]
        exact Bool.false_ne_true
      obtain ⟨happt, hday⟩ := not_or.mp hnot
      simp [Bool.eq_false_iff.mpr happt, hbegin, hend hread, hday]

/-- What the texts and the times are read as; the repeats and the alarm come after them. -/
theorem rewritten_start (h : remote.appt.Valid lib) :
    let comp := compFromRemoteRecord lib charset timezone ai remote inComp
    ∃ start, Unrepeated start ∧
      (rewritten lib charset timezone ai ai' previous remote inComp).appt.content =
        { (readRepeats lib timezone comp start).content with alarm := readAlarm comp.alarms } ∧
      start.content.date = remote.appt.content.date ∧
      (start.content.times = remote.appt.content.times ↔
        (remote.appt.event = false → ¬ LastsOneDay lib timezone remote.appt)) ∧
      start.description =
        (remote.appt.description.map charset.utf8FromPchar).map charset.utf8ToPchar ∧
      start.note = (remote.appt.note.map charset.utf8FromPchar).map charset.utf8ToPchar := by
  intro comp
  obtain ⟨hsummary, hnote, hdtstart, hdtend, -⟩ :=
    @compFromRemoteRecord_spec _ lib charset timezone ai remote inComp
  obtain ⟨hbegin, hevent, hend⟩ := readTimes_spec h _ comp hdtstart hdtend
    (setTexts charset comp (unsynced previous))
  have hsame := @readTimes_eq _ lib timezone comp (setTexts charset comp (unsynced previous))
  exact ⟨readTimes lib timezone comp (setTexts charset comp (unsynced previous)),
    unrepeated_start comp, content_setAlarm _ _, congrArg Tm.date hbegin,
    times_iff hbegin hevent hend,
    (congrArg Appointment.description hsame).trans
      (congrArg (Option.map charset.utf8ToPchar) hsummary),
    (congrArg Appointment.note hsame).trans (congrArg (Option.map charset.utf8ToPchar) hnote)⟩

/-- The appointment comes back exactly if it does in each of its parts. -/
theorem content_rewritten_iff (h : remote.appt.Valid lib) :
    (rewritten lib charset timezone ai ai' previous remote inComp).appt.content =
        remote.appt.content ↔
      ComesBack lib charset timezone ai remote inComp := by
  obtain ⟨-, -, -, -, -, -, -, halarms⟩ :=
    @compFromRemoteRecord_spec _ lib charset timezone ai remote inComp
  obtain ⟨start, hstart, hcontent, hdate, htimes, hdescription, hnote⟩ :=
    @rewritten_start _ lib charset timezone ai ai' previous remote inComp h
  have hrepeats := @repeats_iff _ lib charset timezone ai remote inComp h _ hstart
  obtain ⟨repeats, exceptions, hread⟩ := @exists_content_readRepeats _ lib charset timezone ai
    remote inComp h _ hstart
  dsimp only at hcontent hrepeats
  rw [hread] at hcontent hrepeats
  rw [hcontent, halarms, Content.ext_iff]
  constructor
  · rintro ⟨-, htimes', halarm, hrepeats', hexceptions, hdescription', hnote'⟩
    obtain ⟨hstandalone, ⟨hweekstart, hcount⟩, hreverse⟩ := hrepeats.mp ⟨hrepeats', hexceptions⟩
    exact {
      description := map_map_eq_iff.mp (hdescription.symm.trans hdescription')
      note := map_map_eq_iff.mp (hnote.symm.trans hnote')
      times := htimes.mp htimes'
      standalone := hstandalone
      weekstart := hweekstart
      count := hcount
      exceptions := hreverse
      alarm := (readAlarm_iff _ _).mp halarm }
  · intro hback
    obtain ⟨hrepeats', hexceptions⟩ := hrepeats.mpr
      ⟨hback.standalone, ⟨hback.weekstart, hback.count⟩, hback.exceptions⟩
    exact ⟨hdate, htimes.mpr hback.times, (readAlarm_iff _ _).mpr hback.alarm, hrepeats',
      hexceptions, hdescription.trans (map_map_eq_iff.mpr hback.description),
      hnote.trans (map_map_eq_iff.mpr hback.note)⟩

/-- `compare` of a record with what its component is read as. -/
theorem compare_rewritten_iff {β : Type} [DecidableEq β] (packing : Packing β)
    (h : remote.appt.Valid lib) :
    compare (packing.packAppointment
        (rewritten lib charset timezone ai ai' previous remote inComp).appt)
      (packing.packAppointment remote.appt) = 0 ↔
    ComesBack lib charset timezone ai remote inComp := by
  rw [← content_rewritten_iff h, ← packing.pack_eq_iff, compare]
  split_ifs with hne
  · exact iff_of_false (by decide) hne
  · exact iff_of_true rfl (not_not.mp hne)

end RoundTrip

/-! ## Appointments that change -/

/-- `Todo.plainLibrary` with the days in a rule. -/
def plainCalLibrary : CalLibrary Unit where
  toICalLibrary := Todo.plainLibrary
  dayOfWeek day := (day.natAbs % 8 : Nat)
  dayPosition day := (day.natAbs / 8 : Nat) * (if day < 0 then -1 else 1)
  lastInstance _ _ := 0
  dateFromTimet _ _ := icaltimeNullTime
  dayOfWeek_nth pos wd hpos h1 h7 := by
    unfold nthWeekday
    split_ifs
    all_goals omega
  dayPosition_nth pos wd hpos h1 h7 := by
    unfold nthWeekday
    by_cases hneg : pos < 0
    · rw [if_pos hneg, if_pos (by omega)]
      omega
    · rw [if_neg hneg, if_neg (by omega)]
      omega

/-- The record has what `content` says. -/
def plainPacking : Packing Content := ⟨Appointment.content, fun _ _ => Iff.rfl⟩

/-- An hour of a day of May 2004. -/
def mayTime (hour day : Int) : Tm := ⟨0, 0, hour, day, 4, 104⟩

theorem mayTime_valid {hour day : Int} (hhour : 0 ≤ hour) (hday : 0 < day) :
    (mayTime hour day).Valid plainCalLibrary.toICalLibrary :=
  ⟨rfl, le_rfl, le_rfl, hhour, hday, (by decide : (0 : Int) ≤ 4), (by decide : (0 : Int) ≤ 104)⟩

def lunch : Appointment :=
  { Appointment.zero with
    beginTime := mayTime 12 3
    endTime := mayTime 13 3
    description := some ⟨[76], by decide⟩ }

/-- Lunch every day, but for the third and the fourth of May. -/
def dailyLunch : Appointment :=
  { lunch with
    repeatType := .repeatDaily
    repeatForever := true
    repeatFrequency := 1
    exceptions := [mayTime 0 3, mayTime 0 4] }

/-- Lunch every Monday, in weeks that start on Mondays. -/
def weeklyLunch (repeatWeekstart : Int) : Appointment :=
  { lunch with
    repeatType := .repeatWeekly
    repeatForever := true
    repeatFrequency := 1
    repeatDays := fun i => i = 1
    repeatWeekstart := repeatWeekstart
    exceptions := [mayTime 0 10]
    alarm := true
    advance := 10 }

def alarmedLunch : Appointment :=
  { lunch with alarm := true, advance := 1, advanceUnits := .advHours }

/-- An appointment written to a new component and read again. -/
def again (appt : Appointment) : Appointment :=
  (rewritten plainCalLibrary Category.plainCharset () Category.unfiledOnly Category.unfiledOnly
    none ⟨appt, 0, false⟩ none).appt

theorem compare_of_ne {β : Type} [DecidableEq β] {a b : β} (h : a ≠ b) : compare a b = 1 :=
  if_pos h

theorem lunch_valid : lunch.Valid plainCalLibrary where
  beginTime := mayTime_valid (by decide) (by decide)
  endTime _ := mayTime_valid (by decide) (by decide)
  repeatEnd h := absurd rfl h
  repeatDay h := absurd h RepeatType.noConfusion
  exceptions _ h := absurd h List.not_mem_nil

theorem dailyLunch_valid : dailyLunch.Valid plainCalLibrary where
  beginTime := lunch_valid.beginTime
  endTime := lunch_valid.endTime
  repeatEnd _ h := absurd h Bool.noConfusion
  repeatDay h := absurd h RepeatType.noConfusion
  exceptions ex h := by
    rcases List.mem_cons.mp h with rfl | h
    · exact mayTime_valid (by decide) (by decide)
    · rw [List.mem_singleton.mp h]
      exact mayTime_valid (by decide) (by decide)

theorem weeklyLunch_valid (repeatWeekstart : Int) :
    (weeklyLunch repeatWeekstart).Valid plainCalLibrary where
  beginTime := lunch_valid.beginTime
  endTime := lunch_valid.endTime
  repeatEnd _ h := absurd h Bool.noConfusion
  repeatDay h := absurd h RepeatType.noConfusion
  exceptions _ h := by
    rw [List.mem_singleton.mp h]
    exact mayTime_valid (by decide) (by decide)

theorem alarmedLunch_valid : alarmedLunch.Valid plainCalLibrary where
  beginTime := lunch_valid.beginTime
  endTime := lunch_valid.endTime
  repeatEnd h := absurd rfl h
  repeatDay h := absurd h RepeatType.noConfusion
  exceptions _ h := absurd h List.not_mem_nil

/-- The exceptions are turned round, the start of the week is lost, and the alarm is set to
sixty minutes. -/
theorem lunches_change :
    (dailyLunch.Valid plainCalLibrary ∧
      compare (plainPacking.packAppointment (again dailyLunch))
        (plainPacking.packAppointment dailyLunch) = 1 ∧
      (again dailyLunch).exceptions = dailyLunch.exceptions.reverse) ∧
    ((weeklyLunch 1).Valid plainCalLibrary ∧
      compare (plainPacking.packAppointment (again (weeklyLunch 1)))
        (plainPacking.packAppointment (weeklyLunch 1)) = 1 ∧
      (again (weeklyLunch 1)).repeatWeekstart = 0) ∧
    (alarmedLunch.Valid plainCalLibrary ∧
      compare (plainPacking.packAppointment (again alarmedLunch))
        (plainPacking.packAppointment alarmedLunch) = 1 ∧
      (again alarmedLunch).advance = 60 ∧ (again alarmedLunch).advanceUnits = .advMinutes) := by
  refine ⟨⟨dailyLunch_valid, compare_of_ne fun h => ?_, by decide⟩,
    ⟨weeklyLunch_valid 1, compare_of_ne fun h => ?_, by decide⟩,
    ⟨alarmedLunch_valid, compare_of_ne fun h => ?_, by decide, by decide⟩⟩
  · exact absurd (congrArg Content.exceptions h) (by decide)
  · exact absurd (congrArg (fun c => c.repeats.map RepeatContent.repeatWeekstart) h) (by decide)
  · exact absurd (congrArg Content.alarm h) (by decide)

/-- In weeks that start on Sundays, with one exception and ten minutes before. -/
theorem weeklyLunch_same :
    compare (plainPacking.packAppointment (again (weeklyLunch 0)))
      (plainPacking.packAppointment (weeklyLunch 0)) = 0 :=
  (compare_rewritten_iff plainPacking (weeklyLunch_valid 0)).mpr {
    description := fun _ _ => rfl
    note := fun _ h => absurd h.symm (Option.some_ne_none _)
    times := fun _ => by
      unfold LastsOneDay
      decide
    standalone := fun _ => rfl
    weekstart := fun _ => rfl
    count := fun ⟨_, _, _, h⟩ => absurd h (Option.some_ne_none _).symm
    exceptions := rfl
    alarm := Or.inr ⟨rfl, (by decide : 10 ≤ 99)⟩ }

end GnomePilot.Datebook
