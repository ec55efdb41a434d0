import Mathlib.Data.Int.Order.Basic

/-!
# Times of the pilot and of the calendar

The pilot has broken-down times, a component has the times of libical.  The conduits
convert between them field by field; the rest is left to the C library and to libical.
-/

namespace GnomePilot

/-- `struct tm` -/
structure Tm where
  sec : Int
  min : Int
  hour : Int
  mday : Int
  mon : Int
  year : Int
  deriving DecidableEq, Repr

/-- `struct icaltimetype` -/
structure ICalTime where
  year : Int
  month : Int
  day : Int
  hour : Int
  minute : Int
  second : Int
  isDate : Bool
  deriving DecidableEq, Repr

/-- What the conduits use of the C library and of libical; `ζ` stands for time zones.  A
date is the same in all zones, and a time of a zone is left as it is when it is converted
from the zone with the identifier of that zone. -/
structure ICalLibrary (ζ : Type) where
  mktime : Tm → Tm
  convertTime : ICalTime → ζ → ζ → ICalTime
  getTimezone : Option String → ζ
  getTzid : ζ → Option String
  utcTimezone : ζ
  asTimet : ICalTime → ζ → Int
  timeAddDay : Int → ζ → Int
  convertTime_date : ∀ t a b, t.isDate = true → convertTime t a b = t
  convertTime_same : ∀ t z, convertTime t (getTimezone (getTzid z)) z = t

def tmToIcaltimetype (stm : Tm) (isDate : Bool) : ICalTime :=
  ⟨stm.year + 1900, stm.mon + 1, stm.mday, stm.hour, stm.min, stm.sec, isDate⟩

def icaltimetypeToTm {ζ : Type} (lib : ICalLibrary ζ) (itt : ICalTime) : Tm :=
  lib.mktime ⟨itt.second, itt.minute, itt.hour, itt.day, itt.month - 1, itt.year - 1900⟩

def isEmptyTime (time : Tm) : Bool :=
  time.sec = 0 && time.min = 0 && time.hour = 0 && time.mday = 0 && time.mon = 0 && time.year = 0

def icaltimeNullTime : ICalTime := ⟨0, 0, 0, 0, 0, 0, false⟩

def icaltimeIsNullTime (t : ICalTime) : Bool :=
  t.year + t.month + t.day + t.hour + t.minute + t.second = 0

/-- The day of a time. -/
def Tm.date (time : Tm) : Int × Int × Int := (time.year, time.mon, time.mday)

/-- A time as it is in an unpacked record: `mktime` has brought its fields into range. -/
structure Tm.Valid {ζ : Type} (lib : ICalLibrary ζ) (time : Tm) : Prop where
  normal : lib.mktime time = time
  sec : 0 ≤ time.sec
  min : 0 ≤ time.min
  hour : 0 ≤ time.hour
  mday : 0 < time.mday
  mon : 0 ≤ time.mon
  year : 0 ≤ time.year

section Laws

variable {ζ : Type} {lib : ICalLibrary ζ} {time : Tm}

theorem isEmptyTime_eq_false (h : time.Valid lib) : isEmptyTime time = false := by
  have hmday := h.mday
  simp only [isEmptyTime, Bool.and_eq_false_iff, decide_eq_false_iff_not]
  omega

theorem icaltimeIsNullTime_eq_false (h : time.Valid lib) (isDate : Bool) :
    icaltimeIsNullTime (tmToIcaltimetype time isDate) = false := by
  obtain ⟨-, hsec, hmin, hhour, hmday, hmon, hyear⟩ := h
  refine decide_eq_false ?_
  dsimp only [tmToIcaltimetype]
  omega

theorem icaltimetypeToTm_tmToIcaltimetype (h : time.Valid lib) (isDate : Bool) :
    icaltimetypeToTm lib (tmToIcaltimetype time isDate) = time := by
  have hfields : (⟨time.sec, time.min, time.hour, time.mday, time.mon + 1 - 1,
      time.year + 1900 - 1900⟩ : Tm) = time := by
    simp
  rw [icaltimetypeToTm, tmToIcaltimetype, hfields, h.normal]

/-- A date comes back whatever the zones. -/
theorem icaltimetypeToTm_date (h : time.Valid lib) (a b : ζ) :
    icaltimetypeToTm lib (lib.convertTime (tmToIcaltimetype time true) a b) = time := by
  rw [lib.convertTime_date _ _ _ rfl, icaltimetypeToTm_tmToIcaltimetype h]

end Laws

end GnomePilot
