import GnomePilot.Desktop.CategoryNames
import GnomePilot.Desktop.Times

/-!
# To-do records and components

`comp_from_remote_record` and `local_record_from_comp` of the to-do conduit: a record of the
pilot is written over a component, and a component is read as a record.
-/

namespace GnomePilot.Todo

open Category (CategoryAppInfo Slot)

/-- `struct ToDo` -/
structure ToDo where
  indefinite : Bool
  due : Tm
  priority : Int
  complete : Bool
  description : Option CString
  note : Option CString
  deriving DecidableEq, Repr

/-- A record of the pilot, unpacked. -/
structure RemoteToDo where
  todo : ToDo
  category : Slot
  secret : Bool

/-- `ICalPropertyStatus` -/
inductive PropertyStatus where
  | none
  | needsAction
  | completed
  | inProcess
  | cancelled
  deriving DecidableEq, Repr

/-- `ECalComponentClassification` -/
inductive Classification where
  | classNone
  | classPublic
  | classPrivate
  | classConfidential
  | classUnknown
  deriving DecidableEq, Repr

structure ComponentDateTime where
  value : ICalTime
  tzid : Option String
  deriving DecidableEq, Repr

/-- The properties of an `ECalComponent` that the conduit writes and reads.  A text may
have no value; the percentage is -1 where there is none. -/
structure TodoComponent where
  summary : Option CString
  descriptions : List (Option CString)
  comments : List (Option CString)
  categories : List CString
  completed : Option ICalTime
  percentComplete : Int
  status : PropertyStatus
  due : Option ComponentDateTime
  priority : Int
  classification : Classification

/-- `e_cal_component_new` -/
def TodoComponent.new : TodoComponent :=
  ⟨none, [], [], [], none, -1, .none, none, 0, .classNone⟩

section Convert

variable {ζ : Type}

def priorityOfTodo (priority : Int) : Int :=
  if priority = 1 then 3
  else if priority = 2 then 5
  else if priority = 3 then 5
  else if priority = 4 then 7
  else 9

/-- The priority of the record, `cfg->priority` for a component without one. -/
def priorityOfComp (cfgPriority priorityVal : Int) : Int :=
  if priorityVal ≠ 0 then
    if priorityVal ≤ 3 then 1
    else if priorityVal = 4 then 2
    else if priorityVal = 5 then 3
    else if priorityVal ≤ 7 then 4
    else 5
  else cfgPriority

/-- The note is written as the only description; without one the comments are cleared. -/
def writeNote (charset : Charset) (note : Option CString) (comp : TodoComponent) :
    TodoComponent :=
  match note with
  | none => { comp with comments := [] }
  | some note => { comp with descriptions := [some (charset.utf8FromPchar note)] }

def writeComplete (now : ICalTime) (complete : Bool) (comp : TodoComponent) : TodoComponent :=
  if complete then
    { comp with completed := some now, percentComplete := 100, status := .completed }
  else
    { comp with
      completed := none
      percentComplete :=
        if comp.percentComplete = 100 ∨ comp.percentComplete = -1 then 0
        else comp.percentComplete
      status := if comp.status = .completed then .needsAction else comp.status }

/-- `comp_from_remote_record` at the time `now` -/
def compFromRemoteRecord (lib : ICalLibrary ζ) (charset : Charset) (timezone : ζ)
    (ai : CategoryAppInfo) (now : ICalTime) (remote : RemoteToDo)
    (inComp : Option TodoComponent) : TodoComponent :=
  let comp := inComp.getD TodoComponent.new
  let comp := { comp with
    summary := remote.todo.description.map charset.utf8FromPchar
    categories := Category.Shared.ePilotRemoteCategoryToLocal charset remote.category
      comp.categories ai }
  { writeComplete now remote.todo.complete (writeNote charset remote.todo.note comp) with
    due :=
      if !remote.todo.indefinite && !isEmptyTime remote.todo.due then
        some ⟨tmToIcaltimetype remote.todo.due true, lib.getTzid timezone⟩
      else none
    priority := priorityOfTodo remote.todo.priority
    classification := if remote.secret then .classPrivate else .classPublic }

/-- The due date of a component, in the zone `defaultTz` of the desktop. -/
def dueFromComp (lib : ICalLibrary ζ) (defaultTz : ζ) (due : ComponentDateTime) : Tm :=
  icaltimetypeToTm lib (lib.convertTime due.value (lib.getTimezone due.tzid) defaultTz)

def todoFromComp (lib : ICalLibrary ζ) (charset : Charset) (defaultTz : ζ) (cfgPriority : Int)
    (comp : TodoComponent) : ToDo where
  description := comp.summary.map charset.utf8ToPchar
  note := comp.descriptions.head?.join.map charset.utf8ToPchar
  due := (comp.due.map (dueFromComp lib defaultTz)).getD ⟨0, 0, 0, 0, 0, 0⟩
  indefinite := comp.due.isNone
  complete := comp.status = .completed
  priority := priorityOfComp cfgPriority comp.priority

/-- What `local_record_from_comp` makes of a component, and the categories afterwards. -/
def localRecordFromComp (lib : ICalLibrary ζ) (charset : Charset) (defaultTz : ζ)
    (ai : CategoryAppInfo) (cfgPriority : Int) (comp : TodoComponent) :
    RemoteToDo × CategoryAppInfo :=
  let (category, ai) := Category.Shared.ePilotLocalCategoryToRemote charset comp.categories ai
  (⟨todoFromComp lib charset defaultTz cfgPriority comp, category,
    comp.classification = .classPrivate⟩, ai)

end Convert

/-! ## A record written and read again -/

section RoundTrip

variable {ζ : Type}

/-- The record after it was written over a component and read back. -/
def rewritten (lib : ICalLibrary ζ) (charset : Charset) (timezone defaultTz : ζ)
    (ai : CategoryAppInfo) (now : ICalTime) (cfgPriority : Int) (remote : RemoteToDo)
    (inComp : Option TodoComponent) : RemoteToDo :=
  (localRecordFromComp lib charset defaultTz ai cfgPriority
    (compFromRemoteRecord lib charset timezone ai now remote inComp)).1

/-- The fields that have to come back. -/
structure SameToDo (r r' : RemoteToDo) : Prop where
  description : r'.todo.description = r.todo.description
  note : r'.todo.note = r.todo.note
  indefinite : r'.todo.indefinite = r.todo.indefinite
  due : r.todo.indefinite = false → r'.todo.due.date = r.todo.due.date
  complete : r'.todo.complete = r.todo.complete
  priority : r'.todo.priority = r.todo.priority
  secret : r'.secret = r.secret

def KeepsPilot (charset : Charset) (text : Option CString) : Prop :=
  ∀ s, text = some s → charset.utf8ToPchar (charset.utf8FromPchar s) = s

def TodoComponent.hasDescription (comp : TodoComponent) : Prop :=
  comp.descriptions.head?.join ≠ none

theorem map_map_eq_iff {charset : Charset} {text : Option CString} :
    (text.map charset.utf8FromPchar).map charset.utf8ToPchar = text ↔
      KeepsPilot charset text := by
  unfold KeepsPilot
  cases text with
  | none => simp
  | some s => simp

theorem priority_iff (cfgPriority priority : Int) :
    priorityOfComp cfgPriority (priorityOfTodo priority) = priority ↔
      priority = 1 ∨ priority = 3 ∨ priority = 4 ∨ priority = 5 := by
  unfold priorityOfTodo priorityOfComp
  by_cases h1 : priority = 1
  · simp [h1]
  by_cases h2 : priority = 2
  · simp [h2]
  by_cases h3 : priority = 3
  · simp [h3]
  by_cases h4 : priority = 4
  · simp [h4]
  simp [h1, h2, h3, h4, eq_comm]

variable {lib : ICalLibrary ζ} {charset : Charset} {timezone defaultTz : ζ}
  {ai : CategoryAppInfo} {now : ICalTime} {cfgPriority : Int} {remote : RemoteToDo}
  {inComp : Option TodoComponent}

/-- The properties that are read afterwards. -/
theorem compFromRemoteRecord_spec :
    let comp := compFromRemoteRecord lib charset timezone ai now remote inComp
    comp.summary = remote.todo.description.map charset.utf8FromPchar ∧
    comp.descriptions = (writeNote charset remote.todo.note
      (inComp.getD TodoComponent.new)).descriptions ∧
    (comp.status = .completed ↔ remote.todo.complete = true) := by
  unfold compFromRemoteRecord writeComplete writeNote
  generalize inComp.getD TodoComponent.new = comp
  cases remote.todo.note <;> cases remote.todo.complete <;>
    by_cases hstatus : comp.status = .completed <;> simp [hstatus]

/-- A due date that is not empty is written as a date and comes back as it was. -/
theorem rewritten_due (hvalid : remote.todo.indefinite = false → remote.todo.due.Valid lib) :
    (rewritten lib charset timezone defaultTz ai now cfgPriority remote inComp).todo.indefinite =
      remote.todo.indefinite ∧
    (remote.todo.indefinite = false →
      (rewritten lib charset timezone defaultTz ai now cfgPriority remote inComp).todo.due =
        remote.todo.due) := by
  simp only [rewritten, localRecordFromComp, todoFromComp, compFromRemoteRecord]
  cases hindefinite : remote.todo.indefinite with
  | true => simp
  | false =>
      have hdue := hvalid hindefinite
      have hback := icaltimetypeToTm_date hdue
        (lib.getTimezone (lib.getTzid timezone)) defaultTz
      simp [isEmptyTime_eq_false hdue, dueFromComp, hback]

/-- What a record has to be like, and the component it is written over, to come back. -/
structure ComesBack (charset : Charset) (remote : RemoteToDo) (inComp : Option TodoComponent) :
    Prop where
  description : KeepsPilot charset remote.todo.description
  note : KeepsPilot charset remote.todo.note
  stale : remote.todo.note = none → ¬ (inComp.getD TodoComponent.new).hasDescription
  priority : remote.todo.priority = 1 ∨ remote.todo.priority = 3 ∨ remote.todo.priority = 4 ∨
    remote.todo.priority = 5

/-- The note that comes back is that of the record, or the one the component had. -/
theorem rewritten_note_iff :
    (rewritten lib charset timezone defaultTz ai now cfgPriority remote inComp).todo.note =
        remote.todo.note ↔
      KeepsPilot charset remote.todo.note ∧
        (remote.todo.note = none → ¬ (inComp.getD TodoComponent.new).hasDescription) := by
  obtain ⟨-, hdescriptions, -⟩ := @compFromRemoteRecord_spec _ lib charset timezone ai now remote
    inComp
  have hnote : (rewritten lib charset timezone defaultTz ai now cfgPriority remote
      inComp).todo.note = (writeNote charset remote.todo.note
        (inComp.getD TodoComponent.new)).descriptions.head?.join.map charset.utf8ToPchar :=
    congrArg (fun d : List (Option CString) => d.head?.join.map charset.utf8ToPchar) hdescriptions
  rw [hnote]
  unfold writeNote TodoComponent.hasDescription KeepsPilot
  cases remote.todo.note with
  | none => simp
  | some note => simp

/-- The record comes back if its texts do, its priority is none that shares its number on
the desktop with another, and, without a note, the component had none either. -/
theorem sameToDo_iff (hvalid : remote.todo.indefinite = false → remote.todo.due.Valid lib) :
    SameToDo remote
        (rewritten lib charset timezone defaultTz ai now cfgPriority remote inComp) ↔
      ComesBack charset remote inComp := by
  obtain ⟨hsummary, -, hstatus⟩ := @compFromRemoteRecord_spec _ lib charset timezone ai now remote
    inComp
  have hdescription : (rewritten lib charset timezone defaultTz ai now cfgPriority remote
      inComp).todo.description =
        (remote.todo.description.map charset.utf8FromPchar).map charset.utf8ToPchar :=
    congrArg (Option.map charset.utf8ToPchar) hsummary
  have hpriority : (rewritten lib charset timezone defaultTz ai now cfgPriority remote
      inComp).todo.priority =
        priorityOfComp cfgPriority (priorityOfTodo remote.todo.priority) := rfl
  have hcomplete : (rewritten lib charset timezone defaultTz ai now cfgPriority remote
      inComp).todo.complete = remote.todo.complete := by
    rw [Bool.eq_iff_iff, ← hstatus]
    exact decide_eq_true_iff
  have hsecret : (rewritten lib charset timezone defaultTz ai now cfgPriority remote
      inComp).secret = remote.secret := by
    simp only [rewritten, localRecordFromComp, compFromRemoteRecord]
    by_cases hprivate : remote.secret = true
    · simp [hprivate]
    · simp [hprivate]
  obtain ⟨hindefinite, hdue⟩ := @rewritten_due _ lib charset timezone defaultTz ai now cfgPriority
    remote inComp hvalid
  constructor
  · intro h
    obtain ⟨hnote, hstale⟩ := rewritten_note_iff.mp h.note
    exact ⟨map_map_eq_iff.mp (hdescription ▸ h.description), hnote, hstale,
      (priority_iff _ _).mp (hpriority ▸ h.priority)⟩
  · intro h
    exact {
      description := hdescription.trans (map_map_eq_iff.mpr h.description)
      note := rewritten_note_iff.mpr ⟨h.note, h.stale⟩
      indefinite := hindefinite
      due := fun hfalse => congrArg Tm.date (hdue hfalse)
      complete := hcomplete
      priority := hpriority.trans ((priority_iff _ _).mpr h.priority)
      secret := hsecret }

end RoundTrip

/-! ## A record of priority 2 -/

/-- One time zone, in which every time is in range. -/
def plainLibrary : ICalLibrary Unit where
  mktime t := t
  convertTime t _ _ := t
  getTimezone _ := ()
  getTzid _ := none
  utcTimezone := ()
  asTimet t _ := (((t.year * 372 + t.month * 31 + t.day) * 24 + t.hour) * 60 + t.minute) * 60 +
    t.second
  timeAddDay t _ := t + 86400
  convertTime_date _ _ _ _ := rfl
  convertTime_same _ _ := rfl

/-- The third of May 2004. -/
def dueDay : Tm := ⟨0, 0, 0, 3, 4, 104⟩

theorem dueDay_valid : dueDay.Valid plainLibrary :=
  ⟨rfl, by decide, by decide, by decide, by decide, by decide, by decide⟩

def dueRecord (priority : Int) (note : Option CString) : RemoteToDo :=
  ⟨⟨false, dueDay, priority, false, some ⟨[65], by decide⟩, note⟩, 0, false⟩

/-- A component with a note. -/
def notedComponent : TodoComponent :=
  { TodoComponent.new with descriptions := [some ⟨[66], by decide⟩] }

/-- Its priority comes back as 3; and a record without a note gets the old note of the
component. -/
theorem secondPriority_lost :
    ¬ SameToDo (dueRecord 2 none) (rewritten plainLibrary Category.plainCharset () ()
      Category.unfiledOnly icaltimeNullTime 1 (dueRecord 2 none) none) ∧
    (rewritten plainLibrary Category.plainCharset () () Category.unfiledOnly icaltimeNullTime 1
      (dueRecord 2 none) none).todo.priority = 3 ∧
    (rewritten plainLibrary Category.plainCharset () () Category.unfiledOnly icaltimeNullTime 1
      (dueRecord 1 none) (some notedComponent)).todo.note = some ⟨[66], by decide⟩ :=
  ⟨fun h => absurd h.priority (by decide), by decide, by decide⟩

theorem firstPriority_kept :
    SameToDo (dueRecord 1 (some ⟨[67], by decide⟩)) (rewritten plainLibrary Category.plainCharset
      () () Category.unfiledOnly icaltimeNullTime 1 (dueRecord 1 (some ⟨[67], by decide⟩))
      (some notedComponent)) :=
  (sameToDo_iff fun _ => dueDay_valid).mpr
    ⟨fun _ _ => rfl, fun _ _ => rfl, fun h => absurd h (Option.some_ne_none _), Or.inl rfl⟩

end GnomePilot.Todo
