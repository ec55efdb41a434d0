import GnomePilot.Lib.KeyFile
import GnomePilot.Lib.Numeral
import Mathlib.Algebra.Group.Nat.Defs
import Mathlib.Data.List.Basic

/-!
# Queued requests

A request as the daemon hands it to the queue, the texts that stand for request
and sync types in the queue file, and the names of the sections.  Every pilot has
a list of its own and all system requests share one; a list is a section with a
counter, an element a section named after the list and a number.
-/

namespace GnomePilot.Queue

/-- `GPilotRequestType` -/
inductive RequestType where
  | pilotEvent | install | restore | conduit
  | cradleEvent | getSysinfo | getUserinfo | setUserinfo | newUserinfo
  | invalid
  deriving DecidableEq, Repr

/-- `GnomePilotConduitSyncType` -/
inductive SyncType where
  | custom
  | synchronize
  | copyFromPilot
  | copyToPilot
  | mergeFromPilot
  | mergeToPilot
  | notSet
  deriving DecidableEq, Repr

structure SetUserinfo where
  password : Option String
  userId : Option String
  continueSync : Bool
  pilotId : UInt32
  deriving DecidableEq, Repr

/-- The union of parameters with its tag; a null string is `none`. -/
inductive Parameters where
  | install (filename description : Option String)
  | restore (directory : Option String)
  | conduit (name : Option String) (how : SyncType)
  | getSysinfo
  | getUserinfo
  | setUserinfo (p : SetUserinfo)
  | newUserinfo (p : SetUserinfo)
  deriving DecidableEq, Repr

def Parameters.type : Parameters → RequestType
  | .install _ _ => .install
  | .restore _ => .restore
  | .conduit _ _ => .conduit
  | .getSysinfo => .getSysinfo
  | .getUserinfo => .getUserinfo
  | .setUserinfo _ => .setUserinfo
  | .newUserinfo _ => .newUserinfo

/-- `GPilotRequest`; `sectionName` is its `queue_data`. -/
structure GPilotRequest where
  pilotId : UInt32
  handle : UInt32
  timeout : UInt32
  cradle : Option String
  clientId : Option String
  parameters : Parameters
  sectionName : Option String
  deriving DecidableEq, Repr

def GPilotRequest.type (req : GPilotRequest) : RequestType := req.parameters.type

def isSystemRelated : RequestType → Bool
  | .cradleEvent | .setUserinfo | .getUserinfo | .getSysinfo | .newUserinfo => true
  | _ => false

/-- How every caller of `gpc_queue_store_request` fills a request: system requests
carry no pilot ID, pilot requests no cradle, and only `GREQ_SET_USERINFO` a
password or the wish to go on. -/
structure GPilotRequest.WellFormed (req : GPilotRequest) : Prop where
  system : isSystemRelated req.type = true → req.pilotId = 0
  pilot : isSystemRelated req.type = false → req.pilotId ≠ 0 ∧ req.cradle = none
  newUserinfo : ∀ p, req.parameters = .newUserinfo p →
    p.password = none ∧ p.continueSync = false

/-- A request some caller stores. -/
structure DaemonRequest extends GPilotRequest where
  wellFormed : toGPilotRequest.WellFormed
  deriving DecidableEq

/-! ## Texts -/

/-- `g_ascii_strcasecmp (a, b) == 0` -/
def sameIgnoringCase (a b : String) : Bool := a.toList.map Char.toLower = b.toList.map Char.toLower

def requestTypeFromString : Option String → RequestType
  | none => .invalid
  | some str =>
    if sameIgnoringCase str "GREQ_INSTALL" then .install
    else if sameIgnoringCase str "GREQ_RESTORE" then .restore
    else if sameIgnoringCase str "GREQ_CONDUIT" then .conduit
    else if sameIgnoringCase str "GREQ_SET_USERINFO" then .setUserinfo
    else if sameIgnoringCase str "GREQ_GET_USERINFO" then .getUserinfo
    else if sameIgnoringCase str "GREQ_GET_SYSINFO" then .getSysinfo
    else if sameIgnoringCase str "GREQ_NEW_USERINFO" then .newUserinfo
    else .invalid

/-- The text `gpc_queue_store_request` writes for each type it accepts. -/
def Parameters.typeText : Parameters → String
  | .install _ _ => "GREQ_INSTALL"
  | .restore _ => "GREQ_RESTORE"
  | .conduit _ _ => "GREQ_CONDUIT"
  | .newUserinfo _ => "GREQ_NEW_USERINFO"
  | .setUserinfo _ => "GREQ_SET_USERINFO"
  | .getUserinfo => "GREQ_GET_USERINFO"
  | .getSysinfo => "GREQ_GET_SYSINFO"

theorem requestTypeFromString_typeText (p : Parameters) :
    requestTypeFromString (some p.typeText) = p.type := by
  cases p <;> simp only [Parameters.typeText, Parameters.type] <;> decide

/-- `gnome_pilot_conduit_sync_type_int_to_str` -/
def syncTypeIntToStr : SyncType → String
  | .custom => "custom"
  | .synchronize => "synchronize"
  | .copyFromPilot => "copy_from_pilot"
  | .copyToPilot => "copy_to_pilot"
  | .mergeFromPilot => "merge_from_pilot"
  | .mergeToPilot => "merge_to_pilot"
  | .notSet => "not_set"

/-- `gnome_pilot_conduit_sync_type_str_to_int` -/
def syncTypeStrToInt : Option String → SyncType
  | none => .notSet
  | some s =>
    if s = "synchronize" then .synchronize
    else if s = "copy_to_pilot" then .copyToPilot
    else if s = "copy_from_pilot" then .copyFromPilot
    else if s = "merge_to_pilot" then .mergeToPilot
    else if s = "merge_from_pilot" then .mergeFromPilot
    else if s = "custom" then .custom
    else .notSet

theorem syncTypeStrToInt_intToStr (e : SyncType) :
    syncTypeStrToInt (some (syncTypeIntToStr e)) = e := by
  cases e <;> decide

/-! ## Sections -/

/-- `set_section`: the section of a list. -/
def setSection (pilotId : UInt32) (type : RequestType) : String :=
  if isSystemRelated type then "system" else toString pilotId.toNat

/-- The section `set_section_num` gives the element with a number. -/
def sectionOf (pilotId : UInt32) (type : RequestType) (num : UInt32) : String :=
  if isSystemRelated type then "system" ++ "-" ++ toString num.toInt32.toInt
  else toString pilotId.toNat ++ "-" ++ toString num.toNat

/-- `set_section_num`: the handle and the section of the element with a number. -/
def setSectionNum (pilotId : UInt32) (type : RequestType) (num : UInt32) : UInt32 × String :=
  (if isSystemRelated type then num else pilotId * 65535 + num, sectionOf pilotId type num)

/-- Decimal digits hold no dash. -/
theorem dash_notMem_toString (n : Nat) : '-' ∉ (toString n).toList := by
  intro h
  rw [Nat.toString_eq_repr, Nat.toList_repr] at h
  have hdigit := Nat.isDigit_of_mem_toDigits (by decide) (by decide) h
  revert hdigit
  decide

/-- A negative number starts with a dash. -/
theorem toString_int_injective {m n : Int} (h : toString m = toString n) : m = n := by
  have hneg : ∀ a b : Nat, toString a ≠ "-" ++ toString b := by
    intro a b heq
    have hdash := dash_notMem_toString a
    rw [heq] at hdash
    simp at hdash
  cases m with
  | ofNat a =>
      cases n with
      | ofNat b => exact congrArg Int.ofNat (Numeral.toString_nat_injective h)
      | negSucc b => exact absurd h (hneg a (b + 1))
  | negSucc a =>
      cases n with
      | ofNat b => exact absurd h.symm (hneg b (a + 1))
      | negSucc b =>
          have hlist := congrArg String.toList
            (show "-" ++ toString (a + 1) = "-" ++ toString (b + 1) from h)
          simp only [String.toList_append, List.append_cancel_left_eq] at hlist
          have := Numeral.toString_nat_injective (String.toList_inj.mp hlist)
          rw [show a = b by omega]

theorem toString_ne_system (n : Nat) : toString n ≠ "system" := by
  intro h
  have hmem : 's' ∈ (toString n).toList := by
    rw [h]
    decide
  rw [Nat.toString_eq_repr, Nat.toList_repr] at hmem
  have hdigit := Nat.isDigit_of_mem_toDigits (by decide) (by decide) hmem
  revert hdigit
  decide

/-- Names split at their first dash. -/
theorem eq_and_eq_of_dash {a b c d : String} (ha : '-' ∉ a.toList) (hb : '-' ∉ b.toList)
    (h : a ++ "-" ++ c = b ++ "-" ++ d) : a = b ∧ c = d := by
  have hlist := congrArg String.toList h
  simp only [String.toList_append, List.append_assoc] at hlist
  have hkey : ∀ (as bs cs ds : List Char), '-' ∉ as → '-' ∉ bs →
      as ++ ('-' :: cs) = bs ++ ('-' :: ds) → as = bs ∧ cs = ds := by
    intro as
    induction as with
    | nil =>
        intro bs cs ds _ hb h
        cases bs with
        | nil => simpa using h
        | cons b bs =>
            simp only [List.nil_append, List.cons_append, List.cons.injEq] at h
            exact absurd (by rw [h.1]; exact List.mem_cons_self) hb
    | cons a as ih =>
        intro bs cs ds ha hb h
        cases bs with
        | nil =>
            simp only [List.nil_append, List.cons_append, List.cons.injEq] at h
            exact absurd (by rw [h.1]; exact List.mem_cons_self) ha
        | cons b bs =>
            simp only [List.cons_append, List.cons.injEq] at h
            obtain ⟨rfl, h⟩ := h
            obtain ⟨rfl, rfl⟩ := ih bs cs ds (fun h => ha (List.mem_cons_of_mem _ h))
              (fun h => hb (List.mem_cons_of_mem _ h)) h
            exact ⟨rfl, rfl⟩
  obtain ⟨hab, hcd⟩ := hkey a.toList b.toList c.toList d.toList ha hb hlist
  exact ⟨String.toList_inj.mp hab, String.toList_inj.mp hcd⟩

theorem dash_notMem_setSection (pilotId : UInt32) (type : RequestType) :
    '-' ∉ (setSection pilotId type).toList := by
  unfold setSection
  split
  · decide
  · exact dash_notMem_toString _

/-- What follows the dash in an element's name. -/
def numText (type : RequestType) (num : UInt32) : String :=
  if isSystemRelated type then toString num.toInt32.toInt else toString num.toNat

theorem sectionOf_eq (pilotId : UInt32) (type : RequestType) (num : UInt32) :
    sectionOf pilotId type num = setSection pilotId type ++ "-" ++ numText type num := by
  unfold sectionOf setSection numText
  split <;> rfl

/-- A list's section is no element's. -/
theorem setSection_ne_sectionOf (pilotId pilotId' : UInt32) (type type' : RequestType)
    (num : UInt32) : setSection pilotId type ≠ sectionOf pilotId' type' num := by
  intro h
  have hdash := dash_notMem_setSection pilotId type
  rw [h, sectionOf_eq] at hdash
  simp at hdash

theorem setSection_inj {pilotId pilotId' : UInt32} {type type' : RequestType} :
    setSection pilotId type = setSection pilotId' type' ↔
      isSystemRelated type = isSystemRelated type' ∧
        (isSystemRelated type = false → pilotId = pilotId') := by
  unfold setSection
  cases isSystemRelated type with
  | true =>
      cases isSystemRelated type' with
      | true => exact ⟨fun _ => ⟨rfl, fun h => Bool.noConfusion h⟩, fun _ => rfl⟩
      | false =>
          exact ⟨fun h => absurd h.symm (toString_ne_system _), fun h => Bool.noConfusion h.1⟩
  | false =>
      cases isSystemRelated type' with
      | true => exact ⟨fun h => absurd h (toString_ne_system _), fun h => Bool.noConfusion h.1⟩
      | false =>
          constructor
          · intro h
            exact ⟨rfl, fun _ => UInt32.toNat_inj.mp (Numeral.toString_nat_injective h)⟩
          · rintro ⟨-, h⟩
            rw [h rfl]

/-- Elements of different lists or with different numbers have different sections. -/
theorem sectionOf_inj {pilotId pilotId' : UInt32} {type type' : RequestType}
    {num num' : UInt32} : sectionOf pilotId type num = sectionOf pilotId' type' num' ↔
      setSection pilotId type = setSection pilotId' type' ∧ num = num' := by
  rw [sectionOf_eq, sectionOf_eq]
  constructor
  · intro h
    obtain ⟨hlist, hnum⟩ := eq_and_eq_of_dash (dash_notMem_setSection pilotId type)
      (dash_notMem_setSection pilotId' type') h
    refine ⟨hlist, ?_⟩
    have htype := (setSection_inj.mp hlist).1
    unfold numText at hnum
    rw [← htype] at hnum
    cases hs : isSystemRelated type with
    | true =>
        simp only [hs, if_true] at hnum
        have hint := Int32.toInt_inj.mp (toString_int_injective hnum)
        simpa using congrArg Int32.toUInt32 hint
    | false =>
        simp only [hs, Bool.false_eq_true, if_false] at hnum
        exact UInt32.toNat_inj.mp (Numeral.toString_nat_injective hnum)
  · rintro ⟨hlist, rfl⟩
    have htype := (setSection_inj.mp hlist).1
    simp [hlist, numText, htype]

end GnomePilot.Queue
