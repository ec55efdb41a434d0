import Mathlib.Data.List.Basic

/-!
# Key files

Groups of keys with values.  A value keeps the type it was set with and is found
by the getter of that type only; a getter that finds nothing returns null, zero
or false.
-/

namespace GnomePilot

inductive KeyFile.Value where
  | string (text : String)
  | integer (n : Int32)
  | boolean (b : Bool)
  deriving DecidableEq

/-- The values by group and key. -/
structure KeyFile where
  value : String → String → Option KeyFile.Value

namespace KeyFile

def empty : KeyFile := ⟨fun _ _ => none⟩

def set (kf : KeyFile) (group key : String) (v : Value) : KeyFile :=
  ⟨fun g k => if g = group ∧ k = key then some v else kf.value g k⟩

def setString (kf : KeyFile) (group key : String) (text : Option String) : KeyFile :=
  match text with
  | some text => kf.set group key (.string text)
  | none => kf

def setInteger (kf : KeyFile) (group key : String) (n : Int32) : KeyFile :=
  kf.set group key (.integer n)

def setBoolean (kf : KeyFile) (group key : String) (b : Bool) : KeyFile :=
  kf.set group key (.boolean b)

def removeGroup (kf : KeyFile) (group : Option String) : KeyFile :=
  ⟨fun g k => if some g = group then none else kf.value g k⟩

def removeKey (kf : KeyFile) (group key : String) : KeyFile :=
  ⟨fun g k => if g = group ∧ k = key then none else kf.value g k⟩

def getString (kf : KeyFile) (group key : String) : Option String :=
  match kf.value group key with
  | some (.string text) => some text
  | _ => none

def getInteger (kf : KeyFile) (group key : String) : Int32 :=
  match kf.value group key with
  | some (.integer n) => n
  | _ => 0

/-- What `getInteger` finds, with the error it reports when there is nothing. -/
def getInteger? (kf : KeyFile) (group key : String) : Option Int32 :=
  match kf.value group key with
  | some (.integer n) => some n
  | _ => none

def getBoolean (kf : KeyFile) (group key : String) : Bool :=
  match kf.value group key with
  | some (.boolean b) => b
  | _ => false

/-! ## One group -/

def Lacks (kf : KeyFile) (group : String) : Prop := ∀ k, kf.value group k = none

@[simp] theorem value_set (kf : KeyFile) (group key : String) (v : Value) (g k : String) :
    (kf.set group key v).value g k = if g = group ∧ k = key then some v else kf.value g k := rfl

theorem value_set_of_ne (kf : KeyFile) {group g : String} (h : g ≠ group) (key : String)
    (v : Value) : (kf.set group key v).value g = kf.value g := by
  funext k
  simp [h]

theorem value_setString_of_ne (kf : KeyFile) {group g : String} (h : g ≠ group) (key : String)
    (text : Option String) : (kf.setString group key text).value g = kf.value g := by
  cases text with
  | none => rfl
  | some text => exact kf.value_set_of_ne h key _

@[simp] theorem value_removeGroup (kf : KeyFile) (group : Option String) (g k : String) :
    (kf.removeGroup group).value g k = if some g = group then none else kf.value g k := rfl

theorem value_removeGroup_of_ne (kf : KeyFile) {group : Option String} {g : String}
    (h : some g ≠ group) : (kf.removeGroup group).value g = kf.value g := by
  funext k
  simp [h]

theorem lacks_removeGroup (kf : KeyFile) (group : String) :
    (kf.removeGroup (some group)).Lacks group := by
  intro k
  simp

theorem lacks_congr {kf kf' : KeyFile} {group : String} (h : kf.value group = kf'.value group) :
    kf.Lacks group ↔ kf'.Lacks group := by
  simp [Lacks, h]

@[simp] theorem value_removeKey (kf : KeyFile) (group key g k : String) :
    (kf.removeKey group key).value g k =
      if g = group ∧ k = key then none else kf.value g k := rfl

theorem value_removeKey_of_ne (kf : KeyFile) {group g : String} (h : g ≠ group) (key : String) :
    (kf.removeKey group key).value g = kf.value g := by
  funext k
  simp [h]

/-! ## Getters after setters -/

theorem getString_congr {kf kf' : KeyFile} {group : String}
    (h : kf.value group = kf'.value group) (key : String) :
    kf.getString group key = kf'.getString group key := by
  simp [getString, h]

theorem getInteger_congr {kf kf' : KeyFile} {group : String}
    (h : kf.value group = kf'.value group) (key : String) :
    kf.getInteger group key = kf'.getInteger group key := by
  simp [getInteger, h]

theorem getInteger_eq_getD (kf : KeyFile) (group key : String) :
    kf.getInteger group key = (kf.getInteger? group key).getD 0 := by
  unfold getInteger getInteger?
  split <;> rfl

theorem getInteger?_congr {kf kf' : KeyFile} {group : String}
    (h : kf.value group = kf'.value group) (key : String) :
    kf.getInteger? group key = kf'.getInteger? group key := by
  simp [getInteger?, h]

theorem getBoolean_congr {kf kf' : KeyFile} {group : String}
    (h : kf.value group = kf'.value group) (key : String) :
    kf.getBoolean group key = kf'.getBoolean group key := by
  simp [getBoolean, h]

theorem Lacks.getString {kf : KeyFile} {group : String} (h : kf.Lacks group) (key : String) :
    kf.getString group key = none := by
  simp [KeyFile.getString, h key]

theorem Lacks.getInteger {kf : KeyFile} {group : String} (h : kf.Lacks group) (key : String) :
    kf.getInteger group key = 0 := by
  simp [KeyFile.getInteger, h key]

theorem Lacks.getBoolean {kf : KeyFile} {group : String} (h : kf.Lacks group) (key : String) :
    kf.getBoolean group key = false := by
  simp [KeyFile.getBoolean, h key]

theorem getString_setString (kf : KeyFile) (group key : String) (text : Option String)
    (g k : String) : (kf.setString group key text).getString g k =
      if g = group ∧ k = key then text.or (kf.getString g k) else kf.getString g k := by
  cases text with
  | none => simp [setString]
  | some text => by_cases h : g = group ∧ k = key <;> simp [getString, setString, h]

theorem getString_setInteger (kf : KeyFile) (group key : String) (n : Int32) (g k : String) :
    (kf.setInteger group key n).getString g k =
      if g = group ∧ k = key then none else kf.getString g k := by
  by_cases h : g = group ∧ k = key <;> simp [getString, setInteger, h]

theorem getString_setBoolean (kf : KeyFile) (group key : String) (b : Bool) (g k : String) :
    (kf.setBoolean group key b).getString g k =
      if g = group ∧ k = key then none else kf.getString g k := by
  by_cases h : g = group ∧ k = key <;> simp [getString, setBoolean, h]

theorem getInteger_setInteger (kf : KeyFile) (group key : String) (n : Int32) (g k : String) :
    (kf.setInteger group key n).getInteger g k =
      if g = group ∧ k = key then n else kf.getInteger g k := by
  by_cases h : g = group ∧ k = key <;> simp [getInteger, setInteger, h]

theorem getInteger?_setInteger (kf : KeyFile) (group key : String) (n : Int32) (g k : String) :
    (kf.setInteger group key n).getInteger? g k =
      if g = group ∧ k = key then some n else kf.getInteger? g k := by
  by_cases h : g = group ∧ k = key <;> simp [getInteger?, setInteger, h]

theorem getInteger?_setString (kf : KeyFile) (group key : String) (text : Option String)
    {g k : String} (h : ¬ (g = group ∧ k = key)) :
    (kf.setString group key text).getInteger? g k = kf.getInteger? g k := by
  cases text <;> simp [getInteger?, setString, h]

theorem getInteger_setString (kf : KeyFile) (group key : String) (text : Option String)
    {g k : String} (h : ¬ (g = group ∧ k = key)) :
    (kf.setString group key text).getInteger g k = kf.getInteger g k := by
  cases text <;> simp [getInteger, setString, h]

theorem getInteger_setBoolean (kf : KeyFile) (group key : String) (b : Bool) {g k : String}
    (h : ¬ (g = group ∧ k = key)) :
    (kf.setBoolean group key b).getInteger g k = kf.getInteger g k := by
  simp [getInteger, setBoolean, h]

theorem getBoolean_setBoolean (kf : KeyFile) (group key : String) (b : Bool) :
    (kf.setBoolean group key b).getBoolean group key = b := by
  simp [getBoolean, setBoolean]

theorem getBoolean_setInteger (kf : KeyFile) (group key : String) (n : Int32) {g k : String}
    (h : ¬ (g = group ∧ k = key)) :
    (kf.setInteger group key n).getBoolean g k = kf.getBoolean g k := by
  simp [getBoolean, setInteger, h]

theorem getBoolean_setString (kf : KeyFile) (group key : String) (text : Option String)
    {g k : String} (h : ¬ (g = group ∧ k = key)) :
    (kf.setString group key text).getBoolean g k = kf.getBoolean g k := by
  cases text <;> simp [getBoolean, setString, h]

theorem getString_removeKey (kf : KeyFile) (group key g k : String) :
    (kf.removeKey group key).getString g k =
      if g = group ∧ k = key then none else kf.getString g k := by
  by_cases h : g = group ∧ k = key <;> simp [getString, h]

theorem getBoolean_removeKey (kf : KeyFile) (group key g k : String) :
    (kf.removeKey group key).getBoolean g k =
      if g = group ∧ k = key then false else kf.getBoolean g k := by
  by_cases h : g = group ∧ k = key <;> simp [getBoolean, h]

end KeyFile

end GnomePilot
