import Mathlib.Data.List.Basic

/-!
# Calendar and address book on the server

What the conduits of the desktop applications use of the data server: the objects
it holds by uid and the calls that create, modify and remove one.  Every call can
fail, and the server may store a new object under another uid than the one it came
with.
-/

namespace GnomePilot

/-- A calendar component or a contact. -/
structure EdsObject (α : Type) where
  uid : String
  content : α
  deriving DecidableEq, Repr

/-- The error a failed call leaves; `unset` when it leaves none. -/
inductive EdsError where
  | unset
  | notFound
  | other
  deriving DecidableEq, Repr

/-- How the server takes a call: the error it fails with, if any, and the uid it
gives a new object for the one the object came with. -/
structure EdsAnswer where
  error : Option EdsError
  newUid : Option String → String

/-- The objects in the order the server lists them. -/
structure EdsStore (α : Type) where
  objects : List (EdsObject α)
  deriving DecidableEq

namespace EdsStore

variable {α : Type}

def has (st : EdsStore α) (uid : String) : Bool := st.objects.any fun o => o.uid = uid

def create (a : EdsAnswer) (st : EdsStore α) (uid : Option String) (content : α) :
    Option String × EdsStore α :=
  match a.error with
  | some _ => (none, st)
  | none =>
      if st.has (a.newUid uid) then (none, st)
      else (some (a.newUid uid), ⟨st.objects ++ [⟨a.newUid uid, content⟩]⟩)

/-- Every object under the uid of `o` becomes `o`. -/
def modify (a : EdsAnswer) (st : EdsStore α) (o : EdsObject α) : Bool × EdsStore α :=
  match a.error with
  | some _ => (false, st)
  | none =>
      if st.has o.uid then
        (true, ⟨st.objects.map fun p => if p.uid = o.uid then o else p⟩)
      else (false, st)

/-- Every object under the uid goes; the error if none did. -/
def remove (a : EdsAnswer) (st : EdsStore α) (uid : String) : Option EdsError × EdsStore α :=
  match a.error with
  | some e => (some e, st)
  | none =>
      if st.has uid then (none, ⟨st.objects.filter fun o => o.uid ≠ uid⟩)
      else (some .notFound, st)

/-! ## What a call does -/

theorem has_iff {st : EdsStore α} {uid : String} :
    st.has uid = true ↔ ∃ o ∈ st.objects, o.uid = uid := by
  simp [has]

@[simp] theorem has_append (objects : List (EdsObject α)) (o : EdsObject α) (uid : String) :
    (EdsStore.mk (objects ++ [o])).has uid =
      ((EdsStore.mk objects).has uid || decide (o.uid = uid)) := by
  simp [has]

theorem has_filter (objects : List (EdsObject α)) (uid uid' : String) :
    (EdsStore.mk (objects.filter fun o => o.uid ≠ uid)).has uid' =
      (decide (uid' ≠ uid) && (EdsStore.mk objects).has uid') := by
  rw [Bool.eq_iff_iff, has_iff]
  simp only [List.mem_filter, decide_eq_true_eq, Bool.and_eq_true, has_iff]
  constructor
  · intro ⟨o, ⟨ho, hne⟩, huid⟩
    exact ⟨huid ▸ hne, o, ho, huid⟩
  · intro ⟨hne, o, ho, huid⟩
    exact ⟨o, ⟨ho, huid ▸ hne⟩, huid⟩

/-- A creation fails and changes nothing, or appends the object under a free uid. -/
theorem create_cases (a : EdsAnswer) (st : EdsStore α) (uid : Option String) (content : α) :
    st.create a uid content = (none, st) ∨
    (a.error = none ∧ st.has (a.newUid uid) = false ∧ st.create a uid content =
      (some (a.newUid uid), ⟨st.objects ++ [⟨a.newUid uid, content⟩]⟩)) := by
  unfold create
  cases a.error with
  | some e => exact Or.inl rfl
  | none =>
      cases hhas : st.has (a.newUid uid) with
      | true => simp
      | false => simp

theorem modify_cases (a : EdsAnswer) (st : EdsStore α) (o : EdsObject α) :
    st.modify a o = (false, st) ∨
    (st.has o.uid = true ∧ st.modify a o =
      (true, ⟨st.objects.map fun p => if p.uid = o.uid then o else p⟩)) := by
  unfold modify
  cases a.error with
  | some e => exact Or.inl rfl
  | none =>
      cases hhas : st.has o.uid with
      | true => simp
      | false => simp

/-- A removal fails and changes nothing, or takes every object of the uid. -/
theorem remove_cases (a : EdsAnswer) (st : EdsStore α) (uid : String) :
    (a.error = none ∧ st.has uid = true ∧ st.remove a uid =
      (none, ⟨st.objects.filter fun o => o.uid ≠ uid⟩)) ∨
    (a.error = none ∧ st.has uid = false ∧ st.remove a uid = (some .notFound, st)) ∨
    ∃ e, a.error = some e ∧ st.remove a uid = (some e, st) := by
  unfold remove
  cases a.error with
  | some e => exact Or.inr (Or.inr ⟨e, rfl, rfl⟩)
  | none =>
      cases hhas : st.has uid with
      | true => simp
      | false => simp

end EdsStore

end GnomePilot
