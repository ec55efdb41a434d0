import Mathlib.Data.List.Basic

/-!
# Acquire and release in a call log

Each call of a log may open a resource, use it, close it, or have nothing to do
with it.  A log is bracketed when every use and every close finds the resource
open, nothing opens it twice, and it is closed at the end.
-/

namespace GnomePilot.Bracket

/-- What a call does with the resource. -/
inductive Role where
  | opens
  | uses
  | closes
  | other
  deriving DecidableEq, Repr

/-- May stand between an open and its close. -/
def Role.inside : Role → Bool
  | .uses | .other => true
  | _ => false

variable {κ : Type*} (role : κ → Role)

/-- Whether the resource is held after the calls; `none` when one of them found
it the wrong way. -/
def held : Bool → List κ → Option Bool
  | b, [] => some b
  | b, c :: cs =>
    match role c, b with
    | .opens, false => held true cs
    | .uses, true => held true cs
    | .closes, true => held false cs
    | .other, b => held b cs
    | _, _ => none

/-- Oldest call first. -/
def Bracketed (cs : List κ) : Prop := held role false cs = some false

instance (cs : List κ) : Decidable (Bracketed role cs) :=
  inferInstanceAs (Decidable (held role false cs = some false))

variable {role}

theorem held_opens {c : κ} (hc : role c = .opens) (cs : List κ) :
    held role false (c :: cs) = held role true cs := by
  simp [held, hc]

theorem held_closes {c : κ} (hc : role c = .closes) (cs : List κ) :
    held role true (c :: cs) = held role false cs := by
  simp [held, hc]

/-- Calls between an open and its close leave the resource open. -/
theorem held_inside {mid : List κ} (hmid : ∀ c ∈ mid, (role c).inside = true) (cs : List κ) :
    held role true (mid ++ cs) = held role true cs := by
  induction mid with
  | nil => rfl
  | cons c mid ih =>
      have hrest := ih fun d hd => hmid d (List.mem_cons_of_mem c hd)
      have hc := hmid c List.mem_cons_self
      rw [List.cons_append, ← hrest]
      cases hrole : role c <;> simp_all [held, Role.inside]

/-- An open, calls that use what it opened, and nothing else: still held. -/
theorem not_bracketed_open {mid : List κ} (hmid : ∀ c ∈ mid, (role c).inside = true) {o : κ}
    (ho : role o = .opens) : ¬ Bracketed role (o :: mid) := by
  have hheld := held_inside hmid []
  rw [List.append_nil] at hheld
  rw [Bracketed, held_opens ho, hheld]
  simp [held]

theorem bracketed_closed {mid : List κ} (hmid : ∀ c ∈ mid, (role c).inside = true) {o c : κ}
    (ho : role o = .opens) (hc : role c = .closes) : Bracketed role (o :: (mid ++ [c])) := by
  rw [Bracketed, held_opens ho, held_inside hmid, held_closes hc]
  rfl

end GnomePilot.Bracket
