import Mathlib.Data.List.Basic
import Mathlib.Data.List.Nodup

/-!
# Loops that treat each key once

A loop over distinct keys whose body at a key changes one component of the state
and leaves the others alone acts on every component separately.  A component is
given by a view of the state; the rules below reduce what a whole loop does to a
view to what one turn does to it.
-/

namespace GnomePilot.Loop

variable {σ κ β : Type*}

/-- A property kept by every turn is kept by the loop. -/
theorem foldl_inv (Inv : σ → Prop) (step : σ → κ → σ)
    (hstep : ∀ s k, Inv s → Inv (step s k)) (ks : List κ) (s : σ) (hs : Inv s) :
    Inv (ks.foldl step s) := by
  induction ks generalizing s with
  | nil => exact hs
  | cons k ks ih => exact ih (step s k) (hstep s k hs)

/-- A view that only the turn at `k₀` changes is changed once, by that turn, if
the loop reaches `k₀`. -/
theorem foldl_view_at [DecidableEq κ] (Inv : σ → Prop) (step : σ → κ → σ) (view : σ → β)
    (f : β → β) (k₀ : κ)
    (hinv : ∀ s k, Inv s → Inv (step s k))
    (hself : ∀ s, Inv s → view (step s k₀) = f (view s))
    (hother : ∀ s k, Inv s → k ≠ k₀ → view (step s k) = view s)
    (ks : List κ) (hks : ks.Nodup) (s : σ) (hs : Inv s) :
    view (ks.foldl step s) = if k₀ ∈ ks then f (view s) else view s := by
  induction ks generalizing s with
  | nil => simp
  | cons k ks ih =>
      obtain ⟨hk, hks⟩ := List.nodup_cons.mp hks
      rw [List.foldl_cons, ih hks (step s k) (hinv s k hs)]
      by_cases heq : k = k₀
      · subst heq
        simp [hk, hself s hs]
      · have hne : k₀ ≠ k := fun h => heq h.symm
        simp [hne, hother s k hs heq]

/-- A projection that turns every turn into a turn of a smaller loop turns the
whole loop into the smaller loop. -/
theorem foldl_proj {τ : Type*} (Inv : σ → Prop) (step : σ → κ → σ) (step' : τ → κ → τ)
    (proj : σ → τ)
    (hinv : ∀ s k, Inv s → Inv (step s k))
    (hproj : ∀ s k, Inv s → proj (step s k) = step' (proj s) k)
    (ks : List κ) (s : σ) (hs : Inv s) :
    proj (ks.foldl step s) = ks.foldl step' (proj s) := by
  induction ks generalizing s with
  | nil => rfl
  | cons k ks ih =>
      rw [List.foldl_cons, List.foldl_cons, ih (step s k) (hinv s k hs), hproj s k hs]

end GnomePilot.Loop
