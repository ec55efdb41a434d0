import Mathlib.Data.List.Basic
import Mathlib.Data.List.Range

/-!
# Walks over a list that fades

A walk goes through a list call by call and stops at one entry in each call.  Between the
calls entries may fade: whether a call stops at an entry depends on the call.  The turn of
an entry is the call that comes to it.
-/

namespace GnomePilot.Walk

variable {α : Type*}

/-- The entries at which the calls from the `k`th on stop, each with its call. -/
def walk (live : Nat → α → Bool) : Nat → List α → List (α × Nat)
  | _, [] => []
  | k, x :: xs => if live k x then (x, k) :: walk live (k + 1) xs else walk live k xs

/-- The call passes over the entries that have faded and stops at the next one. -/
theorem walk_eq_dropWhile (live : Nat → α → Bool) (k : Nat) (xs : List α) :
    walk live k xs = match xs.dropWhile fun x => !live k x with
      | [] => []
      | x :: rest => (x, k) :: walk live (k + 1) rest := by
  induction xs with
  | nil => rfl
  | cons x xs ih =>
      cases h : live k x with
      | false => simpa [walk, h] using ih
      | true => simp [walk, h]

theorem map_snd_walk (live : Nat → α → Bool) (k : Nat) (xs : List α) :
    (walk live k xs).map Prod.snd = List.range' k (walk live k xs).length := by
  induction xs generalizing k with
  | nil => rfl
  | cons x xs ih =>
      unfold walk
      cases live k x with
      | false => exact ih k
      | true => simp [ih (k + 1), List.range'_succ]

/-- Every entry has a turn, the turns come in the order of the list, and the walk stops at
those entries that are live at their turn. -/
theorem walk_turns (live : Nat → α → Bool) (k : Nat) (xs : List α) :
    ∃ turns : List Nat, turns.length = xs.length ∧ turns.Pairwise (· ≤ ·) ∧
      (∀ t ∈ turns, k ≤ t ∧ t ≤ k + (walk live k xs).length) ∧
      (xs.zip turns).filter (fun e => live e.2 e.1) = walk live k xs := by
  induction xs generalizing k with
  | nil => exact ⟨[], rfl, List.Pairwise.nil, fun _ h => absurd h List.not_mem_nil, rfl⟩
  | cons x xs ih =>
      unfold walk
      cases hlive : live k x with
      | false =>
          obtain ⟨turns, hlength, hle, hbound, hfilter⟩ := ih k
          refine ⟨k :: turns, by simp [hlength], ?_, ?_, ?_⟩
          · exact List.pairwise_cons.mpr ⟨fun t ht => (hbound t ht).1, hle⟩
          · intro t ht
            cases List.mem_cons.mp ht with
            | inl ht =>
                rw [ht]
                exact ⟨Nat.le_refl k, Nat.le_add_right k _⟩
            | inr ht => exact hbound t ht
          · simpa [hlive] using hfilter
      | true =>
          obtain ⟨turns, hlength, hle, hbound, hfilter⟩ := ih (k + 1)
          refine ⟨k :: turns, by simp [hlength], ?_, ?_, ?_⟩
          · exact List.pairwise_cons.mpr ⟨fun t ht => Nat.le_of_succ_le (hbound t ht).1, hle⟩
          · intro t ht
            rw [if_pos rfl, List.length_cons]
            cases List.mem_cons.mp ht with
            | inl ht =>
                rw [ht]
                exact ⟨Nat.le_refl k, Nat.le_add_right k _⟩
            | inr ht =>
                have ht := hbound t ht
                omega
          · simpa [hlive] using hfilter

end GnomePilot.Walk
