import Mathlib.Data.List.Basic

/-!
# Escape sequences of one length

A text is escaped character by character: a character stays as it is or becomes a longer
sequence, and all the sequences have the same length.
-/

namespace GnomePilot.Escape

variable {α : Type*} {escape : α → List α} {k : Nat}

/-- The sequences have `k` characters. -/
structure Uniform (escape : α → List α) (k : Nat) : Prop where
  wide : 1 < k
  length : ∀ c, escape c = [c] ∨ (escape c).length = k

theorem Uniform.length_le (h : Uniform escape k) (c : α) : (escape c).length ≤ k := by
  have hwide := h.wide
  cases h.length c with
  | inl hplain =>
      rw [hplain, List.length_singleton]
      omega
  | inr hlength => omega

theorem Uniform.length_lt_iff (h : Uniform escape k) (c : α) :
    (escape c).length < k ↔ escape c = [c] := by
  constructor
  · intro hlt
    cases h.length c with
    | inl hplain => exact hplain
    | inr hlength => omega
  · intro hplain
    rw [hplain]
    exact h.wide

theorem Uniform.length_flatMap_le (h : Uniform escape k) (s : List α) :
    (s.flatMap escape).length ≤ k * s.length := by
  induction s with
  | nil => exact Nat.le_refl 0
  | cons c s ih =>
      have hc := h.length_le c
      rw [List.flatMap_cons, List.length_append, List.length_cons, Nat.mul_succ]
      omega

/-- The room for the longest text of this length has a place left exactly if some character
is not escaped. -/
theorem Uniform.length_flatMap_lt_iff (h : Uniform escape k) (s : List α) :
    (s.flatMap escape).length < k * s.length ↔ ∃ c ∈ s, escape c = [c] := by
  induction s with
  | nil => simp
  | cons c s ih =>
      have hc := h.length_le c
      have hs := h.length_flatMap_le s
      rw [List.exists_mem_cons_iff, ← ih, ← h.length_lt_iff c, List.flatMap_cons,
        List.length_append, List.length_cons, Nat.mul_succ]
      omega

end GnomePilot.Escape
