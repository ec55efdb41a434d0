import Mathlib.Data.Nat.Basic

/-!
# Shifting slots

Numbered slots that may hold something, and a move from one slot to the next that
replaces what was there.  A shift makes the moves of the first slots one after the
other, the highest first, and goes on when one of them fails: what a slot held before is
then lost exactly if it could not be moved itself and the slot below it was.
-/

namespace GnomePilot.Slots

variable {α β : Type*}

/-- What slot `i` holds goes to slot `i + 1`, unless that fails. -/
def move (fails : Nat → Bool) (slots : Nat → Option α) (i : Nat) : Nat → Option α :=
  if (slots i).isSome && !fails i then
    fun j => if j = i + 1 then slots i else if j = i then none else slots j
  else slots

/-- The moves of the slots below `n`, the highest first. -/
def shift (fails : Nat → Bool) : Nat → (Nat → Option α) → Nat → Option α
  | 0, slots => slots
  | n + 1, slots => shift fails n (move fails slots n)

/-- The slot is moved in a shift of the slots below `n`. -/
def moves (fails : Nat → Bool) (n : Nat) (slots : Nat → Option α) (i : Nat) : Bool :=
  decide (i < n) && (slots i).isSome && !fails i

theorem move_of_ne (fails : Nat → Bool) (slots : Nat → Option α) {i j : Nat} (h : j ≠ i)
    (h' : j ≠ i + 1) : move fails slots i j = slots j := by
  unfold move
  split
  · simp [h, h']
  · rfl

theorem move_self (fails : Nat → Bool) (slots : Nat → Option α) (i : Nat) :
    move fails slots i i = if (slots i).isSome && !fails i then none else slots i := by
  unfold move
  split
  · simp
  · rfl

theorem move_succ (fails : Nat → Bool) (slots : Nat → Option α) (i : Nat) :
    move fails slots i (i + 1) =
      if (slots i).isSome && !fails i then slots i else slots (i + 1) := by
  unfold move
  split
  · simp
  · rfl

section Shift

variable (fails : Nat → Bool) (n : Nat) (slots : Nat → Option α)

/-- The highest move leaves the others to be made. -/
theorem moves_move_of_lt {i : Nat} (h : i < n) :
    moves fails n (move fails slots n) i = moves fails (n + 1) slots i := by
  simp [moves, move_of_ne fails slots (by omega : i ≠ n) (by omega : i ≠ n + 1), h,
    Nat.lt_succ_of_lt h]

theorem moves_of_le {i : Nat} (h : n ≤ i) : moves fails n slots i = false := by
  simp [moves, Nat.not_lt.mpr h]

theorem moves_top : moves fails (n + 1) slots n = ((slots n).isSome && !fails n) := by
  simp [moves]

theorem shift_eq :
    shift fails n slots 0 = (if moves fails n slots 0 then none else slots 0) ∧
      ∀ j, shift fails n slots (j + 1) =
        if moves fails n slots j then slots j
        else if moves fails n slots (j + 1) then none else slots (j + 1) := by
  induction n generalizing slots with
  | zero => simp [shift, moves]
  | succ n ih =>
      obtain ⟨hzero, hsucc⟩ := ih (move fails slots n)
      constructor
      · rw [shift, hzero]
        cases n with
        | zero => rw [moves_of_le fails 0 _ (Nat.le_refl 0), moves_top, move_self]; rfl
        | succ n =>
            rw [moves_move_of_lt fails (n + 1) slots (by omega),
              move_of_ne fails slots (by omega) (by omega)]
      · intro j
        rw [shift, hsucc j]
        rcases Nat.lt_trichotomy (j + 1) n with hlt | rfl | hgt
        · rw [moves_move_of_lt fails n slots (by omega), moves_move_of_lt fails n slots hlt,
            move_of_ne fails slots (by omega) (by omega),
            move_of_ne fails slots (by omega) (by omega)]
        · rw [moves_move_of_lt fails (j + 1) slots (by omega),
            moves_of_le fails (j + 1) _ (Nat.le_refl _), moves_top,
            move_of_ne fails slots (by omega : j ≠ j + 1) (by omega), move_self]
          rfl
        · rw [moves_of_le fails n _ (by omega), moves_of_le fails n _ (by omega),
            moves_of_le fails (n + 1) slots (by omega : n + 1 ≤ j + 1)]
          by_cases hj : j = n
          · rw [hj, moves_top, move_succ]
            rfl
          · rw [moves_of_le fails (n + 1) slots (by omega : n + 1 ≤ j),
              move_of_ne fails slots (by omega : j + 1 ≠ n) (by omega)]
            rfl

end Shift

/-- What the first slot holds is never lost. -/
theorem shift_keeps_zero (fails : Nat → Bool) (n : Nat) {slots : Nat → Option α} {x : α}
    (hx : slots 0 = some x) :
    shift fails n slots 0 = some x ∨ shift fails n slots 1 = some x := by
  obtain ⟨hzero, hsucc⟩ := shift_eq fails n slots
  rw [hzero, hsucc 0]
  by_cases hmoves : moves fails n slots 0 = true
  · exact Or.inr (by rw [if_pos hmoves, hx])
  · exact Or.inl (by rw [if_neg hmoves, hx])

/-- What a later slot holds stays there or moves on by one, up to the view `f`, unless
the slot itself is not moved and the one before it is. -/
theorem shift_keeps_succ_iff (f : α → β) (fails : Nat → Bool) (n : Nat)
    {slots : Nat → Option α} {i : Nat} {x : α} (hx : slots (i + 1) = some x) :
    ((shift fails n slots (i + 1)).map f = some (f x) ∨
        (shift fails n slots (i + 2)).map f = some (f x)) ↔
      moves fails n slots (i + 1) = true ∨ moves fails n slots i = false ∨
        (slots i).map f = some (f x) ∨
        (moves fails n slots (i + 2) = false ∧ (slots (i + 2)).map f = some (f x)) := by
  obtain ⟨-, hsucc⟩ := shift_eq fails n slots
  rw [hsucc i, hsucc (i + 1)]
  cases hself : moves fails n slots (i + 1) with
  | true => simp [hx]
  | false =>
      cases hbefore : moves fails n slots i with
      | false => simp [hx]
      | true =>
          cases hafter : moves fails n slots (i + 2) with
          | true => simp
          | false => simp

end GnomePilot.Slots
