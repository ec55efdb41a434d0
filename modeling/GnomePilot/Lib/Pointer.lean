import Mathlib.Data.List.Range
import Mathlib.Logic.Function.Basic

/-!
# Writing through a pointer

A pointer moves up through an object as the object is written through it.  Nothing stops it
at the end of the object: the places it wrote to are kept, and whether they are all in the
object is a property of the run.
-/

namespace GnomePilot

/-- A pointer that is `offset` places from the begin of its object, the memory from there
on, and the places that were written, the last one first. -/
structure Pointer (β : Type*) where
  offset : Nat
  memory : Nat → β
  stores : List Nat

namespace Pointer

variable {β : Type*}

/-- A pointer to the begin of an object. -/
def start (memory : Nat → β) : Pointer β := ⟨0, memory, []⟩

/-- `*(d++) = b` -/
def put (d : Pointer β) (b : β) : Pointer β where
  offset := d.offset + 1
  memory := Function.update d.memory d.offset b
  stores := d.offset :: d.stores

@[simp] theorem offset_put (d : Pointer β) (b : β) : (d.put b).offset = d.offset + 1 := rfl

@[simp] theorem memory_put_self (d : Pointer β) (b : β) : (d.put b).memory d.offset = b := by
  unfold put
  exact Function.update_self ..

theorem memory_put_of_ne {d : Pointer β} {b : β} {i : Nat} (hi : i ≠ d.offset) :
    (d.put b).memory i = d.memory i := by
  unfold put
  exact Function.update_of_ne hi ..

def Within (d : Pointer β) (size : Nat) : Prop := ∀ i ∈ d.stores, i < size

instance (d : Pointer β) (size : Nat) : Decidable (d.Within size) :=
  inferInstanceAs (Decidable (∀ i ∈ d.stores, i < size))

/-- The values one after the other. -/
def puts (d : Pointer β) (bs : List β) : Pointer β := bs.foldl put d

@[simp] theorem puts_cons (d : Pointer β) (b : β) (bs : List β) :
    d.puts (b :: bs) = (d.put b).puts bs := rfl

theorem puts_append (d : Pointer β) (bs bs' : List β) :
    d.puts (bs ++ bs') = (d.puts bs).puts bs' :=
  List.foldl_append

theorem stores_puts (d : Pointer β) (bs : List β) :
    (d.puts bs).stores = (List.range' d.offset bs.length).reverse ++ d.stores := by
  induction bs generalizing d with
  | nil => rfl
  | cons b bs ih =>
      rw [puts_cons, ih, List.length_cons, List.range'_succ, List.reverse_cons,
        List.append_assoc]
      rfl

/-- Below the pointer nothing changes. -/
theorem memory_puts_of_lt {d : Pointer β} (bs : List β) {i : Nat} (hi : i < d.offset) :
    (d.puts bs).memory i = d.memory i := by
  induction bs generalizing d with
  | nil => rfl
  | cons b bs ih =>
      rw [puts_cons, ih (Nat.lt_succ_of_lt hi)]
      exact memory_put_of_ne (Nat.ne_of_lt hi)

theorem memory_puts_add (d : Pointer β) (bs : List β) (j : Nat) :
    (d.puts bs).memory (d.offset + j) = bs[j]?.getD (d.memory (d.offset + j)) := by
  induction bs generalizing d j with
  | nil => rfl
  | cons b bs ih =>
      rw [puts_cons]
      cases j with
      | zero =>
          rw [memory_puts_of_lt bs (Nat.lt_succ_self d.offset)]
          exact memory_put_self d b
      | succ j =>
          have hnext : d.offset + (j + 1) = (d.put b).offset + j := by
            rw [offset_put]
            omega
          have hsame := @memory_put_of_ne β d b (d.offset + (j + 1)) (by omega)
          rw [hnext] at hsame ⊢
          rw [ih, List.getElem?_cons_succ, hsame]

/-! ## From the begin of an object -/

theorem length_stores (memory : Nat → β) (bs : List β) :
    ((start memory).puts bs).stores.length = bs.length := by
  rw [stores_puts, List.length_append, List.length_reverse, List.length_range']
  rfl

theorem memory_start_puts (memory : Nat → β) (bs : List β) (j : Nat) :
    ((start memory).puts bs).memory j = bs[j]?.getD (memory j) := by
  have hmemory := memory_puts_add (start memory) bs j
  rwa [show (start memory).offset + j = j from Nat.zero_add j] at hmemory

/-- An object holds the values exactly if it is as long as they are. -/
theorem within_start_puts (memory : Nat → β) (bs : List β) (size : Nat) :
    ((start memory).puts bs).Within size ↔ bs.length ≤ size := by
  unfold Within
  rw [stores_puts]
  constructor
  · intro h
    cases hlength : bs.length with
    | zero => exact Nat.zero_le size
    | succ n =>
        rw [hlength] at h
        refine h n ?_
        simp [start]
  · intro h i hi
    have hlt : i < bs.length := by simpa [start] using hi
    omega

end Pointer

end GnomePilot
