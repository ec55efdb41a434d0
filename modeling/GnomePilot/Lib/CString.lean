import Mathlib.Data.List.OfFn
import Mathlib.Data.List.TakeWhile

/-!
# C strings

A string ends before its first zero.  In an array of fixed size it is followed by zeros; a
string that is too long for the array is cut.
-/

namespace GnomePilot

/-- The characters of a C string, without the zero at its end. -/
structure CString where
  bytes : List UInt8
  terminated : 0 ∉ bytes
  deriving DecidableEq, Repr

namespace CString

theorem ext {s t : CString} (h : s.bytes = t.bytes) : s = t := by
  cases s
  cases t
  exact (CString.mk.injEq ..).mpr h

/-- The empty string. -/
def empty : CString := ⟨[], List.not_mem_nil⟩

/-- `strlen` -/
def length (s : CString) : Nat := s.bytes.length

/-- The first `m` characters. -/
def take (m : Nat) (s : CString) : CString :=
  ⟨s.bytes.take m, fun h => s.terminated (List.mem_of_mem_take h)⟩

theorem take_of_length_le {m : Nat} {s : CString} (h : s.length ≤ m) : s.take m = s :=
  ext (List.take_of_length_le h)

theorem length_take_le (m : Nat) (s : CString) : (s.take m).length ≤ m :=
  List.length_take_le m s.bytes

/-- The array of `n` characters with the first `m` of the string, and zeros. -/
def toField (n m : Nat) (s : CString) (j : Fin n) : UInt8 :=
  if j < min s.bytes.length m then s.bytes.getD j 0 else 0

/-- The string at the begin of an array. -/
def ofField {n : Nat} (field : Fin n → UInt8) : CString where
  bytes := (List.ofFn field).takeWhile (· ≠ 0)
  terminated h := by simpa using List.mem_takeWhile_imp h

theorem ofFn_toField {n m : Nat} (hmn : m ≤ n) (s : CString) :
    List.ofFn (s.toField n m) =
      s.bytes.take m ++ List.replicate (n - (s.bytes.take m).length) 0 := by
  refine List.ext_getElem ?_ fun j hj hj' => ?_
  · simp
    omega
  · have hlength : (s.bytes.take m).length = min s.bytes.length m := by
      rw [List.length_take, Nat.min_comm]
    rw [List.getElem_ofFn, toField]
    by_cases hlt : j < min s.bytes.length m
    · rw [if_pos hlt, List.getElem_append_left (by omega)]
      simp [List.getElem_take, Nat.lt_of_lt_of_le hlt (Nat.min_le_left _ _)]
    · rw [if_neg hlt, List.getElem_append_right (by omega)]
      simp

/-- A string that was stored is read up to where it was cut. -/
theorem ofField_toField {n m : Nat} (hmn : m < n) (s : CString) :
    ofField (s.toField n m) = s.take m := by
  have hlength : (s.bytes.take m).length ≤ m := List.length_take_le m s.bytes
  have hone : n - (s.bytes.take m).length = (n - (s.bytes.take m).length - 1) + 1 := by omega
  refine ext ?_
  unfold ofField
  dsimp only
  rw [ofFn_toField (Nat.le_of_lt hmn), hone, List.replicate_succ, List.takeWhile_append_of_pos]
  · simp [take]
  · intro c hc
    have hne : c ≠ 0 := fun h => s.terminated (h ▸ List.mem_of_mem_take hc)
    simpa using hne

/-- A field that ends with a zero holds a string that is shorter. -/
theorem length_ofField_lt {n : Nat} {field : Fin (n + 1) → UInt8} (hlast : field (Fin.last n) = 0) :
    (ofField field).length ≤ n := by
  by_contra hlong
  have hlong : ¬ ((List.ofFn field).takeWhile (· ≠ 0)).length ≤ n := hlong
  have hle := (List.takeWhile_sublist (p := fun c : UInt8 => decide (c ≠ 0))
    (l := List.ofFn field)).length_le
  rw [List.length_ofFn] at hle
  have hall : (List.ofFn field).takeWhile (· ≠ 0) = List.ofFn field :=
    (List.takeWhile_prefix _).eq_of_length (by rw [List.length_ofFn]; omega)
  have hmem : (0 : UInt8) ∈ (List.ofFn field).takeWhile (· ≠ 0) := by
    rw [hall, List.mem_ofFn]
    exact ⟨Fin.last n, hlast⟩
  simpa using List.mem_takeWhile_imp hmem

end CString

end GnomePilot
