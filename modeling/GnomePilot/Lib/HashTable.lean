import Mathlib.Data.List.AList

/-!
# Hash tables

A hash table is a list of entries without two of the same key; the order of the
entries is the order a walk through the table takes.  Insertion replaces the
entry of its key.
-/

namespace GnomePilot.HashTable

variable {κ ν : Type*} [DecidableEq κ]

theorem lookup_erase_ite (s : AList fun _ : κ => ν) (k k' : κ) :
    (s.erase k').lookup k = if k = k' then none else s.lookup k := by
  by_cases h : k = k'
  · subst h
    simp
  · simp [h, AList.lookup_erase_ne h]

theorem lookup_insert_ite (s : AList fun _ : κ => ν) (k k' : κ) (v : ν) :
    (s.insert k' v).lookup k = if k = k' then some v else s.lookup k := by
  by_cases h : k = k'
  · subst h
    simp
  · simp [h, AList.lookup_insert_ne h]

end GnomePilot.HashTable
