import Mathlib.Data.List.Basic

/-!
# Striking entries off a list

A list of candidates is worked off: for each key that comes up, the first entry
with that key is struck off.  What is left over after a number of keys is read off
the entries of one key at a time.
-/

namespace GnomePilot

variable {α κ : Type*} [DecidableEq κ]

def strike (key : α → κ) (entries : List α) (k : κ) : List α :=
  entries.eraseP (fun x => key x = k)

def strikes (key : α → κ) (entries : List α) (keys : List κ) : List α :=
  keys.foldl (strike key) entries

def withKey (key : α → κ) (entries : List α) (k : κ) : List α :=
  entries.filter (fun x => key x = k)

@[simp] theorem strikes_nil (key : α → κ) (entries : List α) : strikes key entries [] = entries :=
  rfl

@[simp] theorem strikes_cons (key : α → κ) (entries : List α) (k : κ) (keys : List κ) :
    strikes key entries (k :: keys) = strikes key (strike key entries k) keys := rfl

theorem strikes_append (key : α → κ) (entries : List α) (keys keys' : List κ) :
    strikes key entries (keys ++ keys') = strikes key (strikes key entries keys) keys' :=
  List.foldl_append

theorem withKey_strike_self (key : α → κ) (entries : List α) (k : κ) :
    withKey key (strike key entries k) k = (withKey key entries k).tail := by
  unfold withKey strike
  induction entries with
  | nil => rfl
  | cons x entries ih =>
      by_cases hx : key x = k
      · simp [hx]
      · simp [hx, ih]

theorem withKey_strike_of_ne (key : α → κ) (entries : List α) {k k' : κ} (h : k' ≠ k) :
    withKey key (strike key entries k) k' = withKey key entries k' := by
  unfold withKey strike
  induction entries with
  | nil => rfl
  | cons x entries ih =>
      by_cases hx : key x = k
      · simp [hx, Ne.symm h]
      · simp only [List.eraseP_cons, hx, decide_false, cond_false,
          List.filter_cons, ih]

theorem length_withKey_le_one {key : α → κ} {entries : List α} (h : (entries.map key).Nodup)
    (k : κ) : (withKey key entries k).length ≤ 1 := by
  have hkey : (withKey key entries k).map key =
      List.replicate (withKey key entries k).length k := by
    refine List.eq_replicate_iff.mpr ⟨List.length_map _, fun k' hk' => ?_⟩
    obtain ⟨x, hx, rfl⟩ := List.mem_map.mp hk'
    exact of_decide_eq_true (List.mem_filter.mp hx).2
  have hnodup : ((withKey key entries k).map key).Nodup :=
    h.sublist (List.filter_sublist.map key)
  rw [hkey] at hnodup
  exact List.nodup_replicate.mp hnodup

section Count

variable [BEq κ] [LawfulBEq κ]

/-- As many entries of a key are struck off as the key came up, from the front. -/
theorem withKey_strikes (key : α → κ) (entries : List α) (keys : List κ) (k : κ) :
    withKey key (strikes key entries keys) k = (withKey key entries k).drop (keys.count k) := by
  induction keys generalizing entries with
  | nil => rfl
  | cons k' keys ih =>
      rw [strikes_cons, ih]
      by_cases hk : k = k'
      · subst hk
        rw [withKey_strike_self, ← List.drop_one, List.drop_drop, List.count_cons_self,
          Nat.add_comm]
      · rw [withKey_strike_of_ne key entries hk, List.count_cons_of_ne (Ne.symm hk)]

theorem mem_strikes {key : α → κ} {entries : List α} {keys : List κ} {x : α} :
    x ∈ strikes key entries keys ↔ x ∈ (withKey key entries (key x)).drop (keys.count (key x)) := by
  rw [← withKey_strikes]
  simp [withKey]

/-- Where no two entries share a key, an entry is left over unless its key came up. -/
theorem mem_strikes_of_nodup {key : α → κ} {entries : List α} (h : (entries.map key).Nodup)
    {keys : List κ} {x : α} : x ∈ strikes key entries keys ↔ x ∈ entries ∧ key x ∉ keys := by
  rw [mem_strikes]
  by_cases hkey : key x ∈ keys
  · have hlen := length_withKey_le_one h (key x)
    have hcount := List.count_pos_iff.mpr hkey
    rw [List.drop_eq_nil_of_le (by omega)]
    simp [hkey]
  · rw [List.count_eq_zero.mpr hkey]
    simp [withKey, hkey]

end Count

end GnomePilot
