import Mathlib.Data.Option.Basic

/-!
# Labelled pairings

A partial one-to-one pairing between two types, looked up from either side, with
a label on every pair.  The field `inverse` makes the two directions agree; the
operations below take out a pair, join two values that are free of others, and
change a label.
-/

namespace GnomePilot

structure Pairing (α β φ : Type*) where
  fwd : α → Option (β × φ)
  bwd : β → Option (α × φ)
  inverse : ∀ a b x, fwd a = some (b, x) ↔ bwd b = some (a, x)

namespace Pairing

variable {α β φ : Type*} {t : Pairing α β φ}

@[ext] theorem ext {s t : Pairing α β φ} (hfwd : s.fwd = t.fwd) (hbwd : s.bwd = t.bwd) :
    s = t := by
  cases s
  cases t
  congr

/-- A filter that a present value passes changes nothing. -/
theorem filter_of_forall {γ : Type*} {o : Option γ} {q : γ → Bool}
    (h : ∀ c, o = some c → q c = true) : o.filter q = o := by
  cases o with
  | none => rfl
  | some c => simp [Option.filter, h c rfl]

def empty : Pairing α β φ := ⟨fun _ => none, fun _ => none, by simp⟩

/-! ## No value occurs twice -/

theorem fwd_injective {a a' : α} {b : β} {x x' : φ} (h : t.fwd a = some (b, x))
    (h' : t.fwd a' = some (b, x')) : a = a' := by
  have hb := (t.inverse a b x).mp h
  have hb' := (t.inverse a' b x').mp h'
  rw [hb] at hb'
  injection hb' with hb'
  exact congrArg Prod.fst hb'

theorem bwd_injective {a : α} {b b' : β} {x x' : φ} (h : t.bwd b = some (a, x))
    (h' : t.bwd b' = some (a, x')) : b = b' := by
  have ha := (t.inverse a b x).mpr h
  have ha' := (t.inverse a b' x').mpr h'
  rw [ha] at ha'
  injection ha' with ha'
  exact congrArg Prod.fst ha'

/-! ## Taking out a pair -/

/-- Take out the pair of `a`, if it has one. -/
def unlinkFwd [DecidableEq α] (t : Pairing α β φ) (a : α) : Pairing α β φ where
  fwd x := if x = a then none else t.fwd x
  bwd y := (t.bwd y).filter fun p => p.1 ≠ a
  inverse x y l := by
    rw [Option.filter_eq_some_iff, ← t.inverse]
    by_cases hx : x = a
    · simp [hx]
    · simp [hx]

/-- Take out the pair of `b`, if it has one. -/
def unlinkBwd [DecidableEq β] (t : Pairing α β φ) (b : β) : Pairing α β φ where
  fwd x := (t.fwd x).filter fun p => p.1 ≠ b
  bwd y := if y = b then none else t.bwd y
  inverse x y l := by
    rw [Option.filter_eq_some_iff, t.inverse]
    by_cases hy : y = b
    · simp [hy]
    · simp [hy]

theorem unlinkFwd_of_none [DecidableEq α] {a : α} (h : t.fwd a = none) : t.unlinkFwd a = t := by
  ext1
  · funext x
    by_cases hx : x = a
    · simp [unlinkFwd, hx, h]
    · simp [unlinkFwd, hx]
  · funext y
    refine filter_of_forall fun p hp => ?_
    have hfwd := (t.inverse p.1 y p.2).mpr hp
    have hne : p.1 ≠ a := fun ha => by simp [← ha, hfwd] at h
    simp [hne]

theorem unlinkBwd_of_none [DecidableEq β] {b : β} (h : t.bwd b = none) : t.unlinkBwd b = t := by
  ext1
  · funext x
    refine filter_of_forall fun p hp => ?_
    have hbwd := (t.inverse x p.1 p.2).mp hp
    have hne : p.1 ≠ b := fun hb => by simp [← hb, hbwd] at h
    simp [hne]
  · funext y
    by_cases hy : y = b
    · simp [unlinkBwd, hy, h]
    · simp [unlinkBwd, hy]

/-- The pair of `a` and `b` goes out from either side. -/
theorem unlinkFwd_eq_unlinkBwd [DecidableEq α] [DecidableEq β] {a : α} {b : β} {x : φ}
    (h : t.fwd a = some (b, x)) :
    t.unlinkFwd a = t.unlinkBwd b := by
  have hb := (t.inverse a b x).mp h
  ext1
  · funext x'
    by_cases hx : x' = a
    · simp [unlinkFwd, unlinkBwd, hx, h, Option.filter]
    · have hother : ∀ p, t.fwd x' = some p → p.1 ≠ b := fun p hp heq =>
        hx (fwd_injective (x := p.2) (by rw [hp, ← heq]) h)
      simpa [unlinkFwd, unlinkBwd, hx] using
        (filter_of_forall fun p hp => by simpa using hother p hp).symm
  · funext y
    by_cases hy : y = b
    · simp [unlinkFwd, unlinkBwd, hy, hb, Option.filter]
    · have hother : ∀ p, t.bwd y = some p → p.1 ≠ a := fun p hp heq =>
        hy (bwd_injective (x := p.2) (by rw [hp, ← heq]) hb)
      simpa [unlinkFwd, unlinkBwd, hy] using
        filter_of_forall fun p hp => by simpa using hother p hp

/-! ## Joining -/

/-- Join `a` and `b`, both free of other pairs. -/
def join [DecidableEq α] [DecidableEq β] (t : Pairing α β φ) (a : α) (b : β) (l : φ)
    (ha : t.fwd a = none) (hb : t.bwd b = none) : Pairing α β φ where
  fwd x := if x = a then some (b, l) else t.fwd x
  bwd y := if y = b then some (a, l) else t.bwd y
  inverse x y l' := by
    by_cases hx : x = a
    · by_cases hy : y = b
      · simp [hx, hy]
      · have : t.bwd y ≠ some (a, l') := fun h => by
          rw [(t.inverse a y l').mpr h] at ha
          cases ha
        simp [hx, hy, this, Ne.symm hy]
    · by_cases hy : y = b
      · have : t.fwd x ≠ some (b, l') := fun h => by
          rw [(t.inverse x b l').mp h] at hb
          cases hb
        simp [hx, hy, this, Ne.symm hx]
      · simp [hx, hy, t.inverse]

/-- Join `a` and `b` after taking out the pair of each. -/
def link [DecidableEq α] [DecidableEq β] (t : Pairing α β φ) (a : α) (b : β) (l : φ) :
    Pairing α β φ :=
  ((t.unlinkFwd a).unlinkBwd b).join a b l (by simp [unlinkBwd, unlinkFwd]) (by simp [unlinkBwd])

/-! ## Changing a label -/

/-- Change the label of the pair of `a`, if it has one. -/
def relabel [DecidableEq α] (t : Pairing α β φ) (a : α) (g : φ → φ) : Pairing α β φ where
  fwd x := if x = a then (t.fwd x).map fun p => (p.1, g p.2) else t.fwd x
  bwd y := (t.bwd y).map fun p => (p.1, if p.1 = a then g p.2 else p.2)
  inverse x y l := by
    by_cases hx : x = a
    · simp only [hx, if_true, Option.map_eq_some_iff, Prod.ext_iff, Prod.exists]
      constructor
      · intro ⟨b, l', h, hb, hl⟩
        exact ⟨a, l', (t.inverse a y l').mp (hb ▸ h), rfl, by simpa using hl⟩
      · intro ⟨a', l', h, ha, hl⟩
        have ha' : a' = a := ha
        subst ha'
        exact ⟨y, l', (t.inverse a' y l').mpr h, rfl, by simpa using hl⟩
    · rw [if_neg hx, t.inverse]
      simp only [Option.map_eq_some_iff, Prod.ext_iff, Prod.exists]
      constructor
      · intro h
        exact ⟨x, l, h, rfl, by simp [hx]⟩
      · intro ⟨a', l', h, ha, hl⟩
        have ha' : a' = x := ha
        subst ha'
        have hl' : l' = l := by simpa [hx] using hl
        rw [h, hl']

end Pairing

end GnomePilot
