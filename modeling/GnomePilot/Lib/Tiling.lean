import Mathlib.Data.List.Chain
import Mathlib.Data.Int.Order.Basic

/-!
# Cutting a stretch into tiles

A stretch of the integers is cut at a first point and from there on at the next point
after each cut, until its end is reached.  What comes out tiles the stretch, whatever
the next point is, as long as it lies further on.
-/

namespace GnomePilot.Tiling

/-- The tiles from `start` to `stop` when the next cut is at `cut`. -/
def tiles (next : Int → Int) (stop : Int) : Nat → Int → Int → List (Int × Int)
  | 0, _, _ => []
  | fuel + 1, start, cut =>
      if stop ≤ cut then [(start, stop)]
      else (start, cut) :: tiles next stop fuel cut (next cut)

/-- The tiles come one after the other, begin at `start`, end at `stop`, and none of them
is empty. -/
structure Tiles (start stop : Int) (l : List (Int × Int)) : Prop where
  first : l.head?.map Prod.fst = some start
  last : l.getLast?.map Prod.snd = some stop
  contiguous : l.IsChain fun p q => p.2 = q.1
  nonempty : ∀ p ∈ l, p.1 < p.2

variable {next : Int → Int} {start cut stop : Int}

theorem Tiles.single (h : start < stop) : Tiles start stop [(start, stop)] where
  first := rfl
  last := rfl
  contiguous := List.isChain_singleton _
  nonempty := by simpa using h

theorem Tiles.cons {l : List (Int × Int)} (h : start < cut) (hl : Tiles cut stop l) :
    Tiles start stop ((start, cut) :: l) := by
  obtain ⟨hfirst, hlast, hcontiguous, hnonempty⟩ := hl
  cases l with
  | nil => exact absurd hfirst (by simp)
  | cons p l =>
      simp only [List.head?_cons, Option.map_some, Option.some.injEq] at hfirst
      refine ⟨rfl, ?_, ?_, ?_⟩
      · rw [List.getLast?_cons_cons]
        exact hlast
      · exact hcontiguous.cons_cons hfirst.symm
      · intro q hq
        cases List.mem_cons.mp hq with
        | inl hq => exact hq ▸ h
        | inr hq => exact hnonempty q hq

/-- The cuts move on, so the stretch that is left bounds their number. -/
theorem tiles_tile (hnext : ∀ t, t < next t) (fuel : Nat) (hfuel : (stop - cut).toNat < fuel)
    (hstop : start < stop) (hcut : start < cut) :
    Tiles start stop (tiles next stop fuel start cut) := by
  induction fuel generalizing start cut with
  | zero => omega
  | succ fuel ih =>
      unfold tiles
      split
      · exact Tiles.single hstop
      · have hfurther := hnext cut
        exact (ih (by omega) (by omega) hfurther).cons hcut

theorem tiles_eq_of_fuel (hnext : ∀ t, t < next t) (fuel : Nat)
    (hfuel : (stop - cut).toNat < fuel) (more : Nat) :
    tiles next stop (fuel + more) start cut = tiles next stop fuel start cut := by
  induction fuel generalizing start cut with
  | zero => omega
  | succ fuel ih =>
      rw [Nat.succ_add]
      unfold tiles
      split
      · rfl
      · have hfurther := hnext cut
        rw [ih (by omega)]

/-- No tile goes on beyond the next cut. -/
theorem le_next_of_mem_tiles (fuel : Nat) (hcut : cut ≤ next start) {p : Int × Int}
    (hp : p ∈ tiles next stop fuel start cut) : p.2 ≤ next p.1 := by
  induction fuel generalizing start cut with
  | zero => exact absurd hp List.not_mem_nil
  | succ fuel ih =>
      unfold tiles at hp
      split at hp
      · obtain rfl := List.mem_singleton.mp hp
        dsimp only
        omega
      · cases List.mem_cons.mp hp with
        | inl hp => exact hp ▸ hcut
        | inr hp => exact ih (Int.le_refl _) hp

/-- A tile begins with the stretch or at a cut, and ends at a cut or with the stretch. -/
theorem bounds_of_mem_tiles (fuel : Nat) (hcut : next start = cut) {p : Int × Int}
    (hp : p ∈ tiles next stop fuel start cut) :
    (p.1 = start ∨ ∃ t, p.1 = next t) ∧ (p.2 = stop ∨ ∃ t, p.2 = next t) := by
  induction fuel generalizing start cut with
  | zero => exact absurd hp List.not_mem_nil
  | succ fuel ih =>
      unfold tiles at hp
      split at hp
      · obtain rfl := List.mem_singleton.mp hp
        exact ⟨Or.inl rfl, Or.inl rfl⟩
      · cases List.mem_cons.mp hp with
        | inl hp => exact hp ▸ ⟨Or.inl rfl, Or.inr ⟨start, hcut.symm⟩⟩
        | inr hp =>
            obtain ⟨hfirst, hlast⟩ := ih rfl hp
            exact ⟨Or.inr (hfirst.elim (fun h => ⟨start, h.trans hcut.symm⟩) id), hlast⟩

end GnomePilot.Tiling
