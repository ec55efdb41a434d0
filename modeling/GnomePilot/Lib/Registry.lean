import Mathlib.Data.List.Nodup
import Mathlib.Data.List.Perm.Basic

/-!
# A registry that gives out numbers

Registrations get increasing numbers from 1 on and are removed by number, the
number 0 being none.  Who registered something holds on to the number.  `Accounts`
says that the registrations held are exactly the live ones; then each can be
removed once, and what is removed stays removed.
-/

namespace GnomePilot

/-- What is live, the next number, and the numbers removed so far, latest first. -/
structure Registry (α : Type*) where
  live : List (Nat × α)
  next : Nat
  removed : List Nat

namespace Registry

variable {α : Type*}

def empty : Registry α := ⟨[], 1, []⟩

/-- Registers `a` under the next number. -/
def add (r : Registry α) (a : α) : Registry α :=
  ⟨(r.next, a) :: r.live, r.next + 1, r.removed⟩

/-- Removes what the number stands for; the removal is noted whether or not that is
still there. -/
def remove (r : Registry α) (i : Nat) : Registry α :=
  if i = 0 then r
  else ⟨r.live.filter fun x => x.1 ≠ i, r.next, i :: r.removed⟩

/-- Removes a registration the owner of the registry has finished with. -/
def drop (r : Registry α) (i : Nat) : Registry α :=
  if i ∈ r.live.map Prod.fst then r.remove i else r

@[simp] theorem empty_live : (empty : Registry α).live = [] := rfl

@[simp] theorem empty_removed : (empty : Registry α).removed = [] := rfl

theorem remove_of_ne_zero (r : Registry α) {i : Nat} (hi : i ≠ 0) :
    r.remove i = ⟨r.live.filter fun x => x.1 ≠ i, r.next, i :: r.removed⟩ := if_neg hi

/-- Removal never empties the record of removals. -/
theorem removed_suffix_remove (r : Registry α) (i : Nat) : r.removed <:+ (r.remove i).removed := by
  rw [remove]
  split
  · exact List.suffix_refl r.removed
  · exact List.suffix_cons i r.removed

theorem removed_suffix_drop (r : Registry α) (i : Nat) : r.removed <:+ (r.drop i).removed := by
  rw [drop]
  split
  · exact r.removed_suffix_remove i
  · exact List.suffix_refl r.removed

theorem mem_removed_remove (r : Registry α) {i : Nat} (hi : i ≠ 0) :
    i ∈ (r.remove i).removed := by
  rw [remove_of_ne_zero r hi]
  exact List.mem_cons_self

/-- A number removed before is then in the record twice. -/
theorem remove_not_nodup {r : Registry α} {i : Nat} (hi : i ≠ 0) (hgone : i ∈ r.removed) :
    ¬ (r.remove i).removed.Nodup := by
  rw [remove_of_ne_zero r hi]
  intro h
  exact (List.nodup_cons.mp h).1 hgone

/-- The registrations in `held` are the live ones, under numbers of their own that
have not been removed. -/
structure Accounts (r : Registry α) (held : List (Nat × α)) : Prop where
  live : r.live.Perm held
  nodup : (held.map Prod.fst).Nodup
  pos : ∀ x ∈ held, x.1 ≠ 0
  lt : ∀ x ∈ held, x.1 < r.next
  fresh : ∀ x ∈ held, x.1 ∉ r.removed
  removed_nodup : r.removed.Nodup
  removed_lt : ∀ i ∈ r.removed, i < r.next
  next_pos : 0 < r.next

namespace Accounts

variable {r : Registry α} {held : List (Nat × α)}

theorem empty : Accounts (Registry.empty : Registry α) [] where
  live := List.Perm.refl []
  nodup := List.nodup_nil
  pos := by simp
  lt := by simp
  fresh := by simp
  removed_nodup := List.nodup_nil
  removed_lt := by simp
  next_pos := Nat.one_pos

theorem perm {held' : List (Nat × α)} (h : Accounts r held) (hp : held.Perm held') :
    Accounts r held' where
  live := h.live.trans hp
  nodup := (hp.map Prod.fst).nodup_iff.mp h.nodup
  pos := fun x hx => h.pos x (hp.mem_iff.mpr hx)
  lt := fun x hx => h.lt x (hp.mem_iff.mpr hx)
  fresh := fun x hx => h.fresh x (hp.mem_iff.mpr hx)
  removed_nodup := h.removed_nodup
  removed_lt := h.removed_lt
  next_pos := h.next_pos

theorem mem_live (h : Accounts r held) {x : Nat × α} : x ∈ r.live ↔ x ∈ held := h.live.mem_iff

theorem live_eq_nil (h : Accounts r []) : r.live = [] := h.live.eq_nil

theorem add (h : Accounts r held) (a : α) : Accounts (r.add a) ((r.next, a) :: held) where
  live := h.live.cons _
  nodup := by
    rw [List.map_cons, List.nodup_cons]
    refine ⟨?_, h.nodup⟩
    intro hmem
    obtain ⟨x, hx, heq⟩ := List.mem_map.mp hmem
    exact absurd heq (Nat.ne_of_lt (h.lt x hx))
  pos := by
    intro x hx
    rcases List.mem_cons.mp hx with rfl | hx
    · exact Nat.ne_of_gt h.next_pos
    · exact h.pos x hx
  lt := by
    intro x hx
    rcases List.mem_cons.mp hx with rfl | hx
    · exact Nat.lt_succ_self _
    · exact Nat.lt_succ_of_lt (h.lt x hx)
  fresh := by
    intro x hx hgone
    rcases List.mem_cons.mp hx with rfl | hx
    · exact absurd (h.removed_lt _ hgone) (Nat.lt_irrefl _)
    · exact h.fresh x hx hgone
  removed_nodup := h.removed_nodup
  removed_lt := fun i hi => Nat.lt_succ_of_lt (h.removed_lt i hi)
  next_pos := Nat.succ_pos _

/-- The first registration held is removed; the others stay. -/
theorem remove {x : Nat × α} (h : Accounts r (x :: held)) : Accounts (r.remove x.1) held := by
  have hx : x ∈ x :: held := List.mem_cons_self
  have hothers : ∀ y ∈ held, y.1 ≠ x.1 := by
    intro y hy heq
    have hnot := (List.nodup_cons.mp h.nodup).1
    exact hnot (List.mem_map.mpr ⟨y, hy, heq⟩)
  rw [remove_of_ne_zero r (h.pos x hx)]
  have hlive : (r.live.filter fun y => y.1 ≠ x.1).Perm held := by
    have hself : held.filter (fun y => y.1 ≠ x.1) = held :=
      List.filter_eq_self.mpr (by simpa using hothers)
    have hp := h.live.filter fun y => y.1 ≠ x.1
    rwa [List.filter_cons_of_neg (by simp), hself] at hp
  exact {
    live := hlive
    nodup := (List.nodup_cons.mp h.nodup).2
    pos := fun y hy => h.pos y (List.mem_cons_of_mem _ hy)
    lt := fun y hy => h.lt y (List.mem_cons_of_mem _ hy)
    fresh := by
      intro y hy hgone
      rcases List.mem_cons.mp hgone with heq | hgone
      · exact hothers y hy heq
      · exact h.fresh y (List.mem_cons_of_mem _ hy) hgone
    removed_nodup := List.nodup_cons.mpr ⟨h.fresh x hx, h.removed_nodup⟩
    removed_lt := by
      intro i hi
      rcases List.mem_cons.mp hi with rfl | hi
      · exact h.lt x hx
      · exact h.removed_lt i hi
    next_pos := h.next_pos }

/-- Dropping a number nobody holds changes nothing. -/
theorem drop_eq_self (h : Accounts r held) {i : Nat} (hi : i ∉ held.map Prod.fst) :
    r.drop i = r := by
  have hi' : i ∉ r.live.map Prod.fst := fun hmem => hi ((h.live.map Prod.fst).mem_iff.mp hmem)
  rw [drop, if_neg hi']

end Accounts

end Registry

end GnomePilot
