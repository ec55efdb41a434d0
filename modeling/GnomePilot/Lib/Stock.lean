import Mathlib.Data.List.Nodup

/-!
# Keys served from stocks

Every key has a stock, a list of items.  Keys that come up one after the other are served
with the next item of their stock, and with nothing once it is used up.
-/

namespace GnomePilot.Stock

variable {κ φ : Type*} [DecidableEq κ]

/-- What is left after a key came up. -/
def draw (stock : κ → List φ) (k : κ) : κ → List φ := Function.update stock k (stock k).tail

/-- What the keys get. -/
def serve (stock : κ → List φ) : List κ → List (Option φ)
  | [] => []
  | k :: ks => (stock k).head? :: serve (draw stock k) ks

@[simp] theorem draw_self (stock : κ → List φ) (k : κ) : draw stock k k = (stock k).tail :=
  Function.update_self k _ stock

theorem draw_of_ne (stock : κ → List φ) {k k' : κ} (h : k' ≠ k) : draw stock k k' = stock k' :=
  Function.update_of_ne h _ stock

/-- Nothing is taken from a stock that is used up. -/
theorem draw_of_nil {stock : κ → List φ} {k : κ} (h : stock k = []) : draw stock k = stock := by
  rw [draw, h, List.tail_nil, ← h, Function.update_eq_self]

theorem draw_suffix (stock : κ → List φ) (k k' : κ) : draw stock k k' <:+ stock k' := by
  by_cases h : k' = k
  · rw [h, draw_self]
    exact List.tail_suffix _
  · exact ⟨[], by rw [draw_of_ne stock h, List.nil_append]⟩

theorem length_serve (stock : κ → List φ) (keys : List κ) :
    (serve stock keys).length = keys.length := by
  induction keys generalizing stock with
  | nil => rfl
  | cons k keys ih => simp [serve, ih]

/-- A key gets the item of its stock at the place that tells how often it came up before. -/
theorem getElem?_serve (stock : κ → List φ) (keys : List κ) (i : Nat) :
    (serve stock keys)[i]? = keys[i]?.map fun k => (stock k)[(keys.take i).count k]? := by
  induction keys generalizing stock i with
  | nil => rfl
  | cons k keys ih =>
      cases i with
      | zero => simp [serve, List.head?_eq_getElem?]
      | succ i =>
          rw [serve, List.getElem?_cons_succ, ih, List.getElem?_cons_succ, List.take_succ_cons]
          refine congrArg (fun f => keys[i]?.map f) (funext fun k' => ?_)
          by_cases hk : k' = k
          · rw [hk, draw_self, List.count_cons_self, List.getElem?_tail]
          · rw [draw_of_ne stock hk, List.count_cons_of_ne (Ne.symm hk)]

theorem exists_stock_of_mem_serve {stock : κ → List φ} {keys : List κ} {x : φ}
    (h : some x ∈ serve stock keys) : ∃ k, x ∈ stock k := by
  obtain ⟨i, hi⟩ := List.getElem?_of_mem h
  rw [getElem?_serve, Option.map_eq_some_iff] at hi
  obtain ⟨k, -, hitem⟩ := hi
  exact ⟨k, List.mem_of_getElem? hitem⟩

/-- No item is in two stocks, nor twice in one. -/
structure Distinct (stock : κ → List φ) : Prop where
  nodup : ∀ k, (stock k).Nodup
  apart : ∀ k k' x, x ∈ stock k → x ∈ stock k' → k = k'

theorem Distinct.draw {stock : κ → List φ} (h : Distinct stock) (k : κ) :
    Distinct (draw stock k) where
  nodup k' := (h.nodup k').sublist (draw_suffix stock k k').sublist
  apart k' k'' x hx hx' :=
    h.apart k' k'' x ((draw_suffix stock k k').subset hx) ((draw_suffix stock k k'').subset hx')

/-- The item that was taken is in no stock any more. -/
theorem Distinct.not_mem_draw {stock : κ → List φ} (h : Distinct stock) {k k' : κ} {x : φ}
    (hx : (stock k).head? = some x) : x ∉ Stock.draw stock k k' := by
  intro hmem
  have hk : k' = k :=
    h.apart k' k x ((draw_suffix stock k k').subset hmem) (List.mem_of_mem_head? hx)
  rw [hk, draw_self] at hmem
  have hnodup := h.nodup k
  rw [List.eq_cons_of_mem_head? hx] at hnodup
  exact (List.nodup_cons.mp hnodup).1 hmem

/-- No item is served twice. -/
theorem Distinct.pairwise_serve {stock : κ → List φ} (h : Distinct stock) (keys : List κ) :
    (serve stock keys).Pairwise fun a b => ∀ x, a = some x → b ≠ some x := by
  induction keys generalizing stock with
  | nil => exact List.Pairwise.nil
  | cons k keys ih =>
      refine List.pairwise_cons.mpr ⟨fun b hb x hhead hbx => ?_, ih (h.draw k)⟩
      obtain ⟨k', hmem⟩ := exists_stock_of_mem_serve (hbx ▸ hb)
      exact h.not_mem_draw hhead hmem

/-! ## What one key was served with -/

theorem serve_take (stock : κ → List φ) (keys : List κ) (n : Nat) :
    serve stock (keys.take n) = (serve stock keys).take n := by
  induction keys generalizing stock n with
  | nil => simp [serve]
  | cons k keys ih =>
      cases n with
      | zero => rfl
      | succ n => simp [serve, ih]

/-- A key is served with the first items of its stock. -/
theorem filterMap_serve (stock : κ → List φ) (keys : List κ) (k : κ) :
    ((serve stock keys).zip keys).filterMap (fun p => if p.2 = k then p.1 else none) =
      (stock k).take (keys.count k) := by
  induction keys generalizing stock with
  | nil => simp [serve]
  | cons k' keys ih =>
      rw [serve, List.zip_cons_cons, List.filterMap_cons]
      by_cases hk : k' = k
      · subst hk
        rw [if_pos rfl, ih, draw_self, List.count_cons_self]
        cases stock k' <;> simp
      · rw [if_neg hk, ih, draw_of_ne stock (Ne.symm hk), List.count_cons_of_ne hk]

end GnomePilot.Stock
