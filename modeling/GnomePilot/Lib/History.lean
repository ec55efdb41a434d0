import Mathlib.Data.List.Basic

/-!
# Histories of a state machine

A history is a list of operations run from a state.  `Always` speaks about every
state a history passes through, `Allowed` about every operation in the state it
is issued in.  With an invariant that allowed operations keep and others break,
the two are equivalent.
-/

namespace GnomePilot.History

variable {σ ι : Type*}

/-- The property holds at the start and after every operation. -/
def Always (step : σ → ι → σ) (P : σ → Prop) : σ → List ι → Prop
  | s, [] => P s
  | s, i :: is => P s ∧ Always step P (step s i) is

/-- Every operation is allowed in the state it is issued in. -/
def Allowed (step : σ → ι → σ) (ok : σ → ι → Prop) : σ → List ι → Prop
  | _, [] => True
  | s, i :: is => ok s i ∧ Allowed step ok (step s i) is

theorem Always.head {step : σ → ι → σ} {P : σ → Prop} {s : σ} {is : List ι}
    (h : Always step P s is) : P s := by
  cases is with
  | nil => exact h
  | cons i is => exact h.1

theorem Always.last {step : σ → ι → σ} {P : σ → Prop} {s : σ} {is : List ι}
    (h : Always step P s is) : P (is.foldl step s) := by
  induction is generalizing s with
  | nil => exact h
  | cons i is ih => exact ih h.2

theorem allowed_append {step : σ → ι → σ} {ok : σ → ι → Prop} {s : σ} {is is' : List ι} :
    Allowed step ok s (is ++ is') ↔
      Allowed step ok s is ∧ Allowed step ok (is.foldl step s) is' := by
  induction is generalizing s with
  | nil => exact ⟨fun h => ⟨trivial, h⟩, fun h => h.2⟩
  | cons i is ih =>
      change ok s i ∧ Allowed step ok (step s i) (is ++ is') ↔
        (ok s i ∧ Allowed step ok (step s i) is) ∧ _
      rw [ih, and_assoc]
      exact Iff.rfl

section Invariant

variable {step : σ → ι → σ} {P : σ → Prop} {ok : σ → ι → Prop}

/-- An invariant kept by allowed operations holds throughout. -/
theorem always_of_allowed {Inv : σ → Prop} (hkeep : ∀ s i, Inv s → ok s i → Inv (step s i)) {s : σ}
    {is : List ι} (hs : Inv s) (hok : Allowed step ok s is) : Always step Inv s is := by
  induction is generalizing s with
  | nil => exact hs
  | cons i is ih => exact ⟨hs, ih (hkeep s i hs hok.1) hok.2⟩

theorem Always.mono {Q : σ → Prop} (hPQ : ∀ s, P s → Q s) {s : σ} {is : List ι}
    (h : Always step P s is) : Always step Q s is := by
  induction is generalizing s with
  | nil => exact hPQ s h
  | cons i is ih => exact ⟨hPQ s h.1, ih h.2⟩

/-- If an operation that is not allowed breaks the property at once, the property
holds throughout exactly when every operation is allowed. -/
theorem always_iff_allowed (Inv : σ → Prop) (hsafe : ∀ s, Inv s → P s)
    (hkeep : ∀ s i, Inv s → ok s i → Inv (step s i))
    (hbreak : ∀ s i, Inv s → ¬ ok s i → ¬ P (step s i)) {s : σ} {is : List ι} (hs : Inv s) :
    Always step P s is ↔ Allowed step ok s is := by
  constructor
  · intro h
    induction is generalizing s with
    | nil => trivial
    | cons i is ih =>
        by_cases hok : ok s i
        · exact ⟨hok, ih (hkeep s i hs hok) h.2⟩
        · exact absurd h.2.head (hbreak s i hs hok)
  · intro h
    exact (always_of_allowed hkeep hs h).mono hsafe

/-- What legal operations satisfy in the states they lead to. -/
theorem allowed_of_legal {legal : σ → ι → Prop} (Inv : σ → Prop)
    (hkeep : ∀ s i, Inv s → legal s i → Inv (step s i))
    (hok : ∀ s i, Inv s → legal s i → ok s i) {s : σ} {is : List ι} (hs : Inv s)
    (hlegal : Allowed step legal s is) : Allowed step ok s is := by
  induction is generalizing s with
  | nil => trivial
  | cons i is ih =>
      exact ⟨hok s i hs hlegal.1, ih (hkeep s i hs hlegal.1) hlegal.2⟩

/-- `always_iff_allowed` in histories of legal operations. -/
theorem always_iff_allowed_of_legal {legal : σ → ι → Prop} (Inv : σ → Prop)
    (hsafe : ∀ s, Inv s → P s) (hkeep : ∀ s i, Inv s → legal s i → ok s i → Inv (step s i))
    (hbreak : ∀ s i, Inv s → legal s i → ¬ ok s i → ¬ P (step s i)) {s : σ} {is : List ι}
    (hs : Inv s) (hlegal : Allowed step legal s is) :
    Always step P s is ↔ Allowed step ok s is := by
  induction is generalizing s with
  | nil => exact iff_of_true (hsafe s hs) trivial
  | cons i is ih =>
      constructor
      · intro h
        by_cases hok : ok s i
        · exact ⟨hok, (ih (hkeep s i hs hlegal.1 hok) hlegal.2).mp h.2⟩
        · exact absurd h.2.head (hbreak s i hs hlegal.1 hok)
      · intro h
        exact ⟨hsafe s hs, (ih (hkeep s i hs hlegal.1 h.1) hlegal.2).mpr h.2⟩

/-- Two notions of being allowed that agree under an invariant agree on histories. -/
theorem allowed_congr {ok' : σ → ι → Prop} (Inv : σ → Prop)
    (hkeep : ∀ s i, Inv s → ok s i → Inv (step s i))
    (hiff : ∀ s i, Inv s → (ok' s i ↔ ok s i)) {s : σ} {is : List ι} (hs : Inv s) :
    Allowed step ok' s is ↔ Allowed step ok s is := by
  induction is generalizing s with
  | nil => exact Iff.rfl
  | cons i is ih =>
      constructor
      · intro h
        have hok := (hiff s i hs).mp h.1
        exact ⟨hok, (ih (hkeep s i hs hok)).mp h.2⟩
      · intro h
        exact ⟨(hiff s i hs).mpr h.1, (ih (hkeep s i hs h.1)).mpr h.2⟩

end Invariant

/-! ## Simulation -/

section Simulation

variable {τ κ : Type*}

/-- The operations of another machine that a history stands for. -/
def trace (step : σ → ι → σ) (g : σ → ι → κ) : σ → List ι → List κ
  | _, [] => []
  | s, i :: is => g s i :: trace step g (step s i) is

variable {step : σ → ι → σ} {step' : τ → κ → τ} {legal : σ → ι → Prop} {f : σ → τ}
  {g : σ → ι → κ}

/-- In histories of legal operations a property of the other machine holds throughout
exactly when it holds throughout there. -/
theorem always_trace_iff {P : τ → Prop} (Inv : σ → Prop)
    (hkeep : ∀ s i, Inv s → legal s i → Inv (step s i))
    (hsim : ∀ s i, Inv s → legal s i → f (step s i) = step' (f s) (g s i)) {s : σ}
    {is : List ι} (hs : Inv s) (hlegal : Allowed step legal s is) :
    Always step (fun s => P (f s)) s is ↔ Always step' P (f s) (trace step g s is) := by
  induction is generalizing s with
  | nil => exact Iff.rfl
  | cons i is ih =>
      have hrest := ih (hkeep s i hs hlegal.1) hlegal.2
      rw [hsim s i hs hlegal.1] at hrest
      exact and_congr_right fun _ => hrest

theorem allowed_trace_iff {ok : τ → κ → Prop} (Inv : σ → Prop)
    (hkeep : ∀ s i, Inv s → legal s i → Inv (step s i))
    (hsim : ∀ s i, Inv s → legal s i → f (step s i) = step' (f s) (g s i)) {s : σ}
    {is : List ι} (hs : Inv s) (hlegal : Allowed step legal s is) :
    Allowed step (fun s i => ok (f s) (g s i)) s is ↔
      Allowed step' ok (f s) (trace step g s is) := by
  induction is generalizing s with
  | nil => exact Iff.rfl
  | cons i is ih =>
      have hrest := ih (hkeep s i hs hlegal.1) hlegal.2
      rw [hsim s i hs hlegal.1] at hrest
      exact and_congr_right fun _ => hrest

end Simulation

end GnomePilot.History
