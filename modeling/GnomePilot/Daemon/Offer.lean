import GnomePilot.Daemon.Config
import Mathlib.Data.List.Basic

/-!
# Offering to restore an unknown pilot

`gpilot_attempt_restore` is called when a device without a user id connects.  It looks
for the profile of the device by the creation date of its storage card and the version of
its ROM, and asks the user whether to restore what it has found.  The cursor of the search
is also its result.
-/

namespace GnomePilot.Daemon.Offer

open Config

/-- What the device tells of itself: `cardinfo.creation` and `sysinfo.romVersion`. -/
structure Majick where
  creation : UInt64
  romVersion : UInt64
  deriving DecidableEq, Repr

def matchPilotAndMajick (pilot : GPilotPilot) (creation romversion : UInt64) : Bool :=
  pilot.creation = creation && pilot.romversion = romversion

/-- What the user and the clients of the daemon get to see, and the restore itself. -/
inductive RestoreStep where
  | offer (pilot : GPilotPilot)
  | connected (pilot : GPilotPilot)
  | startUnknownRestore (pilot : GPilotPilot)
  | disconnected (pilot : GPilotPilot)
  | noIdent (creation romVersion : UInt64)
  deriving DecidableEq, Repr

/-- The search from the iterator on; `pilot` is the cursor. -/
def searchLoop (majick : Majick) : Option GPilotPilot → List GPilotPilot → Option GPilotPilot
  | pilot, [] => pilot
  | _, pilot :: iterator =>
      if matchPilotAndMajick pilot majick.creation majick.romVersion then some pilot
      else searchLoop majick (some pilot) iterator

/-- The profile the search comes to; a single one is taken as it is. -/
def searchPilot (majick : Majick) : List GPilotPilot → Option GPilotPilot
  | [pilot] => some pilot
  | pilots => searchLoop majick none pilots

/-- `gpilot_attempt_restore`; `accepts` is the user's answer.  It returns true always. -/
def gpilotAttemptRestore (majick : Majick) (accepts : Bool) (pilots : List GPilotPilot) :
    Bool × List RestoreStep :=
  match searchPilot majick pilots with
  | some pilot =>
      (true, .offer pilot :: if accepts then
        [.connected pilot, .startUnknownRestore pilot, .disconnected pilot] else [])
  | none => (true, [.noIdent majick.creation majick.romVersion])

/-! ## What is offered -/

variable {majick : Majick} {pilots : List GPilotPilot}

/-- The profile has the numbers of the device. -/
def Matches (majick : Majick) (pilot : GPilotPilot) : Prop :=
  pilot.creation = majick.creation ∧ pilot.romversion = majick.romVersion

theorem matchPilotAndMajick_iff {pilot : GPilotPilot} :
    matchPilotAndMajick pilot majick.creation majick.romVersion = true ↔ Matches majick pilot := by
  simp [matchPilotAndMajick, Matches]

theorem searchLoop_matches (h : ∃ pilot ∈ pilots, Matches majick pilot)
    (cursor : Option GPilotPilot) :
    ∃ pilot, searchLoop majick cursor pilots = some pilot ∧ Matches majick pilot := by
  induction pilots generalizing cursor with
  | nil =>
      obtain ⟨pilot, hpilot, -⟩ := h
      exact absurd hpilot List.not_mem_nil
  | cons first rest ih =>
      unfold searchLoop
      split
      · next hmatch => exact ⟨first, rfl, matchPilotAndMajick_iff.mp hmatch⟩
      · next hmatch =>
          refine ih ?_ (some first)
          obtain ⟨pilot, hpilot, hm⟩ := h
          cases List.mem_cons.mp hpilot with
          | inl heq => exact absurd (matchPilotAndMajick_iff.mpr (heq ▸ hm)) hmatch
          | inr hrest => exact ⟨pilot, hrest, hm⟩

theorem searchLoop_falls_off (h : ∀ pilot ∈ pilots, ¬ Matches majick pilot)
    (cursor : Option GPilotPilot) :
    searchLoop majick cursor pilots = pilots.getLast?.or cursor := by
  induction pilots generalizing cursor with
  | nil => rfl
  | cons first rest ih =>
      have hfirst : ¬ matchPilotAndMajick first majick.creation majick.romVersion = true :=
        fun hmatch => h first List.mem_cons_self (matchPilotAndMajick_iff.mp hmatch)
      rw [searchLoop, if_neg hfirst, ih fun pilot hpilot => h pilot (List.mem_cons_of_mem _ hpilot)]
      cases rest with
      | nil => rfl
      | cons second rest =>
          rw [List.getLast?_cons_cons]
          cases hlast : (second :: rest).getLast? with
          | none => simp at hlast
          | some last => rfl

theorem searchPilot_of_two_le (h : 2 ≤ pilots.length) :
    searchPilot majick pilots = searchLoop majick none pilots := by
  unfold searchPilot
  split
  · simp at h
  · rfl

theorem offer_mem_iff {accepts : Bool} {pilot : GPilotPilot} :
    .offer pilot ∈ (gpilotAttemptRestore majick accepts pilots).2 ↔
      searchPilot majick pilots = some pilot := by
  unfold gpilotAttemptRestore
  cases searchPilot majick pilots with
  | none => simp
  | some found => cases accepts <;> simp [eq_comm]

/-- A profile is offered only if it is the only one or matches, and none of several that
do not match. -/
def OffersSafely (majick : Majick) (accepts : Bool) (pilots : List GPilotPilot) : Prop :=
  (∀ pilot, .offer pilot ∈ (gpilotAttemptRestore majick accepts pilots).2 →
    pilots = [pilot] ∨ Matches majick pilot) ∧
  (2 ≤ pilots.length → (∀ pilot ∈ pilots, ¬ Matches majick pilot) →
    ∀ pilot, .offer pilot ∉ (gpilotAttemptRestore majick accepts pilots).2)

/-- The offer is safe unless there are several profiles of which none matches: then the
last one is offered. -/
theorem offersSafely_iff (majick : Majick) (accepts : Bool) (pilots : List GPilotPilot) :
    OffersSafely majick accepts pilots ↔
      pilots.length ≤ 1 ∨ ∃ pilot ∈ pilots, Matches majick pilot := by
  unfold OffersSafely
  simp only [offer_mem_iff]
  constructor
  · intro ⟨_, hnone⟩
    by_contra hunsafe
    rw [not_or, Nat.not_le] at hunsafe
    have hseveral : 2 ≤ pilots.length := hunsafe.1
    have hother : ∀ pilot ∈ pilots, ¬ Matches majick pilot :=
      fun pilot hpilot hm => hunsafe.2 ⟨pilot, hpilot, hm⟩
    have hoffer := searchLoop_falls_off hother none
    rw [← searchPilot_of_two_le hseveral, Option.or_none] at hoffer
    have hne : pilots ≠ [] := List.ne_nil_of_length_pos (by omega)
    rw [List.getLast?_eq_some_getLast hne] at hoffer
    exact hnone hseveral hother _ hoffer
  · intro hsafe
    refine ⟨fun pilot hoffer => ?_, fun hseveral hother => ?_⟩
    · rcases Nat.lt_or_ge pilots.length 2 with hfew | hseveral
      · cases pilots with
        | nil => simp [searchPilot, searchLoop] at hoffer
        | cons single rest =>
            rw [List.length_cons] at hfew
            obtain rfl : rest = [] := List.length_eq_zero_iff.mp (by omega)
            exact Or.inl (by simpa [searchPilot] using hoffer)
      · have hmatch := hsafe.resolve_left (by omega)
        obtain ⟨found, hfound, hm⟩ := searchLoop_matches hmatch none
        rw [searchPilot_of_two_le hseveral, hfound] at hoffer
        exact Or.inr (Option.some.inj hoffer ▸ hm)
    · obtain ⟨pilot, hpilot, hm⟩ := hsafe.resolve_left (by omega)
      exact absurd hm (hother pilot hpilot)

def firstPilot : GPilotPilot :=
  { gpilotPilotNew with name := some "MyPDA", pilotId := 1, creation := 10, romversion := 3 }

def secondPilot : GPilotPilot :=
  { gpilotPilotNew with name := some "Other", pilotId := 2, creation := 20, romversion := 3 }

/-- A device that is neither of the two is offered the second profile. -/
theorem secondPilot_offered :
    RestoreStep.offer secondPilot ∈
      (gpilotAttemptRestore ⟨30, 3⟩ false [firstPilot, secondPilot]).2 ∧
    ¬ OffersSafely ⟨30, 3⟩ false [firstPilot, secondPilot] := by
  have hoffer : RestoreStep.offer secondPilot ∈
      (gpilotAttemptRestore ⟨30, 3⟩ false [firstPilot, secondPilot]).2 := by decide
  refine ⟨hoffer, fun hsafe => hsafe.2 (by decide) (fun pilot hpilot hm => ?_) _ hoffer⟩
  rcases List.mem_cons.mp hpilot with rfl | hlast
  · exact absurd hm.1 (by decide)
  · rw [List.mem_singleton.mp hlast] at hm
    exact absurd hm.1 (by decide)

end GnomePilot.Daemon.Offer
