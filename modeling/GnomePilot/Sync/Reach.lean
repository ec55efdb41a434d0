import GnomePilot.Sync.Frame
import GnomePilot.Sync.Visits

/-!
# What a loop by index hands over

`dlp_ReadRecordByIndex` with an index that counts up, under any faults and over any
local store.  The records before the index never come back and the others are as they
were, so what the loop comes to can be told from the state it began with.
-/

namespace GnomePilot.Sync

variable {α : Type}

/-! ## The records it comes to -/

/-- The IDs a loop by index comes to: `fails` are the reads that fail, a record that
`deletes` makes it pass over the next one, and it ends with one that `stops`.  The flag is
set when the record before was deleted. -/
def reached (fails deletes stops : Nat → Bool) : Nat → Bool → List Nat → List Nat
  | _, _, [] => []
  | index, true, _ :: rest => reached fails deletes stops index false rest
  | index, false, i :: rest =>
    if fails index then []
    else i :: if stops i then [] else reached fails deletes stops (index + 1) (deletes i) rest

section Reached

variable {fails deletes stops : Nat → Bool}

theorem reached_sublist (index : Nat) (skip : Bool) (ids : List Nat) :
    (reached fails deletes stops index skip ids).Sublist ids := by
  induction ids generalizing index skip with
  | nil => cases skip <;> exact .slnil
  | cons j rest ih =>
    cases skip with
    | true => exact (ih index false).cons j
    | false =>
      unfold reached
      split_ifs
      · exact List.nil_sublist _
      · exact (List.nil_sublist rest).cons_cons j
      · exact (ih _ _).cons_cons j

theorem reached_congr {deletes' stops' : Nat → Bool} {ids : List Nat} (index : Nat)
    (skip : Bool) (hdel : ∀ i ∈ ids, deletes' i = deletes i)
    (hstop : ∀ i ∈ ids, stops' i = stops i) :
    reached fails deletes' stops' index skip ids = reached fails deletes stops index skip ids := by
  induction ids generalizing index skip with
  | nil => cases skip <;> rfl
  | cons j rest ih =>
    have hdel' : ∀ i ∈ rest, deletes' i = deletes i := fun i hi =>
      hdel i (List.mem_cons_of_mem j hi)
    have hstop' : ∀ i ∈ rest, stops' i = stops i := fun i hi =>
      hstop i (List.mem_cons_of_mem j hi)
    cases skip with
    | true => exact ih index false hdel' hstop'
    | false =>
      simp only [reached]
      rw [hdel j List.mem_cons_self, hstop j List.mem_cons_self, ih _ _ hdel' hstop']

theorem reached_true (index : Nat) (ids : List Nat) :
    reached fails deletes stops index true ids =
      reached fails deletes stops index false (ids.drop 1) := by
  cases ids <;> rfl

end Reached

/-- `readByIndexLoop` with the records it hands to its body. -/
def readByIndexTrace (fl : Faults) (body : SyncState α → PilotRecord α → SyncState α) :
    Nat → Nat → SyncState α → List (PilotRecord α) × SyncState α
  | 0, _, s => ([], s)
  | fuel + 1, index, s =>
    if s.crashed then ([], s)
    else if fl.readRecordByIndex index then ([], s.record (.readRecordByIndex index))
    else
      match s.pilot.dlpReadRecordByIndex index with
      | none => ([], s.record (.readRecordByIndex index))
      | some (i, d) =>
        let r := standardAbsComputeAttrField i d
        let rest := readByIndexTrace fl body fuel (index + 1)
          (body (s.record (.readRecordByIndex index)) r)
        (r :: rest.1, rest.2)

theorem readByIndexTrace_snd (fl : Faults)
    (body : SyncState α → PilotRecord α → SyncState α) (fuel index : Nat) (s : SyncState α) :
    (readByIndexTrace fl body fuel index s).2 = readByIndexLoop fl body fuel index s := by
  induction fuel generalizing index s with
  | zero => rfl
  | succ fuel ih =>
    unfold readByIndexTrace readByIndexLoop
    split_ifs
    · rfl
    · rfl
    · cases s.pilot.dlpReadRecordByIndex index with
      | none => rfl
      | some e => exact ih (index + 1) _

/-- A body that keeps to the record it is handed; `deletes` and `stops` tell whether it
deletes the record and whether the engine survives. -/
structure Turns (body : SyncState α → PilotRecord α → SyncState α)
    (deletes stops : SyncState α → Nat → Bool) : Prop where
  aside : ∀ {s i d}, s.pilot.get i = some d →
    Aside i s (body s (standardAbsComputeAttrField i d))
  order : ∀ {s i d}, s.crashed = false → s.pilot.get i = some d →
    (body s (standardAbsComputeAttrField i d)).pilot.order =
      s.pilot.order.filter (fun j => j ≠ i ∨ deletes s i = false)
  crashed : ∀ {s i d}, s.crashed = false → s.pilot.get i = some d →
    (body s (standardAbsComputeAttrField i d)).crashed = stops s i
  sameAt : ∀ {s t i}, SameAt i s t → deletes t i = deletes s i ∧ stops t i = stops s i

/-- The records of `ids` were handed to the body as they were, and nothing else happened
to any ID. -/
structure Handed (body : SyncState α → PilotRecord α → SyncState α) (ids : List Nat)
    (s s' : SyncState α) : Prop where
  away : ∀ i, i ∉ ids → SameAt i s s'
  turn : ∀ i ∈ ids, ∃ t d, SameAt i s t ∧ t.crashed = false ∧ s.pilot.get i = some d ∧
    SameAt i (body t (standardAbsComputeAttrField i d)) s'

section Loop

variable {body : SyncState α → PilotRecord α → SyncState α}

theorem Handed.nil {s s' : SyncState α} (h : ∀ i, SameAt i s s') : Handed body [] s s' :=
  ⟨fun i _ => h i, fun _ hi => absurd hi List.not_mem_nil⟩

/-- One turn and the rest of the loop. -/
theorem Handed.cons {s t s' : SyncState α} {i : Nat} {d : DlpRecord α} {ids : List Nat}
    (hsame : ∀ j, SameAt j s t) (halive : t.crashed = false) (hd : s.pilot.get i = some d)
    (haside : Aside i t (body t (standardAbsComputeAttrField i d)))
    (h : Handed body ids (body t (standardAbsComputeAttrField i d)) s') (hi : i ∉ ids) :
    Handed body (i :: ids) s s' where
  away j hj := by
    obtain ⟨hji, hj⟩ := not_or.mp (List.mem_cons.not.mp hj)
    exact ((hsame j).trans (haside j hji)).trans (h.away j hj)
  turn j hj := by
    rcases List.mem_cons.mp hj with rfl | hmem
    · exact ⟨t, d, hsame j, halive, hd, h.away j hi⟩
    · have hji : j ≠ i := by
        rintro rfl
        exact hi hmem
      obtain ⟨v, e, hv, hvalive, he, hs'⟩ := h.turn j hmem
      have hfirst := (hsame j).trans (haside j hji)
      exact ⟨v, e, hfirst.trans hv, hvalive, hfirst.rem ▸ he, hs'⟩

theorem readByIndexTrace_of_crashed (fl : Faults) {s : SyncState α} (h : s.crashed = true)
    (fuel index : Nat) : readByIndexTrace fl body fuel index s = ([], s) := by
  cases fuel with
  | zero => rfl
  | succ fuel => rw [readByIndexTrace, if_pos h]

theorem reached_skip {fails deletes stops : Nat → Bool} (index : Nat) (gone : Bool)
    (ids : List Nat) : reached fails deletes stops index gone ids =
      reached fails deletes stops index false (if gone then ids.drop 1 else ids) := by
  cases gone with
  | true => exact reached_true index ids
  | false => rfl

/-- The loop from an index on hands over what `reached` says of the records that are left
there. -/
theorem readByIndexTrace_reached {deletes stops : SyncState α → Nat → Bool} (fl : Faults)
    (hbody : Turns body deletes stops) (fuel index : Nat) (rest : List Nat) (s : SyncState α)
    (halive : s.crashed = false) (hrest : s.pilot.order.drop index = rest)
    (hfuel : rest.length < fuel) :
    (readByIndexTrace fl body fuel index s).1.map PilotRecord.ID =
        reached fl.readRecordByIndex (deletes s) (stops s) index false rest ∧
      Handed body (reached fl.readRecordByIndex (deletes s) (stops s) index false rest) s
        (readByIndexTrace fl body fuel index s).2 := by
  induction fuel generalizing index rest s with
  | zero => omega
  | succ fuel ih =>
    unfold readByIndexTrace
    rw [if_neg (by simp [halive])]
    cases rest with
    | nil =>
      have hlen : s.pilot.order.length ≤ index := List.drop_eq_nil_iff.mp hrest
      rw [PilotDB.dlpReadRecordByIndex_eq_none hlen]
      split_ifs <;> exact ⟨rfl, .nil fun i => .record i s _⟩
    | cons i rest =>
      unfold reached
      by_cases hfails : fl.readRecordByIndex index = true
      · rw [if_pos hfails, if_pos hfails]
        exact ⟨rfl, .nil fun i => .record i s _⟩
      rw [if_neg hfails, if_neg hfails]
      obtain ⟨hmem, d, hd, hread⟩ := PilotDB.dlpReadRecordByIndex_of_drop hrest
      rw [hread]
      dsimp only
      have hsame : ∀ j, SameAt j s (s.record (.readRecordByIndex index)) :=
        fun j => .record j s _
      have haside := hbody.aside (s := s.record (.readRecordByIndex index)) hd
      have horder := hbody.order (s := s.record (.readRecordByIndex index)) halive hd
      have hcrashed := hbody.crashed (s := s.record (.readRecordByIndex index)) halive hd
      rw [(hbody.sameAt (hsame i)).1] at horder
      rw [(hbody.sameAt (hsame i)).2] at hcrashed
      have hturn : ∀ ids s', Handed body ids (body (s.record (.readRecordByIndex index))
          (standardAbsComputeAttrField i d)) s' → i ∉ ids → Handed body (i :: ids) s s' :=
        fun _ _ => Handed.cons hsame halive hd haside
      generalize body (s.record (.readRecordByIndex index)) (standardAbsComputeAttrField i d) =
        s₁ at haside horder hcrashed hturn ⊢
      have hnotin : i ∉ rest := by
        have hsub := s.pilot.order_nodup.sublist (List.drop_sublist index _)
        rw [hrest] at hsub
        exact (List.nodup_cons.mp hsub).1
      by_cases hstops : stops s i = true
      · -- the engine went down with this record
        rw [if_pos hstops, readByIndexTrace_of_crashed fl (hcrashed.trans hstops)]
        exact ⟨rfl, hturn [] s₁ (.nil fun j => .refl j s₁) List.not_mem_nil⟩
      · rw [if_neg hstops, reached_skip]
        have hleft : s₁.pilot.order.drop (index + 1) =
            if deletes s i then rest.drop 1 else rest := by
          rw [horder]
          exact drop_after_turn s.pilot.order_nodup hrest _
        have hsub : ∀ j ∈ (if deletes s i then rest.drop 1 else rest), j ∈ rest := by
          intro j hj
          split_ifs at hj
          · exact List.mem_of_mem_drop hj
          · exact hj
        have hkept : ∀ j ∈ (if deletes s i then rest.drop 1 else rest), SameAt j s s₁ := by
          intro j hj
          have hji : j ≠ i := by
            rintro rfl
            exact hnotin (hsub j hj)
          exact (hsame j).trans (haside j hji)
        have hlength : (if deletes s i then rest.drop 1 else rest).length < fuel := by
          rw [List.length_cons] at hfuel
          split_ifs
          · rw [List.length_drop]
            omega
          · omega
        obtain ⟨hids, hhanded⟩ := ih (index + 1) _ s₁
          (hcrashed.trans (Bool.eq_false_iff.mpr hstops)) hleft hlength
        rw [reached_congr (index + 1) false (fun j hj => (hbody.sameAt (hkept j hj)).1)
          (fun j hj => (hbody.sameAt (hkept j hj)).2)] at hids hhanded
        exact ⟨congrArg (i :: ·) hids,
          hturn _ _ hhanded fun hi => hnotin (hsub i ((reached_sublist _ _ _).subset hi))⟩

end Loop

/-! ## SlowSync -/

/-- Without failing reads everything is reached if no record but the last is deleted or
stops the loop, and only then. -/
theorem reached_eq_self_iff {deletes stops : Nat → Bool} (index : Nat) (ids : List Nat) :
    reached (fun _ => false) deletes stops index false ids = ids ↔
      ∀ i ∈ ids.dropLast, deletes i = false ∧ stops i = false := by
  induction ids generalizing index with
  | nil => simp [reached]
  | cons i rest ih =>
    cases rest with
    | nil => cases hs : stops i <;> simp [reached, hs]
    | cons j rest =>
      rw [List.dropLast_cons_cons, List.forall_mem_cons, ← ih (index + 1)]
      rw [reached, if_neg Bool.false_ne_true, List.cons_inj_right]
      cases hs : stops i with
      | true => simp
      | false =>
        cases hd : deletes i with
        | true =>
          -- the record behind it is passed over
          have hshort : reached (fun _ => false) deletes stops (index + 1) true (j :: rest) ≠
              j :: rest := by
            intro h
            have hsub : (j :: rest).Sublist rest := by
              rw [← h, reached_true]
              exact reached_sublist (index + 1) false rest
            have hlen := hsub.length_le
            rw [List.length_cons] at hlen
            omega
          simp [hshort]
        | false => simp

theorem count_eq_one_iff_eq {ids visits : List Nat} (hnodup : ids.Nodup)
    (hsub : visits.Sublist ids) : (∀ i ∈ ids, visits.count i = 1) ↔ visits = ids := by
  constructor
  · intro h
    have hall : ids ⊆ visits := fun i hi => List.count_pos_iff.mp (by rw [h i hi]; omega)
    exact hsub.eq_of_length_le (hnodup.length_le_of_subset hall)
  · rintro rfl i hi
    exact List.count_eq_one_of_mem hnodup hi

variable [DecidableEq α]

theorem syncRecordRemote_turns (fl : Faults) :
    Turns (fun s (r : PilotRecord α) => syncRecordRemote fl s r SyncBothWays)
      deletedWhenSynced (crashesWhenSynced fl) where
  aside hd := by
    have hpos := (PilotDB.get_issued hd).1
    exact syncRecordRemote_aside fl SyncBothWays (by omega) rfl
  order halive hd := (syncRecordRemote_order fl halive hd).1
  crashed halive hd := (syncRecordRemote_order fl halive hd).2
  sameAt h := ⟨h.deletedWhenSynced, h.crashesWhenSynced⟩

/-- The records `SlowSync` hands to `standard_abs_sync_record`, in this order. -/
def slowSyncHands (fl : Faults) (s : SyncState α) : List (PilotRecord α) :=
  (readByIndexTrace fl (fun s r => syncRecordRemote fl s r SyncBothWays)
    (s.pilot.order.length + 1) 0 s).1

/-- The IDs of these records, told from the state before. -/
def slowSyncReaches (fl : Faults) (s : SyncState α) : List Nat :=
  reached fl.readRecordByIndex (deletedWhenSynced s) (crashesWhenSynced fl s) 0 false
    s.pilot.order

theorem slowSync_handed (fl : Faults) {s : SyncState α} (halive : s.crashed = false) :
    (slowSyncHands fl s).map PilotRecord.ID = slowSyncReaches fl s ∧
      Handed (fun s r => syncRecordRemote fl s r SyncBothWays) (slowSyncReaches fl s) s
        (SlowSync fl s) := by
  have h := readByIndexTrace_reached fl (syncRecordRemote_turns fl) (s.pilot.order.length + 1) 0
    s.pilot.order s halive rfl (by omega)
  rw [readByIndexTrace_snd] at h
  exact h

/-- `SlowSync` hands over every record of the pilot once if and only if synchronising none
but the last deletes it or finds its local record unreturned by the conduit. -/
theorem SlowSync_visits_all_iff (fl : Faults) (hread : ∀ index, fl.readRecordByIndex index = false)
    (s : SyncState α) (halive : s.crashed = false) :
    (∀ i ∈ s.pilot.order, ((slowSyncHands fl s).map PilotRecord.ID).count i = 1) ↔
      ∀ i ∈ s.pilot.order.dropLast,
        deletedWhenSynced s i = false ∧ crashesWhenSynced fl s i = false := by
  have hfails : fl.readRecordByIndex = fun _ => false := funext hread
  rw [(slowSync_handed fl halive).1, slowSyncReaches, hfails, ← reached_eq_self_iff 0]
  exact count_eq_one_iff_eq s.pilot.order_nodup (reached_sublist 0 false _)

/-- Two modified records, then one deleted on the pilot that the desktop has. -/
def deletedLast : SyncState Nat :=
  SyncState.start (.ofList [⟨.nothing, false, false, 5, 1⟩])
    (.ofList [(7, ⟨false, true, false, false, 2⟩), (8, ⟨false, true, false, false, 3⟩),
      (5, ⟨false, false, true, false, 1⟩)] 9 (by decide) (by decide) (by decide)) true

/-- Deleted last, it keeps no other record from being handed over. -/
theorem deletedLast_visits_all : deletedLast.pilot.order = [7, 8, 5] ∧
    ∀ i ∈ deletedLast.pilot.order,
      ((slowSyncHands .none deletedLast).map PilotRecord.ID).count i = 1 :=
  ⟨by decide, (SlowSync_visits_all_iff .none (fun _ => rfl) deletedLast rfl).mpr (by decide)⟩

def deletedFirst : SyncState Nat :=
  SyncState.start (.ofList [⟨.nothing, false, false, 5, 1⟩])
    (.ofList [(5, ⟨false, false, true, false, 1⟩), (7, ⟨false, true, false, false, 2⟩),
      (8, ⟨false, true, false, false, 3⟩)] 9 (by decide) (by decide) (by decide)) true

/-- The record behind the deleted one takes its place before the index moves on. -/
theorem deletedFirst_passes_over :
    (slowSyncHands .none deletedFirst).map PilotRecord.ID = [5, 8] ∧
      ¬∀ i ∈ deletedFirst.pilot.order,
        ((slowSyncHands .none deletedFirst).map PilotRecord.ID).count i = 1 := by
  decide

end GnomePilot.Sync
