import GnomePilot.Sync.Simulation

/-!
# The loops over pilot records

Which records the main loops hand to `standard_abs_sync_record`.  `FastSync`
reaches the flagged ones.  `SlowSync` counts an index up while the records of
the database move down when one is deleted, so it passes over the record that
follows a deleted one.
-/

namespace GnomePilot.Sync

variable {α : Type}

/-! ## Records an index loop reaches -/

/-- `skip` is set when the record visited last was deleted. -/
def indexVisits (deletes : Nat → Bool) : Bool → List Nat → List Nat
  | _, [] => []
  | true, _ :: rest => indexVisits deletes false rest
  | false, i :: rest => i :: indexVisits deletes (deletes i) rest

theorem mem_of_mem_indexVisits {deletes : Nat → Bool} {skip : Bool} {ids : List Nat} {i : Nat}
    (h : i ∈ indexVisits deletes skip ids) : i ∈ ids := by
  induction ids generalizing skip with
  | nil => cases skip <;> simp [indexVisits] at h
  | cons j rest ih =>
      cases skip with
      | true => exact List.mem_cons_of_mem j (ih h)
      | false =>
          rcases List.mem_cons.mp h with rfl | h
          · exact List.mem_cons_self
          · exact List.mem_cons_of_mem j (ih h)

theorem indexVisits_congr {d₁ : Nat → Bool} (d₂ : Nat → Bool) {ids : List Nat} (skip : Bool)
    (h : ∀ i ∈ ids, d₁ i = d₂ i) : indexVisits d₁ skip ids = indexVisits d₂ skip ids := by
  induction ids generalizing skip with
  | nil => cases skip <;> rfl
  | cons j rest ih =>
      have hrest : ∀ i ∈ rest, d₁ i = d₂ i := fun i hi => h i (List.mem_cons_of_mem j hi)
      cases skip with
      | true => exact ih false hrest
      | false =>
          simp only [indexVisits]
          rw [h j List.mem_cons_self, ih _ hrest]

theorem indexVisits_skip (deletes : Nat → Bool) (skip : Bool) (ids : List Nat) :
    indexVisits deletes skip ids =
      indexVisits deletes false (if skip then ids.drop 1 else ids) := by
  cases skip with
  | false => rfl
  | true =>
      cases ids with
      | nil => rfl
      | cons i rest => rfl

/-- Without a deletion every record is reached. -/
theorem indexVisits_eq_self {deletes : Nat → Bool} {ids : List Nat}
    (h : ∀ i ∈ ids, deletes i = false) : indexVisits deletes false ids = ids := by
  induction ids with
  | nil => rfl
  | cons i rest ih =>
      simp only [indexVisits]
      rw [h i List.mem_cons_self, ih (fun j hj => h j (List.mem_cons_of_mem i hj))]

/-! ## What a loop does to the pairs -/

/-- The pairs of `ids` are replaced by `f`, everything else is untouched. -/
structure Visited (base : Nat) (f : Nat → Pair α → Pair α) (ids : List Nat)
    (s s' : SyncState α) : Prop where
  wf : Wf base s'
  pair : ∀ i, i ≠ 0 → s'.pair i = if i ∈ ids then f i (s.pair i) else s.pair i
  loose : s'.loose base = s.loose base

theorem Visited.nil {base : Nat} {f : Nat → Pair α → Pair α} {s : SyncState α}
    (hwf : Wf base s) (c : Call α) : Visited base f [] s (s.record c) :=
  ⟨hwf.record c, fun _ _ => by simp; rfl, rfl⟩

/-- One turn and the rest of the loop. -/
theorem Visited.cons {base : Nat} {f : Nat → Pair α → Pair α} {ids : List Nat} {i : Nat}
    {s s₁ s' : SyncState α} (h₁ : Acts base s s₁ i (f i (s.pair i)))
    (h : Visited base f ids s₁ s') (hi : i ∉ ids) : Visited base f (i :: ids) s s' where
  wf := h.wf
  pair j hj := by
    rw [h.pair j hj]
    by_cases hji : j = i
    · subst hji
      simp [hi, h₁.self]
    · simp [hji, h₁.other j hj hji]
  loose := h.loose.trans h₁.loose

def ActsOn (base : Nat) (body : SyncState α → PilotRecord α → SyncState α)
    (f : Nat → Pair α → Pair α) : Prop :=
  ∀ s i d, Wf base s → s.pilot.get i = some d → i < base →
    Acts base s (body s (standardAbsComputeAttrField i d)) i (f i (s.pair i))

theorem Acts.of_record {base : Nat} {s s' : SyncState α} {i : Nat} {p : Pair α} {c : Call α}
    (h : Acts base (s.record c) s' i p) : Acts base s s' i p :=
  ⟨h.wf, h.self, h.other, h.loose, h.order⟩

theorem Acts.get_other {base : Nat} {s s' : SyncState α} {i j : Nat} {p : Pair α}
    (h : Acts base s s' i p) (hj : j ≠ 0) (hji : j ≠ i) : s'.pilot.get j = s.pilot.get j :=
  congrArg Pair.rem (h.other j hj hji)

theorem drop_filter_ne {i : Nat} {pre rest : List Nat} (hnodup : (pre ++ i :: rest).Nodup) :
    ((pre ++ i :: rest).filter (fun j => j ≠ i)).drop (pre.length + 1) = rest.drop 1 := by
  have hpre : pre.filter (fun j => decide (j ≠ i)) = pre := by
    rw [List.filter_eq_self]
    intro j hj
    have hne : j ≠ i := by
      rintro rfl
      exact (List.nodup_append.mp hnodup).2.2 j hj j List.mem_cons_self rfl
    simp [hne]
  have hrest : rest.filter (fun j => decide (j ≠ i)) = rest := by
    rw [List.filter_eq_self]
    intro j hj
    have hne : j ≠ i := by
      rintro rfl
      exact (List.nodup_cons.mp (List.nodup_append.mp hnodup).2.1).1 hj
    simp [hne]
  rw [List.filter_append, hpre]
  simp only [ne_eq, not_true_eq_false, decide_false, Bool.false_eq_true, not_false_eq_true,
    List.filter_cons_of_neg]
  rw [hrest, List.drop_append]
  simp

/-- What is left of the database behind the index when the turn at `i` is over. -/
theorem drop_after_turn {ids rest : List Nat} {index i : Nat} (hnodup : ids.Nodup)
    (hrest : ids.drop index = i :: rest) (gone : Bool) :
    (ids.filter (fun j => j ≠ i ∨ gone = false)).drop (index + 1) =
      if gone then rest.drop 1 else rest := by
  cases gone with
  | true =>
    have hsplit : ids = ids.take index ++ i :: rest := by
      rw [← hrest, List.take_append_drop]
    have hlt : index < ids.length := by
      by_contra hge
      rw [List.drop_eq_nil_of_le (by omega)] at hrest
      cases hrest
    have hlen : (ids.take index).length = index := by
      rw [List.length_take]
      omega
    rw [hsplit] at hnodup
    have hfilter := drop_filter_ne hnodup
    rw [hlen, ← hsplit] at hfilter
    simpa using hfilter
  | false =>
    have h1 := congrArg (List.drop 1) hrest
    simpa [List.drop_drop, Nat.add_comm] using h1

theorem readByIndexLoop_visited {base : Nat} {f : Nat → Pair α → Pair α}
    {body : SyncState α → PilotRecord α → SyncState α} (hbody : ActsOn base body f)
    (fuel index : Nat) (rest : List Nat) (s : SyncState α) (hwf : Wf base s)
    (hbase : ∀ i ∈ s.pilot.order, i < base) (hrest : s.pilot.order.drop index = rest)
    (hfuel : rest.length < fuel) :
    Visited base f (indexVisits (fun i => (f i (s.pair i)).rem.isNone) false rest) s
      (readByIndexLoop .none body fuel index s) := by
  induction fuel generalizing index rest s with
  | zero => omega
  | succ fuel ih =>
      simp only [readByIndexLoop, hwf.alive, Faults.none_readRecordByIndex, Bool.false_eq_true,
        if_false]
      cases rest with
      | nil =>
          have hlen : s.pilot.order.length ≤ index := List.drop_eq_nil_iff.mp hrest
          rw [PilotDB.dlpReadRecordByIndex_eq_none hlen]
          exact Visited.nil hwf _
      | cons i rest =>
          obtain ⟨hmem, d, hd, hread⟩ := PilotDB.dlpReadRecordByIndex_of_drop hrest
          have hib := hbase i hmem
          rw [hread]
          dsimp only
          have hacts := (hbody _ i d (hwf.record (.readRecordByIndex index)) hd hib).of_record
          rw [show (s.record (.readRecordByIndex index)).pair i = s.pair i from rfl] at hacts
          generalize hs₁ : body (s.record (.readRecordByIndex index))
            (standardAbsComputeAttrField i d) = s₁ at hacts ⊢
          have hnodup := s.pilot.order_nodup.drop (i := index)
          rw [hrest] at hnodup
          have hirest : i ∉ rest := (List.nodup_cons.mp hnodup).1
          have hpos : ∀ j ∈ s.pilot.order, j ≠ 0 := by
            intro j hj
            have := s.pilot.order_issued j hj
            omega
          have hrestmem : ∀ j ∈ rest, j ∈ s.pilot.order := fun j hj =>
            List.mem_of_mem_drop (hrest ▸ List.mem_cons_of_mem i hj)
          have horder := hacts.order (by simp [hd])
          have hbase₁ : ∀ j ∈ s₁.pilot.order, j < base := by
            intro j hj
            rw [horder] at hj
            exact hbase j (List.mem_filter.mp hj).1
          have hdel : ∀ j ∈ rest, (f j (s₁.pair j)).rem.isNone = (f j (s.pair j)).rem.isNone := by
            intro j hj
            have hji : j ≠ i := by
              rintro rfl
              exact hirest hj
            rw [hacts.other j (hpos j (hrestmem j hj)) hji]
          have hdrop := drop_after_turn s.pilot.order_nodup hrest (f i (s.pair i)).rem.isNone
          simp only [Option.isNone_eq_false_iff] at hdrop
          rw [← horder] at hdrop
          have hsub : ∀ j ∈ (if (f i (s.pair i)).rem.isNone then rest.drop 1 else rest),
              j ∈ rest := by
            intro j hj
            split at hj
            · exact List.mem_of_mem_drop hj
            · exact hj
          have hvis := ih (index + 1) _ s₁ hacts.wf hbase₁ hdrop (by
            simp only [List.length_cons] at hfuel
            split
            · rw [List.length_drop]
              omega
            · omega)
          rw [indexVisits_congr _ false fun j hj => hdel j (hsub j hj)] at hvis
          rw [indexVisits, indexVisits_skip]
          exact Visited.cons hacts hvis fun hi => hirest (hsub i (mem_of_mem_indexVisits hi))

theorem forEachByIndex_visited {base : Nat} {f : Nat → Pair α → Pair α}
    {body : SyncState α → PilotRecord α → SyncState α} (hbody : ActsOn base body f)
    {s : SyncState α} (hwf : Wf base s) (hbase : ∀ i ∈ s.pilot.order, i < base) :
    Visited base f (indexVisits (fun i => (f i (s.pair i)).rem.isNone) false s.pilot.order) s
      (forEachByIndex .none body s) :=
  readByIndexLoop_visited hbody _ 0 _ s hwf hbase rfl (by omega)

/-- The device returns the flagged records of the part of the database it has
not walked yet. -/
theorem readNextModifiedLoop_visited {base : Nat} {f : Nat → Pair α → Pair α}
    {body : SyncState α → PilotRecord α → SyncState α} (hbody : ActsOn base body f)
    (ids : List Nat) (hnodup : ids.Nodup) (s : SyncState α) (hwf : Wf base s)
    (hids : ∀ i ∈ ids, i ≠ 0 ∧ i < base) :
    Visited base f (ids.filter (fun i => (s.pilot.get i).any DlpRecord.flagged)) s
      (readNextModifiedLoop .none body ids s) := by
  induction ids generalizing s with
  | nil => exact Visited.nil hwf _
  | cons i ids ih =>
      obtain ⟨hi, hnodup⟩ := List.nodup_cons.mp hnodup
      have hids' : ∀ j ∈ ids, j ≠ 0 ∧ j < base := fun j hj => hids j (List.mem_cons_of_mem i hj)
      simp only [readNextModifiedLoop, hwf.alive, Faults.none_readNextModifiedRec,
        Bool.false_eq_true, if_false]
      cases hd : s.pilot.get i with
      | none => simpa [hd] using ih hnodup s hwf hids'
      | some d =>
          by_cases hflag : d.flagged = true
          · have hacts := (hbody _ i d (hwf.record .readNextModifiedRec) hd
              (hids i List.mem_cons_self).2).of_record
            rw [show (s.record .readNextModifiedRec).pair i = s.pair i from rfl] at hacts
            have hvis := ih hnodup _ hacts.wf hids'
            have hsame : ids.filter (fun j => ((body (s.record .readNextModifiedRec)
                (standardAbsComputeAttrField i d)).pilot.get j).any DlpRecord.flagged) =
                ids.filter (fun j => (s.pilot.get j).any DlpRecord.flagged) := by
              apply List.filter_congr
              intro j hj
              have hji : j ≠ i := by
                rintro rfl
                exact hi hj
              rw [hacts.get_other (hids' j hj).1 hji]
            rw [hsame] at hvis
            rw [List.filter_cons_of_pos (by simp [hd, hflag])]
            simp only [hflag, if_true]
            exact Visited.cons hacts hvis (fun h => hi (List.mem_filter.mp h).1)
          · rw [List.filter_cons_of_neg (by simp [hd, hflag])]
            simpa [hflag] using ih hnodup s hwf hids'

/-! ## FastSync and SlowSync -/

variable [DecidableEq α]

theorem syncRecordRemote_actsOn (base : Nat) (dir : SyncDirection) :
    ActsOn base (fun s (r : PilotRecord α) => syncRecordRemote .none s r dir)
      (fun i p => p.visit i dir) :=
  fun _ _ _ hwf hd hib => syncRecordRemote_acts hwf hd hib dir

/-- The records the main loop of a two-way run hands to `sync_record`. -/
def mainVisits (fast : Bool) (s : SyncState α) : List Nat :=
  if fast then s.pilot.order.filter (fun i => (s.pilot.get i).any DlpRecord.flagged)
  else indexVisits (fun i => ((s.pair i).visit i SyncBothWays).rem.isNone) false s.pilot.order

theorem FastSync_visited {base : Nat} {s : SyncState α} (hwf : Wf base s)
    (hbase : ∀ i ∈ s.pilot.order, i < base) :
    Visited base (fun i p => p.visit i SyncBothWays) (mainVisits true s) s
      (FastSync .none s) := by
  refine readNextModifiedLoop_visited (syncRecordRemote_actsOn base SyncBothWays) _
    s.pilot.order_nodup s hwf ?_
  intro i hi
  have := s.pilot.order_issued i hi
  exact ⟨by omega, hbase i hi⟩

theorem SlowSync_visited {base : Nat} {s : SyncState α} (hwf : Wf base s)
    (hbase : ∀ i ∈ s.pilot.order, i < base) :
    Visited base (fun i p => p.visit i SyncBothWays) (mainVisits false s) s
      (SlowSync .none s) :=
  forEachByIndex_visited (syncRecordRemote_actsOn base SyncBothWays) hwf hbase

end GnomePilot.Sync
