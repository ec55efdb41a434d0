import GnomePilot.Lib.Loop
import GnomePilot.Sync.Rewrites

/-!
# Every pass acts on each pair

A run without failing calls, seen through `SyncState.pair` at one ID and through
`SyncState.loose` at the records whose ID the pilot does not know.  `base` is the
seed the run started with: the IDs below it belong to pairs; from it on the pilot
has only what the run itself wrote.
-/

namespace GnomePilot.Sync

variable {α : Type}

/-! ## The records whose ID is unknown to the pilot -/

/-- An ID that the pilot has not handed out: 0 for a record without one, or an ID
of another pilot. -/
def Unissued (base i : Nat) : Prop := i = 0 ∨ base ≤ i

instance (base i : Nat) : Decidable (Unissued base i) :=
  inferInstanceAs (Decidable (_ ∨ _))

theorem unissued_zero (base : Nat) : Unissued base 0 := Or.inl rfl

theorem not_unissued {base i : Nat} : ¬ Unissued base i ↔ 0 < i ∧ i < base := by
  unfold Unissued
  omega

/-- The local records of such IDs, and the pilot records created for them. -/
structure Loose (α : Type) where
  seed : Nat
  slot : Nat → Option (LocalRecord α)
  rem : Nat → Option (DlpRecord α)
  arch : Nat → List α
  ignored : Nat → Bool

theorem Loose.ext' {a b : Loose α} (hseed : a.seed = b.seed)
    (hslot : ∀ u, a.slot u = b.slot u) (hrem : ∀ j, a.rem j = b.rem j)
    (harch : ∀ j, a.arch j = b.arch j) (hign : ∀ j, a.ignored j = b.ignored j) : a = b := by
  cases a
  cases b
  simp only [Loose.mk.injEq]
  exact ⟨hseed, funext hslot, funext hrem, funext harch, funext hign⟩

def SyncState.loose (base : Nat) (s : SyncState α) : Loose α where
  seed := s.pilot.uniqueIDSeed
  slot u := (s.store.get u).filter (fun l => Unissued base l.ID)
  rem j := if base ≤ j then s.pilot.get j else none
  arch j := if Unissued base j then s.archivedAt j else []
  ignored j := Unissued base j ∧ j ∈ s.recordIdsToIgnore

theorem store_of_loose {s : SyncState α} (base : Nat) {u : Nat} {l : LocalRecord α}
    (h : (s.loose base).slot u = some l) : s.store.get u = some l :=
  (Option.filter_eq_some_iff.mp h).1

theorem pilot_of_loose {s : SyncState α} (base : Nat) {k : Nat} {d : DlpRecord α}
    (h : (s.loose base).rem k = some d) : base ≤ k ∧ s.pilot.get k = some d := by
  simp only [SyncState.loose] at h
  split at h
  · exact ⟨by assumption, h⟩
  · contradiction

/-! ## The invariant of a run -/

/-- The IDs of pairs are unique, and what the run itself wrote to the pilot is not
to be looked at again. -/
structure Wf (base : Nat) (s : SyncState α) : Prop where
  keyed : s.store.KeyedBelow base
  claimed : ∀ j d, base ≤ j → s.pilot.get j = some d → j ∈ s.recordIdsToIgnore
  base_pos : 0 < base
  base_le : base ≤ s.pilot.uniqueIDSeed
  alive : s.crashed = false

theorem LocalStore_recordAt_of_onlyAt {st : LocalStore α} {u i : Nat} (honly : OnlyAt st u i)
    (hid : ∀ l, st.get u = some l → l.ID = i) : st.recordAt i = st.get u := by
  unfold LocalStore.recordAt
  cases hm : st.matchRecord i with
  | none =>
      cases hu : st.get u with
      | none => rfl
      | some l => exact absurd (hid l hu) (LocalStore.matchRecord_eq_none.mp hm u l hu)
  | some v =>
      obtain ⟨l, hg, hl⟩ := LocalStore.matchRecord_some hm
      rw [honly v l hg hl]
      rfl

theorem Wf.onlyAt {base : Nat} {s : SyncState α} (hwf : Wf base s) {u : Nat} {l : LocalRecord α}
    (hl : s.store.get u = some l) (h0 : l.ID ≠ 0) (hb : l.ID < base) : OnlyAt s.store u l.ID := by
  intro v m hm hid
  exact (hwf.keyed u v l m hl hm hid.symm h0 hb).symm

theorem Wf.record {base : Nat} {s : SyncState α} (hwf : Wf base s) (c : Call α) :
    Wf base (s.record c) :=
  ⟨hwf.keyed, hwf.claimed, hwf.base_pos, hwf.base_le, hwf.alive⟩

/-- The pilot has no record of such an ID unless the run wrote it. -/
theorem Wf.get_unissued {base : Nat} {s : SyncState α} (hwf : Wf base s) {i : Nat}
    (hi : Unissued base i) (hign : i ∉ s.recordIdsToIgnore) : s.pilot.get i = none := by
  rcases hi with rfl | hb
  · exact s.pilot.get_zero
  · cases hd : s.pilot.get i with
    | none => rfl
    | some d => exact absurd (hwf.claimed i d hb hd) hign

/-- What a turn of a loop does to the view: the pair at `i` becomes `p`, the rest
is untouched. -/
structure Acts (base : Nat) (s s' : SyncState α) (i : Nat) (p : Pair α) : Prop where
  wf : Wf base s'
  self : s'.pair i = p
  other : ∀ j, j ≠ 0 → j ≠ i → s'.pair j = s.pair j
  loose : s'.loose base = s.loose base
  order : (s.pilot.get i).isSome →
    s'.pilot.order = s.pilot.order.filter (fun j => j ≠ i ∨ p.rem.isSome)

theorem Acts.refl {base : Nat} {s : SyncState α} (hwf : Wf base s) (i : Nat) :
    Acts base s s i (s.pair i) where
  wf := hwf
  self := rfl
  other _ _ _ := rfl
  loose := rfl
  order hsome := by
    have hrem : (s.pair i).rem.isSome = true := hsome
    simp [hrem]

section Bridge

variable {base : Nat} {s s' : SyncState α} {u i : Nat} {p : Pair α}

theorem Rewrites.keyed (h : Rewrites s s' u i p) (hk : s.store.KeyedBelow base)
    (honly : OnlyAt s.store u i) (hloc : ∀ l, p.loc = some l → l.ID = i) :
    s'.store.KeyedBelow base := by
  intro v w l m hl hm hid h0 hb
  rw [h.loc v] at hl
  rw [h.loc w] at hm
  by_cases hv : v = u
  · by_cases hw : w = u
    · rw [hv, hw]
    · rw [if_pos hv] at hl
      rw [if_neg hw] at hm
      have hmi : m.ID = i := by rw [← hid, hloc l hl]
      rw [hv, honly w m hm hmi]
  · by_cases hw : w = u
    · rw [if_neg hv] at hl
      rw [if_pos hw] at hm
      have hli : l.ID = i := by rw [hid, hloc m hm]
      rw [hw, honly v l hl hli]
    · rw [if_neg hv] at hl
      rw [if_neg hw] at hm
      exact hk v w l m hl hm hid h0 hb

theorem Rewrites.recordAt_self (h : Rewrites s s' u i p) (honly : OnlyAt s.store u i)
    (hloc : ∀ l, p.loc = some l → l.ID = i) : s'.store.recordAt i = p.loc := by
  rw [← h.get_self]
  apply LocalStore_recordAt_of_onlyAt
  · intro v l hl hid
    rw [h.loc v] at hl
    by_cases hv : v = u
    · exact hv
    · rw [if_neg hv] at hl
      exact honly v l hl hid
  · intro l hl
    rw [h.get_self] at hl
    exact hloc l hl

theorem Rewrites.wf (h : Rewrites s s' u i p) (hwf : Wf base s) (hib : i < base)
    (honly : OnlyAt s.store u i) (hloc : ∀ l, p.loc = some l → l.ID = i) : Wf base s' := by
  refine ⟨h.keyed hwf.keyed honly hloc, ?_, hwf.base_pos, ?_, ?_⟩
  · intro j d hb hd
    have hji : j ≠ i := by omega
    rw [h.rem j, if_neg hji] at hd
    rw [h.ignored j, if_neg hji]
    exact hwf.claimed j d hb hd
  · rw [h.seed]
    exact hwf.base_le
  · rw [h.crashed]
    exact hwf.alive

theorem Rewrites.pair_self (h : Rewrites s s' u i p) (honly : OnlyAt s.store u i)
    (hloc : ∀ l, p.loc = some l → l.ID = i) : s'.pair i = p := by
  have hself := h.recordAt_self honly hloc
  have hrem : s'.pilot.get i = p.rem := by simpa using h.rem i
  have harch : s'.archivedAt i = p.arch := by simpa using h.arch i
  have hign : i ∈ s'.recordIdsToIgnore ↔ p.ignored = true := by simpa using h.ignored i
  cases p with
  | mk loc rem arch ignored =>
      simp only [SyncState.pair, Pair.mk.injEq]
      exact ⟨hself, hrem, harch, by simp [hign]⟩

theorem Rewrites.pair_other (h : Rewrites s s' u i p)
    (hslot : ∀ l, s.store.get u = some l → l.ID = i)
    (hloc : ∀ l, p.loc = some l → l.ID = i) {j : Nat} (hji : j ≠ i) :
    s'.pair j = s.pair j := by
  have hrec : s'.store.recordAt j = s.store.recordAt j := by
    apply LocalStore.recordAt_congr
    intro v l hid
    rw [h.loc v]
    by_cases hv : v = u
    · subst hv
      rw [if_pos rfl]
      constructor
      · intro hl
        exact absurd (hid.symm.trans (hloc l hl)) hji
      · intro hl
        exact absurd (hid.symm.trans (hslot l hl)) hji
    · rw [if_neg hv]
  have hign := h.ignored j
  rw [if_neg hji] at hign
  simp only [SyncState.pair, Pair.mk.injEq]
  exact ⟨hrec, by simpa [hji] using h.rem j, by simpa [hji] using h.arch j, by simp [hign]⟩

theorem Rewrites.loose (h : Rewrites s s' u i p) (hi : i ≠ 0) (hib : i < base)
    (hslot : ∀ l, s.store.get u = some l → l.ID = i)
    (hloc : ∀ l, p.loc = some l → l.ID = i) : s'.loose base = s.loose base := by
  have hunissued : ¬ Unissued base i := not_unissued.mpr ⟨by omega, hib⟩
  apply Loose.ext' h.seed
  · intro v
    simp only [SyncState.loose, h.loc v]
    by_cases hv : v = u
    · subst hv
      rw [if_pos rfl]
      have hnone : ∀ o : Option (LocalRecord α), (∀ l, o = some l → l.ID = i) →
          o.filter (fun l => decide (Unissued base l.ID)) = none := by
        intro o ho
        cases o with
        | none => rfl
        | some l => simp [Option.filter, ho l rfl, hunissued]
      rw [hnone _ hloc, hnone _ hslot]
    · rw [if_neg hv]
  · intro j
    simp only [SyncState.loose]
    by_cases hb : base ≤ j
    · have hji : j ≠ i := by omega
      simpa [hb, hji] using h.rem j
    · simp [hb]
  · intro j
    simp only [SyncState.loose]
    by_cases hj : Unissued base j
    · have hji : j ≠ i := fun heq => hunissued (heq ▸ hj)
      simpa [hj, hji] using h.arch j
    · simp [hj]
  · intro j
    simp only [SyncState.loose]
    by_cases hj : Unissued base j
    · have hji : j ≠ i := fun heq => hunissued (heq ▸ hj)
      simp [hj, h.ignored j, hji]
    · simp [hj]

/-- A relation between slots and records becomes one between pairs. -/
theorem Rewrites.acts (h : Rewrites s s' u i p) (hwf : Wf base s) (hi : i ≠ 0) (hib : i < base)
    (honly : OnlyAt s.store u i) (hslot : ∀ l, s.store.get u = some l → l.ID = i)
    (hloc : ∀ l, p.loc = some l → l.ID = i) : Acts base s s' i p :=
  ⟨h.wf hwf hib honly hloc, h.pair_self honly hloc,
    fun _ _ hji => h.pair_other hslot hloc hji, h.loose hi hib hslot hloc, h.order⟩

/-- A turn at a slot does not move any ID to another slot. -/
theorem Rewrites.onlyAt (h : Rewrites s s' u i p) {l₀ : LocalRecord α}
    (hu : s.store.get u = some l₀) (hl₀ : l₀.ID = i) (hloc : ∀ l, p.loc = some l → l.ID = i)
    {w j : Nat} (honly : OnlyAt s.store w j) : OnlyAt s'.store w j := by
  intro v l hl hid
  rw [h.loc v] at hl
  by_cases hv : v = u
  · rw [if_pos hv] at hl
    have hij : i = j := by rw [← hloc l hl, hid]
    rw [hv]
    exact honly u l₀ hu (by omega)
  · rw [if_neg hv] at hl
    exact honly v l hl hid

end Bridge

/-! ## One call of sync_record -/

theorem foldl_perform_ID {r : PilotRecord α} {i : Nat} (hr : r.ID = i) (acts : List SyncAction)
    {p : Pair α} (hloc : ∀ l, p.loc = some l → l.ID = i) :
    ∀ l, (acts.foldl (Pair.perform r) p).loc = some l → l.ID = i := by
  induction acts generalizing p with
  | nil => exact hloc
  | cons a acts ih => exact ih (Pair.perform_ID hr hloc a)

section Record

variable {base : Nat} {s : SyncState α}

theorem pair_loc_ID {i : Nat} : ∀ l, (s.pair i).loc = some l → l.ID = i :=
  fun _ => LocalStore.ID_of_recordAt

theorem Wf.pair_loc (hwf : Wf base s) {u : Nat} {l : LocalRecord α}
    (hl : s.store.get u = some l) (h0 : l.ID ≠ 0) (hb : l.ID < base) :
    (s.pair l.ID).loc = some l :=
  (hwf.keyed.recordAt_eq_some h0 hb).2 ⟨u, hl, rfl⟩

/-- No local record exists: the remote one is archived or stored in a new slot. -/
theorem syncRemoteOnly_rewrites {r : PilotRecord α} (hm : s.store.matchRecord r.ID = none)
    (dir : SyncDirection) :
    Rewrites s (syncRemoteOnly .none s r dir) s.store.size r.ID
      (if dir.toLocal then
        if r.archived then { s.pair r.ID with arch := r.content :: (s.pair r.ID).arch }
        else { s.pair r.ID with loc := some (SyncState.storedRecord r) }
      else s.pair r.ID) := by
  have hloc : (s.pair r.ID).loc = none := by
    simp [SyncState.pair, LocalStore.recordAt, hm]
  have hnone := s.store.bounded _ (Nat.le_refl s.store.size)
  have hstart : Rewrites s s s.store.size r.ID (s.pair r.ID) :=
    .refl (by rw [hloc, hnone]) rfl rfl (by simp [SyncState.pair])
  unfold syncRemoteOnly
  by_cases hdir : dir.toLocal = true
  · by_cases harch : r.archived = true
    · simp only [harch, hdir, if_true]
      refine ⟨hstart.loc, hstart.rem, ?_, hstart.ignored, hstart.order, hstart.seed,
        hstart.crashed⟩
      intro j
      rw [SyncState.archivedAt_cons s _ r.ID r.content (by simp [SyncState.archiveRemote,
        PilotRecord.cleared])]
      by_cases hj : j = r.ID
      · subst hj
        simp [SyncState.pair]
      · simp [hj]
    · simp only [harch, hdir, if_true, Bool.false_eq_true, if_false]
      have hins := LocalStore.matchRecord_insert (l := SyncState.storedRecord r) hm
      simp only [SyncState.storeRemote, Faults.none, hm, Bool.false_eq_true, if_false]
      rw [show (SyncState.storedRecord r).ID = r.ID from rfl] at hins
      simp only [hins]
      refine ⟨?_, hstart.rem, hstart.arch, hstart.ignored, hstart.order, hstart.seed,
        hstart.crashed⟩
      intro v
      by_cases hv : v = s.store.size
      · simp [SyncState.setStatus, hv, SyncState.storedRecord]
      · simp [SyncState.setStatus, hv]
  · simp only [hdir, Bool.false_eq_true, if_false]
    by_cases harch : r.archived = true
    · simpa [harch] using hstart
    · simpa [harch] using hstart

variable [DecidableEq α]

/-- A branch with both records there acts on the pair. -/
theorem syncPair_rewrites (hwf : Wf base s) {u : Nat} {l : LocalRecord α}
    (hl : s.store.get u = some l) (h0 : l.ID ≠ 0) (hb : l.ID < base) {r : PilotRecord α}
    (hr : r.ID = l.ID) (dir : SyncDirection) :
    Rewrites s (syncPair .none s u l r dir) u l.ID
      (((syncCase l r).actions dir).foldl (Pair.perform r) (s.pair l.ID)) := by
  have hloc := hwf.pair_loc hl h0 hb
  have hstart : Rewrites s s u l.ID (s.pair l.ID) :=
    .refl (by rw [hl, hloc]) rfl rfl (by simp [SyncState.pair])
  refine runActions_rewrites hstart hr h0 (Nat.lt_of_lt_of_le hb hwf.base_le)
    (hwf.onlyAt hl h0 hb) hwf.alive pair_loc_ID true true ?_ ?_ _
    (SyncCase.actions_wellOrdered dir _)
  · intro _
    simp [hloc]
  · intro _ hsome
    exact hsome

/-- The call the loops over pilot records make. -/
theorem syncRecordRemote_acts (hwf : Wf base s) {i : Nat} {d : DlpRecord α}
    (hd : s.pilot.get i = some d) (hib : i < base) (dir : SyncDirection) :
    Acts base s (syncRecordRemote .none s (standardAbsComputeAttrField i d) dir) i
      ((s.pair i).visit i dir) := by
  have hi : i ≠ 0 := by
    have := PilotDB.get_issued hd
    omega
  have hrem : (s.pair i).rem = some d := hd
  have hrid : (standardAbsComputeAttrField i d).ID = i := rfl
  unfold syncRecordRemote
  simp only [hwf.alive, hrid, Bool.false_eq_true, if_false]
  by_cases hign : i ∈ s.recordIdsToIgnore
  · rw [if_pos hign, Pair.visit_ignored (by simp [SyncState.pair, hign])]
    exact Acts.refl hwf i
  · have hpi : (s.pair i).ignored = false := by simp [SyncState.pair, hign]
    rw [if_neg hign]
    cases hm : s.store.matchRecord i with
    | some u =>
        obtain ⟨l, hl, hid⟩ := LocalStore.matchRecord_some hm
        subst hid
        rw [Pair.visit_both hrem hpi (hwf.pair_loc hl hi hib)]
        simp only [hl]
        refine (syncPair_rewrites hwf hl hi hib hrid dir).acts hwf hi hib
          (hwf.onlyAt hl hi hib) ?_ (foldl_perform_ID rfl _ pair_loc_ID)
        intro m hm'
        rw [hl] at hm'
        cases hm'
        rfl
    | none =>
        have hloc : (s.pair i).loc = none := by
          simp [SyncState.pair, LocalStore.recordAt, hm]
        rw [Pair.visit_remote_only hrem hpi hloc]
        refine (syncRemoteOnly_rewrites (r := standardAbsComputeAttrField i d) hm dir).acts
          hwf hi hib ?_ ?_ ?_
        · intro v l hl hid
          exact absurd hid (LocalStore.matchRecord_eq_none.mp hm v l hl)
        · intro l hl
          rw [s.store.bounded _ (Nat.le_refl _)] at hl
          contradiction
        · intro l hl
          rw [hrid] at hl
          by_cases hdir : dir.toLocal = true
          · by_cases harch : d.archived = true
            · simp [hdir, harch, standardAbsComputeAttrField, hloc] at hl
            · simp only [hdir, if_true, standardAbsComputeAttrField, harch, if_false,
                Option.some.injEq, Bool.false_eq_true] at hl
              rw [← hl]
              rfl
          · simp [hdir, hloc] at hl

end Record

end GnomePilot.Sync
