import GnomePilot.Sync.Fate
import GnomePilot.Sync.Replay

/-!
# Failed transfers

A changed record whose transfer fails should still be there, flagged and under
its ID when the operation ends, so that the next one tries again.
`failedTransfer_retried_iff` says for which failures it is.
-/

namespace GnomePilot.Sync

variable {α : Type}

/-- Every changed record of `st` whose transfer was attempted and did not come
through is kept. -/
def FailuresRetried (st : LocalStore α) (s : SyncState α) : Prop :=
  ∀ u l, st.get u = some l → l.attr.changed = true → Attempted u s → ¬ Written u l.content s →
    Kept u l s

/-- Every changed record whose content was not written to the pilot is kept,
whether its transfer was attempted or not. -/
def UnwrittenKept (st : LocalStore α) (s : SyncState α) : Prop :=
  ∀ u l, st.get u = some l → l.attr.changed = true → ¬ Written u l.content s → Kept u l s

/-- With these fates no transfer fails, and each sends the record's own content. -/
def TransfersSucceed (st : LocalStore α) (t w : Nat → Bool)
    (fates : Nat → LocalRecord α → Fate) : Prop :=
  ∀ u l, st.get u = some l → l.attr.changed = true → fates u l ≠ .overwritten ∧
    (fates u l = .sent → t u = false ∧ w u = false)

/-- The state is as it should be exactly when the transfers succeed; and nothing
unwritten is dropped at all exactly when no record is settled without one either. -/
structure RetriedWhen (st : LocalStore α) (t w : Nat → Bool)
    (fates : Nat → LocalRecord α → Fate) (s : SyncState α) : Prop where
  failures : FailuresRetried st s ↔ TransfersSucceed st t w fates
  unwritten : UnwrittenKept st s ↔ ∀ u l, st.get u = some l → l.attr.changed = true →
    fates u l = .untouched ∨ (fates u l = .sent ∧ t u = false ∧ w u = false)

/-- What the last state of a run without failures shows of a record. -/
structure Meets (u : Nat) (l : LocalRecord α) (s : SyncState α) (f : Fate) : Prop where
  attempted : Attempted u s ↔ f = .sent ∨ f = .overwritten
  written : Written u l.content s ↔ f = .sent
  kept : Kept u l s ↔ f = .untouched

/-! ## From one run without failures to all runs -/

section Runs

variable {t w : Nat → Bool} {st : LocalStore α} {base : Nat} {s : SyncState α} {u : Nat}
  {l : LocalRecord α}

theorem Logged.not_kept (h : Logged t w st s) (hu : Attempted u s) : ¬ Kept u l s := by
  rintro ⟨m, hm, hch, -⟩
  rw [h.cleared u m hu hm] at hch
  contradiction

/-- A content on the pilot was transmitted and written without failure. -/
theorem Logged.of_written (h : Logged t w st s) {c : α} (hw : Written u c s) :
    Attempted u s ∧ t u = false ∧ w u = false := by
  obtain ⟨i, hw⟩ := hw
  obtain ⟨hok, htr, -⟩ := h.written u i c true hw
  obtain ⟨hok', -⟩ := h.transmitted u true htr
  exact ⟨⟨true, htr⟩, by simpa using hok', by simpa using hok⟩

theorem none_eq_sending : Faults.none = .sending (fun _ => false) (fun _ => false) := rfl

section Regular

variable {F : Faults → SyncState α → SyncState α} {fates : Nat → LocalRecord α → Fate}

/-- A run in which no attempt fails is the one without failures. -/
theorem Regular.clean (hF : Regular F)
    (hall : ∀ u, Attempted u (F (.sending t w) s) → t u = false ∧ w u = false) :
    F .none s = F (.sending t w) s := by
  have hagree : Agree t w (fun _ => false) (fun _ => false) (F (.sending t w) s) := by
    intro u hu
    obtain ⟨ht, hw⟩ := hall u hu
    exact ⟨ht.symm, hw.symm⟩
  exact hF.replays hagree

/-- Failures of records that are not sent are not met. -/
theorem Regular.unaffected (hF : Regular F) (hk : st.Keyed)
    (h₀ : ∀ t w, Tracks t w st base s)
    (hfate : ∀ u l, st.get u = some l → l.attr.changed = true →
      Meets u l (F .none s) (fates u l))
    (hall : ∀ u l, st.get u = some l → l.attr.changed = true →
      fates u l = .sent ∨ fates u l = .overwritten → t u = false ∧ w u = false) :
    F (.sending t w) s = F .none s := by
  have hlog := (hF.tracks hk (h₀ (fun _ => false) (fun _ => false))).logged
  have hagree : Agree (fun _ => false) (fun _ => false) t w (F .none s) := by
    intro u hu
    obtain ⟨ok, hcall⟩ := hu
    obtain ⟨-, l, hl, hch⟩ := hlog.transmitted u ok hcall
    exact hall u l hl hch ((hfate u l hl hch).attempted.1 ⟨ok, hcall⟩)
  exact hF.replays hagree

theorem TransfersSucceed.unaffected (h : TransfersSucceed st t w fates) (hF : Regular F)
    (hk : st.Keyed) (h₀ : ∀ t w, Tracks t w st base s)
    (hfate : ∀ u l, st.get u = some l → l.attr.changed = true →
      Meets u l (F .none s) (fates u l)) : F (.sending t w) s = F .none s :=
  hF.unaffected hk h₀ hfate fun u l hl hch hf =>
    (h u l hl hch).2 (hf.resolve_right (h u l hl hch).1)

theorem FailuresRetried.written (h : FailuresRetried st s) (hlog : Logged t w st s)
    (hl : st.get u = some l) (hch : l.attr.changed = true) (hu : Attempted u s) :
    Written u l.content s := by
  by_contra hw
  exact hlog.not_kept hu (h u l hl hch hu hw)

theorem Regular.failuresRetried_iff (hF : Regular F) (hk : st.Keyed)
    (h₀ : ∀ t w, Tracks t w st base s)
    (hfate : ∀ u l, st.get u = some l → l.attr.changed = true →
      Meets u l (F .none s) (fates u l)) :
    FailuresRetried st (F (.sending t w) s) ↔ TransfersSucceed st t w fates := by
  constructor
  · intro h
    have hlog := (hF.tracks hk (h₀ t w)).logged
    have hsame := hF.clean (t := t) (w := w) (s := s) fun u hu => by
      obtain ⟨ok, hcall⟩ := hu
      obtain ⟨-, l, hl, hch⟩ := hlog.transmitted u ok hcall
      exact (hlog.of_written (h.written hlog hl hch ⟨ok, hcall⟩)).2
    intro u l hl hch
    have hmeets := hfate u l hl hch
    rw [hsame] at hmeets
    constructor
    · intro hover
      have hw := h.written hlog hl hch (hmeets.attempted.2 (Or.inr hover))
      rw [hmeets.written, hover] at hw
      contradiction
    · intro hsent
      exact (hlog.of_written (hmeets.written.2 hsent)).2
  · intro h
    rw [h.unaffected hF hk h₀ hfate]
    intro u l hl hch hu hw
    have hmeets := hfate u l hl hch
    have hsent := (hmeets.attempted.1 hu).resolve_right (h u l hl hch).1
    exact absurd (hmeets.written.2 hsent) hw

theorem Regular.unwrittenKept_iff (hF : Regular F) (hk : st.Keyed)
    (h₀ : ∀ t w, Tracks t w st base s)
    (hfate : ∀ u l, st.get u = some l → l.attr.changed = true →
      Meets u l (F .none s) (fates u l)) :
    UnwrittenKept st (F (.sending t w) s) ↔ ∀ u l, st.get u = some l → l.attr.changed = true →
      fates u l = .untouched ∨ (fates u l = .sent ∧ t u = false ∧ w u = false) := by
  constructor
  · intro h
    have hsucceed := (hF.failuresRetried_iff hk h₀ hfate).1
      fun u l hl hch _ hw => h u l hl hch hw
    rw [hsucceed.unaffected hF hk h₀ hfate] at h
    intro u l hl hch
    have hmeets := hfate u l hl hch
    by_cases hsent : fates u l = .sent
    · exact Or.inr ⟨hsent, (hsucceed u l hl hch).2 hsent⟩
    · exact Or.inl (hmeets.kept.1 (h u l hl hch (fun hw => hsent (hmeets.written.1 hw))))
  · intro h
    have hsame := hF.unaffected (t := t) (w := w) hk h₀ hfate fun u l hl hch hf => by
      rcases h u l hl hch with hun | ⟨-, hok⟩
      · rw [hun] at hf
        simp at hf
      · exact hok
    rw [hsame]
    intro u l hl hch hw
    have hmeets := hfate u l hl hch
    rcases h u l hl hch with hun | ⟨hsent, -⟩
    · exact hmeets.kept.2 hun
    · exact absurd (hmeets.written.2 hsent) hw

/-- The failures that leave an operation as it should be, by what becomes of the
records where nothing fails. -/
theorem Regular.retriedWhen (hF : Regular F) (hk : st.Keyed)
    (h₀ : ∀ t w, Tracks t w st base s)
    (hfate : ∀ u l, st.get u = some l → l.attr.changed = true →
      Meets u l (F .none s) (fates u l)) (t w : Nat → Bool) :
    RetriedWhen st t w fates (F (.sending t w) s) :=
  ⟨hF.failuresRetried_iff hk h₀ hfate, hF.unwrittenKept_iff hk h₀ hfate⟩

end Regular

/-! ## Reading a record's fate off the last state -/

theorem Meets.of_untouched (h : Logged t w st s) (hl : s.store.get u = some l)
    (hch : l.attr.changed = true) : Meets u l s .untouched := by
  have hatt : ¬ Attempted u s := by
    intro hu
    rw [h.cleared u l hu hl] at hch
    contradiction
  refine ⟨?_, ?_, ?_⟩
  · simpa using hatt
  · simpa using fun hw => hatt (h.of_written hw).1
  · simpa using ⟨l, hl, hch, rfl, rfl⟩

theorem Meets.of_sent (h : Logged t w st s) (hw : Written u l.content s) :
    Meets u l s .sent := by
  have hatt := (h.of_written hw).1
  refine ⟨?_, ?_, ?_⟩
  · simpa using hatt
  · simpa using hw
  · simpa using h.not_kept hatt

theorem Meets.of_settled (h : Logged t w st s) (hatt : ¬ Attempted u s) (hkept : ¬ Kept u l s) :
    Meets u l s .settled := by
  refine ⟨?_, ?_, ?_⟩
  · simpa using hatt
  · simpa using fun hw => hatt (h.of_written hw).1
  · simpa using hkept

theorem Logged.slot_of_write (hk : st.Keyed) (h : Logged t w st s) (hl : st.get u = some l)
    (h0 : l.ID ≠ 0) {v : Nat} {c : α} {ok : Bool} (hv : .writeRecord v l.ID c ok ∈ s.calls) :
    v = u := by
  obtain ⟨-, -, m, hm, hid⟩ := h.written v l.ID c ok hv
  exact hk v u m l hm hl hid (by omega)

theorem Logged.id_of_write (h : Logged t w st s) (hl : st.get u = some l) {i : Nat} {c : α}
    {ok : Bool} (hv : .writeRecord u i c ok ∈ s.calls) : i = l.ID := by
  obtain ⟨-, -, m, hm, hid⟩ := h.written u i c ok hv
  rw [hl, Option.some.injEq] at hm
  rw [hm, hid]

theorem Tracks.get_of_written (h : Tracks t w st base s) (hl : st.get u = some l)
    (h0 : l.ID ≠ 0) {c : α} (hw : Written u c s) :
    l.ID ∈ s.recordIdsToIgnore ∧ ∃ d, s.pilot.get l.ID = some d ∧ d.content = c := by
  obtain ⟨i, hv⟩ := hw
  obtain rfl := h.logged.id_of_write hl hv
  obtain ⟨hmem, d, hd, -, hc⟩ := h.delivered.onPilot u l.ID c hv h0
  exact ⟨hmem, d, hd, hc⟩

theorem Tracks.written_of_get (hk : st.Keyed) (h : Tracks t w st base s)
    (hl : st.get u = some l) (h0 : l.ID ≠ 0) (hb : l.ID < base)
    (hmem : l.ID ∈ s.recordIdsToIgnore) {d : DlpRecord α} (hd : s.pilot.get l.ID = some d) :
    Written u d.content s := by
  obtain ⟨v, c, hv⟩ := h.delivered.sentFor l.ID hb hmem (Option.isSome_of_eq_some hd)
  obtain rfl := h.logged.slot_of_write hk hl h0 hv
  have hw : Written v c s := ⟨l.ID, hv⟩
  obtain ⟨-, d', hd', hc⟩ := h.get_of_written hl h0 hw
  rw [hd, Option.some.injEq] at hd'
  rw [hd', hc]
  exact hw

theorem Logged.written_of_attempted (h : Logged (fun _ => false) (fun _ => false) st s)
    (hu : Attempted u s) : ∃ c, Written u c s := by
  obtain ⟨ok, hu⟩ := hu
  obtain ⟨rfl, -⟩ := h.transmitted u ok hu
  obtain ⟨i, c, hv⟩ := h.followed u hu
  exact ⟨c, i, hv⟩

theorem Meets.of_shows (hk : st.Keyed) (hk' : s.store.KeyedBelow base)
    (h : Tracks (fun _ => false) (fun _ => false) st base s) (hl : st.get u = some l)
    (hch : l.attr.changed = true) (h0 : l.ID ≠ 0) (hb : l.ID < base) {f : Fate}
    (hshow : (s.pair l.ID).shows l f) : Meets u l s f := by
  have hlog := h.logged
  have hign : (s.pair l.ID).ignored = true ↔ l.ID ∈ s.recordIdsToIgnore := by
    simp [SyncState.pair]
  cases f with
  | sent =>
      obtain ⟨⟨hi, d, hd, -, hc⟩, -⟩ := hshow
      have hw := h.written_of_get hk hl h0 hb (hign.1 hi) hd
      rw [hc] at hw
      exact .of_sent hlog hw
  | overwritten =>
      obtain ⟨⟨hi, d, hd, -, hc⟩, -⟩ := hshow
      have hatt := (hlog.of_written (h.written_of_get hk hl h0 hb (hign.1 hi) hd)).1
      refine ⟨?_, ?_, ?_⟩
      · simpa using hatt
      · simp only [reduceCtorEq, iff_false]
        intro hw
        obtain ⟨-, d', hd', hc'⟩ := h.get_of_written hl h0 hw
        rw [show s.pilot.get l.ID = some d from hd, Option.some.injEq] at hd'
        rw [hd'] at hc
        exact hc hc'
      · simpa using hlog.not_kept hatt
  | settled =>
      obtain ⟨hgone, hloc⟩ := hshow
      refine .of_settled hlog ?_ ?_
      · intro hu
        obtain ⟨c, hw⟩ := hlog.written_of_attempted hu
        obtain ⟨hmem, d, hd, -⟩ := h.get_of_written hl h0 hw
        rw [show s.pilot.get l.ID = none from hgone (hign.2 hmem)] at hd
        contradiction
      · rintro ⟨m, hm, hchm, -⟩
        have hpm := hlog.pristine u m hm hchm
        rw [hl, Option.some.injEq] at hpm
        subst hpm
        have hat : (s.pair l.ID).loc = some l := (hk'.recordAt_eq_some h0 hb).2 ⟨u, hm, rfl⟩
        rw [hloc l hat] at hch
        contradiction
  | untouched =>
      obtain ⟨v, hv, -⟩ := (hk'.recordAt_eq_some h0 hb).1 hshow.2
      obtain rfl := hk v u l l (hlog.pristine v l hv hch) hl rfl h0
      exact .of_untouched hlog hv hch

end Runs

/-! ## Records without an ID -/

section Loose

variable {base : Nat} {s : SyncState α} {u : Nat} {l : LocalRecord α}

/-- A pass in which the turn at slot `u` writes a content, if the turns before it
leave the loose part in a state in which it does. -/
theorem written_in_pass {f : Nat → Pair α → Pair α} {g : Loose α → Nat → Loose α}
    {flag : RecordAttr} {body : SyncState α → Nat → SyncState α} {c : α}
    (hturn : ∀ s v, Wf base s → Turn base f g s (iterateSpecific flag body s v) v)
    (hgrows : ∀ s v c, c ∈ s.calls → c ∈ (iterateSpecific flag body s v).calls)
    (Q : Loose α → Prop) (hkeep : ∀ L v, v ≠ u → Q L → Q (g L v))
    (hwrites : ∀ s, Wf base s → Q (s.loose base) → Written u c (iterateSpecific flag body s u))
    (hu : u < s.store.size) (hwf : Wf base s) (hQ : Q (s.loose base)) :
    Written u c (forEachSpecific flag body s) := by
  obtain ⟨pre, post, hsplit⟩ := List.append_of_mem (List.mem_range.mpr hu)
  have hnodup := List.nodup_range (n := s.store.size)
  rw [hsplit] at hnodup
  have hpre : ∀ v ∈ pre, v ≠ u := by
    rintro v hv rfl
    exact (List.nodup_append.mp hnodup).2.2 v hv v List.mem_cons_self rfl
  have hbefore : Wf base (pre.foldl (iterateSpecific flag body) s) ∧
      Q ((pre.foldl (iterateSpecific flag body) s).loose base) := by
    clear hsplit hnodup hu
    induction pre generalizing s with
    | nil => exact ⟨hwf, hQ⟩
    | cons v pre ih =>
        have hv := hturn s v hwf
        refine ih hv.wf ?_ fun x hx => hpre x (List.mem_cons_of_mem v hx)
        rw [hv.loose]
        exact hkeep _ v (hpre v List.mem_cons_self) hQ
  obtain ⟨i, hat⟩ := hwrites _ hbefore.1 hbefore.2
  unfold forEachSpecific
  rw [hsplit, List.foldl_append, List.foldl_cons]
  exact ⟨i, Loop.foldl_inv (fun s => .writeRecord u i c true ∈ s.calls) _
    (fun s v h => hgrows s v _ h) post _ hat⟩

theorem addToPilot_writes (hl : s.store.get u = some l) :
    Written u l.content (standardAbsAddToPilot .none s u).2 :=
  ⟨l.ID, by simp [standardAbsAddToPilot, hl, SyncState.ignoreRecord]⟩

theorem newPass_writes (hwf : Wf base s) (hl : (s.loose base).slot u = some l)
    (hattr : l.attr = .new) (harch : l.archived = false) :
    Written u l.content (forEachSpecific .new (installNew .none) s) := by
  refine written_in_pass (fun s v h => installNew_turn (s := s) (u := v) h)
    (fun s v c h => (installNew_regular v).grows (fun _ => false) (fun _ => false) h)
    (fun L => L.slot u = some l) ?_ ?_ (LocalStore.lt_size (store_of_loose base hl)) hwf hl
  · intro L v hv hL
    unfold Loose.newTurn
    split
    · rw [Loose.slot_add_of_ne hv.symm, hL]
    · exact hL
  · intro s₁ hwf₁ hL
    have hl₁ := store_of_loose base hL
    obtain ⟨i, hw⟩ := addToPilot_writes hl₁
    refine ⟨i, ?_⟩
    simp only [iterateSpecific, hwf₁.alive, hl₁, hattr, harch, and_self, if_true,
      Bool.false_eq_true, if_false, installNew]
    split
    · exact hw
    · exact List.mem_cons_of_mem _ hw

variable [DecidableEq α] [Inhabited α]

theorem syncRecordLocal_loose {l : LocalRecord α} (hcr : s.crashed = false)
    (hl : s.store.get u = some l) (h0 : l.ID = 0) (hign : 0 ∉ s.recordIdsToIgnore)
    (dir : SyncDirection) :
    syncRecordLocal .none s u dir = runActions .none u (unreadRecord 0)
      (s.record (.readRecordById 0)) ((syncCase l (unreadRecord 0)).actions dir) := by
  have hread : readRecordById .none s 0 = (unreadRecord 0 : PilotRecord α) := by
    simp [readRecordById]
  simp [syncRecordLocal, hcr, hl, h0, hign, hread, syncPair]

/-- The record is in its slot, and ID 0 is not ignored. -/
def Loose.Ready (u : Nat) (l : LocalRecord α) (L : Loose α) : Prop :=
  L.slot u = some l ∧ 0 < L.seed ∧ L.ignored 0 = false

omit [DecidableEq α] [Inhabited α] in
theorem Loose.Ready.add {v : Nat} (hv : v ≠ u) {L : Loose α} (h : L.Ready u l) (assign : Bool) :
    (L.add assign v).Ready u l := by
  obtain ⟨hl, hpos, hign⟩ := h
  refine ⟨by rw [Loose.slot_add_of_ne hv.symm, hl], Nat.lt_of_lt_of_le hpos Loose.seed_le_add, ?_⟩
  rw [Loose.ignored_zero_add hpos, hign]

theorem modifiedPass_writes (hwf : Wf base s) (hready : (s.loose base).Ready u l)
    (h0 : l.ID = 0) (hattr : l.attr = .modified) (harch : l.archived = false) (toLocal : Bool) :
    Written u l.content
      (forEachSpecific .modified (fun s u => syncRecordLocal .none s u ⟨true, toLocal⟩) s) := by
  have hregular := syncRecordLocal_regular (α := α)
  refine written_in_pass (fun s v h => modified_turn (s := s) (u := v) h rfl) ?_
    (fun L => L.Ready u l) ?_ ?_ (LocalStore.lt_size (store_of_loose base hready.1)) hwf hready
  · intro s v c h
    unfold iterateSpecific
    split
    · exact h
    · split
      · split
        · exact (hregular v _).grows (fun _ => false) (fun _ => false) h
        · exact h
      · exact h
  · intro L v hv hL
    unfold Loose.modifiedTurn
    split
    · exact hL.add hv false
    · exact hL
  · rintro s₁ hwf₁ ⟨hL, -, hi⟩
    have hl₁ := store_of_loose base hL
    have hnot : (0 : Nat) ∉ s₁.recordIdsToIgnore := by
      simpa [SyncState.loose, unissued_zero] using hi
    have hcase : syncCase l (unreadRecord 0) = .case8 := by
      simp [syncCase, unreadRecord, harch, hattr]
    have hturn : iterateSpecific .modified
        (fun s u => syncRecordLocal .none s u ⟨true, toLocal⟩) s₁ u =
          syncRecordLocal .none s₁ u ⟨true, toLocal⟩ := by
      simp [iterateSpecific, hwf₁.alive, hl₁, hattr, harch]
    rw [hturn, syncRecordLocal_loose hwf₁.alive hl₁ h0 hnot, hcase]
    simp only [SyncCase.actions, SyncDirection.ifRemote, if_true]
    rw [runActions_cons .none (hwf₁.record (.readRecordById 0)).alive]
    exact addToPilot_writes hl₁

theorem mergeToRemote_writes (hwf : Wf base s) (hl : (s.loose base).slot u = some l)
    (h0 : l.ID = 0) (hch : l.attr.changed = true) (harch : l.archived = false)
    (hign : (s.loose base).ignored 0 = false) (toLocal : Bool) :
    Written u l.content (standardAbsMergeToRemote .none s ⟨true, toLocal⟩) := by
  unfold standardAbsMergeToRemote
  rw [if_pos rfl]
  cases hattr : l.attr with
  | new =>
      obtain ⟨i, hw⟩ := newPass_writes hwf hl hattr harch
      exact ⟨i, (resolve_regular .modified ⟨true, toLocal⟩).grows (fun _ => false)
        (fun _ => false) hw⟩
  | modified =>
      have hnew := forEachSpecific_passed (fun s u hwf => installNew_turn (s := s) (u := u) hwf)
        (fun _ _ hp => Pair.newPass_unselected (selected_of_loc_none hp)) hwf
      have hready : ((forEachSpecific .new (installNew .none) s).loose base).Ready u l := by
        rw [hnew.loose]
        refine Loop.foldl_inv (Loose.Ready u l) Loose.newTurn (fun L v hL => ?_) _ _
          ⟨hl, Nat.lt_of_lt_of_le hwf.base_pos hwf.base_le, hign⟩
        unfold Loose.newTurn
        split
        · rename_i hsel
          refine hL.add (fun hv => ?_) true
          rw [hv, Loose.selected_iff hL.1, hattr] at hsel
          exact absurd hsel.1 (by decide)
        · exact hL
      exact modifiedPass_writes hnew.wf hready h0 hattr harch toLocal
  | _ => simp [hattr, RecordAttr.changed] at hch

end Loose

/-! ## The operations -/

namespace Replicas

variable (x : Replicas α)

theorem start_tracks (slow : Bool) (t w : Nat → Bool) :
    Tracks t w x.store x.pilot.uniqueIDSeed (x.start slow) where
  logged :=
    { pristine := fun _ _ h _ => h
      cleared := fun _ _ ⟨_, h⟩ => absurd h List.not_mem_nil
      transmitted := fun _ _ h => absurd h List.not_mem_nil
      followed := fun _ h => absurd h List.not_mem_nil
      written := fun _ _ _ _ h => absurd h List.not_mem_nil }
  delivered :=
    { seed := Nat.le_refl _
      onPilot := fun _ _ _ h => absurd h List.not_mem_nil
      sentFor := fun _ _ h => absurd h List.not_mem_nil }

theorem pair_of_get {u : Nat} {l : LocalRecord α} (hl : x.store.get u = some l) (h0 : l.ID ≠ 0) :
    x.pair l.ID = .start (some l) (x.pilot.get l.ID) := by
  rw [pair, (x.keyed.recordAt_eq_some h0).2 ⟨u, hl, rfl⟩]

variable [Inhabited α]

/-- The pilot record `sync_record` compares the local record of an ID with. -/
def remote (i : Nat) : PilotRecord α := (x.pair i).readBack i

variable [DecidableEq α]

theorem fate_loose {l : LocalRecord α} (h0 : l.ID = 0) (hch : l.attr.changed = true)
    (toLocal : Bool) : fate false ⟨true, toLocal⟩ l (x.remote l.ID) =
      if l.archived then .untouched else .sent := by
  have hread : x.remote l.ID = unreadRecord 0 := by
    rw [h0]
    simp [remote, pair, Pair.start, Pair.readBack]
  rw [hread]
  unfold fate
  cases hattr : l.attr <;> cases harch : l.archived <;>
    simp [hattr, harch, RecordAttr.changed, revisited, syncCase, unreadRecord, SyncCase.fate,
      SyncCase.sends] at hch ⊢

omit [Inhabited α] [DecidableEq α] in
theorem merged_other (hissued : x.Issued) {u : Nat} {l : LocalRecord α}
    (hl : x.store.get u = some l) (h0 : l.ID = 0) (harch : l.archived = true) :
    (x.loose.mergeToRemote x.store.size).slot u = some l := by
  refine hissued.loose_merged.slot_of_unsent (hissued.loose_slot.2 ⟨hl, h0⟩) ?_
  simp [harch]

/-- What `merge_to_remote` makes of the changed records where nothing fails. -/
theorem mergeToRemote_meets (hissued : x.Issued) (slow toLocal : Bool) {u : Nat} {l : LocalRecord α}
    (hl : x.store.get u = some l) (hch : l.attr.changed = true) :
    Meets u l (standardAbsMergeToRemote .none (x.start slow) ⟨true, toLocal⟩)
      (fate false ⟨true, toLocal⟩ l (x.remote l.ID)) := by
  have hwf := x.start_wf slow
  have htracks := (standardAbsMergeToRemote_regular toLocal).tracks x.keyed
    (x.start_tracks slow (fun _ => false) (fun _ => false))
  rw [← none_eq_sending] at htracks
  have hpassed := standardAbsMergeToRemote_passed hwf ⟨true, toLocal⟩ rfl
    (loose_bounded (s := x.start slow))
  by_cases h0 : l.ID = 0
  · rw [x.fate_loose h0 hch]
    cases harch : l.archived with
    | true =>
        refine .of_untouched htracks.logged (store_of_loose x.pilot.uniqueIDSeed ?_) hch
        rw [hpassed.loose, x.start_loose]
        exact x.merged_other hissued hl h0 harch
    | false =>
        refine .of_sent htracks.logged (mergeToRemote_writes hwf ?_ h0 hch harch ?_ toLocal)
        · rw [x.start_loose]
          exact hissued.loose_slot.2 ⟨hl, h0⟩
        · rw [x.start_loose]
          rfl
  · have hb := hissued u l hl
    refine .of_shows x.keyed hpassed.wf.keyed htracks hl hch h0 hb ?_
    rw [hpassed.pair l.ID (by omega) hb, x.start_pair, remote, x.pair_of_get hl h0]
    exact mergeToRemote_shows hch l.ID toLocal _

/-- What the two-way operation makes of the changed records where nothing fails. -/
theorem synchronize_meets (hissued : x.Issued) (slow : Bool) (dbinfo : DBInfo) {u : Nat}
    {l : LocalRecord α} (hl : x.store.get u = some l) (hch : l.attr.changed = true) :
    Meets u l (synchronize .none dbinfo (x.start slow)).2
      (fate (x.reaches (choosesFast slow dbinfo) l.ID) SyncBothWays l (x.remote l.ID)) := by
  have htracks := (synchronize_regular dbinfo).tracks x.keyed
    (x.start_tracks slow (fun _ => false) (fun _ => false))
  rw [← none_eq_sending] at htracks
  obtain ⟨-, hpassed⟩ := synchronize_passed x slow dbinfo
  by_cases h0 : l.ID = 0
  · have hreach : x.reaches (choosesFast slow dbinfo) l.ID = false :=
      reaches_eq_false (by rw [h0]; exact x.pilot.get_zero) _
    rw [hreach, show SyncBothWays = ⟨true, true⟩ from rfl, x.fate_loose h0 hch]
    cases harch : l.archived with
    | true =>
        refine .of_untouched htracks.logged (store_of_loose x.pilot.uniqueIDSeed ?_) hch
        rw [hpassed.loose, x.start_loose]
        refine Loose.synchronize_slot_eq (x.merged_other hissued hl h0 harch) ?_
        intro hdel
        rw [hdel] at hch
        contradiction
    | false =>
        refine .of_sent htracks.logged ?_
        have hmain := mainLoop_passed x slow dbinfo
        have hloose : (mainLoop dbinfo (opened (x.start slow))).loose x.pilot.uniqueIDSeed =
            x.loose := by
          rw [← x.start_loose slow]
          exact hmain.loose
        obtain ⟨i, hw⟩ := mergeToRemote_writes hmain.wf
          (by rw [hloose]; exact hissued.loose_slot.2 ⟨hl, h0⟩) h0 hch harch (by rw [hloose]; rfl) true
        refine ⟨i, ?_⟩
        have hlast := (resolve_regular (α := α) .deleted SyncBothWays).comp finish_regular
        exact hlast.grows (fun _ => false) (fun _ => false) hw
  · have hb := hissued u l hl
    refine .of_shows x.keyed hpassed.wf.keyed htracks hl hch h0 hb ?_
    rw [synchronize_pair x slow dbinfo (by omega) hb, remote, x.pair_of_get hl h0]
    refine synchronize_shows hch l.ID fun hreach => ?_
    by_contra hnone
    rw [Option.not_isSome_iff_eq_none] at hnone
    rw [reaches_eq_false hnone] at hreach
    contradiction

theorem syncRecordRemote_meets (hissued : x.Issued) (slow : Bool) (dir : SyncDirection) {i : Nat}
    {d : DlpRecord α} (hd : x.pilot.get i = some d) {u : Nat} {l : LocalRecord α}
    (hl : x.store.get u = some l) (hch : l.attr.changed = true) :
    Meets u l (syncRecordRemote .none (x.start slow) (standardAbsComputeAttrField i d) dir)
      (if l.ID = i then (syncCase l (x.remote l.ID)).fate dir else .untouched) := by
  obtain ⟨hi, hib⟩ := PilotDB.get_issued hd
  have htracks := (syncRecordRemote_regular (standardAbsComputeAttrField i d) dir).tracks x.keyed
    (x.start_tracks slow (fun _ => false) (fun _ => false))
  rw [← none_eq_sending] at htracks
  have hacts := syncRecordRemote_acts (x.start_wf slow) (i := i) (d := d) hd hib dir
  by_cases h0 : l.ID = 0
  · rw [if_neg (by omega)]
    refine .of_untouched htracks.logged (store_of_loose x.pilot.uniqueIDSeed ?_) hch
    rw [hacts.loose, x.start_loose]
    exact hissued.loose_slot.2 ⟨hl, h0⟩
  · have hpair := x.pair_of_get hl h0
    refine .of_shows x.keyed hacts.wf.keyed htracks hl hch h0 (hissued u l hl) ?_
    by_cases hid : l.ID = i
    · subst hid
      rw [if_pos rfl, hacts.self, x.start_pair, remote, hpair, hd]
      rw [Pair.visit_both (d := d) (l := l) rfl rfl rfl]
      exact branch_shows hch (some d) dir
    · rw [if_neg hid, hacts.other l.ID h0 hid, x.start_pair, hpair]
      exact shows_start l _

end Replicas

/-! ## A single local record -/

section Local

variable {s : SyncState α} {u v : Nat} {r : PilotRecord α}

/-- A branch that stores no pilot record leaves all slots but its own alone. -/
theorem get_runActions_other {fl : Faults} (hv : v ≠ u) (acts : List SyncAction)
    (hstore : .storeRemote ∉ acts) :
    (runActions fl u r s acts).store.get v = s.store.get v := by
  induction acts generalizing s with
  | nil => rfl
  | cons a acts ih =>
      have hrest : .storeRemote ∉ acts := fun h => hstore (List.mem_cons_of_mem a h)
      cases hcr : s.crashed with
      | true => rw [runActions_crashed _ hcr]
      | false =>
          rw [runActions_cons _ hcr, ih hrest]
          cases a with
          | addToPilot =>
              simp only [perform, standardAbsAddToPilot]
              cases s.store.get u with
              | none => rfl
              | some l =>
                  dsimp only
                  split
                  · simp [SyncState.crash, SyncState.setStatus, SyncState.record, hv]
                  · split <;> simp [SyncState.setStatus, SyncState.record,
                      SyncState.ignoreRecord, hv]
          | storeRemote => exact absurd List.mem_cons_self hstore
          | archiveRemote => simp [perform, SyncState.archiveRemote, hv]
          | archiveLocal =>
              simp only [perform, SyncState.archiveLocal]
              cases s.store.get u <;> simp [hv]
          | deleteFromPilot => rfl
          | setStatus attr => simp [perform, SyncState.setStatus, hv]
          | log text => rfl

variable [DecidableEq α] [Inhabited α]

/-- A changed record without an ID is sent, archived or left alone. -/
theorem syncCase_unread {l : LocalRecord α} (hch : l.attr.changed = true) :
    syncCase l (unreadRecord 0) =
      if l.archived then .case16 else if l.attr = .modified then .case8 else .unhandled := by
  cases hattr : l.attr <;> cases harch : l.archived <;>
    simp [hattr, harch, RecordAttr.changed, syncCase, unreadRecord] at hch ⊢

theorem store_notMem_unread (l : LocalRecord α) (dir : SyncDirection) :
    .storeRemote ∉ (syncCase l (unreadRecord 0)).actions dir := by
  rcases dir with ⟨_ | _, _ | _⟩ <;> cases hattr : l.attr <;> cases harch : l.archived <;>
    simp [syncCase, unreadRecord, hattr, harch, SyncCase.actions, SyncDirection.ifRemote,
      SyncDirection.ifLocal]

namespace Replicas

variable (x : Replicas α)

theorem syncRecordLocal_meets_loose (slow : Bool) (dir : SyncDirection) {u : Nat}
    {l : LocalRecord α} (hl : x.store.get u = some l) (hch : l.attr.changed = true)
    (h0 : l.ID = 0) {w : Nat → Bool} {base : Nat}
    (htracks : Tracks (fun _ => false) w x.store base
      (syncRecordLocal .none (x.start slow) u dir)) :
    Meets u l (syncRecordLocal .none (x.start slow) u dir)
      ((syncCase l (unreadRecord 0)).fate dir) := by
  have hrun := syncRecordLocal_loose (s := x.start slow) rfl hl h0 List.not_mem_nil dir
  rw [hrun] at htracks ⊢
  rw [syncCase_unread hch] at htracks ⊢
  obtain ⟨toRemote, toLocal⟩ := dir
  by_cases harch : l.archived = true
  · rw [if_pos harch] at htracks ⊢
    cases toLocal with
    | true =>
        rw [show SyncCase.case16.fate ⟨toRemote, true⟩ = .settled by cases toRemote <;> rfl]
        refine .of_settled htracks.logged ?_ ?_
        · rintro ⟨ok, hcall⟩
          cases toRemote <;>
            simp [SyncCase.actions, SyncDirection.ifLocal, SyncDirection.ifRemote, runActions,
              start, SyncState.start, SyncState.record, perform, SyncState.archiveLocal, hl,
              standardAbsDeleteFromPilot, SyncState.deleteRecord, SyncState.ignoreRecord] at hcall
        · rintro ⟨m, hm, -⟩
          cases toRemote <;>
            simp [SyncCase.actions, SyncDirection.ifLocal, SyncDirection.ifRemote, runActions,
              start, SyncState.start, SyncState.record, perform, SyncState.archiveLocal, hl,
              standardAbsDeleteFromPilot, SyncState.deleteRecord, SyncState.ignoreRecord] at hm
    | false =>
        rw [show SyncCase.case16.fate ⟨toRemote, false⟩ = .untouched by cases toRemote <;> rfl]
        refine .of_untouched htracks.logged ?_ hch
        cases toRemote <;> exact hl
  · rw [if_neg harch] at htracks ⊢
    by_cases hmod : l.attr = .modified
    · rw [if_pos hmod] at htracks ⊢
      cases toRemote with
      | true =>
          rw [show SyncCase.case8.fate ⟨true, toLocal⟩ = .sent by cases toLocal <;> rfl]
          exact .of_sent htracks.logged (addToPilot_writes hl)
      | false =>
          rw [show SyncCase.case8.fate ⟨false, toLocal⟩ = .untouched by cases toLocal <;> rfl]
          exact .of_untouched htracks.logged hl hch
    · rw [if_neg hmod] at htracks ⊢
      rw [show SyncCase.unhandled.fate ⟨toRemote, toLocal⟩ = .untouched by
        cases toRemote <;> cases toLocal <;> rfl]
      exact .of_untouched htracks.logged hl hch

theorem syncRecordLocal_meets (hissued : x.Issued) (slow : Bool) (dir : SyncDirection) (v : Nat)
    {u : Nat} {l : LocalRecord α} (hl : x.store.get u = some l) (hch : l.attr.changed = true) :
    Meets u l (syncRecordLocal .none (x.start slow) v dir)
      (if u = v then (syncCase l (x.remote l.ID)).fate dir else .untouched) := by
  have htracks := (syncRecordLocal_regular v dir).tracks x.keyed
    (x.start_tracks slow (fun _ => false) (fun _ => false))
  rw [← none_eq_sending] at htracks
  have hwf := x.start_wf slow
  by_cases huv : u = v
  · subst huv
    rw [if_pos rfl]
    by_cases h0 : l.ID = 0
    · have hread : x.remote l.ID = unreadRecord 0 := by
        rw [h0]
        simp [remote, pair, Pair.start, Pair.readBack]
      rw [hread]
      exact x.syncRecordLocal_meets_loose slow dir hl hch h0 htracks
    · have hb := hissued u l hl
      have hacts := (syncRecordLocal_rewrites hwf hl (by omega) hb dir).acts hwf h0 hb
        (hwf.onlyAt hl h0 hb) (by
          intro m hm
          rw [show (x.start slow).store.get u = some l from hl] at hm
          cases hm
          rfl) (Pair.resolve_ID pair_loc_ID)
      refine .of_shows x.keyed hacts.wf.keyed htracks hl hch h0 hb ?_
      rw [hacts.self, x.start_pair, remote, x.pair_of_get hl h0]
      exact branch_shows hch _ dir
  · rw [if_neg huv]
    refine .of_untouched htracks.logged ?_ hch
    cases hv : x.store.get v with
    | none => simpa [syncRecordLocal, start, SyncState.start, hv] using hl
    | some m =>
        by_cases h0 : m.ID = 0
        · rw [syncRecordLocal_loose (s := x.start slow) rfl hv h0 List.not_mem_nil,
            get_runActions_other huv _ (store_notMem_unread m dir)]
          exact hl
        · rw [(syncRecordLocal_rewrites hwf hv (by omega) (hissued v m hv) dir).loc u, if_neg huv]
          exact hl

end Replicas

end Local

/-! ## The three operations -/

variable [DecidableEq α] [Inhabited α]

/-- A two-way session, a `merge_to_remote` and a single `sync_record` leave every changed
record that was not written to the next session exactly when each is sent without a
failure or not touched at all.  The pilot handed out every local ID. -/
theorem failedTransfer_retried_iff (x : Replicas α) (hissued : x.Issued) (slow : Bool)
    (t w : Nat → Bool) :
    (∀ dbinfo, RetriedWhen x.store t w
      (fun _ l => fate (x.reaches (choosesFast slow dbinfo) l.ID) SyncBothWays l (x.remote l.ID))
      (synchronize (.sending t w) dbinfo (x.start slow)).2) ∧
    (∀ toLocal, RetriedWhen x.store t w
      (fun _ l => fate false ⟨true, toLocal⟩ l (x.remote l.ID))
      (standardAbsMergeToRemote (.sending t w) (x.start slow) ⟨true, toLocal⟩)) ∧
    (∀ dir i d, x.pilot.get i = some d → RetriedWhen x.store t w
      (fun _ l => if l.ID = i then (syncCase l (x.remote l.ID)).fate dir else .untouched)
      (syncRecordRemote (.sending t w) (x.start slow) (standardAbsComputeAttrField i d) dir)) ∧
    (∀ dir v, RetriedWhen x.store t w
      (fun u l => if u = v then (syncCase l (x.remote l.ID)).fate dir else .untouched)
      (syncRecordLocal (.sending t w) (x.start slow) v dir)) := by
  have hstart := x.start_tracks slow
  refine ⟨?_, ?_, ?_, ?_⟩
  · intro dbinfo
    exact (synchronize_regular dbinfo).retriedWhen x.keyed hstart
      (fun _ _ hl hch => x.synchronize_meets hissued slow dbinfo hl hch) t w
  · intro toLocal
    exact (standardAbsMergeToRemote_regular toLocal).retriedWhen x.keyed hstart
      (fun _ _ hl hch => x.mergeToRemote_meets hissued slow toLocal hl hch) t w
  · intro dir i d hd
    exact (syncRecordRemote_regular (standardAbsComputeAttrField i d) dir).retriedWhen x.keyed
      hstart (fun _ _ hl hch => x.syncRecordRemote_meets hissued slow dir hd hl hch) t w
  · intro dir v
    exact (syncRecordLocal_regular v dir).retriedWhen x.keyed hstart
      (fun _ _ hl hch => x.syncRecordLocal_meets hissued slow dir v hl hch) t w

/-- A new record under an ID it was given before, and a modified one. -/
def unsentRecords : Replicas Nat :=
  .ofLists [⟨.new, false, false, 4, 1⟩, ⟨.modified, false, false, 5, 2⟩]
    [(5, ⟨false, false, false, false, 3⟩)] 6 (by decide)

/-- Nothing is lost where the device takes every record. -/
theorem modifiedRecord_sent : UnwrittenKept unsentRecords.store
    (syncRecordRemote (.sending (fun _ => false) (fun _ => false)) (unsentRecords.start false)
      (standardAbsComputeAttrField 5 ⟨false, false, false, false, 3⟩) SyncBothWays) := by
  refine ((failedTransfer_retried_iff unsentRecords (Replicas.issued_ofLists (by decide)) false
    (fun _ => false) (fun _ => false)).2.2.1 SyncBothWays 5 ⟨false, false, false, false, 3⟩
      rfl).unwritten.2 ?_
  intro u l hl _
  have hall : ∀ l ∈ [(⟨.new, false, false, 4, 1⟩ : LocalRecord Nat),
      ⟨.modified, false, false, 5, 2⟩],
      (if l.ID = 5 then (syncCase l (unsentRecords.remote l.ID)).fate SyncBothWays
        else .untouched) = .untouched ∨
      (if l.ID = 5 then (syncCase l (unsentRecords.remote l.ID)).fate SyncBothWays
        else .untouched) = .sent := by decide
  exact (hall l (List.mem_of_getElem? hl)).imp id fun hsent => ⟨hsent, rfl, rfl⟩

/-- The device takes no record.  The session returns 0; both records have lost
their flag, and the new one its ID. -/
theorem failedWrites_forgotten :
    (synchronize (.sending (fun _ => false) (fun _ => true)) ⟨1, 1⟩
        (unsentRecords.start false)).1 = 0 ∧
      (synchronize (.sending (fun _ => false) (fun _ => true)) ⟨1, 1⟩
        (unsentRecords.start false)).2.store.get 0 = some ⟨.nothing, false, false, 0, 1⟩ ∧
      (synchronize (.sending (fun _ => false) (fun _ => true)) ⟨1, 1⟩
        (unsentRecords.start false)).2.store.get 1 = some ⟨.nothing, false, false, 5, 2⟩ ∧
      ¬ UnwrittenKept unsentRecords.store
        (synchronize (.sending (fun _ => false) (fun _ => true)) ⟨1, 1⟩
          (unsentRecords.start false)).2 := by
  refine ⟨by decide, by decide, by decide, fun h => ?_⟩
  have htracks := (synchronize_regular (α := Nat) ⟨1, 1⟩).tracks unsentRecords.keyed
    (unsentRecords.start_tracks false (fun _ => false) (fun _ => true))
  have hatt : Attempted 1 (synchronize (.sending (fun _ => false) (fun _ => true)) ⟨1, 1⟩
      (unsentRecords.start false)).2 := ⟨true, by decide⟩
  refine htracks.logged.not_kept hatt (h 1 ⟨.modified, false, false, 5, 2⟩ rfl rfl ?_)
  intro hw
  have hfail := (htracks.logged.of_written hw).2.2
  contradiction

end GnomePilot.Sync
