import GnomePilot.Sync.Run

/-!
# The loose records after a session

The new pass writes each new record without an ID under the next free one and notes
the ID; the modified pass writes each modified one the same way without noting it.
-/

namespace GnomePilot.Sync

variable {α : Type}

namespace Loose

def addTurn (flag : RecordAttr) (assign : Bool) (L : Loose α) (u : Nat) : Loose α :=
  if L.selected flag u then L.add assign u else L

/-- The local record after it was written under `k`. -/
def addedAs (assign : Bool) (k : Nat) (l : LocalRecord α) : LocalRecord α :=
  { l with attr := .nothing, ID := if assign then k else l.ID }

def NoIDs (flag : RecordAttr) (L : Loose α) : Prop :=
  ∀ u l, L.slot u = some l → L.selected flag u = true → l.ID = 0

/-- What turns at the slots `us` do: every selected record gets a pilot record of
its own, and there is no pilot record besides these. -/
structure Added (flag : RecordAttr) (assign : Bool) (us : List Nat) (L L' : Loose α) : Prop where
  seed_le : L.seed ≤ L'.seed
  ignored : ∀ j, j < L.seed → L'.ignored j = L.ignored j
  kept : ∀ u, ¬ (u ∈ us ∧ L.selected flag u = true) → L'.slot u = L.slot u
  sent : ∀ u l, u ∈ us → L.slot u = some l → L.selected flag u = true →
    ∃ k, L.seed ≤ k ∧ k < L'.seed ∧ L'.slot u = some (addedAs assign k l) ∧
      L'.rem k = some (PilotDB.written l.secret l.content)
  old : ∀ j, j < L.seed → L'.rem j = L.rem j
  beyond : ∀ j, L'.seed ≤ j → L'.rem j = L.rem j
  new : ∀ j, L.seed ≤ j → j < L'.seed → ∃ u l, L.slot u = some l ∧ L.selected flag u = true ∧
    L'.slot u = some (addedAs assign j l) ∧ L'.rem j = some (PilotDB.written l.secret l.content)

theorem add_eq {assign : Bool} {L : Loose α} {u : Nat} {l : LocalRecord α}
    (h : L.slot u = some l) (h0 : l.ID = 0) :
    L.add assign u = { L with
      seed := L.seed + 1
      slot := Function.update L.slot u (some (addedAs assign L.seed l))
      rem := Function.update L.rem L.seed (some (PilotDB.written l.secret l.content))
      ignored := Function.update L.ignored L.seed true } := by
  simp [add, h, addedAs, assigned, h0]

theorem exists_slot_of_selected {flag : RecordAttr} {L : Loose α} {u : Nat}
    (h : L.selected flag u = true) :
    ∃ l, L.slot u = some l ∧ l.attr = flag ∧ l.archived = false := by
  unfold selected at h
  cases hl : L.slot u with
  | none => simp [hl] at h
  | some l => exact ⟨l, rfl, by simpa [hl] using h⟩

theorem selected_congr {flag : RecordAttr} {L L' : Loose α} {u : Nat}
    (h : L'.slot u = L.slot u) : L'.selected flag u = L.selected flag u := by
  simp [selected, h]

section Add

variable {assign : Bool} {L : Loose α} {u : Nat} {l : LocalRecord α}

theorem seed_add (hl : L.slot u = some l) (h0 : l.ID = 0) :
    (L.add assign u).seed = L.seed + 1 := by
  rw [add_eq hl h0]

theorem slot_add_self (hl : L.slot u = some l) (h0 : l.ID = 0) :
    (L.add assign u).slot u = some (addedAs assign L.seed l) := by
  rw [add_eq hl h0]
  simp

theorem rem_add_self (hl : L.slot u = some l) (h0 : l.ID = 0) :
    (L.add assign u).rem L.seed = some (PilotDB.written l.secret l.content) := by
  rw [add_eq hl h0]
  simp

theorem rem_add_of_ne (hl : L.slot u = some l) (h0 : l.ID = 0) {j : Nat} (hj : j ≠ L.seed) :
    (L.add assign u).rem j = L.rem j := by
  rw [add_eq hl h0]
  simp [hj]

theorem ignored_add_of_ne (hl : L.slot u = some l) (h0 : l.ID = 0) {j : Nat} (hj : j ≠ L.seed) :
    (L.add assign u).ignored j = L.ignored j := by
  rw [add_eq hl h0]
  simp [hj]

theorem seed_le_add : L.seed ≤ (L.add assign u).seed := by
  unfold Loose.add
  cases L.slot u with
  | none => exact Nat.le_refl _
  | some l => exact Nat.le_max_left _ _

/-- Whatever is written, ID 0 does not come to be ignored. -/
theorem ignored_zero_add (hpos : 0 < L.seed) : (L.add assign u).ignored 0 = L.ignored 0 := by
  unfold Loose.add
  cases L.slot u with
  | none => rfl
  | some l =>
      have hne : 0 ≠ L.assigned l.ID := by
        unfold assigned
        split <;> omega
      simp [hne]

/-- A record that was written is not selected again. -/
theorem NoIDs.add {flag : RecordAttr} (hids : NoIDs flag L) (hflag : flag ≠ .nothing)
    (hl : L.slot u = some l) (h0 : l.ID = 0) : NoIDs flag (L.add assign u) := by
  intro v m hm hsel
  by_cases hv : v = u
  · subst hv
    rw [selected, slot_add_self hl h0] at hsel
    simp [addedAs, Ne.symm hflag] at hsel
  · rw [slot_add_of_ne hv] at hm
    rw [selected_congr (slot_add_of_ne hv)] at hsel
    exact hids v m hm hsel

end Add

theorem Added.nil (flag : RecordAttr) (assign : Bool) (L : Loose α) : Added flag assign [] L L := by
  refine ⟨Nat.le_refl _, fun _ _ => rfl, fun _ _ => rfl, ?_, fun _ _ => rfl, fun _ _ => rfl, ?_⟩
  · intro u l hu
    simp at hu
  · intro j hj hj'
    omega

/-- A slot that is not selected is passed over. -/
theorem Added.skip {flag : RecordAttr} {assign : Bool} {us : List Nat} {L L' : Loose α} {u : Nat}
    (h : Added flag assign us L L') (hsel : L.selected flag u ≠ true) :
    Added flag assign (u :: us) L L' := by
  refine ⟨h.seed_le, h.ignored, ?_, ?_, h.old, h.beyond, h.new⟩
  · intro v hv
    apply h.kept
    rintro ⟨hmem, hs⟩
    exact hv ⟨List.mem_cons_of_mem u hmem, hs⟩
  · intro v m hmem hm hs
    rcases List.mem_cons.mp hmem with rfl | hmem
    · exact absurd hs hsel
    · exact h.sent v m hmem hm hs

theorem Added.cons {flag : RecordAttr} {assign : Bool} {us : List Nat} {L L' : Loose α} {u : Nat}
    {l : LocalRecord α} (hl : L.slot u = some l) (h0 : l.ID = 0)
    (hsel : L.selected flag u = true) (hu : u ∉ us)
    (h : Added flag assign us (L.add assign u) L') : Added flag assign (u :: us) L L' := by
  have hseed := @seed_add α assign L u l hl h0
  have hkept : L'.slot u = some (addedAs assign L.seed l) := by
    rw [h.kept u (fun hmem => hu hmem.1), slot_add_self hl h0]
  have hkeptrem : L'.rem L.seed = some (PilotDB.written l.secret l.content) := by
    rw [h.old _ (by omega), rem_add_self hl h0]
  have hle := h.seed_le
  refine ⟨by omega, ?_, ?_, ?_, ?_, ?_, ?_⟩
  · intro j hj
    rw [h.ignored j (by omega), ignored_add_of_ne hl h0 (by omega)]
  · intro v hv
    have hvu : v ≠ u := by
      rintro rfl
      exact hv ⟨List.mem_cons_self, hsel⟩
    rw [h.kept v, slot_add_of_ne hvu]
    rintro ⟨hmem, hs⟩
    exact hv ⟨List.mem_cons_of_mem u hmem, by rwa [selected_congr (slot_add_of_ne hvu)] at hs⟩
  · intro v m hmem hm hs
    rcases List.mem_cons.mp hmem with rfl | hvus
    · rw [hl] at hm
      cases hm
      exact ⟨L.seed, Nat.le_refl _, by omega, hkept, hkeptrem⟩
    · have hvu : v ≠ u := by
        rintro rfl
        exact hu hvus
      obtain ⟨k, hk, hk', hs', hr'⟩ := h.sent v m hvus ((slot_add_of_ne hvu).trans hm)
        (by rwa [selected_congr (slot_add_of_ne hvu)])
      exact ⟨k, by omega, hk', hs', hr'⟩
  · intro j hj
    rw [h.old j (by omega), rem_add_of_ne hl h0 (by omega)]
  · intro j hj
    rw [h.beyond j hj, rem_add_of_ne hl h0 (by omega)]
  · intro j hj hj'
    by_cases hjs : j = L.seed
    · subst hjs
      exact ⟨u, l, hl, hsel, hkept, hkeptrem⟩
    · obtain ⟨v, m, hm, hs, hs', hr'⟩ := h.new j (by omega) hj'
      by_cases hvu : v = u
      · subst hvu
        -- the record in this slot was written already
        rw [slot_add_self hl h0] at hm
        cases hm
        refine ⟨v, l, hl, hsel, ?_, hr'⟩
        rw [hkept] at hs'
        simp only [addedAs, Option.some.injEq, LocalRecord.mk.injEq, true_and] at hs'
        rw [hkept]
        cases assign with
        | true =>
            simp only [if_true, and_true] at hs'
            omega
        | false => rfl
      · exact ⟨v, m, (slot_add_of_ne hvu).symm.trans hm,
          by rwa [selected_congr (slot_add_of_ne hvu)] at hs, hs', hr'⟩

theorem addTurns_added {flag : RecordAttr} (hflag : flag ≠ .nothing) (assign : Bool)
    (us : List Nat) (hus : us.Nodup) (L : Loose α) (hids : NoIDs flag L) :
    Added flag assign us L (us.foldl (addTurn flag assign) L) := by
  induction us generalizing L with
  | nil => exact Added.nil flag assign L
  | cons u us ih =>
      obtain ⟨hu, hus⟩ := List.nodup_cons.mp hus
      rw [List.foldl_cons]
      by_cases hsel : L.selected flag u = true
      · obtain ⟨l, hl, -, -⟩ := exists_slot_of_selected hsel
        have h0 := hids u l hl hsel
        have hturn : addTurn flag assign L u = L.add assign u := by simp [addTurn, hsel]
        rw [hturn]
        exact (ih hus _ (hids.add hflag hl h0)).cons hl h0 hsel hu
      · have hturn : addTurn flag assign L u = L := by simp [addTurn, hsel]
        rw [hturn]
        exact (ih hus L hids).skip hsel

theorem newTurns_added (us : List Nat) (hus : us.Nodup) (L : Loose α) (hids : NoIDs .new L) :
    Added .new true us L (us.foldl newTurn L) :=
  addTurns_added (by decide) true us hus L hids

/-- While ID 0 is not ignored the modified pass writes too. -/
theorem modifiedTurns_added (us : List Nat) (hus : us.Nodup) (L : Loose α)
    (hids : NoIDs .modified L) (hpos : 0 < L.seed) (hign : L.ignored 0 = false) :
    Added .modified false us L (us.foldl modifiedTurn L) := by
  have heq : us.foldl modifiedTurn L = us.foldl (addTurn .modified false) L := by
    clear hus
    induction us generalizing L with
    | nil => rfl
    | cons u us ih =>
        rw [List.foldl_cons, List.foldl_cons]
        by_cases hsel : L.selected .modified u = true
        · obtain ⟨l, hl, -, -⟩ := exists_slot_of_selected hsel
          have h0 := hids u l hl hsel
          have hadmitted : L.admitted u = true := by simp [admitted, hl, h0, hign]
          have hturn : modifiedTurn L u = L.add false u := by simp [modifiedTurn, hsel, hadmitted]
          rw [hturn, addTurn, if_pos hsel]
          refine ih _ (hids.add (by decide) hl h0) (by rw [seed_add hl h0]; omega) ?_
          rw [ignored_add_of_ne hl h0 (by omega), hign]
        · have hturn : modifiedTurn L u = L := by simp [modifiedTurn, hsel]
          rw [hturn, addTurn, if_neg hsel]
          exact ih L hids hpos hign
  rw [heq]
  exact addTurns_added (by decide) false us hus L hids

/-- The deleted pass only marks IDs as ones to ignore. -/
theorem deletedTurns_eq (us : List Nat) (L : Loose α) :
    (us.foldl deletedTurn L).slot = L.slot ∧ (us.foldl deletedTurn L).rem = L.rem ∧
      (us.foldl deletedTurn L).seed = L.seed := by
  induction us generalizing L with
  | nil => exact ⟨rfl, rfl, rfl⟩
  | cons u us ih =>
      have hturn : (deletedTurn L u).slot = L.slot ∧ (deletedTurn L u).rem = L.rem ∧
          (deletedTurn L u).seed = L.seed := by
        unfold deletedTurn
        split
        · exact ⟨rfl, rfl, rfl⟩
        · split <;> exact ⟨rfl, rfl, rfl⟩
      obtain ⟨h₁, h₂, h₃⟩ := ih (deletedTurn L u)
      rw [List.foldl_cons, h₁, h₂, h₃]
      exact hturn

/-! ## After the two passes -/

/-- What `standard_abs_merge_to_remote` makes of records without an ID, from a
state in which none of them was written yet. -/
structure Merged (L L' : Loose α) : Prop where
  new : ∀ u l, L.slot u = some l → l.attr = .new → l.archived = false →
    ∃ k, L.seed ≤ k ∧ L'.slot u = some { l with attr := .nothing, ID := k } ∧
      L'.rem k = some (PilotDB.written l.secret l.content)
  modified : ∀ u l, L.slot u = some l → l.attr = .modified → l.archived = false →
    L'.slot u = some { l with attr := .nothing } ∧
      ∃ k, L.seed ≤ k ∧ L'.rem k = some (PilotDB.written l.secret l.content)
  other : ∀ u, (∀ l, L.slot u = some l → (l.attr.changed && !l.archived) = false) →
    L'.slot u = L.slot u
  rem : ∀ k d, L'.rem k = some d → L.seed ≤ k ∧ ∃ u l, L.slot u = some l ∧ l.archived = false ∧
    d = PilotDB.written l.secret l.content ∧
    (l.attr = .new ∧ L'.slot u = some { l with attr := .nothing, ID := k } ∨
      l.attr = .modified ∧ L'.slot u = some { l with attr := .nothing })

/-- A record that is not sent stays as it was. -/
theorem Merged.slot_of_unsent {L L' : Loose α} (h : Merged L L') {u : Nat} {l : LocalRecord α}
    (hl : L.slot u = some l) (hunsent : (l.attr.changed && !l.archived) = false) :
    L'.slot u = some l := by
  rw [h.other u, hl]
  intro m hm
  rw [hl] at hm
  cases hm
  exact hunsent

theorem selected_iff {flag : RecordAttr} {L : Loose α} {u : Nat} {l : LocalRecord α}
    (hl : L.slot u = some l) :
    L.selected flag u = true ↔ l.attr = flag ∧ l.archived = false := by
  simp [selected, hl]

/-- The records still changed after the turns are as they were. -/
theorem Added.slot_of_changed {flag : RecordAttr} {assign : Bool} {us : List Nat} {L L' : Loose α}
    (h : Added flag assign us L L') {u : Nat} {l : LocalRecord α} (hl : L'.slot u = some l)
    (hch : l.attr.changed = true) : L.slot u = some l := by
  by_cases hsent : u ∈ us ∧ L.selected flag u = true
  · obtain ⟨l₀, hl₀, -, -⟩ := exists_slot_of_selected hsent.2
    obtain ⟨k, -, -, hs, -⟩ := h.sent u l₀ hsent.1 hl₀ hsent.2
    rw [hs, Option.some.injEq] at hl
    rw [← hl] at hch
    exact absurd hch (by simp [addedAs, RecordAttr.changed])
  · rw [← h.kept u hsent, hl]

theorem mergeToRemote_merged {m : Nat} {L : Loose α} (hbound : L.Bounded m)
    (hids : ∀ u l, L.slot u = some l → l.ID = 0) (hpos : 0 < L.seed)
    (hrem : ∀ j, L.rem j = none) (hign : L.ignored 0 = false) :
    Merged L (L.mergeToRemote m) := by
  have hmem : ∀ {u : Nat} {l : LocalRecord α}, L.slot u = some l → u ∈ List.range m := by
    intro u l hl
    rw [List.mem_range]
    by_cases hu : m ≤ u
    · rw [hbound u hu] at hl
      contradiction
    · omega
  have h₁ := newTurns_added (List.range m) List.nodup_range L fun u l hl _ => hids u l hl
  unfold mergeToRemote
  generalize (List.range m).foldl newTurn L = L₁ at h₁
  have hids₁ : NoIDs .modified L₁ := by
    intro u l hl hsel
    have hattr := ((selected_iff hl).1 hsel).1
    exact hids u l (h₁.slot_of_changed hl (by rw [hattr]; rfl))
  have h₂ := modifiedTurns_added (List.range m) List.nodup_range L₁ hids₁
    (Nat.lt_of_lt_of_le hpos h₁.seed_le) ((h₁.ignored 0 hpos).trans hign)
  generalize (List.range m).foldl modifiedTurn L₁ = L₂ at h₂
  have hle₁ := h₁.seed_le
  have hle₂ := h₂.seed_le
  have hslot₁ : ∀ u, L.selected .new u = false → L₁.slot u = L.slot u :=
    fun u h => h₁.kept u (by simp [h])
  have hslot₂ : ∀ u, L₁.selected .modified u = false → L₂.slot u = L₁.slot u :=
    fun u h => h₂.kept u (by simp [h])
  -- a record the new pass wrote is clean and not written again
  have hclean : ∀ {u k : Nat} {l : LocalRecord α}, L₁.slot u = some (addedAs true k l) →
      L₂.slot u = some (addedAs true k l) := by
    intro u k l hl
    rw [hslot₂ u (by simp [selected, hl, addedAs]), hl]
  refine ⟨?_, ?_, ?_, ?_⟩
  · intro u l hl hattr harch
    obtain ⟨k, hk, hk', hs, hr⟩ := h₁.sent u l (hmem hl) hl ((selected_iff hl).2 ⟨hattr, harch⟩)
    exact ⟨k, hk, hclean hs, by rw [h₂.old k hk', hr]⟩
  · intro u l hl hattr harch
    have hnew : L.selected .new u = false := by simp [selected, hl, hattr]
    have hl₁ := (hslot₁ u hnew).trans hl
    obtain ⟨k, hk, _, hs, hr⟩ := h₂.sent u l (hmem hl) hl₁ ((selected_iff hl₁).2 ⟨hattr, harch⟩)
    exact ⟨hs, k, by omega, hr⟩
  · intro u hu
    have hnot : ∀ flag, flag.changed = true → L.selected flag u = false := by
      intro flag hflag
      rw [Bool.eq_false_iff]
      intro hsel
      obtain ⟨l, hl, hattr, harch⟩ := exists_slot_of_selected hsel
      have := hu l hl
      rw [hattr, harch, hflag] at this
      contradiction
    have hl₁ := hslot₁ u (hnot .new rfl)
    rw [hslot₂ u (by rw [selected_congr hl₁]; exact hnot .modified rfl), hl₁]
  · intro k d hd
    by_cases hk : k < L₁.seed
    · rw [h₂.old k hk] at hd
      by_cases hk₀ : k < L.seed
      · rw [h₁.old k hk₀, hrem] at hd
        contradiction
      · obtain ⟨u, l, hl, hsel, hs, hr⟩ := h₁.new k (by omega) hk
        rw [hr, Option.some.injEq] at hd
        obtain ⟨hattr, harch⟩ := (selected_iff hl).1 hsel
        exact ⟨by omega, u, l, hl, harch, hd.symm, Or.inl ⟨hattr, hclean hs⟩⟩
    · by_cases hk₂ : k < L₂.seed
      · obtain ⟨u, l, hl₁, hsel, hs, hr⟩ := h₂.new k (by omega) hk₂
        rw [hr, Option.some.injEq] at hd
        obtain ⟨hattr, harch⟩ := (selected_iff hl₁).1 hsel
        have hl := h₁.slot_of_changed hl₁ (by rw [hattr]; rfl)
        exact ⟨by omega, u, l, hl, harch, hd.symm, Or.inr ⟨hattr, hs⟩⟩
      · rw [h₂.beyond k (by omega), h₁.beyond k (by omega), hrem] at hd
        contradiction

theorem synchronize_slot (m : Nat) (L : Loose α) (u : Nat) :
    (L.synchronize m).slot u =
      ((L.mergeToRemote m).slot u).filter (fun l => l.attr ≠ .deleted) := by
  simp only [synchronize, close, (deletedTurns_eq _ _).1]

theorem synchronize_rem (m : Nat) (L : Loose α) (k : Nat) :
    (L.synchronize m).rem k =
      (((L.mergeToRemote m).rem k).filter DlpRecord.live).map
        (fun d => { d with dirty := false }) := by
  simp only [synchronize, close, (deletedTurns_eq _ _).2.1]

/-- The purge leaves what is not marked Deleted. -/
theorem synchronize_slot_eq {m : Nat} {L : Loose α} {u : Nat} {l : LocalRecord α}
    (hl : (L.mergeToRemote m).slot u = some l) (hne : l.attr ≠ .deleted) :
    (L.synchronize m).slot u = some l := by
  rw [synchronize_slot, hl]
  simp [Option.filter, hne]

/-- A record written in the session is on the pilot in the end, its flags reset. -/
theorem synchronize_rem_written {m : Nat} {L : Loose α} {k : Nat} {secret : Bool} {content : α}
    (hk : (L.mergeToRemote m).rem k = some (PilotDB.written secret content)) :
    (L.synchronize m).rem k = some { PilotDB.written secret content with dirty := false } := by
  rw [synchronize_rem, hk]
  rfl

/-! ## What every turn keeps -/

/-- Every record is where it was, with its content and its ID if it had one; its status is as
it was or cleared. -/
def Keeps (L L' : Loose α) : Prop :=
  ∀ u l, L.slot u = some l → ∃ m, L'.slot u = some m ∧ m.content = l.content ∧
    (l.ID ≠ 0 → m.ID = l.ID) ∧ (m.attr = l.attr ∨ m.attr = .nothing)

theorem Keeps.refl (L : Loose α) : Keeps L L :=
  fun _ l hl => ⟨l, hl, rfl, fun _ => rfl, Or.inl rfl⟩

theorem Keeps.trans {L L' L'' : Loose α} (h : Keeps L L') (h' : Keeps L' L'') : Keeps L L'' := by
  intro u l hl
  obtain ⟨m, hm, hc, hid, hattr⟩ := h u l hl
  obtain ⟨n, hn, hc', hid', hattr'⟩ := h' u m hm
  refine ⟨n, hn, hc'.trans hc, fun h0 => ?_, ?_⟩
  · rw [hid' (by rw [hid h0]; exact h0), hid h0]
  · rcases hattr' with h | h
    · rw [h]
      exact hattr
    · exact Or.inr h

theorem keeps_add (assign : Bool) (L : Loose α) (u : Nat) : Keeps L (L.add assign u) := by
  intro v l hl
  by_cases hv : v = u
  · subst hv
    refine ⟨{ l with attr := .nothing, ID := if assign then L.assigned l.ID else l.ID },
      by simp [add, hl], rfl, fun h0 => ?_, Or.inr rfl⟩
    simp [assigned, h0]
  · exact ⟨l, (slot_add_of_ne hv).trans hl, rfl, fun _ => rfl, Or.inl rfl⟩

theorem keeps_foldl {g : Loose α → Nat → Loose α} (hg : ∀ L u, Keeps L (g L u))
    (us : List Nat) (L : Loose α) : Keeps L (us.foldl g L) :=
  Loop.foldl_inv (Keeps L) g (fun L' u h => h.trans (hg L' u)) us L (.refl L)

theorem keeps_mergeToRemote (m : Nat) (L : Loose α) : Keeps L (L.mergeToRemote m) := by
  refine (keeps_foldl (fun L u => ?_) _ L).trans (keeps_foldl (fun L u => ?_) _ _)
  · unfold newTurn
    split
    · exact keeps_add true L u
    · exact .refl L
  · unfold modifiedTurn
    split
    · exact keeps_add false L u
    · exact .refl L

/-! ## No two records come under one ID -/

/-- The IDs are unique and below the next one. -/
structure Apart (L : Loose α) : Prop where
  keyed : ∀ u v l m, L.slot u = some l → L.slot v = some m → l.ID = m.ID → l.ID ≠ 0 → u = v
  issued : ∀ u l, L.slot u = some l → l.ID < L.seed

theorem Apart.add {L : Loose α} (h : L.Apart) (assign : Bool) (u : Nat) :
    (L.add assign u).Apart := by
  cases hl : L.slot u with
  | none =>
      rw [show L.add assign u = L by simp [Loose.add, hl]]
      exact h
  | some l =>
      have hseed : (L.add assign u).seed = max L.seed (L.assigned l.ID + 1) := by
        simp [Loose.add, hl]
      have hself : (L.add assign u).slot u =
          some { l with attr := .nothing, ID := if assign then L.assigned l.ID else l.ID } := by
        simp [Loose.add, hl]
      -- the ID is the old one, or the next one where there was none
      have hid : ∀ m, (L.add assign u).slot u = some m →
          m.ID = l.ID ∨ l.ID = 0 ∧ m.ID = L.seed := by
        intro m hm
        rw [hself, Option.some.injEq] at hm
        rw [← hm]
        by_cases h0 : l.ID = 0 <;> cases assign <;> simp [assigned, h0]
      have hlt := h.issued u l hl
      have hother : ∀ {v m k}, v ≠ u → (L.add assign u).slot v = some m →
          (L.add assign u).slot u = some k → m.ID = k.ID → m.ID ≠ 0 → v = u := by
        intro v m k hv hm hk heq h0
        rw [slot_add_of_ne hv] at hm
        have hmlt := h.issued v m hm
        rcases hid k hk with hk | ⟨-, hk⟩
        · exact h.keyed v u m l hm hl (by omega) h0
        · omega
      refine ⟨?_, ?_⟩
      · intro v w m k hm hk heq h0
        by_cases hv : v = u
        · by_cases hw : w = u
          · rw [hv, hw]
          · rw [hv] at hm ⊢
            exact (hother hw hk hm heq.symm (by omega)).symm
        · by_cases hw : w = u
          · rw [hw] at hk ⊢
            exact hother hv hm hk heq h0
          · rw [slot_add_of_ne hv] at hm
            rw [slot_add_of_ne hw] at hk
            exact h.keyed v w m k hm hk heq h0
      · intro v m hm
        rw [hseed]
        by_cases hv : v = u
        · rw [hv] at hm
          rcases hid m hm with hm | ⟨h0, hm⟩
          · omega
          · simp only [assigned, h0, if_true]
            omega
        · rw [slot_add_of_ne hv] at hm
          have := h.issued v m hm
          omega

theorem Apart.mergeToRemote {L : Loose α} (h : L.Apart) (m : Nat) : (L.mergeToRemote m).Apart := by
  refine Loop.foldl_inv Apart modifiedTurn (fun L u hL => ?_) _ _
    (Loop.foldl_inv Apart newTurn (fun L u hL => ?_) _ _ h)
  · unfold modifiedTurn
    split
    · exact hL.add false u
    · exact hL
  · unfold newTurn
    split
    · exact hL.add true u
    · exact hL

theorem Apart.close {L : Loose α} (h : L.Apart) : L.close.Apart where
  keyed u v l m hl hm :=
    h.keyed u v l m (Option.filter_eq_some_iff.mp hl).1 (Option.filter_eq_some_iff.mp hm).1
  issued u l hl := h.issued u l (Option.filter_eq_some_iff.mp hl).1

end Loose

/-! ## The state after a session -/

theorem Wf.keyed_of_apart {base : Nat} {s : SyncState α} (hwf : Wf base s)
    (h : (s.loose base).Apart) : s.store.Keyed := by
  intro u v l m hl hm hid h0
  by_cases hun : Unissued base l.ID
  · refine h.keyed u v l m ?_ ?_ hid h0
    · simp [SyncState.loose, Option.filter_eq_some_iff, hl, hun]
    · simp [SyncState.loose, Option.filter_eq_some_iff, hm, ← hid, hun]
  · exact hwf.keyed u v l m hl hm hid h0 (not_unissued.mp hun).2

theorem Wf.issued_of_apart {base : Nat} {s : SyncState α} (hwf : Wf base s)
    (h : (s.loose base).Apart) {u : Nat} {l : LocalRecord α} (hl : s.store.get u = some l) :
    l.ID < s.pilot.uniqueIDSeed := by
  by_cases hun : Unissued base l.ID
  · exact h.issued u l (by simp [SyncState.loose, Option.filter_eq_some_iff, hl, hun])
  · have := (not_unissued.mp hun).2
    have := hwf.base_le
    omega

namespace Replicas

theorem loose_slot {x : Replicas α} {u : Nat} {l : LocalRecord α} :
    x.loose.slot u = some l ↔
      x.store.get u = some l ∧ Unissued x.pilot.uniqueIDSeed l.ID := by
  simp [loose, Option.filter_eq_some_iff]

/-- Where the pilot handed the IDs out, the loose records have none. -/
theorem Issued.loose_slot {x : Replicas α} (hissued : x.Issued) {u : Nat} {l : LocalRecord α} :
    x.loose.slot u = some l ↔ x.store.get u = some l ∧ l.ID = 0 := by
  rw [Replicas.loose_slot]
  refine and_congr_right fun hl => or_iff_left ?_
  exact Nat.not_le_of_gt (hissued u l hl)

theorem Issued.loose_merged {x : Replicas α} (hissued : x.Issued) :
    Loose.Merged x.loose (x.loose.mergeToRemote x.store.size) := by
  refine Loose.mergeToRemote_merged ?_ (fun u l hl => (hissued.loose_slot.mp hl).2)
    x.pilot.seed_pos (fun _ => rfl) rfl
  intro u hu
  simp [loose, x.store.bounded u hu]

theorem Issued.apart {x : Replicas α} (hissued : x.Issued) : x.loose.Apart where
  keyed u v l m hl hm :=
    x.keyed u v l m (Replicas.loose_slot.mp hl).1 (Replicas.loose_slot.mp hm).1
  issued u l hl := hissued u l (Replicas.loose_slot.mp hl).1

end Replicas

end GnomePilot.Sync
