import GnomePilot.Sync.Visits

/-!
# The loops over local records

A turn of such a loop either handles a record with an ID of the pilot, and then acts
on the pair of that ID, or one without, and then acts on the loose part.
A whole loop therefore acts on every pair and on the loose part independently.
-/

namespace GnomePilot.Sync

variable {α : Type}

/-! ## Records whose ID the pilot does not know -/

namespace Loose

/-- The slot holds a record `iterate_specific (…, flag, 0)` returns. -/
def selected (flag : RecordAttr) (L : Loose α) (u : Nat) : Bool :=
  (L.slot u).any (fun l => l.attr = flag && !l.archived)

def admitted (L : Loose α) (u : Nat) : Bool :=
  (L.slot u).any (fun l => !L.ignored l.ID)

/-- The ID that a record is written under. -/
def assigned (L : Loose α) (id : Nat) : Nat :=
  if id = 0 then L.seed else id

def add (assign : Bool) (L : Loose α) (u : Nat) : Loose α :=
  match L.slot u with
  | none => L
  | some l =>
    { L with
      seed := max L.seed (L.assigned l.ID + 1)
      slot := Function.update L.slot u
        (some { l with attr := .nothing, ID := if assign then L.assigned l.ID else l.ID })
      rem := Function.update L.rem (L.assigned l.ID) (some (PilotDB.written l.secret l.content))
      ignored := Function.update L.ignored (L.assigned l.ID) true }

theorem slot_add_of_ne {assign : Bool} {L : Loose α} {u v : Nat} (hv : v ≠ u) :
    (L.add assign u).slot v = L.slot v := by
  unfold add
  cases L.slot u with
  | none => rfl
  | some l => simp [hv]

def newTurn (L : Loose α) (u : Nat) : Loose α :=
  if L.selected .new u then L.add true u else L

/-- A modified record is written, but a fresh ID is not noted. -/
def modifiedTurn (L : Loose α) (u : Nat) : Loose α :=
  if L.selected .modified u ∧ L.admitted u = true then L.add false u else L

def deletedTurn (L : Loose α) (u : Nat) : Loose α :=
  match L.slot u with
  | none => L
  | some l =>
    if L.selected .deleted u then { L with ignored := Function.update L.ignored l.ID true } else L

end Loose

/-! ## One turn -/

/-- What a turn at slot `u` does: the pair of the record in the slot is moved by
`f`, the loose part by `g`. -/
structure Turn (base : Nat) (f : Nat → Pair α → Pair α) (g : Loose α → Nat → Loose α)
    (s s' : SyncState α) (u : Nat) : Prop where
  wf : Wf base s'
  self : ∀ i, 0 < i → i < base → OnlyAt s.store u i → s'.pair i = f i (s.pair i)
  other : ∀ i, 0 < i → i < base → (∀ l, s.store.get u = some l → l.ID ≠ i) →
    s'.pair i = s.pair i
  onlyAt : ∀ w i, 0 < i → i < base → OnlyAt s.store w i → OnlyAt s'.store w i
  loose : s'.loose base = g (s.loose base) u

/-- A step that leaves every pair of `base` alone. -/
structure Outside (base : Nat) (s s' : SyncState α) : Prop where
  wf : Wf base s'
  pair : ∀ i, 0 < i → i < base → s'.pair i = s.pair i
  onlyAt : ∀ w i, 0 < i → i < base → OnlyAt s.store w i → OnlyAt s'.store w i

section Turn

variable {base : Nat} {s s' : SyncState α} {u : Nat}

theorem Outside.refl (hwf : Wf base s) : Outside base s s :=
  ⟨hwf, fun _ _ _ => rfl, fun _ _ _ _ h => h⟩

/-- The pair of an ID that only slot `u` can hold. -/
theorem pair_loc_of_onlyAt {i : Nat} (honly : OnlyAt s.store u i) :
    (s.pair i).loc = (s.store.get u).filter (fun l => l.ID = i) := by
  have hat : s.store.recordAt i = (s.store.get u).filter (fun l => l.ID = i) := by
    unfold LocalStore.recordAt
    cases hm : s.store.matchRecord i with
    | none =>
        cases hu : s.store.get u with
        | none => rfl
        | some l =>
            have hne := LocalStore.matchRecord_eq_none.mp hm u l hu
            simp [Option.filter, hne]
    | some v =>
        obtain ⟨l, hg, hl⟩ := LocalStore.matchRecord_some hm
        have hv := honly v l hg hl
        subst hv
        simp [hg, Option.filter, hl]
  exact hat

theorem pair_loc_ne (hid : ∀ l, s.store.get u = some l → l.ID ≠ i)
    (honly : OnlyAt s.store u i) : (s.pair i).loc = none := by
  rw [pair_loc_of_onlyAt honly]
  cases hu : s.store.get u with
  | none => rfl
  | some l => simp [Option.filter, hid l hu]

theorem selected_of_loc_none {flag : RecordAttr} {p : Pair α} (h : p.loc = none) :
    p.selected flag = false := by
  simp [Pair.selected, h]

/-- A step outside the pairs is a turn if the loose part moves by `g`. -/
theorem Outside.turn {f : Nat → Pair α → Pair α} {g : Loose α → Nat → Loose α}
    (h : Outside base s s') (hid : ∀ l, s.store.get u = some l → Unissued base l.ID)
    (hf : ∀ i p, p.loc = none → f i p = p) (hg : s'.loose base = g (s.loose base) u) :
    Turn base f g s s' u where
  wf := h.wf
  self i h0 hb honly := by
    rw [h.pair i h0 hb, hf]
    refine pair_loc_ne ?_ honly
    rintro l hl rfl
    exact not_unissued.mpr ⟨h0, hb⟩ (hid l hl)
  other i h0 hb _ := h.pair i h0 hb
  onlyAt := h.onlyAt
  loose := hg

theorem Rewrites.turn {f : Nat → Pair α → Pair α} {g : Loose α → Nat → Loose α}
    {l : LocalRecord α} (h : Rewrites s s' u l.ID (f l.ID (s.pair l.ID))) (hwf : Wf base s)
    (hl : s.store.get u = some l) (h0 : 0 < l.ID) (hb : l.ID < base)
    (hloc : ∀ m, (f l.ID (s.pair l.ID)).loc = some m → m.ID = l.ID)
    (hf : ∀ i p, p.loc = none → f i p = p)
    (hg : ∀ L : Loose α, L.slot u = none → g L u = L) : Turn base f g s s' u := by
  have hne : l.ID ≠ 0 := by omega
  have hslot : ∀ m, s.store.get u = some m → m.ID = l.ID := by
    intro m hm
    rw [hl] at hm
    cases hm
    rfl
  have hacts := h.acts hwf hne hb (hwf.onlyAt hl hne hb) hslot hloc
  refine ⟨hacts.wf, ?_, ?_, ?_, ?_⟩
  · intro i hi0 hib honly
    by_cases hi : i = l.ID
    · rw [hi]
      exact hacts.self
    · rw [hacts.other i (by omega) hi, hf]
      refine pair_loc_ne ?_ honly
      intro m hm heq
      exact hi (by rw [← heq, hslot m hm])
  · intro i hi0 _ hid
    exact hacts.other i (by omega) (fun heq => hid l hl heq.symm)
  · intro w i _ _ honly
    exact h.onlyAt hl rfl hloc honly
  · rw [hacts.loose, hg]
    simp [SyncState.loose, hl, Option.filter, not_unissued.mpr ⟨h0, hb⟩]

/-- The record of slot `u` was written to the pilot and put back. -/
structure AddedAt (base : Nat) (s s' : SyncState α) (u : Nat) (l : LocalRecord α) : Prop where
  held : s.store.get u = some l
  unissued : Unissued base l.ID
  slot : ∀ m, s'.store.get u = some m → Unissued base m.ID
  others : ∀ v, v ≠ u → s'.store.get v = s.store.get v
  seed : s'.pilot.uniqueIDSeed = max s.pilot.uniqueIDSeed (s.pilot.assignedID l.ID + 1)
  written : ∀ j, s'.pilot.get j = if j = s.pilot.assignedID l.ID then
    some (PilotDB.written l.secret l.content) else s.pilot.get j
  archive : s'.archive = s.archive
  ignored : s'.recordIdsToIgnore = s.pilot.assignedID l.ID :: s.recordIdsToIgnore
  crashed : s'.crashed = s.crashed

/-- A record that belongs to no pair is written to no ID of one. -/
theorem Wf.base_le_assignedID (hwf : Wf base s) {i : Nat} (hi : Unissued base i) :
    base ≤ s.pilot.assignedID i := by
  have := hwf.base_le
  unfold PilotDB.assignedID
  split
  · exact hwf.base_le
  · exact hi.resolve_left (by assumption)

namespace AddedAt

variable {l : LocalRecord α}

theorem old (h : AddedAt base s s' u l) {v : Nat} {m : LocalRecord α} (hv : v ≠ u)
    (hm : s'.store.get v = some m) : s.store.get v = some m := by
  rwa [h.others v hv] at hm

theorem slot_ne (h : AddedAt base s s' u l) {m : LocalRecord α} (hm : s'.store.get u = some m)
    (h0 : 0 < m.ID) (hb : m.ID < base) : False :=
  not_unissued.mpr ⟨h0, hb⟩ (h.slot m hm)

theorem onlyAt (h : AddedAt base s s' u l) {w i : Nat} (h0 : 0 < i) (hb : i < base)
    (honly : OnlyAt s.store w i) : OnlyAt s'.store w i := by
  rintro v m hm rfl
  by_cases hv : v = u
  · subst hv
    exact (h.slot_ne hm h0 hb).elim
  · exact honly v m (h.old hv hm) rfl

theorem keyed (h : AddedAt base s s' u l) (hwf : Wf base s) : s'.store.KeyedBelow base := by
  intro v w m n hm hn hid hm0 hb
  have h0 := Nat.pos_of_ne_zero hm0
  by_cases hv : v = u
  · subst hv
    exact (h.slot_ne hm h0 hb).elim
  · by_cases hw : w = u
    · subst hw
      exact (h.slot_ne hn (hid ▸ h0) (hid ▸ hb)).elim
    · exact hwf.keyed v w m n (h.old hv hm) (h.old hw hn) hid hm0 hb

theorem wf (h : AddedAt base s s' u l) (hwf : Wf base s) : Wf base s' := by
  have hbase := hwf.base_le
  have hseed := h.seed
  refine ⟨h.keyed hwf, ?_, hwf.base_pos, by omega, by rw [h.crashed]; exact hwf.alive⟩
  intro j d hb hd
  rw [h.ignored]
  by_cases hj : j = s.pilot.assignedID l.ID
  · rw [hj]
    exact List.mem_cons_self
  · rw [h.written, if_neg hj] at hd
    exact List.mem_cons_of_mem _ (hwf.claimed j d hb hd)

theorem pair (h : AddedAt base s s' u l) (hwf : Wf base s) {i : Nat} (h0 : 0 < i)
    (hb : i < base) : s'.pair i = s.pair i := by
  have hrec : s'.store.recordAt i = s.store.recordAt i := by
    apply LocalStore.recordAt_congr
    rintro v m rfl
    by_cases hv : v = u
    · subst hv
      refine iff_of_false (fun hm => h.slot_ne hm h0 hb) fun hm => ?_
      rw [h.held, Option.some.injEq] at hm
      exact not_unissued.mpr ⟨h0, hb⟩ (hm ▸ h.unissued)
    · rw [h.others v hv]
  have hne : i ≠ s.pilot.assignedID l.ID := by
    have := hwf.base_le_assignedID h.unissued
    omega
  simp only [SyncState.pair, Pair.mk.injEq]
  refine ⟨hrec, ?_, ?_, ?_⟩
  · rw [h.written, if_neg hne]
  · simp [SyncState.archivedAt, h.archive]
  · simp [h.ignored, hne]

theorem outside (h : AddedAt base s s' u l) (hwf : Wf base s) : Outside base s s' :=
  ⟨h.wf hwf, fun _ h0 hb => h.pair hwf h0 hb, fun _ _ h0 hb honly => h.onlyAt h0 hb honly⟩

/-- The slot is part of what is loose, whatever ID the record has now. -/
theorem loose_slot (h : AddedAt base s s' u l) :
    (s'.loose base).slot u = s'.store.get u := by
  simp only [SyncState.loose]
  cases hm : s'.store.get u with
  | none => rfl
  | some m => simp [Option.filter, h.slot m hm]

end AddedAt

/-- A record outside the pairs is written: the part common to new and modified ones. -/
theorem outside_add (hwf : Wf base s) {l : LocalRecord α} (hl : s.store.get u = some l)
    (hun : Unissued base l.ID) (assign : Bool)
    (hstore : ∀ v, s'.store.get v = if v = u then
      some { l with attr := .nothing, ID := if assign then s.pilot.assignedID l.ID else l.ID }
      else s.store.get v)
    (hpilot : s'.pilot = s.pilot.dlpWriteRecord l.secret l.ID l.content)
    (harch : s'.archive = s.archive)
    (hign : s'.recordIdsToIgnore = s.pilot.assignedID l.ID :: s.recordIdsToIgnore)
    (hcr : s'.crashed = s.crashed) :
    Outside base s s' ∧ s'.loose base = (s.loose base).add assign u := by
  have hbase := hwf.base_le_assignedID hun
  have hadded : AddedAt base s s' u l := by
    refine ⟨hl, hun, ?_, fun v hv => by rw [hstore v, if_neg hv], ?_, ?_, harch, hign, hcr⟩
    · intro m hm
      rw [hstore u, if_pos rfl, Option.some.injEq] at hm
      rw [← hm]
      cases assign with
      | true => exact Or.inr hbase
      | false => exact hun
    · rw [hpilot]
      rfl
    · intro j
      rw [hpilot, PilotDB.get_dlpWriteRecord]
  refine ⟨hadded.outside hwf, ?_⟩
  have hslot : (s.loose base).slot u = some l := by
    simp [SyncState.loose, hl, Option.filter, hun]
  have hassigned : (s.loose base).assigned l.ID = s.pilot.assignedID l.ID := rfl
  simp only [Loose.add, hslot, hassigned]
  apply Loose.ext'
  · exact hadded.seed
  · intro v
    by_cases hv : v = u
    · subst hv
      dsimp only
      rw [hadded.loose_slot, hstore v, if_pos rfl, Function.update_self]
    · simp [SyncState.loose, hstore v, hv]
  · intro j
    by_cases hj : j = s.pilot.assignedID l.ID
    · subst hj
      simp [SyncState.loose, hbase, hadded.written]
    · simp [SyncState.loose, hadded.written, hj]
  · intro j
    simp [SyncState.loose, SyncState.archivedAt, harch]
  · intro j
    by_cases hj : j = s.pilot.assignedID l.ID
    · subst hj
      simp [SyncState.loose, hign, show Unissued base _ from Or.inr hbase]
    · simp [SyncState.loose, hign, hj]

/-- A step that changes no record and ignores an ID outside the pairs from now on. -/
theorem outside_ignore (hwf : Wf base s) {k : Nat} (hun : Unissued base k)
    (hstore : ∀ v, s'.store.get v = s.store.get v)
    (hget : ∀ j, s'.pilot.get j = s.pilot.get j)
    (hseed : s'.pilot.uniqueIDSeed = s.pilot.uniqueIDSeed) (harch : s'.archive = s.archive)
    (hign : s'.recordIdsToIgnore = k :: s.recordIdsToIgnore) (hcr : s'.crashed = s.crashed) :
    Outside base s s' ∧
      s'.loose base = { s.loose base with
        ignored := Function.update (s.loose base).ignored k true } := by
  have hkeyed : s'.store.KeyedBelow base := by
    intro v w m n hm hn
    rw [hstore] at hm hn
    exact hwf.keyed v w m n hm hn
  refine ⟨⟨⟨hkeyed, ?_, hwf.base_pos, by rw [hseed]; exact hwf.base_le,
    by rw [hcr]; exact hwf.alive⟩, ?_, ?_⟩, ?_⟩
  · intro j d hb hd
    rw [hget] at hd
    rw [hign]
    exact List.mem_cons_of_mem k (hwf.claimed j d hb hd)
  · intro i hi0 hib
    have hrec : s'.store.recordAt i = s.store.recordAt i := by
      apply LocalStore.recordAt_congr
      intro v m _
      rw [hstore]
    have hi : i ≠ k := fun heq => not_unissued.mpr ⟨hi0, hib⟩ (heq ▸ hun)
    simp only [SyncState.pair, Pair.mk.injEq]
    exact ⟨hrec, hget i, by simp [SyncState.archivedAt, harch], by simp [hign, hi]⟩
  · intro w i _ _ honly v m hm
    rw [hstore] at hm
    exact honly v m hm
  · apply Loose.ext' hseed
    · intro v
      simp [SyncState.loose, hstore]
    · intro j
      simp [SyncState.loose, hget]
    · intro j
      simp [SyncState.loose, SyncState.archivedAt, harch]
    · intro j
      by_cases hj : j = k
      · subst hj
        simp [SyncState.loose, hign, hun]
      · simp [SyncState.loose, hign, hj]

theorem loose_slot_eq_some {l : LocalRecord α} :
    (s.loose base).slot u = some l ↔ s.store.get u = some l ∧ Unissued base l.ID := by
  simp [SyncState.loose, Option.filter_eq_some_iff]

theorem loose_slot_selected (flag : RecordAttr) : (s.loose base).selected flag u = true ↔
    ∃ l, s.store.get u = some l ∧ Unissued base l.ID ∧ l.attr = flag ∧ l.archived = false := by
  simp [Loose.selected, Option.any_eq_true, loose_slot_eq_some, and_assoc]

theorem loose_admitted {l : LocalRecord α} (hl : s.store.get u = some l)
    (hun : Unissued base l.ID) :
    (s.loose base).admitted u = true ↔ l.ID ∉ s.recordIdsToIgnore := by
  rw [Loose.admitted, loose_slot_eq_some.mpr ⟨hl, hun⟩]
  simp [SyncState.loose, hun]

/-- The shape of a turn: an unselected slot is passed over, a selected one holds
a record of a pair or another one. -/
theorem iterateSpecific_turn {flag : RecordAttr} {body : SyncState α → Nat → SyncState α}
    {f : Nat → Pair α → Pair α} {g : Loose α → Nat → Loose α} (hwf : Wf base s)
    (hf : ∀ i p, p.selected flag = false → f i p = p)
    (hg : ∀ L : Loose α, L.selected flag u = false → g L u = L)
    (hpaired : ∀ l, s.store.get u = some l → l.attr = flag → l.archived = false →
      0 < l.ID → l.ID < base → Turn base f g s (body s u) u)
    (hloose : ∀ l, s.store.get u = some l → l.attr = flag → l.archived = false →
      Unissued base l.ID → Turn base f g s (body s u) u) :
    Turn base f g s (iterateSpecific flag body s u) u := by
  have hskip : (∀ l, s.store.get u = some l → ¬ (l.attr = flag ∧ l.archived = false)) →
      Turn base f g s s u := by
    intro hno
    have hloose : s.loose base = g (s.loose base) u := by
      rw [hg]
      rw [Bool.eq_false_iff]
      intro hsel
      obtain ⟨l, hl, _, hsel⟩ := (loose_slot_selected flag).1 hsel
      exact hno l hl hsel
    refine ⟨hwf, ?_, fun _ _ _ _ => rfl, fun _ _ _ _ h => h, hloose⟩
    intro i _ _ honly
    rw [hf]
    unfold Pair.selected
    rw [pair_loc_of_onlyAt honly]
    cases hl : s.store.get u with
    | none => rfl
    | some l =>
        have hsel := hno l hl
        by_cases hi : l.ID = i
        · simpa [Option.filter, hi] using hsel
        · simp [Option.filter, hi]
  unfold iterateSpecific
  rw [hwf.alive]
  simp only [Bool.false_eq_true, if_false]
  cases hl : s.store.get u with
  | none =>
      apply hskip
      intro l h
      rw [hl] at h
      contradiction
  | some l =>
      by_cases hsel : l.attr = flag ∧ l.archived = false
      · simp only [hsel, and_self, if_true]
        by_cases hun : Unissued base l.ID
        · exact hloose l hl hsel.1 hsel.2 hun
        · obtain ⟨h0, hb⟩ := not_unissued.mp hun
          exact hpaired l hl hsel.1 hsel.2 h0 hb
      · simp only [hsel, if_false]
        apply hskip
        intro m hm
        rw [hl] at hm
        cases hm
        exact hsel

end Turn

/-! ## Installing new records -/

section Installing

variable {base : Nat} {s : SyncState α} {u : Nat}

theorem Pair.newPass_unselected {p : Pair α} (h : p.selected .new = false) : p.newPass = p := by
  simp [Pair.newPass, h]

theorem installNew_rewrites (hwf : Wf base s) {l : LocalRecord α} (hl : s.store.get u = some l)
    (hattr : l.attr = .new) (harch : l.archived = false) (h0 : 0 < l.ID) (hb : l.ID < base) :
    Rewrites s (installNew .none s u) u l.ID (s.pair l.ID).newPass := by
  have hne : l.ID ≠ 0 := by omega
  have hloc := hwf.pair_loc hl hne hb
  have hstart : Rewrites s s u l.ID (s.pair l.ID) :=
    .refl (by rw [hl, hloc]) rfl rfl (by simp [SyncState.pair])
  have hadd := hstart.addToPilot (r := ⟨l.ID, l.attr, l.archived, l.secret, l.content⟩) hne
    (Nat.lt_of_lt_of_le hb hwf.base_le) pair_loc_ID (fun h => h)
  have hass : (standardAbsAddToPilot .none s u).1 = l.ID := by
    simp [standardAbsAddToPilot, hl, SyncState.setStatus, SyncState.record,
      PilotDB.assignedID_of_ne_zero _ hne]
  have hcr : (standardAbsAddToPilot .none s u).2.crashed = false := by
    rw [hadd.crashed, hwf.alive]
  have hpass : (s.pair l.ID).newPass =
      (s.pair l.ID).perform ⟨l.ID, l.attr, l.archived, l.secret, l.content⟩ .addToPilot := by
    simp [Pair.newPass, Pair.selected, hloc, hattr, harch, Pair.perform]
  rw [← hpass] at hadd
  unfold installNew
  simp only [hcr, Bool.false_eq_true, if_false, hass]
  have hself := hadd.get_self
  refine ⟨?_, hadd.rem, hadd.arch, hadd.ignored, hadd.order, hadd.seed, hadd.crashed⟩
  intro v
  by_cases hv : v = u
  · have hpl : (s.pair l.ID).newPass.loc = some { l with attr := .nothing } := by
      simp [Pair.newPass, Pair.selected, hloc, hattr, harch]
    rw [hpl] at hself
    simp [SyncState.setPilotId, hv, hself, hpl]
  · simpa [SyncState.setPilotId, hv] using hadd.loc v

theorem installNew_turn (hwf : Wf base s) :
    Turn base (fun _ p => p.newPass) Loose.newTurn s
      (iterateSpecific .new (installNew .none) s u) u := by
  refine iterateSpecific_turn hwf (fun _ _ => Pair.newPass_unselected) ?_ ?_ ?_
  · intro L hsel
    simp [Loose.newTurn, hsel]
  · intro l hl hattr harch h0 hb
    have hne : l.ID ≠ 0 := by omega
    refine (installNew_rewrites hwf hl hattr harch h0 hb).turn hwf hl h0 hb ?_ ?_ ?_
    · intro m hm
      simp only [Pair.newPass, Pair.selected, hwf.pair_loc hl hne hb, Option.any_some, hattr, harch,
        decide_true, Bool.not_false, Bool.and_self, if_true, Option.some.injEq] at hm
      rw [← hm]
    · intro i p hp
      exact Pair.newPass_unselected (selected_of_loc_none hp)
    · intro L hslot
      simp [Loose.newTurn, Loose.selected, hslot]
  · intro l hl hattr harch hun
    have hsel : (s.loose base).selected .new u = true :=
      (loose_slot_selected .new).2 ⟨l, hl, hun, hattr, harch⟩
    have hadd : Outside base s (installNew .none s u) ∧
        (installNew .none s u).loose base = (s.loose base).add true u := by
      refine outside_add hwf hl hun true ?_ ?_ ?_ ?_ ?_ <;>
        simp only [installNew, standardAbsAddToPilot, hl, Faults.none_transmit,
          Faults.none_writeRecord, Bool.false_eq_true, if_false, SyncState.ignoreRecord,
          SyncState.setStatus, SyncState.setPilotId, SyncState.record, hwf.alive]
      intro v
      by_cases hv : v = u <;> simp [hv, hl]
    refine hadd.1.turn ?_ ?_ ?_
    · intro m hm
      rw [hl] at hm
      cases hm
      exact hun
    · intro i p hp
      exact Pair.newPass_unselected (selected_of_loc_none hp)
    · rw [hadd.2]
      simp [Loose.newTurn, hsel]

end Installing

/-! ## Modified and deleted records -/

section Resolving

variable {base : Nat} {s : SyncState α} {u : Nat}

theorem readRecordById_eq [Inhabited α] (s : SyncState α) (i : Nat) :
    readRecordById .none s i = (s.pair i).readBack i := by
  cases hd : s.pilot.get i <;> simp [readRecordById, Pair.readBack, SyncState.pair, hd]

theorem Pair.readBack_ID [Inhabited α] (i : Nat) (p : Pair α) : (p.readBack i).ID = i := by
  unfold Pair.readBack
  cases p.rem <;> rfl

variable [DecidableEq α] [Inhabited α]

theorem Pair.resolvePass_unselected {flag : RecordAttr} {i : Nat} {dir : SyncDirection}
    {p : Pair α} (h : p.selected flag = false) : p.resolvePass flag i dir = p := by
  simp [Pair.resolvePass, h]

/-- A call of `standard_abs_sync_record` with a local record that has an ID. -/
theorem syncRecordLocal_rewrites (hwf : Wf base s) {l : LocalRecord α}
    (hl : s.store.get u = some l) (h0 : 0 < l.ID) (hb : l.ID < base) (dir : SyncDirection) :
    Rewrites s (syncRecordLocal .none s u dir) u l.ID ((s.pair l.ID).resolve l.ID dir) := by
  have hne : l.ID ≠ 0 := by omega
  have hloc := hwf.pair_loc hl hne hb
  unfold syncRecordLocal
  simp only [hwf.alive, Bool.false_eq_true, if_false, hl]
  by_cases hign : l.ID ∈ s.recordIdsToIgnore
  · have hpi : (s.pair l.ID).ignored = true := by simp [SyncState.pair, hign]
    simp only [hign, if_true, Pair.resolve, hloc, hpi]
    exact .refl (by rw [hl, hloc]) rfl rfl (by simp [SyncState.pair])
  · have hpi : (s.pair l.ID).ignored = false := by simp [SyncState.pair, hign]
    simp only [hign, if_false, Pair.resolve, hloc, hpi, Bool.false_eq_true]
    rw [readRecordById_eq]
    exact (syncPair_rewrites (hwf.record _) hl hne hb (Pair.readBack_ID l.ID _) dir).record_left

theorem Pair.resolve_ID {i : Nat} {dir : SyncDirection} {p : Pair α}
    (hloc : ∀ l, p.loc = some l → l.ID = i) :
    ∀ m, (p.resolve i dir).loc = some m → m.ID = i := by
  intro m hm
  unfold Pair.resolve at hm
  cases hl : p.loc with
  | none => simp [hl] at hm
  | some l =>
      by_cases hign : p.ignored = true
      · simp only [hl, hign, if_true] at hm
        exact hloc m (hl.trans hm)
      · simp only [hl, hign, if_false, Bool.false_eq_true] at hm
        exact foldl_perform_ID (Pair.readBack_ID i p) _ hloc m hm

/-- The part the modified and the deleted pass share: a record of a pair is resolved
on it; another one remains to be looked at. -/
theorem resolve_turn {flag : RecordAttr} {g : Loose α → Nat → Loose α} (hwf : Wf base s)
    (dir : SyncDirection)
    (hg : ∀ L : Loose α, L.selected flag u = false → g L u = L)
    (hloose : ∀ l, s.store.get u = some l → l.attr = flag → l.archived = false →
      Unissued base l.ID → Outside base s (syncRecordLocal .none s u dir) ∧
        (syncRecordLocal .none s u dir).loose base = g (s.loose base) u) :
    Turn base (fun i p => p.resolvePass flag i dir) g s
      (iterateSpecific flag (fun s u => syncRecordLocal .none s u dir) s u) u := by
  have hf : ∀ (i : Nat) (p : Pair α), p.loc = none → p.resolvePass flag i dir = p :=
    fun _ _ hp => Pair.resolvePass_unselected (selected_of_loc_none hp)
  refine iterateSpecific_turn hwf (fun _ _ => Pair.resolvePass_unselected) hg ?_ ?_
  · intro l hl hattr harch h0 hb
    have hne : l.ID ≠ 0 := by omega
    have hpass : (s.pair l.ID).resolvePass flag l.ID dir = (s.pair l.ID).resolve l.ID dir := by
      simp [Pair.resolvePass, Pair.selected, hwf.pair_loc hl hne hb, hattr, harch]
    have hrw := syncRecordLocal_rewrites hwf hl h0 hb dir
    rw [← hpass] at hrw
    refine hrw.turn (f := fun i p => p.resolvePass flag i dir) hwf hl h0 hb ?_ hf ?_
    · rw [hpass]
      exact Pair.resolve_ID pair_loc_ID
    · intro L hslot
      apply hg
      simp [Loose.selected, hslot]
  · intro l hl hattr harch hun
    obtain ⟨hout, hl'⟩ := hloose l hl hattr harch hun
    refine hout.turn ?_ hf hl'
    intro m hm
    rw [hl] at hm
    cases hm
    exact hun

omit [DecidableEq α] in
theorem readRecordById_unissued (hwf : Wf base s) {i : Nat} (hun : Unissued base i)
    (hign : i ∉ s.recordIdsToIgnore) : readRecordById .none s i = unreadRecord i := by
  simp [readRecordById, hwf.get_unissued hun hign]

/-- A modified record outside the pairs is written as a new one is. -/
theorem modified_turn (hwf : Wf base s) {dir : SyncDirection} (hdir : dir.toRemote = true) :
    Turn base (fun i p => p.resolvePass .modified i dir) Loose.modifiedTurn s
      (iterateSpecific .modified (fun s u => syncRecordLocal .none s u dir) s u) u := by
  refine resolve_turn hwf dir ?_ ?_
  · intro L hsel
    simp [Loose.modifiedTurn, hsel]
  · intro l hl hattr harch hun
    have hsel : (s.loose base).selected .modified u = true :=
      (loose_slot_selected .modified).2 ⟨l, hl, hun, hattr, harch⟩
    have hadmitted := loose_admitted hl hun
    by_cases hign : l.ID ∈ s.recordIdsToIgnore
    · have hstay : syncRecordLocal .none s u dir = s := by
        simp [syncRecordLocal, hwf.alive, hl, hign]
      rw [hstay]
      refine ⟨.refl hwf, ?_⟩
      rw [Loose.modifiedTurn, if_neg fun h => hadmitted.mp h.2 hign]
    · have hcase : syncCase l (unreadRecord l.ID) = .case8 := by
        simp [syncCase, unreadRecord, harch, hattr]
      have hrun : syncRecordLocal .none s u dir =
          (standardAbsAddToPilot .none (s.record (.readRecordById l.ID)) u).2 := by
        simp only [syncRecordLocal, hwf.alive, hl, hign, Bool.false_eq_true, if_false,
          readRecordById_unissued hwf hun hign, syncPair, hcase, SyncCase.actions,
          SyncDirection.ifRemote, hdir, if_true]
        rw [runActions_cons .none (hwf.record (.readRecordById l.ID)).alive]
        rfl
      rw [hrun]
      have hturn : (s.loose base).modifiedTurn u = (s.loose base).add false u := by
        simp [Loose.modifiedTurn, hsel, hadmitted.mpr hign]
      rw [hturn]
      refine outside_add hwf hl hun false ?_ ?_ ?_ ?_ ?_ <;>
        simp only [standardAbsAddToPilot, SyncState.record, hl, Faults.none_transmit,
          Faults.none_writeRecord, Bool.false_eq_true, if_false, SyncState.ignoreRecord,
          SyncState.setStatus]
      intro v
      by_cases hv : v = u <;> simp [hv, hl]

theorem syncRecordLocal_deleted (hwf : Wf base s) {l : LocalRecord α}
    (hl : s.store.get u = some l) (hattr : l.attr = .deleted) (harch : l.archived = false)
    (hun : Unissued base l.ID) (hign : l.ID ∉ s.recordIdsToIgnore) :
    syncRecordLocal .none s u SyncBothWays =
      (standardAbsDeleteFromPilot (s.record (.readRecordById l.ID)) l.ID).setStatus u
        .deleted := by
  have hcase : syncCase l (unreadRecord l.ID) = .case4 := by
    simp [syncCase, unreadRecord, harch, hattr]
  simp only [syncRecordLocal, hwf.alive, hl, hign, Bool.false_eq_true, if_false,
    readRecordById_unissued hwf hun hign, syncPair, hcase, SyncCase.actions,
    SyncDirection.ifRemote, SyncDirection.ifLocal, SyncBothWays, if_true, List.cons_append,
    List.nil_append]
  rw [runActions_cons .none (hwf.record (.readRecordById l.ID)).alive]
  have hdel : (perform .none u (unreadRecord l.ID) (s.record (.readRecordById l.ID))
      .deleteFromPilot).crashed = false := hwf.alive
  exact runActions_cons .none hdel _ _

/-- A deleted record outside the pairs is marked deleted once more. -/
theorem deleted_turn (hwf : Wf base s) {dir : SyncDirection} (hdir : dir = SyncBothWays) :
    Turn base (fun i p => p.resolvePass .deleted i dir) Loose.deletedTurn s
      (iterateSpecific .deleted (fun s u => syncRecordLocal .none s u dir) s u) u := by
  refine resolve_turn hwf dir ?_ ?_
  · intro L hsel
    cases hl : L.slot u <;> simp [Loose.deletedTurn, hsel, hl]
  · intro l hl hattr harch hun
    have hsel : (s.loose base).selected .deleted u = true :=
      (loose_slot_selected .deleted).2 ⟨l, hl, hun, hattr, harch⟩
    have hturn : (s.loose base).deletedTurn u = { s.loose base with
        ignored := Function.update (s.loose base).ignored l.ID true } := by
      simp [Loose.deletedTurn, hsel, loose_slot_eq_some.mpr ⟨hl, hun⟩]
    rw [hturn]
    by_cases hign : l.ID ∈ s.recordIdsToIgnore
    · have hstay : syncRecordLocal .none s u dir = s := by
        simp [syncRecordLocal, hwf.alive, hl, hign]
      rw [hstay]
      have hli : (s.loose base).ignored l.ID = true := by simp [SyncState.loose, hun, hign]
      rw [← hli, Function.update_eq_self]
      exact ⟨.refl hwf, rfl⟩
    · subst hdir
      rw [syncRecordLocal_deleted hwf hl hattr harch hun hign]
      -- the record carries the status already, and no pilot record has its ID
      refine outside_ignore hwf hun (fun v => ?_) (fun j => ?_) rfl rfl rfl rfl
      · by_cases hv : v = u
        · simp [SyncState.setStatus, standardAbsDeleteFromPilot, SyncState.deleteRecord,
            SyncState.ignoreRecord, SyncState.record, hv, hl, ← hattr]
        · simp [SyncState.setStatus, standardAbsDeleteFromPilot, SyncState.deleteRecord,
            SyncState.ignoreRecord, SyncState.record, hv]
      · have hnone := hwf.get_unissued hun hign
        by_cases hj : j = l.ID <;> simp [SyncState.setStatus, standardAbsDeleteFromPilot,
          SyncState.deleteRecord, SyncState.ignoreRecord, SyncState.record, hj, hnone]

end Resolving

/-! ## A whole pass -/

/-- What a pass does to every pair and to the loose part. -/
structure Passed (base : Nat) (f : Nat → Pair α → Pair α) (g : Loose α → Loose α)
    (s s' : SyncState α) : Prop where
  wf : Wf base s'
  pair : ∀ i, 0 < i → i < base → s'.pair i = f i (s.pair i)
  loose : s'.loose base = g (s.loose base)

theorem forEachSpecific_passed {base : Nat} {f : Nat → Pair α → Pair α}
    {g : Loose α → Nat → Loose α} {flag : RecordAttr} {body : SyncState α → Nat → SyncState α}
    (hturn : ∀ s u, Wf base s → Turn base f g s (iterateSpecific flag body s u) u)
    (hf : ∀ i p, p.loc = none → f i p = p) {s : SyncState α} (hwf : Wf base s) :
    Passed base f (fun L => (List.range s.store.size).foldl g L) s
      (forEachSpecific flag body s) where
  wf := Loop.foldl_inv (Wf base) _ (fun s u h => (hturn s u h).wf) _ s hwf
  pair i h0 hb := by
    -- the turn at the slot of the record is the one that counts
    obtain ⟨u, honly⟩ : ∃ u, OnlyAt s.store u i := by
      cases hm : s.store.matchRecord i with
      | none =>
          refine ⟨0, ?_⟩
          intro v l hl hid
          exact absurd hid (LocalStore.matchRecord_eq_none.mp hm v l hl)
      | some u =>
          obtain ⟨l, hl, hid⟩ := LocalStore.matchRecord_some hm
          refine ⟨u, ?_⟩
          rw [← hid]
          exact hwf.onlyAt hl (by omega) (by omega)
    have hloop := Loop.foldl_view_at (fun s => Wf base s ∧ OnlyAt s.store u i)
      (iterateSpecific flag body) (fun s => s.pair i) (f i) u
      (fun s v h => ⟨(hturn s v h.1).wf, (hturn s v h.1).onlyAt u i h0 hb h.2⟩)
      (fun s h => (hturn s u h.1).self i h0 hb h.2)
      (fun s v h hv => (hturn s v h.1).other i h0 hb (fun l hl hid => hv (h.2 v l hl hid)))
      (List.range s.store.size) List.nodup_range s ⟨hwf, honly⟩
    unfold forEachSpecific
    rw [hloop]
    by_cases hu : u ∈ List.range s.store.size
    · rw [if_pos hu]
    · rw [if_neg hu, hf]
      rw [List.mem_range, Nat.not_lt] at hu
      rw [pair_loc_of_onlyAt honly, s.store.bounded u hu]
      rfl
  loose := Loop.foldl_proj (Wf base) _ g (fun s => s.loose base)
    (fun s u h => (hturn s u h).wf) (fun s u h => (hturn s u h).loose) _ s hwf

end GnomePilot.Sync
