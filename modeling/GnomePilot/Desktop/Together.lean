import GnomePilot.Desktop.Callbacks

/-!
# Map and store change together

Whether a callback changes the map and the server's objects together or neither, and
over which calls the conduits do.
-/

namespace GnomePilot

section Together

variable {α ρ : Type} (gen : UidGenerator) (convert : ρ → Option α → α)

def EPilotMap.Mapped (map : EPilotMap) (u : String) : Prop := (map.uidMap.lookup u).isSome = true

def Reflects (before after : DesktopState α) : DesktopCallback α ρ → Prop
  | .addRecord remote => ∃ uid, before.store.has uid = false ∧
      after.store.objects = before.store.objects ++ [⟨uid, convert remote.content none⟩] ∧
      after.map.uidMap.lookup uid = some ⟨remote.ID, false, true⟩
  | .replaceRecord rec remote => before.store.has rec.uid = true ∧
      after.store.objects = before.store.objects.map (fun o =>
        if o.uid = rec.uid then ⟨rec.uid, convert remote.content (some rec.content)⟩ else o) ∧
      after.map = before.map
  | .deleteRecord rec =>
      after.store.objects = before.store.objects.filter (fun o => o.uid ≠ rec.uid) ∧
      after.map.uidMap.lookup rec.uid = none
  | .archiveRecord rec id archive => after.store = before.store ∧
      after.map.uidMap.lookup rec.uid = some ⟨id, archive, true⟩
  | .setPilotId rec id => after.store = before.store ∧
      after.map.uidMap.lookup rec.uid = some ⟨id, false, true⟩

/-- The callback changes map and server together, or neither and says so; an object
that stays keeps its entry, and no entry names an object that never was. -/
structure ChangedTogether (result : Int) (before after : DesktopState α)
    (call : DesktopCallback α ρ) : Prop where
  both : (result = 0 ∧ Reflects convert before after call) ∨
    (result < 0 ∧ after.map = before.map ∧ after.store = before.store)
  kept : ∀ u, before.store.has u = true → after.store.has u = true →
    before.map.Mapped u → after.map.Mapped u
  named : ∀ u, after.map.Mapped u → u ∈ after.stored

def FreeFor (s : DesktopState α) (id : UInt32) (u : String) : Prop :=
  ∀ v, (s.map.pidMap.lookup id).map (·.uid) = some v → v = u ∨ s.store.has v = false

def Creates (a : EdsAnswer) (s : DesktopState α) (uid : Option String) : Prop :=
  a.error = none ∧ s.store.has (a.newUid uid) = false

/-- When a callback of a conduit of components keeps map and server together. -/
def EcalTogether (s : DesktopState α) (a : EdsAnswer) : DesktopCallback α ρ → Prop
  | .addRecord remote => Creates a s (some (gen.next s.stored)) →
      a.newUid (some (gen.next s.stored)) = gen.next s.stored ∧
      FreeFor s remote.ID (gen.next s.stored)
  | .replaceRecord _ _ => True
  | .deleteRecord rec => s.store.has rec.uid = true → a.error = none
  | .archiveRecord rec id _ => rec.uid ∈ s.stored ∧ FreeFor s id rec.uid
  | .setPilotId rec id => rec.uid ∈ s.stored ∧ FreeFor s id rec.uid

def AddressTogether (s : DesktopState α) (a : EdsAnswer) : DesktopCallback α ρ → Prop
  | .addRecord remote => Creates a s none → FreeFor s remote.ID (a.newUid none)
  | .replaceRecord _ _ => True
  | .deleteRecord rec =>
      match a.error with
      | none => True
      | some .other => ¬ s.map.Mapped rec.uid
      | some _ => s.store.has rec.uid = false
  | .archiveRecord rec id _ => rec.uid ∈ s.stored ∧ FreeFor s id rec.uid
  | .setPilotId rec id => rec.uid ∈ s.stored ∧ FreeFor s id rec.uid

def DesktopConduit.Together (conduit : DesktopConduit) (s : DesktopState α)
    (call : DesktopCallback α ρ × EdsAnswer) : Prop :=
  match conduit with
  | .calendar | .todo | .memo => EcalTogether gen s call.2 call.1
  | .address => AddressTogether s call.2 call.1

/-- Entries and objects have been stored, and the address conduit has no contact that
counts as deleted. -/
structure DesktopConduit.Good (conduit : DesktopConduit) (s : DesktopState α) : Prop where
  represents : ∃ t, s.map.Represents t
  mapped : ∀ u, s.map.Mapped u → u ∈ s.stored
  objects : ∀ u, s.store.has u = true → u ∈ s.stored
  undeleted : conduit = .address → ∀ u ccc, s.changedHash.lookup u = some ccc →
    ccc.type ≠ .deleted

/-! ## What an entry or a removal does -/

theorem mapped_insert (map : EPilotMap) (p : UInt32) (u : String) (a : Bool) (v : String) :
    (ePilotMapInsert map p u a).Mapped v ↔
      v = u ∨ ((map.pidMap.lookup p).map (·.uid) ≠ some v ∧ map.Mapped v) := by
  unfold EPilotMap.Mapped
  rw [EPilotMap.lookup_insert]
  by_cases hv : v = u
  · simp [hv]
  · by_cases hp : (map.pidMap.lookup p).map (·.uid) = some v
    · simp [hv, hp]
    · simp [hv, hp]

theorem mapped_removeByUid (map : EPilotMap) (u v : String) :
    (ePilotMapRemoveByUid map u).Mapped v ↔ v ≠ u ∧ map.Mapped v := by
  unfold EPilotMap.Mapped
  rw [EPilotMap.lookup_removeByUid]
  by_cases hv : v = u
  · simp [hv]
  · simp [hv]

theorem has_iff_mem {st : EdsStore α} {u : String} :
    st.has u = true ↔ u ∈ st.objects.map (·.uid) := by
  rw [EdsStore.has_iff]
  simp

theorem mem_note {s : DesktopState α} {u : String} :
    u ∈ s.note.stored ↔ u ∈ s.stored ∨ s.store.has u = true := by
  rw [has_iff_mem]
  simp [DesktopState.note]

/-- No other object loses its entry exactly if the pilot id is free for the uid. -/
theorem kept_insert_iff {s : DesktopState α} (hrep : ∃ t, s.map.Represents t) (id : UInt32)
    (u : String) (archive : Bool) {st : EdsStore α}
    (hst : ∀ v, s.store.has v = true → st.has v = true) :
    (∀ v, s.store.has v = true → st.has v = true → s.map.Mapped v →
      (ePilotMapInsert s.map id u archive).Mapped v) ↔ FreeFor s id u := by
  obtain ⟨t, ht⟩ := hrep
  constructor
  · intro h v hv
    by_cases hne : v = u
    · exact Or.inl hne
    · right
      cases hhas : s.store.has v with
      | false => rfl
      | true =>
          -- the uid that has the pilot id is mapped, and would lose its entry
          obtain ⟨pnode, hp, rfl⟩ := Option.map_eq_some_iff.mp hv
          have hmapped : s.map.Mapped pnode.uid := by
            unfold EPilotMap.Mapped
            rw [(ht.lookup_pid hp).1]
            rfl
          have := (mapped_insert _ _ _ _ _).mp (h _ hhas (hst _ hhas) hmapped)
          exact absurd hv (this.resolve_left hne).1
  · intro h v hhas _ hmapped
    rw [mapped_insert]
    by_cases hv : (s.map.pidMap.lookup id).map (·.uid) = some v
    · exact Or.inl ((h v hv).resolve_right (by simp [hhas]))
    · exact Or.inr ⟨hv, hmapped⟩

/-- Every entry names a stored object exactly if the new one does. -/
theorem named_insert_iff {s : DesktopState α} (hmapped : ∀ u, s.map.Mapped u → u ∈ s.stored)
    (id : UInt32) (u : String) (archive : Bool) {stored : List String}
    (hstored : ∀ v ∈ s.stored, v ∈ stored) :
    (∀ v, (ePilotMapInsert s.map id u archive).Mapped v → v ∈ stored) ↔ u ∈ stored := by
  constructor
  · intro h
    exact h u ((mapped_insert _ _ _ _ _).mpr (Or.inl rfl))
  · intro h v hv
    cases (mapped_insert _ _ _ _ _).mp hv with
    | inl hv => exact hv ▸ h
    | inr hv => exact hstored v (hmapped v hv.2)

theorem lookup_entered (map : EPilotMap) (id : UInt32) (uid : String) (archived : Bool) :
    (ePilotMapInsert map id uid archived).uidMap.lookup uid = some ⟨id, archived, true⟩ := by
  rw [EPilotMap.lookup_insert, if_pos rfl]

theorem enter_iff {conduit : DesktopConduit} {s : DesktopState α} (hs : conduit.Good s)
    (rec : EdsObject α) (id : UInt32) (archive : Bool) (call : DesktopCallback α ρ)
    (hcall : Reflects convert s
      (DesktopState.note { s with map := ePilotMapInsert s.map id rec.uid archive }) call) :
    ChangedTogether convert 0 s
        (DesktopState.note { s with map := ePilotMapInsert s.map id rec.uid archive }) call ↔
      rec.uid ∈ s.stored ∧ FreeFor s id rec.uid := by
  have hnote : ∀ u, u ∈ (DesktopState.note
      { s with map := ePilotMapInsert s.map id rec.uid archive }).stored ↔ u ∈ s.stored := by
    intro u
    rw [mem_note]
    exact ⟨fun h => h.elim (fun h => h) (hs.objects u), Or.inl⟩
  have hkept := kept_insert_iff hs.represents id rec.uid archive
    fun v (hv : s.store.has v = true) => hv
  have hnamed := named_insert_iff hs.mapped id rec.uid archive fun v hv => (hnote v).mpr hv
  rw [← hkept, ← hnote rec.uid, ← hnamed]
  constructor
  · intro h
    exact ⟨h.named, h.kept⟩
  · intro ⟨hnamed', hkept'⟩
    exact ⟨Or.inl ⟨rfl, hcall⟩, hkept', hnamed'⟩

theorem changedTogether_of_failed {conduit : DesktopConduit} {s : DesktopState α}
    (hs : conduit.Good s) (call : DesktopCallback α ρ) :
    ChangedTogether convert (-1) s s.note call where
  both := Or.inr ⟨by decide, rfl, rfl⟩
  kept _ _ _ h := h
  named u hu := mem_note.mpr (Or.inl (hs.mapped u hu))

/-! ## Each callback -/

theorem create_of_creates {a : EdsAnswer} {s : DesktopState α} {uid : Option String}
    (h : Creates a s uid) (content : α) : s.store.create a uid content =
      (some (a.newUid uid), ⟨s.store.objects ++ [⟨a.newUid uid, content⟩]⟩) := by
  unfold EdsStore.create
  rw [h.1]
  simp [h.2]

theorem create_of_not_creates {a : EdsAnswer} {s : DesktopState α} {uid : Option String}
    (h : ¬ Creates a s uid) (content : α) : s.store.create a uid content = (none, s.store) := by
  rcases EdsStore.create_cases a s.store uid content with hfail | ⟨ha, hhas, -⟩
  · exact hfail
  · exact absurd ⟨ha, hhas⟩ h

/-- An object is stored under the uid `n` and entered under the uid `e`, which is the
same or a new one. -/
theorem stored_iff {conduit : DesktopConduit} {s : DesktopState α} (hs : conduit.Good s)
    (remote : RemoteRecord ρ) {n e : String} (hn : s.store.has n = false)
    (he : e = n ∨ e ∉ s.stored) :
    ChangedTogether convert 0 s
      (DesktopState.note { s with
        store := ⟨s.store.objects ++ [⟨n, convert remote.content none⟩]⟩
        map := ePilotMapInsert s.map remote.ID e false }) (.addRecord remote) ↔
      n = e ∧ FreeFor s remote.ID e := by
  have hhas : ∀ v, s.store.has v = true →
      (⟨s.store.objects ++ [⟨n, convert remote.content none⟩]⟩ : EdsStore α).has v = true := by
    intro v hv
    simp only [EdsStore.has_append, Bool.or_eq_true]
    exact Or.inl hv
  have hkept := kept_insert_iff hs.represents remote.ID e false hhas
  constructor
  · intro h
    have hmem := h.named e ((mapped_insert _ _ _ _ _).mpr (Or.inl rfl))
    have hne : n = e := by
      cases he with
      | inl he => exact he.symm
      | inr he =>
          have hhas := (mem_note.mp hmem).resolve_left he
          simp only [EdsStore.has_append, Bool.or_eq_true, decide_eq_true_eq] at hhas
          exact hhas.resolve_left fun hhas => he (hs.objects e hhas)
    exact ⟨hne, hkept.mp h.kept⟩
  · intro ⟨hne, hfree⟩
    refine ⟨Or.inl ⟨rfl, n, hn, rfl, ?_⟩, hkept.mpr hfree, ?_⟩
    · show (ePilotMapInsert s.map remote.ID e false).uidMap.lookup n = _
      rw [EPilotMap.lookup_insert, if_pos hne]
    · intro u hu
      rw [mem_note]
      cases (mapped_insert _ _ _ _ _).mp hu with
      | inl hu => exact Or.inr (by simp [hu, hne])
      | inr hu => exact Or.inl (hs.mapped u hu.2)

/-- A record is modified, or the call fails; the map stays. -/
theorem modify_together {conduit : DesktopConduit} {s : DesktopState α} (hs : conduit.Good s)
    (a : EdsAnswer) (rec : EdsObject α) (remote : RemoteRecord ρ) :
    ChangedTogether convert (ecalReplaceRecord convert a s rec remote).1 s
      (ecalReplaceRecord convert a s rec remote).2.note (.replaceRecord rec remote) := by
  unfold ecalReplaceRecord
  rcases EdsStore.modify_cases a s.store
      ⟨rec.uid, convert remote.content (some rec.content)⟩ with h | ⟨hhas, h⟩
  · rw [h]
    exact changedTogether_of_failed convert hs _
  · rw [h]
    refine ⟨Or.inl ⟨rfl, hhas, rfl, rfl⟩, fun _ _ _ hu => hu, fun u hu => ?_⟩
    exact mem_note.mpr (Or.inl (hs.mapped u hu))

/-- The entry of the uid is removed, and its objects are not there afterwards. -/
theorem deleted_together {conduit : DesktopConduit} {s : DesktopState α} (hs : conduit.Good s)
    (rec : EdsObject α) :
    ChangedTogether convert 0 s
      (DesktopState.note { s with
        map := ePilotMapRemoveByUid s.map rec.uid
        store := ⟨s.store.objects.filter fun o => o.uid ≠ rec.uid⟩ }) (.deleteRecord rec) where
  both := by
    refine Or.inl ⟨rfl, rfl, ?_⟩
    show (ePilotMapRemoveByUid s.map rec.uid).uidMap.lookup rec.uid = none
    rw [EPilotMap.lookup_removeByUid, if_pos rfl]
  kept u _ hhas hu := by
    refine (mapped_removeByUid _ _ _).mpr ⟨fun heq => ?_, hu⟩
    have hgone : (EdsStore.mk (s.store.objects.filter fun o => o.uid ≠ rec.uid)).has u = true :=
      hhas
    rw [EdsStore.has_filter] at hgone
    simp [heq] at hgone
  named u hu := mem_note.mpr (Or.inl (hs.mapped u ((mapped_removeByUid _ _ _).mp hu).2))

/-- The entry goes and the objects stay: right only if there were none. -/
theorem unremoved_iff {conduit : DesktopConduit} {s : DesktopState α} (hs : conduit.Good s)
    (rec : EdsObject α) :
    ChangedTogether convert 0 s
      (DesktopState.note { s with map := ePilotMapRemoveByUid s.map rec.uid })
      (.deleteRecord rec) ↔ s.store.has rec.uid = false := by
  have hfilter : s.store.has rec.uid = false →
      s.store.objects.filter (fun o => o.uid ≠ rec.uid) = s.store.objects := by
    intro h
    refine List.filter_eq_self.mpr fun o ho => ?_
    have hne : o.uid ≠ rec.uid := fun heq => by
      have := EdsStore.has_iff.mpr ⟨o, ho, heq⟩
      simp [h] at this
    simp [hne]
  constructor
  · intro h
    cases h.both with
    | inl h =>
        have hobjects : s.store.objects = s.store.objects.filter (fun o => o.uid ≠ rec.uid) :=
          h.2.1
        cases hhas : s.store.has rec.uid with
        | false => rfl
        | true =>
            obtain ⟨o, ho, huid⟩ := EdsStore.has_iff.mp hhas
            rw [hobjects] at ho
            simp [huid] at ho
    | inr h => exact absurd h.1 (by decide)
  · intro h
    have := deleted_together convert hs rec
    rwa [hfilter h] at this

theorem ecal_iff {conduit : DesktopConduit} {s : DesktopState α} (hs : conduit.Good s)
    (a : EdsAnswer) (call : DesktopCallback α ρ) :
    ChangedTogether convert (ecalCallback gen convert a s call).1 s
      (ecalCallback gen convert a s call).2.note call ↔ EcalTogether gen s a call := by
  cases call with
  | addRecord remote =>
      simp only [ecalCallback, ecalAddRecord, EcalTogether]
      by_cases hc : Creates a s (some (gen.next s.stored))
      · rw [create_of_creates hc]
        simp only [hc, true_implies]
        exact stored_iff convert hs remote hc.2 (Or.inr (gen.fresh _))
      · rw [create_of_not_creates hc]
        simp only [hc, false_implies, iff_true]
        exact changedTogether_of_failed convert hs _
  | replaceRecord rec remote =>
      exact iff_of_true (modify_together convert hs a rec remote) trivial
  | deleteRecord rec =>
      simp only [ecalCallback, ecalDeleteRecord, EcalTogether]
      rcases EdsStore.remove_cases a s.store rec.uid with ⟨ha, hhas, h⟩ | ⟨ha, hhas, h⟩ | ⟨e, ha, h⟩
      · rw [h]
        exact iff_of_true (deleted_together convert hs rec) fun _ => ha
      · rw [h]
        exact iff_of_true ((unremoved_iff convert hs rec).mpr hhas) fun _ => ha
      · rw [h]
        refine (unremoved_iff convert hs rec).trans ?_
        simp [ha]
  | archiveRecord rec id archive =>
      exact enter_iff convert hs rec id archive _ ⟨rfl, lookup_entered s.map id rec.uid archive⟩
  | setPilotId rec id =>
      exact enter_iff convert hs rec id false _ ⟨rfl, lookup_entered s.map id rec.uid false⟩

/-- The removal of an address is reported to have failed after the entry is gone. -/
theorem reported_iff {conduit : DesktopConduit} {s : DesktopState α} (hs : conduit.Good s)
    (rec : EdsObject α) :
    ChangedTogether convert (-1) s
      (DesktopState.note { s with map := ePilotMapRemoveByUid s.map rec.uid })
      (.deleteRecord rec) ↔ ¬ s.map.Mapped rec.uid := by
  constructor
  · intro h hmapped
    cases h.both with
    | inl h => exact absurd h.1 (by decide)
    | inr h =>
        have hmap : ePilotMapRemoveByUid s.map rec.uid = s.map := h.2.1
        rw [← hmap] at hmapped
        exact ((mapped_removeByUid _ _ _).mp hmapped).1 rfl
  · intro h
    have hmap : ePilotMapRemoveByUid s.map rec.uid = s.map := by
      unfold ePilotMapRemoveByUid
      cases hu : s.map.uidMap.lookup rec.uid with
      | none => rfl
      | some unode => simp [EPilotMap.Mapped, hu] at h
    rw [hmap]
    exact changedTogether_of_failed convert hs _

/-- Without contacts that count as deleted a contact is replaced as a component is. -/
theorem addressReplaceRecord_eq {s : DesktopState α}
    (h : ∀ u ccc, s.changedHash.lookup u = some ccc → ccc.type ≠ .deleted) (a : EdsAnswer)
    (rec : EdsObject α) (remote : RemoteRecord ρ) :
    addressReplaceRecord convert a s rec remote = ecalReplaceRecord convert a s rec remote := by
  have hebc : (s.changedHash.lookup rec.uid).any (fun ebc => ebc.type = .deleted) = false := by
    cases hlookup : s.changedHash.lookup rec.uid with
    | none => rfl
    | some ebc => simpa using h _ _ hlookup
  unfold addressReplaceRecord ecalReplaceRecord
  simp only [hebc, Bool.false_eq_true, if_false]

theorem address_iff {s : DesktopState α} (hs : DesktopConduit.address.Good s) (a : EdsAnswer)
    (call : DesktopCallback α ρ) :
    ChangedTogether convert (addressCallback convert a s call).1 s
      (addressCallback convert a s call).2.note call ↔ AddressTogether s a call := by
  cases call with
  | addRecord remote =>
      simp only [addressCallback, addressAddRecord, AddressTogether]
      by_cases hc : Creates a s none
      · rw [create_of_creates hc]
        simp only [hc, true_implies]
        exact (stored_iff convert hs remote hc.2 (Or.inl rfl)).trans (by simp)
      · rw [create_of_not_creates hc]
        simp only [hc, false_implies, iff_true]
        exact changedTogether_of_failed convert hs _
  | replaceRecord rec remote =>
      simp only [addressCallback, addressReplaceRecord_eq convert (hs.undeleted rfl)]
      exact iff_of_true (modify_together convert hs a rec remote) trivial
  | deleteRecord rec =>
      simp only [addressCallback, addressDeleteRecord, AddressTogether]
      rcases EdsStore.remove_cases a s.store rec.uid with ⟨ha, hhas, h⟩ | ⟨ha, hhas, h⟩ | ⟨e, ha, h⟩
      · rw [h, ha]
        exact iff_of_true (deleted_together convert hs rec) trivial
      · rw [h, ha]
        exact iff_of_true ((unremoved_iff convert hs rec).mpr hhas) trivial
      · rw [h, ha]
        cases e with
        | unset => exact unremoved_iff convert hs rec
        | notFound => exact unremoved_iff convert hs rec
        | other => exact reported_iff convert hs rec
  | archiveRecord rec id archive =>
      exact enter_iff convert hs rec id archive _ ⟨rfl, lookup_entered s.map id rec.uid archive⟩
  | setPilotId rec id =>
      exact enter_iff convert hs rec id false _ ⟨rfl, lookup_entered s.map id rec.uid false⟩

theorem callback_iff (conduit : DesktopConduit) {s : DesktopState α} (hs : conduit.Good s)
    (call : DesktopCallback α ρ × EdsAnswer) :
    ChangedTogether convert (conduit.callback gen convert s call).1 s
      (conduit.callback gen convert s call).2 call.1 ↔ conduit.Together gen s call := by
  cases conduit with
  | calendar => exact ecal_iff gen convert hs call.2 call.1
  | todo => exact ecal_iff gen convert hs call.2 call.1
  | memo => exact ecal_iff gen convert hs call.2 call.1
  | address => exact address_iff convert hs call.2 call.1

/-! ## Runs of callbacks -/

theorem ecalReplaceRecord_fields (a : EdsAnswer) (s : DesktopState α) (rec : EdsObject α)
    (remote : RemoteRecord ρ) : (ecalReplaceRecord convert a s rec remote).2.map = s.map ∧
      (ecalReplaceRecord convert a s rec remote).2.changedHash = s.changedHash := by
  unfold ecalReplaceRecord
  split
  · exact ⟨rfl, rfl⟩
  · exact ⟨rfl, rfl⟩

/-- A callback enters a uid, removes one, or leaves the map alone. -/
theorem ecal_fields {s : DesktopState α} (hs : ∃ t, s.map.Represents t) (a : EdsAnswer)
    (call : DesktopCallback α ρ) :
    (∃ t, (ecalCallback gen convert a s call).2.map.Represents t) ∧
    (ecalCallback gen convert a s call).2.changedHash = s.changedHash := by
  obtain ⟨t, ht⟩ := hs
  cases call with
  | addRecord remote =>
      simp only [ecalCallback, ecalAddRecord]
      cases s.store.create a (some (gen.next s.stored)) (convert remote.content none) with
      | mk uid store =>
          cases uid with
          | none => exact ⟨⟨t, ht⟩, rfl⟩
          | some uid => exact ⟨ht.exists_insert _ _ _, rfl⟩
  | replaceRecord rec remote =>
      obtain ⟨hmap, hhash⟩ := ecalReplaceRecord_fields convert a s rec remote
      exact ⟨⟨t, hmap ▸ ht⟩, hhash⟩
  | deleteRecord rec =>
      exact ⟨⟨_, (EPilotMap.Represents.removeByUid_eq s.map rec.uid).symm ▸ ht.evictUid rec.uid⟩,
        rfl⟩
  | archiveRecord rec id archive => exact ⟨ht.exists_insert _ _ _, rfl⟩
  | setPilotId rec id => exact ⟨ht.exists_insert _ _ _, rfl⟩

theorem address_fields {s : DesktopState α} (hs : DesktopConduit.address.Good s) (a : EdsAnswer)
    (call : DesktopCallback α ρ) :
    (∃ t, (addressCallback convert a s call).2.map.Represents t) ∧
    (addressCallback convert a s call).2.changedHash = s.changedHash := by
  obtain ⟨t, ht⟩ := hs.represents
  cases call with
  | addRecord remote =>
      simp only [addressCallback, addressAddRecord]
      cases s.store.create a none (convert remote.content none) with
      | mk uid store =>
          cases uid with
          | none => exact ⟨⟨t, ht⟩, rfl⟩
          | some uid => exact ⟨ht.exists_insert _ _ _, rfl⟩
  | replaceRecord rec remote =>
      simp only [addressCallback, addressReplaceRecord_eq convert (hs.undeleted rfl)]
      obtain ⟨hmap, hhash⟩ := ecalReplaceRecord_fields convert a s rec remote
      exact ⟨⟨t, hmap ▸ ht⟩, hhash⟩
  | deleteRecord rec =>
      have hremove : ∃ t', (ePilotMapRemoveByUid s.map rec.uid).Represents t' :=
        ⟨_, (EPilotMap.Represents.removeByUid_eq s.map rec.uid).symm ▸ ht.evictUid rec.uid⟩
      simp only [addressCallback, addressDeleteRecord]
      split
      · exact ⟨hremove, rfl⟩
      · exact ⟨hremove, rfl⟩
  | archiveRecord rec id archive => exact ⟨ht.exists_insert _ _ _, rfl⟩
  | setPilotId rec id => exact ⟨ht.exists_insert _ _ _, rfl⟩

theorem callback_good (conduit : DesktopConduit) {s : DesktopState α} (hs : conduit.Good s)
    (call : DesktopCallback α ρ × EdsAnswer) (hcall : conduit.Together gen s call) :
    conduit.Good (conduit.callback gen convert s call).2 := by
  have htogether := (callback_iff gen convert conduit hs call).mpr hcall
  have hfields : (∃ t, (conduit.callback gen convert s call).2.map.Represents t) ∧
      (conduit.callback gen convert s call).2.changedHash = s.changedHash := by
    cases conduit with
    | calendar => exact ecal_fields gen convert hs.represents call.2 call.1
    | todo => exact ecal_fields gen convert hs.represents call.2 call.1
    | memo => exact ecal_fields gen convert hs.represents call.2 call.1
    | address => exact address_fields convert hs call.2 call.1
  refine ⟨hfields.1, htogether.named, fun u hu => ?_, fun haddress => ?_⟩
  · cases conduit with
    | calendar => exact mem_note.mpr (Or.inr hu)
    | todo => exact mem_note.mpr (Or.inr hu)
    | memo => exact mem_note.mpr (Or.inr hu)
    | address => exact mem_note.mpr (Or.inr hu)
  · rw [hfields.2]
    exact hs.undeleted haddress

/-- In a run every callback changes map and server together exactly if each is one that
does: the server refuses no removal of an object, keeps the uid it is given, and no
pilot id is entered that another object has. -/
theorem changed_together_iff (conduit : DesktopConduit) {s : DesktopState α}
    (hs : conduit.Good s) (calls : List (DesktopCallback α ρ × EdsAnswer)) :
    History.Allowed (fun s call => (conduit.callback gen convert s call).2)
      (fun s call => ChangedTogether convert (conduit.callback gen convert s call).1 s
        (conduit.callback gen convert s call).2 call.1) s calls ↔
    History.Allowed (fun s call => (conduit.callback gen convert s call).2)
      (conduit.Together gen) s calls :=
  History.allowed_congr (conduit.Good ·)
    (fun _ call hs hcall => callback_good gen convert conduit hs call hcall)
    (fun _ call hs => callback_iff gen convert conduit hs call) hs

end Together

/-! ## The start of a run -/

section Start

variable {α : Type}

/-- The state after `pre_sync`: the entries and objects there are have been stored. -/
def DesktopState.start (ctxt : DesktopContext α) (st : EdsStore α) : DesktopState α :=
  ⟨ctxt.map, st, ctxt.changedHash, st.objects.map (·.uid) ++ ctxt.map.uidMap.keys⟩

theorem good_start (conduit : DesktopConduit) {ctxt : DesktopContext α}
    (hrep : ∃ t, ctxt.map.Represents t)
    (hundeleted : conduit = .address → ∀ u ccc, ctxt.changedHash.lookup u = some ccc →
      ccc.type ≠ .deleted) (st : EdsStore α) : conduit.Good (DesktopState.start ctxt st) where
  represents := hrep
  mapped u hu := by
    have hmem : u ∈ ctxt.map.uidMap.keys := AList.mem_keys.mp (AList.lookup_isSome.mp hu)
    exact List.mem_append.mpr (Or.inr hmem)
  objects u hu := List.mem_append.mpr (Or.inl (has_iff_mem.mp hu))
  undeleted := hundeleted

/-- After `pre_sync` a conduit that reports modifications alone is ready for any run. -/
theorem good_preSync (conduit : DesktopConduit) {map : EPilotMap} (hmap : map.Persisted)
    (cfg : PreSyncSettings) (happ : cfg.appBlockRead = true) (comps : List (EdsObject α))
    {changes : List (Change α)} (hall : ∀ ccc ∈ changes, ccc.type = .modified)
    (st : EdsStore α) :
    conduit.Good (DesktopState.start
      (finishPreSync cfg (hashChanges map cfg.slow comps changes)).2 st) := by
  have hafter : AfterPreSync map changes cfg.otherSource
      (finishPreSync cfg (hashChanges map cfg.slow comps changes)).2 :=
    afterPreSync_of_modified cfg happ comps hall
  obtain ⟨hkeep, -, -, -⟩ := foldl_hashChange changes
    ⟨map, comps, changes, ∅, [], 0, 0, 0, cfg.slow⟩
    fun _ hc h => absurd h (type_ne_deleted hall hc)
  obtain ⟨-, -, -, -, huid, hpid⟩ :=
    finishPreSync_fields cfg (hashChanges map cfg.slow comps changes) happ
  rw [hashChanges, hkeep] at huid hpid
  refine good_start conduit ?_ (fun _ u ccc hlookup => ?_) st
  · obtain ⟨t, ht⟩ := hmap.reachable.represents
    cases hother : cfg.otherSource with
    | true =>
        rw [hother] at huid hpid
        exact ⟨.empty, EPilotMap.represents_empty.of_tables hpid huid⟩
    | false =>
        rw [hother] at huid hpid
        exact ⟨t, ht.of_tables hpid huid⟩
  · rw [hafter.hash] at hlookup
    split at hlookup
    · cases hlookup
    · rw [lastChange] at hlookup
      exact type_ne_deleted hall (by simpa using List.mem_of_find?_eq_some hlookup)

end Start

/-! ## One object -/

def longerUid (used : List String) : String := used.foldr (· ++ ·) "+"

theorem length_longerUid_cons (u : String) (used : List String) :
    (longerUid (u :: used)).length = u.length + (longerUid used).length :=
  String.length_append _ _

theorem longerUid_pos (used : List String) : 0 < (longerUid used).length := by
  induction used with
  | nil => decide
  | cons u used ih =>
      rw [length_longerUid_cons]
      omega

theorem length_lt_longerUid {used : List String} {u : String} (h : u ∈ used) :
    u.length < (longerUid used).length := by
  induction used with
  | nil => cases h
  | cons v used ih =>
      rw [length_longerUid_cons]
      cases List.mem_cons.mp h with
      | inl h =>
          have := longerUid_pos used
          rw [h]
          omega
      | inr h =>
          have := ih h
          omega

def sampleGenerator : UidGenerator where
  next := longerUid
  fresh _ h := Nat.lt_irrefl _ (length_lt_longerUid h)

/-- The object with the pilot id 5 is on the server. -/
def sampleState : DesktopState Unit :=
  ⟨ePilotMapInsert .empty 5 "a" false, ⟨[⟨"a", ()⟩]⟩, ∅, ["a"]⟩

theorem sampleState_good (conduit : DesktopConduit) : conduit.Good sampleState where
  represents := EPilotMap.represents_empty.exists_insert 5 "a" false
  mapped u hu := by
    have hcases := (mapped_insert .empty 5 "a" false u).mp hu
    have hu' : u = "a" := hcases.resolve_right fun h => by
      simp [EPilotMap.Mapped, EPilotMap.empty] at h
    simp [hu', sampleState]
  objects u hu := by
    have hmem := has_iff_mem.mp hu
    simpa [sampleState] using hmem
  undeleted _ u ccc h := nomatch h

/-- A record comes, and the old object goes, as the server says it does. -/
theorem changed_together_add_delete :
    History.Allowed
      (fun s call => (DesktopConduit.calendar.callback sampleGenerator (fun c _ => c) s call).2)
      (fun s call => ChangedTogether (fun c _ => c)
        (DesktopConduit.calendar.callback sampleGenerator (fun c _ => c) s call).1 s
        (DesktopConduit.calendar.callback sampleGenerator (fun c _ => c) s call).2 call.1)
      sampleState
      [(.addRecord ⟨6, ()⟩, ⟨none, fun uid => uid.getD "made"⟩),
        (.deleteRecord ⟨"a", ()⟩, ⟨none, fun uid => uid.getD "made"⟩)] := by
  refine (changed_together_iff sampleGenerator (fun c _ => c) .calendar
    (sampleState_good .calendar) _).mpr ⟨fun _ => ⟨rfl, fun v hv => ?_⟩, fun _ => rfl, trivial⟩
  have hnone : sampleState.map.pidMap.lookup 6 = none := by decide
  rw [hnone] at hv
  cases hv

/-- The server keeps the object, and the map has lost it: without a word in one
conduit, with an error in another. -/
theorem not_together_refused :
    (¬ History.Allowed
      (fun s call => (DesktopConduit.calendar.callback sampleGenerator (fun c _ => c) s call).2)
      (fun s call => ChangedTogether (fun c _ => c)
        (DesktopConduit.calendar.callback sampleGenerator (fun c _ => c) s call).1 s
        (DesktopConduit.calendar.callback sampleGenerator (fun c _ => c) s call).2 call.1)
      sampleState [(.deleteRecord ⟨"a", ()⟩, ⟨some .other, fun uid => uid.getD "made"⟩)]) ∧
    ¬ History.Allowed
      (fun s call => (DesktopConduit.address.callback sampleGenerator (fun c _ => c) s call).2)
      (fun s call => ChangedTogether (fun c _ => c)
        (DesktopConduit.address.callback sampleGenerator (fun c _ => c) s call).1 s
        (DesktopConduit.address.callback sampleGenerator (fun c _ => c) s call).2 call.1)
      sampleState [(.deleteRecord ⟨"a", ()⟩, ⟨some .other, fun uid => uid.getD "made"⟩)] := by
  constructor
  · intro h
    have := (callback_iff sampleGenerator (fun c _ => c) .calendar (sampleState_good .calendar)
      _).mp h.1
    exact absurd (this rfl) (by decide)
  · intro h
    have := (callback_iff sampleGenerator (fun c _ => c) .address (sampleState_good .address)
      _).mp h.1
    exact this rfl

end GnomePilot
