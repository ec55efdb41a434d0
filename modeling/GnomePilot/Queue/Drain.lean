import GnomePilot.Queue.Pending

/-!
# Purging in the order of loading

`gpc_queue_load_requests` returns a list from its highest number down, and a session
purges what it loaded one by one in this order.  What it has not come to stays
loadable and what it purged is gone, whatever else is in the file.
-/

namespace GnomePilot.Queue

variable {kf : KeyFile} {pilotId : UInt32} {type : RequestType} {all : Bool}

/-! ## The order of loading -/

theorem loadLoop_succ (kf : KeyFile) (pilotId : UInt32) (type : RequestType) (all : Bool)
    (n : Nat) :
    loadLoop kf pilotId type all (n + 1) = loadLoop kf pilotId type all n ∨
      ∃ req, loadFrom kf pilotId (sectionOf pilotId type (.ofNat (n + 1))) = some req ∧
        loadLoop kf pilotId type all (n + 1) = req :: loadLoop kf pilotId type all n := by
  cases hload : loadFrom kf pilotId (sectionOf pilotId type (.ofNat (n + 1))) with
  | none =>
      left
      rw [loadLoop, loadRequest_eq, hload]
  | some req =>
      by_cases hskip : req.type ≠ type ∧ all = false
      · left
        rw [loadLoop, loadRequest_eq, hload]
        exact if_pos hskip
      · right
        refine ⟨req, rfl, ?_⟩
        rw [loadLoop, loadRequest_eq, hload]
        exact if_neg hskip

/-- After a number of requests the rest is a load of the numbers below all of theirs. -/
theorem loadLoop_append {n : Nat} {done rest : List GPilotRequest}
    (h : loadLoop kf pilotId type all n = done ++ rest) :
    ∃ k, rest = loadLoop kf pilotId type all k ∧ k + done.length ≤ n ∧
      ∀ r ∈ done, ∃ j, k < j ∧ j ≤ n ∧
        r.sectionName = some (sectionOf pilotId type (.ofNat j)) := by
  induction n generalizing done with
  | zero =>
      obtain ⟨rfl, rfl⟩ := List.append_eq_nil_iff.mp h.symm
      exact ⟨0, rfl, Nat.le_refl _, by simp⟩
  | succ n ih =>
      cases done with
      | nil => exact ⟨n + 1, h.symm, Nat.le_refl _, by simp⟩
      | cons r done =>
          have hlater : ∀ {ds : List GPilotRequest}, (∃ k, rest = loadLoop kf pilotId type all k ∧
              k + ds.length ≤ n ∧ ∀ d ∈ ds, ∃ j, k < j ∧ j ≤ n ∧
                d.sectionName = some (sectionOf pilotId type (.ofNat j))) →
              ∃ k, rest = loadLoop kf pilotId type all k ∧ k + ds.length ≤ n ∧
                ∀ d ∈ ds, ∃ j, k < j ∧ j ≤ n + 1 ∧
                  d.sectionName = some (sectionOf pilotId type (.ofNat j)) := by
            rintro ds ⟨k, hrest, hk, hds⟩
            refine ⟨k, hrest, hk, ?_⟩
            intro d hd
            obtain ⟨j, hkj, hjn, hsec⟩ := hds d hd
            exact ⟨j, hkj, by omega, hsec⟩
          rcases loadLoop_succ kf pilotId type all n with hskip | ⟨req, hload, hcons⟩
          · obtain ⟨k, hrest, hk, hdone⟩ := hlater (ih (hskip.symm.trans h))
            exact ⟨k, hrest, by omega, hdone⟩
          · rw [hcons, List.cons_append, List.cons.injEq] at h
            obtain ⟨rfl, htail⟩ := h
            obtain ⟨k, hrest, hk, hdone⟩ := hlater (ih htail)
            refine ⟨k, hrest, by rw [List.length_cons]; omega, ?_⟩
            intro d hd
            rcases List.mem_cons.mp hd with rfl | hd
            · exact ⟨n + 1, by omega, Nat.le_refl _, sectionName_of_loadFrom hload⟩
            · exact hdone d hd

theorem ofNat_eq_iff {j k : Nat} (hj : j < 2 ^ 32) (hk : k < 2 ^ 32) :
    UInt32.ofNat j = UInt32.ofNat k ↔ j = k := by
  constructor
  · intro h
    have hnat := congrArg UInt32.toNat h
    rwa [UInt32.toNat_ofNat_of_lt' hj, UInt32.toNat_ofNat_of_lt' hk] at hnat
  · rintro rfl
    rfl

theorem loadLoop_nodup {n : Nat} (hn : n < 2 ^ 32) : (loadLoop kf pilotId type all n).Nodup := by
  induction n with
  | zero => exact List.nodup_nil
  | succ n ih =>
      have htail := ih (by omega)
      rcases loadLoop_succ kf pilotId type all n with hskip | ⟨req, hload, hcons⟩
      · rwa [hskip]
      · rw [hcons, List.nodup_cons]
        refine ⟨?_, htail⟩
        intro hmem
        obtain ⟨-, k, hk, hkn, hloadk⟩ := mem_loadLoop.mp hmem
        rw [loadRequest_eq] at hloadk
        have hsec := (sectionName_of_loadFrom hload).symm.trans (sectionName_of_loadFrom hloadk)
        have hnum := (sectionOf_inj.mp (Option.some.inj hsec)).2
        have := (ofNat_eq_iff hn (by omega)).mp hnum
        omega

/-! ## The list while it is purged -/

/-- How many numbers a load of the list tries. -/
def turns (kf : KeyFile) (pilotId : UInt32) (type : RequestType) : Nat :=
  (kf.getInteger (setSection pilotId type) NUMREQ).toInt.toNat

theorem turns_lt (kf : KeyFile) (pilotId : UInt32) (type : RequestType) :
    turns kf pilotId type < 2 ^ 32 := by
  have h := (kf.getInteger (setSection pilotId type) NUMREQ).toInt_lt
  unfold turns
  omega

theorem nodup_loadRequests : (gpcQueueLoadRequests kf pilotId type all).Nodup :=
  loadLoop_nodup (turns_lt kf pilotId type)

structure InList (pilotId : UInt32) (type : RequestType) (j : Nat) (req : GPilotRequest) :
    Prop where
  list : setSection req.pilotId req.type = setSection pilotId type
  sec : req.sectionName = some (sectionOf pilotId type (.ofNat j))

theorem turns_purge {req : GPilotRequest} {j : Nat} (h : InList pilotId type j req)
    (hpos : 0 < turns kf pilotId type) :
    turns (gpcQueuePurgeRequest kf req) pilotId type = turns kf pilotId type - 1 := by
  have hne : some (setSection pilotId type) ≠ req.sectionName := by
    rw [h.sec]
    simpa using setSection_ne_sectionOf pilotId pilotId type type (.ofNat j)
  have hget : (gpcQueuePurgeRequest kf req).getInteger (setSection pilotId type) NUMREQ =
      kf.getInteger (setSection pilotId type) NUMREQ - 1 := by
    unfold gpcQueuePurgeRequest
    rw [KeyFile.getInteger_congr (KeyFile.value_removeGroup_of_ne _ hne), h.list]
    simp [KeyFile.getInteger_setInteger]
  unfold turns at hpos ⊢
  rw [hget, Int32.toInt_sub_of_le _ _ (by decide) ?_]
  · have hone : (1 : Int32).toInt = 1 := rfl
    omega
  · rw [Int32.le_iff_toInt_le]
    have hone : (1 : Int32).toInt = 1 := rfl
    omega

/-- The file after some requests of a list were purged: the numbers they did not have
are as they were, and theirs are gone. -/
structure Drained (kf : KeyFile) (pilotId : UInt32) (type : RequestType)
    (done : List GPilotRequest) (kf' : KeyFile) : Prop where
  turns : turns kf' pilotId type = Queue.turns kf pilotId type - done.length
  kept : ∀ k, (∀ r ∈ done, r.sectionName ≠ some (sectionOf pilotId type (.ofNat k))) →
    kf'.value (sectionOf pilotId type (.ofNat k)) = kf.value (sectionOf pilotId type (.ofNat k))
  gone : ∀ k, (∃ r ∈ done, r.sectionName = some (sectionOf pilotId type (.ofNat k))) →
    kf'.Lacks (sectionOf pilotId type (.ofNat k))

theorem drained_foldl (done : List GPilotRequest)
    (hlist : ∀ r ∈ done, ∃ j, InList pilotId type j r)
    (hlen : done.length ≤ turns kf pilotId type) :
    Drained kf pilotId type done (done.foldl gpcQueuePurgeRequest kf) := by
  induction done generalizing kf with
  | nil => exact ⟨by simp, fun _ _ => rfl, by simp⟩
  | cons r done ih =>
      obtain ⟨j, hj⟩ := hlist r List.mem_cons_self
      rw [List.length_cons] at hlen
      have hturns : turns (gpcQueuePurgeRequest kf r) pilotId type = turns kf pilotId type - 1 :=
        turns_purge hj (by omega)
      have hrest : Drained (gpcQueuePurgeRequest kf r) pilotId type done
          (done.foldl gpcQueuePurgeRequest (gpcQueuePurgeRequest kf r)) :=
        ih (fun d hd => hlist d (List.mem_cons_of_mem r hd)) (by omega)
      refine ⟨?_, ?_, ?_⟩
      · rw [List.foldl_cons, hrest.turns, hturns, List.length_cons]
        omega
      · intro k hk
        rw [List.foldl_cons, hrest.kept k fun d hd => hk d (List.mem_cons_of_mem r hd)]
        refine value_purge_of_ne kf r ?_ (hk r List.mem_cons_self).symm
        rw [hj.list]
        exact (setSection_ne_sectionOf pilotId pilotId type type _).symm
      · intro k hk
        rw [List.foldl_cons]
        by_cases hlater : ∃ d ∈ done, d.sectionName = some (sectionOf pilotId type (.ofNat k))
        · exact hrest.gone k hlater
        · obtain ⟨d, hd, hsec⟩ := hk
          rcases List.mem_cons.mp hd with rfl | hd
          · have hnone : ∀ d ∈ done, d.sectionName ≠
                some (sectionOf pilotId type (.ofNat k)) := fun d hd heq => hlater ⟨d, hd, heq⟩
            rw [KeyFile.lacks_congr (hrest.kept k hnone)]
            exact lacks_purge kf hsec
          · exact absurd ⟨d, hd, hsec⟩ hlater

/-! ## Draining a list -/

theorem inList_of_mem {req : GPilotRequest}
    (h : req ∈ gpcQueueLoadRequests kf pilotId type false) : ∃ j, InList pilotId type j req := by
  obtain ⟨htype, k, -, -, hload⟩ := mem_loadLoop.mp h
  rw [loadRequest_eq] at hload
  have hreq : req.pilotId = pilotId := by
    obtain ⟨parameters, -, rfl⟩ := Option.map_eq_some_iff.mp hload
    rfl
  refine ⟨k, ?_, sectionName_of_loadFrom hload⟩
  rcases htype with htype | hall
  · rw [hreq, htype]
  · contradiction

section Drain

variable {done rest : List GPilotRequest}

theorem drained_loaded (h : gpcQueueLoadRequests kf pilotId type false = done ++ rest) :
    Drained kf pilotId type done (done.foldl gpcQueuePurgeRequest kf) := by
  obtain ⟨k, -, hk, -⟩ := loadLoop_append h
  refine drained_foldl done ?_ ?_
  · intro r hr
    exact inList_of_mem (h ▸ List.mem_append_left rest hr)
  · unfold turns
    omega

/-- What was not purged is loaded again. -/
theorem mem_loadRequests_of_rest
    (h : gpcQueueLoadRequests kf pilotId type false = done ++ rest) {req : GPilotRequest}
    (hreq : req ∈ rest) :
    req ∈ gpcQueueLoadRequests (done.foldl gpcQueuePurgeRequest kf) pilotId type false := by
  have hdrained := drained_loaded h
  have hlt := turns_lt kf pilotId type
  obtain ⟨k, hrest, hk, hdone⟩ := loadLoop_append h
  change k + done.length ≤ turns kf pilotId type at hk
  have hsame : ∀ j, 0 < j → j ≤ k →
      (done.foldl gpcQueuePurgeRequest kf).value (sectionOf pilotId type (.ofNat j)) =
        kf.value (sectionOf pilotId type (.ofNat j)) := by
    intro j _ hjk
    apply hdrained.kept
    intro r hr heq
    obtain ⟨j', hkj', hj'n, hsec⟩ := hdone r hr
    change j' ≤ turns kf pilotId type at hj'n
    rw [hsec, Option.some.injEq] at heq
    have := (ofNat_eq_iff (by omega) (by omega)).mp (sectionOf_inj.mp heq).2
    omega
  rw [hrest, ← loadLoop_congr hsame] at hreq
  obtain ⟨htype, j, hj, hjk, hload⟩ := mem_loadLoop.mp hreq
  refine mem_loadLoop.mpr ⟨htype, j, hj, ?_, hload⟩
  change j ≤ turns (done.foldl gpcQueuePurgeRequest kf) pilotId type
  rw [hdrained.turns]
  omega

/-- What was purged is not. -/
theorem not_mem_loadRequests_of_done
    (h : gpcQueueLoadRequests kf pilotId type false = done ++ rest) {req : GPilotRequest}
    (hreq : req ∈ done) :
    req ∉ gpcQueueLoadRequests (done.foldl gpcQueuePurgeRequest kf) pilotId type false := by
  intro hmem
  obtain ⟨-, k, -, -, hload⟩ := mem_loadLoop.mp hmem
  rw [loadRequest_eq] at hload
  have hlacks := (drained_loaded h).gone k ⟨req, hreq, sectionName_of_loadFrom hload⟩
  rw [loadFrom_eq_none hlacks] at hload
  contradiction

end Drain

end GnomePilot.Queue
