import GnomePilot.Desktop.Deletions
import Mathlib.Data.List.Nodup
import Mathlib.Data.List.Range

/-!
# The objects of a slow sync

`for_each` goes through the objects listed by `pre_sync`.  The calendar conduit appends
the pieces of the events it splits to that list, but leaves the events that were split
in it: it takes them out of the change list only.
-/

namespace GnomePilot

section Iterate

variable {α : Type}

/-- One call, with a null record at first and the last one reported later on; the
iterator is a static variable, the rest of the objects from the current one on. -/
def forEach (ctxt : DesktopContext α) (iterator : List (EdsObject α)) (started : Bool) :
    Option (DesktopLocal α) × List (EdsObject α) × DesktopContext α :=
  let next := if started then iterator.tail else ctxt.comps
  match next with
  | [] => (none, iterator, ctxt)
  | comp :: _ =>
      let (record, ctxt) := localRecordFromComp ctxt comp
      (some record, next, ctxt)

def forEachLoop : Nat → DesktopContext α → List (EdsObject α) → Bool → List (DesktopLocal α)
  | 0, _, _, _ => []
  | fuel + 1, ctxt, iterator, started =>
      match forEach ctxt iterator started with
      | (none, _, _) => []
      | (some record, iterator, ctxt) => record :: forEachLoop fuel ctxt iterator true

/-- The records of all calls; every call but the last moves on in the list. -/
def listedRecords (ctxt : DesktopContext α) : List (DesktopLocal α) :=
  forEachLoop (ctxt.comps.length + 1) ctxt [] false

theorem forEachLoop_eq (fuel : Nat) (ctxt : DesktopContext α) (iterator : List (EdsObject α))
    (started : Bool) {comps : List (EdsObject α)}
    (hcomps : (if started then iterator.tail else ctxt.comps) = comps)
    (hfuel : comps.length < fuel) :
    forEachLoop fuel ctxt iterator started =
      comps.map fun comp => ctxt.recordOf ⟨comp, .modified⟩ := by
  induction fuel generalizing ctxt iterator started comps with
  | zero => omega
  | succ fuel ih =>
      rw [forEachLoop, forEach, hcomps]
      cases comps with
      | nil => rfl
      | cons comp rest =>
          rw [List.length_cons] at hfuel
          simp only [List.map_cons, localRecordFromComp]
          congr 1
          · simp [DesktopContext.recordOf, EPilotMap.lookupPid_fst, computeStatus]
          · -- looking up the pilot id touches the map but changes no record
            rw [@ih _ (comp :: rest) true rest rfl (by omega)]
            congr 1
            funext c
            simp [DesktopContext.recordOf, EPilotMap.pidOf_lookupPid, computeStatus]

theorem listedRecords_eq (ctxt : DesktopContext α) :
    listedRecords ctxt = ctxt.comps.map fun comp => ctxt.recordOf ⟨comp, .modified⟩ :=
  forEachLoop_eq _ ctxt [] false rfl (by omega)

theorem map_comp_listedRecords (ctxt : DesktopContext α) :
    (listedRecords ctxt).map DesktopLocal.comp = ctxt.comps := by
  rw [listedRecords_eq, List.map_map]
  exact List.map_id _

/-! ## The list is left as it is -/

theorem foldl_hashChange_comps (changed : List (Change α)) (ctxt : DesktopContext α) :
    (changed.foldl hashChange ctxt).comps = ctxt.comps := by
  induction changed generalizing ctxt with
  | nil => rfl
  | cons ccc changed ih =>
      rw [List.foldl_cons, ih]
      unfold hashChange
      split
      · split <;> rfl
      · split <;> rfl

theorem finishPreSync_comps (cfg : PreSyncSettings) (ctxt : DesktopContext α) :
    (finishPreSync cfg ctxt).2.comps = ctxt.comps := by
  unfold finishPreSync
  split
  · have hcomps := (checkForSlowSetting_fields cfg ctxt).2.2.1
    split
    · exact hcomps
    · exact hcomps
  · rfl

end Iterate

section Calendar

variable {τ ζ β : Type}

theorem calendarPreSync_comps (env : CalendarEnv τ ζ) (ans : Nat → SplitAnswers)
    (cfg : PreSyncSettings) (map : EPilotMap) (world : CalendarWorld (ECalEvent τ β)) :
    (calendarPreSync env ans cfg map world).2.1.comps =
      (splitPass env ans world world.store.objects).comps := by
  unfold calendarPreSync hashChanges
  rw [finishPreSync_comps, foldl_hashChange_comps]

/-! ## The pieces -/

def KeepsUids (ans : SplitAnswers) : Prop :=
  ∀ n u, (ans.create n).newUid (some u) = u

/-- The pieces listed carry the uids generated from the first one on, and the server has
those it has made of them. -/
structure Pieced (env : CalendarEnv τ ζ) (first : Nat) (generated : Nat)
    (pieces made : List (EdsObject (ECalEvent τ β))) : Prop where
  made : ∃ failed, pieces.Perm (made ++ failed)
  uids : (pieces.map EdsObject.uid).Perm
    ((List.range' first (generated - first)).map env.generateUid)
  le : first ≤ generated

theorem Pieced.nil (env : CalendarEnv τ ζ) (generated : Nat) :
    Pieced env generated generated ([] : List (EdsObject (ECalEvent τ β))) [] where
  made := ⟨[], List.Perm.refl _⟩
  uids := by simp
  le := Nat.le_refl _

theorem Pieced.append {env : CalendarEnv τ ζ} {a b c : Nat}
    {pieces made pieces' made' : List (EdsObject (ECalEvent τ β))}
    (h : Pieced env a b pieces made) (h' : Pieced env b c pieces' made') :
    Pieced env a c (pieces ++ pieces') (made ++ made') := by
  obtain ⟨failed, hfailed⟩ := h.made
  obtain ⟨failed', hfailed'⟩ := h'.made
  refine ⟨⟨failed ++ failed', ?_⟩, ?_, h.le.trans h'.le⟩
  · refine (hfailed.append hfailed').trans ?_
    simp only [List.append_assoc]
    refine List.Perm.append_left made ?_
    simp only [← List.append_assoc]
    exact List.Perm.append_right failed' List.perm_append_comm
  · rw [List.map_append]
    refine (h.uids.append h'.uids).trans (List.Perm.of_eq ?_)
    have hlength : a + (b - a) = b := Nat.add_sub_of_le h.le
    have hadd : b - a + (c - b) = c - a := by
      have hle := h.le
      have hle' := h'.le
      omega
    rw [← List.map_append, ← hadd, ← List.range'_append_1, hlength]

theorem Pieced.of_perm {env : CalendarEnv τ ζ} {first generated : Nat}
    {pieces pieces' made : List (EdsObject (ECalEvent τ β))}
    (h : Pieced env first generated pieces made) (hperm : pieces.Perm pieces') :
    Pieced env first generated pieces' made where
  made := by
    obtain ⟨failed, hfailed⟩ := h.made
    exact ⟨failed, hperm.symm.trans hfailed⟩
  uids := (hperm.map _).symm.trans h.uids
  le := h.le

theorem Pieced.mem {env : CalendarEnv τ ζ} {first generated : Nat}
    {pieces made : List (EdsObject (ECalEvent τ β))} (h : Pieced env first generated pieces made)
    {o : EdsObject (ECalEvent τ β)} (ho : o ∈ pieces) :
    ∃ k, first ≤ k ∧ env.generateUid k = o.uid := by
  have hmem := h.uids.mem_iff.mp (List.mem_map_of_mem ho)
  obtain ⟨k, hk, huid⟩ := List.mem_map.mp hmem
  exact ⟨k, (List.mem_range'_1.mp hk).1, huid⟩

theorem Pieced.mem_made {env : CalendarEnv τ ζ} {first generated : Nat}
    {pieces made : List (EdsObject (ECalEvent τ β))} (h : Pieced env first generated pieces made)
    {o : EdsObject (ECalEvent τ β)} (ho : o ∈ made) : o ∈ pieces := by
  obtain ⟨failed, hfailed⟩ := h.made
  exact hfailed.mem_iff.mpr (List.mem_append_left failed ho)

theorem Pieced.nodup {env : CalendarEnv τ ζ} {first generated : Nat}
    {pieces made : List (EdsObject (ECalEvent τ β))} (h : Pieced env first generated pieces made)
    (hinj : ∀ j k, env.generateUid j = env.generateUid k → j = k) :
    (pieces.map EdsObject.uid).Nodup :=
  h.uids.nodup_iff.mpr (List.Nodup.map (fun j k => hinj j k) (List.nodup_range' 1))

/-- At most one piece has the uid, so that if it was made no other piece of it failed. -/
theorem Pieced.filter_perm {env : CalendarEnv τ ζ} {first generated : Nat}
    {pieces made : List (EdsObject (ECalEvent τ β))} (h : Pieced env first generated pieces made)
    (hinj : ∀ j k, env.generateUid j = env.generateUid k → j = k)
    {o : EdsObject (ECalEvent τ β)} (ho : o ∈ made) :
    (pieces.filter fun p => p.uid = o.uid).Perm (made.filter fun p => p.uid = o.uid) := by
  obtain ⟨failed, hfailed⟩ := h.made
  have hperm := hfailed.filter fun p => p.uid = o.uid
  rw [List.filter_append] at hperm
  have hall : (pieces.filter fun p => p.uid = o.uid).map EdsObject.uid =
      List.replicate (pieces.filter fun p => p.uid = o.uid).length o.uid := by
    rw [List.eq_replicate_iff, List.length_map]
    refine ⟨rfl, fun u hu => ?_⟩
    obtain ⟨p, hp, rfl⟩ := List.mem_map.mp hu
    exact of_decide_eq_true (List.mem_filter.mp hp).2
  have hone : (pieces.filter fun p => p.uid = o.uid).length ≤ 1 := by
    rw [← List.nodup_replicate (a := o.uid), ← hall]
    exact (h.nodup hinj).sublist (List.filter_sublist.map _)
  have hpos : 0 < (made.filter fun p => p.uid = o.uid).length :=
    List.length_pos_of_mem (List.mem_filter.mpr ⟨ho, decide_eq_true rfl⟩)
  have hlength := hperm.length_eq
  rw [List.length_append] at hlength
  have hnone : failed.filter (fun p => p.uid = o.uid) = [] :=
    List.length_eq_zero_iff.mp (by omega)
  rw [hnone, List.append_nil] at hperm
  exact hperm

/-- One piece, whose creation may fail. -/
theorem pieced_create (env : CalendarEnv τ ζ) {ans : SplitAnswers} (hkeeps : KeepsUids ans)
    (n generated : Nat) (st : EdsStore (ECalEvent τ β)) (content : ECalEvent τ β) :
    ∃ made, (st.create (ans.create n) (some (env.generateUid generated)) content).2.objects =
        st.objects ++ made ∧
      Pieced env generated (generated + 1) [⟨env.generateUid generated, content⟩] made := by
  have huids : ([⟨env.generateUid generated, content⟩] : List (EdsObject (ECalEvent τ β))).map
      EdsObject.uid = (List.range' generated (generated + 1 - generated)).map env.generateUid := by
    rw [Nat.add_sub_cancel_left]
    rfl
  rcases EdsStore.create_cases (ans.create n) st (some (env.generateUid generated)) content with
    h | ⟨-, -, h⟩
  · rw [h]
    exact ⟨[], (List.append_nil _).symm, ⟨_, List.Perm.refl _⟩, List.Perm.of_eq huids, by omega⟩
  · rw [h, hkeeps]
    refine ⟨_, rfl, ⟨[], ?_⟩, List.Perm.of_eq huids, by omega⟩
    rw [List.append_nil]

/-- The piece of an event from `eventStart` to `dayEnd`. -/
def dayPiece (env : CalendarEnv τ ζ) (event : ECalEvent τ β) (span : EventSpan τ ζ)
    (eventStart dayEnd : Int) : ECalEvent τ β :=
  let isDate := env.isDate span.start && env.isDate span.stop
  { event with
    dtstart := some ⟨some (env.fromTimet eventStart isDate span.tzStart),
      event.dtstart.bind (·.tzid)⟩
    dtend := some ⟨some (env.fromTimet dayEnd isDate span.tzEnd),
      event.dtend.bind (·.tzid)⟩ }

theorem splitLoop_succ (env : CalendarEnv τ ζ) (create : Nat → EdsAnswer)
    (event : ECalEvent τ β) (span : EventSpan τ ζ) (fuel : Nat) (eventStart dayEnd : Int)
    (n : Nat) (pieces : List (EdsObject (ECalEvent τ β)))
    (world : CalendarWorld (ECalEvent τ β)) :
    splitLoop env create event span (fuel + 1) eventStart dayEnd n pieces world =
      let last := span.eventEnd ≤ dayEnd
      let dayEnd := if last then span.eventEnd else dayEnd
      let piece := dayPiece env event span eventStart dayEnd
      let world' := ⟨(world.store.create (create n) (some (env.generateUid world.generated))
        piece).2, world.generated + 1⟩
      if last then (⟨env.generateUid world.generated, piece⟩ :: pieces, world')
      else splitLoop env create event span fuel dayEnd (env.timeDayEnd dayEnd env.timezone)
        (n + 1) (⟨env.generateUid world.generated, piece⟩ :: pieces) world' := rfl

theorem splitLoop_pieced (env : CalendarEnv τ ζ) {ans : SplitAnswers} (hkeeps : KeepsUids ans)
    (event : ECalEvent τ β) (span : EventSpan τ ζ) (fuel : Nat) (eventStart dayEnd : Int)
    (n : Nat) (pieces : List (EdsObject (ECalEvent τ β)))
    (world : CalendarWorld (ECalEvent τ β)) :
    ∃ new made,
      (splitLoop env ans.create event span fuel eventStart dayEnd n pieces world).1 =
        new ++ pieces ∧
      (splitLoop env ans.create event span fuel eventStart dayEnd n pieces world).2.store.objects =
        world.store.objects ++ made ∧
      Pieced env world.generated
        (splitLoop env ans.create event span fuel eventStart dayEnd n pieces world).2.generated
        new made := by
  induction fuel generalizing eventStart dayEnd n pieces world with
  | zero => exact ⟨[], [], rfl, (List.append_nil _).symm, Pieced.nil env _⟩
  | succ fuel ih =>
      rw [splitLoop_succ]
      dsimp only
      generalize dayPiece env event span eventStart _ = piece
      obtain ⟨made, hmade, hpieced⟩ :=
        pieced_create env hkeeps n world.generated world.store piece
      split
      · exact ⟨_, made, rfl, hmade, hpieced⟩
      · obtain ⟨new, made', hnew, hmade', hpieced'⟩ := ih _ _ (n + 1) _
          ⟨(world.store.create (ans.create n) (some (env.generateUid world.generated)) piece).2,
            world.generated + 1⟩
        refine ⟨new ++ [⟨env.generateUid world.generated, piece⟩], made ++ made', ?_, ?_, ?_⟩
        · rw [hnew, List.append_assoc]
          rfl
        · rw [hmade', hmade, List.append_assoc]
        · exact (hpieced.append hpieced').of_perm List.perm_append_comm

/-! ## The pass -/

theorem comp_mem_of_splitTurns {ans : Nat → SplitAnswers}
    {comps : List (EdsObject (ECalEvent τ β))} {turn : Change (ECalEvent τ β) × SplitAnswers}
    (h : turn ∈ splitTurns ans comps) : turn.1.comp ∈ comps := by
  have hchange := (List.of_mem_zip h).1
  rw [buildChanged_eq, List.mem_reverse] at hchange
  obtain ⟨comp, hcomp, heq⟩ := List.mem_map.mp hchange
  rw [← heq]
  exact hcomp

theorem remove_objects (a : EdsAnswer) (st : EdsStore (ECalEvent τ β)) (uid : String) :
    (st.remove a uid).2.objects =
      st.objects.filter fun o => !(decide (uid = o.uid) && a.error.isNone) := by
  rcases EdsStore.remove_cases a st uid with ⟨ha, -, h⟩ | ⟨ha, hhas, h⟩ | ⟨e, ha, h⟩
  · rw [h, ha]
    refine List.filter_congr fun o _ => ?_
    simp [eq_comm]
  · rw [h, ha]
    refine (List.filter_eq_self.mpr fun o ho => ?_).symm
    have hne : uid ≠ o.uid := fun heq => by
      have hthere : st.has uid = true := EdsStore.has_iff.mpr ⟨o, ho, heq.symm⟩
      rw [hhas] at hthere
      contradiction
    simp [hne]
  · rw [h, ha]
    simp

theorem processMultiDay_of_split (env : CalendarEnv τ ζ) (ans : SplitAnswers)
    (world : CalendarWorld (ECalEvent τ β)) {ccc : Change (ECalEvent τ β)}
    (hm : ccc.type = .modified) (hkind : dayKind env ccc.comp.content = .split) :
    ∃ span pieces split,
      splitLoop env ans.create ccc.comp.content span (splitFuel span) span.eventStart
        span.dayEnd 0 [] world = (pieces, split) ∧
      processMultiDay env ans world ccc = (true, { ccc with type := .deleted }, pieces,
        { split with store := (split.store.remove ans.remove ccc.comp.uid).2 }) := by
  rcases processMultiDay_cases env ans world hm with ⟨h, -⟩ | ⟨h, -⟩ | ⟨-, h⟩
  · exact absurd (h.symm.trans hkind) (by decide)
  · exact absurd (h.symm.trans hkind) (by decide)
  · exact h

theorem splitStep_of_not_split (env : CalendarEnv τ ζ) (pass : SplitPass τ β)
    {turn : Change (ECalEvent τ β) × SplitAnswers} (hm : turn.1.type = .modified)
    (hkind : dayKind env turn.1.comp.content ≠ .split) :
    (splitStep env pass turn).comps = pass.comps ∧
      (splitStep env pass turn).world = pass.world := by
  rcases processMultiDay_cases env turn.2 pass.world hm with ⟨-, h⟩ | ⟨-, h⟩ | ⟨hsplit, -⟩
  · simp [splitStep, h]
  · simp [splitStep, h]
  · exact absurd hsplit hkind

theorem splitStep_pieced (env : CalendarEnv τ ζ) (pass : SplitPass τ β)
    {turn : Change (ECalEvent τ β) × SplitAnswers} (hm : turn.1.type = .modified)
    (hkeeps : KeepsUids turn.2)
    (hfresh : ∀ k, pass.world.generated ≤ k → env.generateUid k ≠ turn.1.comp.uid) :
    ∃ new made,
      (splitStep env pass turn).comps = pass.comps ++ new ∧
      (splitStep env pass turn).world.store.objects =
        pass.world.store.objects.filter (fun o => !splitAway env o.uid turn) ++ made ∧
      Pieced env pass.world.generated (splitStep env pass turn).world.generated new made := by
  by_cases hkind : dayKind env turn.1.comp.content = .split
  · obtain ⟨span, pieces, split, hloop, h⟩ :=
      processMultiDay_of_split env turn.2 pass.world hm hkind
    obtain ⟨new, made, hnew, hmade, hpieced⟩ := splitLoop_pieced env hkeeps
      turn.1.comp.content span (splitFuel span) span.eventStart span.dayEnd 0 [] pass.world
    rw [hloop] at hnew hmade hpieced
    rw [List.append_nil] at hnew
    obtain rfl : pieces = new := hnew
    have haway : ∀ o : EdsObject (ECalEvent τ β), splitAway env o.uid turn =
        (decide (turn.1.comp.uid = o.uid) && turn.2.remove.error.isNone) := by
      intro o
      simp [splitAway, hkind]
    simp only [splitStep, h, if_true, haway]
    refine ⟨pieces, made, rfl, ?_, hpieced⟩
    rw [remove_objects, hmade, List.filter_append]
    congr 1
    -- The pieces have other uids than the event they are of.
    refine List.filter_eq_self.mpr fun o ho => ?_
    obtain ⟨k, hk, huid⟩ := hpieced.mem (hpieced.mem_made ho)
    have hne : turn.1.comp.uid ≠ o.uid := fun heq => hfresh k hk (huid.trans heq.symm)
    simp [hne]
  · obtain ⟨hcomps, hworld⟩ := splitStep_of_not_split env pass hm hkind
    have hkept : pass.world.store.objects.filter (fun o => !splitAway env o.uid turn) =
        pass.world.store.objects :=
      List.filter_eq_self.mpr fun o _ => by simp [splitAway, hkind]
    rw [hcomps, hworld, hkept]
    exact ⟨[], [], (List.append_nil _).symm, (List.append_nil _).symm, Pieced.nil env _⟩

theorem foldl_splitStep_pieced (env : CalendarEnv τ ζ)
    (turns : List (Change (ECalEvent τ β) × SplitAnswers)) (pass : SplitPass τ β)
    (hturns : ∀ turn ∈ turns, turn.1.type = .modified ∧ KeepsUids turn.2 ∧
      ∀ k, pass.world.generated ≤ k → env.generateUid k ≠ turn.1.comp.uid) :
    ∃ new made,
      (turns.foldl (splitStep env) pass).comps = pass.comps ++ new ∧
      (turns.foldl (splitStep env) pass).world.store.objects =
        pass.world.store.objects.filter (fun o => !turns.any (splitAway env o.uid)) ++ made ∧
      Pieced env pass.world.generated (turns.foldl (splitStep env) pass).world.generated
        new made := by
  induction turns generalizing pass with
  | nil => exact ⟨[], [], by simp, by simp, Pieced.nil env _⟩
  | cons turn turns ih =>
      obtain ⟨hm, hkeeps, hfresh⟩ := hturns turn List.mem_cons_self
      obtain ⟨new, made, hcomps, hobjects, hpieced⟩ := splitStep_pieced env pass hm hkeeps hfresh
      obtain ⟨new', made', hcomps', hobjects', hpieced'⟩ := ih (splitStep env pass turn)
        fun t ht =>
          have h := hturns t (List.mem_cons_of_mem _ ht)
          ⟨h.1, h.2.1, fun k hk => h.2.2 k (hpieced.le.trans hk)⟩
      have hkept : made.filter (fun o => !turns.any (splitAway env o.uid)) = made := by
        refine List.filter_eq_self.mpr fun o ho => ?_
        obtain ⟨k, hk, huid⟩ := hpieced.mem (hpieced.mem_made ho)
        rw [Bool.not_eq_true', List.any_eq_false]
        intro t ht haway
        simp only [splitAway, Bool.and_eq_true, decide_eq_true_eq] at haway
        exact (hturns t (List.mem_cons_of_mem _ ht)).2.2 k hk (huid.trans haway.1.2.symm)
      refine ⟨new ++ new', made ++ made', ?_, ?_, hpieced.append hpieced'⟩
      · rw [List.foldl_cons, hcomps', hcomps, List.append_assoc]
      · rw [List.foldl_cons, hobjects', hobjects, List.filter_append, hkept, List.filter_filter,
          List.append_assoc]
        congr 1
        refine List.filter_congr fun o _ => ?_
        rw [List.any_cons, Bool.not_or, Bool.and_comm]

/-! ## One record for every object -/

/-- What the calls are used with: the server stores events under their uids, and a
generated uid is none that was generated before or that is in the store. -/
structure UidsFresh (env : CalendarEnv τ ζ) (ans : Nat → SplitAnswers)
    (world : CalendarWorld (ECalEvent τ β)) : Prop where
  keeps : ∀ i, KeepsUids (ans i)
  inj : ∀ j k, env.generateUid j = env.generateUid k → j = k
  fresh : ∀ k, world.generated ≤ k → world.store.has (env.generateUid k) = false

/-- Of the objects in the store before or after `pre_sync`, the records are those that
are there afterwards, each as often as it is there. -/
def EnumeratesLive (before after : EdsStore (ECalEvent τ β))
    (records : List (DesktopLocal (ECalEvent τ β))) : Prop :=
  ∀ u, before.has u = true ∨ after.has u = true →
    ((records.map DesktopLocal.comp).filter fun o => o.uid = u).Perm (after.under u)

def NothingSplitAway (env : CalendarEnv τ ζ) (ans : Nat → SplitAnswers)
    (st : EdsStore (ECalEvent τ β)) : Prop :=
  ∀ turn ∈ splitTurns ans st.objects,
    dayKind env turn.1.comp.content = .split → turn.2.remove.error ≠ none

theorem splitPass_pieced {env : CalendarEnv τ ζ} {ans : Nat → SplitAnswers}
    {world : CalendarWorld (ECalEvent τ β)} (h : UidsFresh env ans world) :
    ∃ pieces made generated,
      (splitPass env ans world world.store.objects).comps = world.store.objects ++ pieces ∧
      (splitPass env ans world world.store.objects).world.store.objects =
        world.store.objects.filter
          (fun o => !(splitTurns ans world.store.objects).any (splitAway env o.uid)) ++ made ∧
      Pieced env world.generated generated pieces made := by
  have hturns : ∀ turn ∈ splitTurns ans world.store.objects, turn.1.type = .modified ∧
      KeepsUids turn.2 ∧ ∀ k, world.generated ≤ k → env.generateUid k ≠ turn.1.comp.uid := by
    intro turn hturn
    obtain ⟨htype, i, hi⟩ := splitTurns_type hturn
    refine ⟨htype, hi ▸ h.keeps i, fun k hk heq => ?_⟩
    have hthere : world.store.has (env.generateUid k) = true :=
      EdsStore.has_iff.mpr ⟨turn.1.comp, comp_mem_of_splitTurns hturn, heq.symm⟩
    rw [h.fresh k hk] at hthere
    contradiction
  obtain ⟨pieces, made, hcomps, hobjects, hpieced⟩ := foldl_splitStep_pieced env
    (splitTurns ans world.store.objects) ⟨world, world.store.objects, [], []⟩ hturns
  exact ⟨pieces, made, _, hcomps, hobjects, hpieced⟩

theorem any_splitAway_eq_false {env : CalendarEnv τ ζ} {ans : Nat → SplitAnswers}
    {st : EdsStore (ECalEvent τ β)} (h : NothingSplitAway env ans st) (u : String) :
    (splitTurns ans st.objects).any (splitAway env u) = false := by
  rw [List.any_eq_false]
  intro turn hturn haway
  simp only [splitAway, Bool.and_eq_true, decide_eq_true_eq, Option.isNone_iff_eq_none] at haway
  exact h turn hturn haway.1.1 haway.2

theorem Pieced.filter_eq_nil {env : CalendarEnv τ ζ} {ans : Nat → SplitAnswers}
    {world : CalendarWorld (ECalEvent τ β)} (h : UidsFresh env ans world) {generated : Nat}
    {pieces made : List (EdsObject (ECalEvent τ β))}
    (hpieced : Pieced env world.generated generated pieces made) {u : String}
    (hu : world.store.has u = true) {l : List (EdsObject (ECalEvent τ β))} (hl : l ⊆ pieces) :
    l.filter (fun o => o.uid = u) = [] := by
  rw [List.filter_eq_nil_iff]
  intro o ho huid
  obtain ⟨k, hk, hgenerated⟩ := hpieced.mem (hl ho)
  rw [← of_decide_eq_true huid, ← hgenerated, h.fresh k hk] at hu
  contradiction

theorem nothingSplitAway_of_enumeratesLive {env : CalendarEnv τ ζ} {ans : Nat → SplitAnswers}
    {world : CalendarWorld (ECalEvent τ β)} (h : UidsFresh env ans world)
    {cfg : PreSyncSettings} {map : EPilotMap}
    (hlive : EnumeratesLive world.store (calendarPreSync env ans cfg map world).2.2.store
      (listedRecords (calendarPreSync env ans cfg map world).2.1)) :
    NothingSplitAway env ans world.store := by
  intro turn hturn hkind hremoved
  obtain ⟨pieces, made, generated, hcomps, hobjects, hpieced⟩ := splitPass_pieced h
  have hworld : (calendarPreSync env ans cfg map world).2.2.store.objects = _ := hobjects
  have hcomp := comp_mem_of_splitTurns hturn
  have hthere : world.store.has turn.1.comp.uid = true := EdsStore.has_iff.mpr ⟨_, hcomp, rfl⟩
  have haway : (splitTurns ans world.store.objects).any (splitAway env turn.1.comp.uid) = true :=
    List.any_eq_true.mpr ⟨turn, hturn, by simp [splitAway, hkind, hremoved]⟩
  have hgone : (calendarPreSync env ans cfg map world).2.2.store.under turn.1.comp.uid = [] := by
    unfold EdsStore.under
    rw [hworld, List.filter_append,
      hpieced.filter_eq_nil h hthere fun o ho => hpieced.mem_made ho, List.append_nil,
      List.filter_eq_nil_iff]
    intro o ho huid
    have hkept := (List.mem_filter.mp ho).2
    rw [of_decide_eq_true huid, haway] at hkept
    contradiction
  have hperm := hlive turn.1.comp.uid (Or.inl hthere)
  rw [hgone, List.perm_nil, List.filter_eq_nil_iff, map_comp_listedRecords,
    calendarPreSync_comps, hcomps] at hperm
  exact hperm turn.1.comp (List.mem_append_left pieces hcomp) (decide_eq_true rfl)

theorem enumeratesLive_of_nothingSplitAway {env : CalendarEnv τ ζ} {ans : Nat → SplitAnswers}
    {world : CalendarWorld (ECalEvent τ β)} (h : UidsFresh env ans world)
    (hnothing : NothingSplitAway env ans world.store) (cfg : PreSyncSettings) (map : EPilotMap) :
    EnumeratesLive world.store (calendarPreSync env ans cfg map world).2.2.store
      (listedRecords (calendarPreSync env ans cfg map world).2.1) := by
  obtain ⟨pieces, made, generated, hcomps, hobjects, hpieced⟩ := splitPass_pieced h
  have hkept : world.store.objects.filter (fun o => !(splitTurns ans world.store.objects).any
      (splitAway env o.uid)) = world.store.objects :=
    List.filter_eq_self.mpr fun o _ => by rw [any_splitAway_eq_false hnothing]; rfl
  rw [hkept] at hobjects
  have hworld : (calendarPreSync env ans cfg map world).2.2.store.objects =
      world.store.objects ++ made := hobjects
  intro u hu
  unfold EdsStore.under
  rw [map_comp_listedRecords, calendarPreSync_comps, hcomps, hworld, List.filter_append,
    List.filter_append]
  refine List.Perm.append_left _ ?_
  cases hthere : world.store.has u with
  | true =>
      rw [hpieced.filter_eq_nil h hthere (List.Subset.refl _),
        hpieced.filter_eq_nil h hthere fun o ho => hpieced.mem_made ho]
  | false =>
      have hafter := hu.resolve_left (by rw [hthere]; decide)
      obtain ⟨o, ho, rfl⟩ := EdsStore.has_iff.mp hafter
      rw [hworld, List.mem_append] at ho
      refine hpieced.filter_perm h.inj (ho.resolve_left fun hold => ?_)
      rw [EdsStore.has_iff.mpr ⟨o, hold, rfl⟩] at hthere
      contradiction

/-- `for_each` yields the live objects exactly if no event was split and removed. -/
theorem enumeratesLive_iff {env : CalendarEnv τ ζ} {ans : Nat → SplitAnswers}
    {world : CalendarWorld (ECalEvent τ β)} (h : UidsFresh env ans world)
    (cfg : PreSyncSettings) (map : EPilotMap) :
    EnumeratesLive world.store (calendarPreSync env ans cfg map world).2.2.store
        (listedRecords (calendarPreSync env ans cfg map world).2.1) ↔
      NothingSplitAway env ans world.store :=
  ⟨nothingSplitAway_of_enumeratesLive h,
    fun hnothing => enumeratesLive_of_nothingSplitAway h hnothing cfg map⟩

end Calendar

/-! ## An event of two days -/

theorem sampleEnv_inj (j k : Nat) (h : sampleEnv.generateUid j = sampleEnv.generateUid k) :
    j = k := by
  have hlist := congrArg String.toList h
  simp only [sampleEnv, String.toList_append, List.append_cancel_left_eq] at hlist
  exact Numeral.toString_nat_injective (String.toList_inj.mp hlist)

/-- The event is split and removed, and is among the records all the same. -/
theorem splitEvent_enumerated :
    ((listedRecords (calendarPreSync sampleEnv (fun _ => sampleAnswers) sampleSettings loadedMap
        ⟨⟨[sampleEvent]⟩, 0⟩).2.1).map fun r => r.comp.uid) = ["a", "piece1", "piece0"] ∧
      (calendarPreSync sampleEnv (fun _ => sampleAnswers) sampleSettings loadedMap
        ⟨⟨[sampleEvent]⟩, 0⟩).2.2.store.objects.map EdsObject.uid = ["piece0", "piece1"] ∧
      ¬ EnumeratesLive ⟨[sampleEvent]⟩
        (calendarPreSync sampleEnv (fun _ => sampleAnswers) sampleSettings loadedMap
          ⟨⟨[sampleEvent]⟩, 0⟩).2.2.store
        (listedRecords (calendarPreSync sampleEnv (fun _ => sampleAnswers) sampleSettings
          loadedMap ⟨⟨[sampleEvent]⟩, 0⟩).2.1) := by
  refine ⟨by decide, by decide, fun h => ?_⟩
  have hlength := (h "a" (Or.inl (by decide))).length_eq
  exact absurd hlength (by decide)

def refusedAnswers : SplitAnswers := { sampleAnswers with remove := ⟨some .other, fun _ => ""⟩ }

theorem sampleEnv_fresh {ans : SplitAnswers} (hkeeps : KeepsUids ans) :
    UidsFresh sampleEnv (fun _ => ans)
      (⟨⟨[sampleEvent]⟩, 0⟩ : CalendarWorld (ECalEvent Int Unit)) := by
  refine ⟨fun _ => hkeeps, sampleEnv_inj, fun k _ => ?_⟩
  have hne := (sample_noPiece "a" (loadedMap_live.mpr rfl) 0 k).1
  simp [EdsStore.has, sampleEvent, hne.symm]

theorem refusedEvent_enumerated :
    EnumeratesLive ⟨[sampleEvent]⟩
      (calendarPreSync sampleEnv (fun _ => refusedAnswers) sampleSettings loadedMap
        ⟨⟨[sampleEvent]⟩, 0⟩).2.2.store
      (listedRecords (calendarPreSync sampleEnv (fun _ => refusedAnswers) sampleSettings loadedMap
        ⟨⟨[sampleEvent]⟩, 0⟩).2.1) := by
  have hfresh : UidsFresh sampleEnv (fun _ => refusedAnswers)
      (⟨⟨[sampleEvent]⟩, 0⟩ : CalendarWorld (ECalEvent Int Unit)) :=
    sampleEnv_fresh fun _ _ => rfl
  refine (enumeratesLive_iff hfresh sampleSettings loadedMap).mpr fun turn hturn _ => ?_
  obtain ⟨-, i, hi⟩ := splitTurns_type hturn
  rw [hi]
  decide

end GnomePilot
