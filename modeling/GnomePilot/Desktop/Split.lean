import GnomePilot.Desktop.ForEach
import GnomePilot.Lib.Tiling

/-!
# The days of an event

The loop of `process_multi_day` cuts the time of an event at the midnights of the
conduit's time zone.  The pieces tile the event and each lies within one day.  The
original goes afterwards, whatever became of the pieces on the server.
-/

namespace GnomePilot

open Tiling

section Split

variable {τ ζ β : Type}

def dayBounds (env : CalendarEnv τ ζ) (span : EventSpan τ ζ) : List (Int × Int) :=
  tiles (fun t => env.timeDayEnd t env.timezone) span.eventEnd (splitFuel span) span.eventStart
    span.dayEnd

def pieceObjects (env : CalendarEnv τ ζ) (event : ECalEvent τ β) (span : EventSpan τ ζ) :
    Nat → List (Int × Int) → List (EdsObject (ECalEvent τ β))
  | _, [] => []
  | k, bound :: bounds =>
      ⟨env.generateUid k, dayPiece env event span bound.1 bound.2⟩ ::
        pieceObjects env event span (k + 1) bounds

/-- Creation of one object after the other, with the server's answers from the `n`th on. -/
def createAll {α : Type} (create : Nat → EdsAnswer) :
    Nat → EdsStore α → List (EdsObject α) → EdsStore α
  | _, st, [] => st
  | n, st, o :: objects =>
      createAll create (n + 1) (st.create (create n) (some o.uid) o.content).2 objects

@[simp] theorem length_pieceObjects (env : CalendarEnv τ ζ) (event : ECalEvent τ β)
    (span : EventSpan τ ζ) (k : Nat) (bounds : List (Int × Int)) :
    (pieceObjects env event span k bounds).length = bounds.length := by
  induction bounds generalizing k with
  | nil => rfl
  | cons bound bounds ih => simp [pieceObjects, ih]

theorem map_content_pieceObjects (env : CalendarEnv τ ζ) (event : ECalEvent τ β)
    (span : EventSpan τ ζ) (k : Nat) (bounds : List (Int × Int)) :
    (pieceObjects env event span k bounds).map EdsObject.content =
      bounds.map fun bound => dayPiece env event span bound.1 bound.2 := by
  induction bounds generalizing k with
  | nil => rfl
  | cons bound bounds ih => simp [pieceObjects, ih]

/-- The pieces carry the next uids in order. -/
theorem map_uid_pieceObjects (env : CalendarEnv τ ζ) (event : ECalEvent τ β)
    (span : EventSpan τ ζ) (k : Nat) (bounds : List (Int × Int)) :
    (pieceObjects env event span k bounds).map EdsObject.uid =
      (List.range' k bounds.length).map env.generateUid := by
  induction bounds generalizing k with
  | nil => rfl
  | cons bound bounds ih => simp [pieceObjects, ih, List.range'_succ]

theorem splitLoop_eq (env : CalendarEnv τ ζ) (create : Nat → EdsAnswer)
    (event : ECalEvent τ β) (span : EventSpan τ ζ) (fuel : Nat) (eventStart dayEnd : Int)
    (n : Nat) (pieces : List (EdsObject (ECalEvent τ β)))
    (world : CalendarWorld (ECalEvent τ β)) {objects : List (EdsObject (ECalEvent τ β))}
    (hobjects : pieceObjects env event span world.generated
      (tiles (fun t => env.timeDayEnd t env.timezone) span.eventEnd fuel eventStart dayEnd) =
        objects) :
    splitLoop env create event span fuel eventStart dayEnd n pieces world =
      (objects.reverse ++ pieces,
        ⟨createAll create n world.store objects, world.generated + objects.length⟩) := by
  induction fuel generalizing eventStart dayEnd n pieces world objects with
  | zero =>
      subst hobjects
      rfl
  | succ fuel ih =>
      subst hobjects
      rw [splitLoop_succ, tiles]
      by_cases hlast : span.eventEnd ≤ dayEnd
      · simp [hlast, pieceObjects, createAll]
      · simp only [hlast, if_false, pieceObjects, createAll]
        rw [ih _ _ _ _ _ rfl]
        simp [Nat.add_assoc, Nat.add_comm 1]

theorem processMultiDay_eq (env : CalendarEnv τ ζ) (ans : SplitAnswers)
    (world : CalendarWorld (ECalEvent τ β)) {ccc : Change (ECalEvent τ β)}
    (htype : ccc.type ≠ .deleted) {span : EventSpan τ ζ}
    (hspan : eventSpan env ccc.comp.content = some span) (hdays : span.dayEnd < span.eventEnd)
    (hrec : ccc.comp.content.hasRecurrences = false) (hsplit : env.multiDaySplit = true)
    {objects : List (EdsObject (ECalEvent τ β))}
    (hobjects : pieceObjects env ccc.comp.content span world.generated (dayBounds env span) =
      objects) :
    processMultiDay env ans world ccc = (true, { ccc with type := .deleted }, objects.reverse,
      ⟨((createAll ans.create 0 world.store objects).remove ans.remove ccc.comp.uid).2,
        world.generated + objects.length⟩) := by
  have hnot : ¬ span.eventEnd ≤ span.dayEnd := by omega
  have hloop := splitLoop_eq env ans.create ccc.comp.content span (splitFuel span)
    span.eventStart span.dayEnd 0 [] world hobjects
  simp [processMultiDay, htype, hspan, hnot, hrec, hsplit, hloop]

/-! ## The pieces tile the event -/

/-- The end of a day is the first instant of a later one. -/
def EndsDays (env : CalendarEnv τ ζ) (day : Int → Int) : Prop :=
  ∀ t u, env.timeDayEnd t env.timezone ≤ u ↔ day t < day u

theorem EndsDays.le {env : CalendarEnv τ ζ} {day : Int → Int} (hday : EndsDays env day)
    {t u : Int} (h : t ≤ u) : day t ≤ day u := by
  have hfurther := env.lt_timeDayEnd u env.timezone
  have hnot := (hday u t).not.mp (by omega)
  omega

/-- Nothing of the day is left out. -/
theorem EndsDays.lt_dayEnd {env : CalendarEnv τ ζ} {day : Int → Int} (hday : EndsDays env day)
    {t u : Int} (h : u < env.timeDayEnd t env.timezone) :
    day u < day (env.timeDayEnd t env.timezone) := by
  have hnot := (hday t u).not.mp (by omega)
  have hnext := (hday t _).mp (Int.le_refl _)
  omega

/-- A time written in a zone is read as the same instant; as a date, if that is the first
one of its day. -/
structure KeepsInstants (env : CalendarEnv τ ζ) (day : Int → Int) : Prop where
  isDate : ∀ t d z, env.isDate (env.fromTimet t d z) = d
  timed : ∀ t z, env.asTimet (env.fromTimet t false z) z = t
  first : ∀ v, env.isDate v = true → ∀ u < env.asTimet v env.timezone,
    day u < day (env.asTimet v env.timezone)
  date : ∀ t, (∀ u < t, day u < day t) →
    env.asTimet (env.fromTimet t true env.timezone) env.timezone = t

theorem eventSpan_cases {env : CalendarEnv τ ζ} {event : ECalEvent τ β} {span : EventSpan τ ζ}
    (h : eventSpan env event = some span) :
    ∃ tzidStart tzidEnd,
      event.dtstart = some ⟨some span.start, tzidStart⟩ ∧
      event.dtend = some ⟨some span.stop, tzidEnd⟩ ∧
      span.tzStart = (if env.isDate span.start then env.timezone else env.getTimezone tzidStart) ∧
      span.tzEnd = (if env.isDate span.stop then env.timezone else env.getTimezone tzidEnd) ∧
      span.eventStart = env.asTimet span.start span.tzStart ∧
      span.eventEnd = env.asTimet span.stop span.tzEnd ∧
      span.dayEnd = env.timeDayEnd span.eventStart env.timezone := by
  unfold eventSpan at h
  split at h
  · next dtStart dtEnd hstart hstop =>
      split at h
      · next start stop hvalue hvalue' =>
          obtain rfl := Option.some.inj h
          refine ⟨dtStart.tzid, dtEnd.tzid, ?_, ?_, rfl, rfl, rfl, rfl, rfl⟩
          · rw [hstart, ← hvalue]
          · rw [hstop, ← hvalue']
      · contradiction
  · contradiction

theorem eventSpan_dayPiece_eq {env : CalendarEnv τ ζ} {day : Int → Int}
    (hkeeps : KeepsInstants env day) {event : ECalEvent τ β} {span : EventSpan τ ζ}
    (hspan : eventSpan env event = some span) {date : Bool}
    (hstart : env.isDate span.start = date) (hstop : env.isDate span.stop = date)
    (eventStart dayEnd : Int) :
    ∃ piece, eventSpan env (dayPiece env event span eventStart dayEnd) = some piece ∧
      piece.eventStart = env.asTimet (env.fromTimet eventStart date span.tzStart) span.tzStart ∧
      piece.eventEnd = env.asTimet (env.fromTimet dayEnd date span.tzEnd) span.tzEnd := by
  obtain ⟨tzidStart, tzidEnd, hdtstart, hdtend, htzStart, htzEnd, -, -, -⟩ :=
    eventSpan_cases hspan
  rw [hstart] at htzStart
  rw [hstop] at htzEnd
  simp only [dayPiece, eventSpan, hdtstart, hdtend, Option.bind_some, hstart, hstop,
    Bool.and_self, hkeeps.isDate, ← htzStart, ← htzEnd]
  exact ⟨_, rfl, rfl, rfl⟩

/-- It is read with the bounds it was cut at. -/
theorem eventSpan_dayPiece {env : CalendarEnv τ ζ} {day : Int → Int} (hday : EndsDays env day)
    (hkeeps : KeepsInstants env day) {event : ECalEvent τ β} {span : EventSpan τ ζ}
    (hspan : eventSpan env event = some span)
    (hkind : env.isDate span.start = env.isDate span.stop) {bound : Int × Int}
    (hbound : bound ∈ dayBounds env span) :
    ∃ piece, eventSpan env (dayPiece env event span bound.1 bound.2) = some piece ∧
      piece.eventStart = bound.1 ∧ piece.eventEnd = bound.2 := by
  obtain ⟨tzidStart, tzidEnd, hdtstart, hdtend, htzStart, htzEnd, heventStart, heventEnd,
    hdayEnd⟩ := eventSpan_cases hspan
  obtain ⟨piece, hpiece, hstart, hstop⟩ :=
    eventSpan_dayPiece_eq hkeeps hspan rfl hkind.symm bound.1 bound.2
  refine ⟨piece, hpiece, ?_⟩
  rw [hstart, hstop]
  cases hdate : env.isDate span.start with
  | false => exact ⟨hkeeps.timed _ _, hkeeps.timed _ _⟩
  | true =>
      -- All bounds of an event of whole days are first instants of days.
      rw [hdate] at hkind
      rw [hdate, if_pos rfl] at htzStart
      rw [← hkind, if_pos rfl] at htzEnd
      obtain ⟨hfirst, hlast⟩ := bounds_of_mem_tiles _ hdayEnd.symm hbound
      rw [htzStart, htzEnd]
      refine ⟨hkeeps.date _ ?_, hkeeps.date _ ?_⟩
      · rcases hfirst with h | ⟨t, h⟩
        · rw [h, heventStart, htzStart]
          exact hkeeps.first span.start hdate
        · rw [h]
          exact fun u hu => hday.lt_dayEnd hu
      · rcases hlast with h | ⟨t, h⟩
        · rw [h, heventEnd, htzEnd]
          exact hkeeps.first span.stop hkind.symm
        · rw [h]
          exact fun u hu => hday.lt_dayEnd hu

/-- The pieces of an event of several days tile it, each lies within a day and is read so,
and the loop comes to its end. -/
theorem processMultiDay_tiles {env : CalendarEnv τ ζ} {day : Int → Int}
    (hday : EndsDays env day) (ans : SplitAnswers) (world : CalendarWorld (ECalEvent τ β))
    {ccc : Change (ECalEvent τ β)} (htype : ccc.type ≠ .deleted) {span : EventSpan τ ζ}
    (hspan : eventSpan env ccc.comp.content = some span)
    (hdays : ∃ t, span.eventStart ≤ t ∧ t < span.eventEnd ∧ day t ≠ day span.eventStart)
    (hrec : ccc.comp.content.hasRecurrences = false) (hsplit : env.multiDaySplit = true) :
    ∃ bounds,
      ((processMultiDay env ans world ccc).2.2.1.reverse.map EdsObject.content =
        bounds.map fun bound => dayPiece env ccc.comp.content span bound.1 bound.2) ∧
      Tiles span.eventStart span.eventEnd bounds ∧
      (∀ bound ∈ bounds, ∀ t, bound.1 ≤ t → t < bound.2 → day t = day bound.1) ∧
      (KeepsInstants env day → env.isDate span.start = env.isDate span.stop →
        ∀ bound ∈ bounds, ∃ piece,
          eventSpan env (dayPiece env ccc.comp.content span bound.1 bound.2) = some piece ∧
          piece.eventStart = bound.1 ∧ piece.eventEnd = bound.2) ∧
      ∀ more, splitLoop env ans.create ccc.comp.content span (splitFuel span + more)
          span.eventStart span.dayEnd 0 [] world =
        splitLoop env ans.create ccc.comp.content span (splitFuel span)
          span.eventStart span.dayEnd 0 [] world := by
  obtain ⟨tzidStart, tzidEnd, hdtstart, hdtend, htzStart, htzEnd, heventStart, heventEnd,
    hdayEnd⟩ := eventSpan_cases hspan
  have hnext : ∀ t, t < env.timeDayEnd t env.timezone := fun t => env.lt_timeDayEnd t _
  have hlater : span.dayEnd < span.eventEnd := by
    obtain ⟨t, hstart, hstop, hother⟩ := hdays
    have hle := hday.le hstart
    have hcut := (hday span.eventStart t).mpr (by omega)
    omega
  have hfirst := hnext span.eventStart
  have hfuel : (span.eventEnd - span.dayEnd).toNat < splitFuel span := Nat.lt_succ_self _
  have heq := processMultiDay_eq env ans world htype hspan hlater hrec hsplit rfl
  refine ⟨dayBounds env span, ?_, ?_, ?_, ?_, ?_⟩
  · rw [heq, List.reverse_reverse, map_content_pieceObjects]
  · exact tiles_tile hnext _ hfuel (by omega) (by omega)
  · intro bound hbound t hle hlt
    have hcut := le_next_of_mem_tiles _ (Int.le_of_eq hdayEnd) hbound
    have hnot := (hday bound.1 t).not.mp (by omega)
    have hmono := hday.le hle
    omega
  · exact fun hkeeps hkind bound hbound => eventSpan_dayPiece hday hkeeps hspan hkind hbound
  · intro more
    rw [splitLoop_eq env ans.create _ span _ _ _ 0 [] world rfl,
      splitLoop_eq env ans.create _ span (splitFuel span) _ _ 0 [] world rfl,
      tiles_eq_of_fuel hnext _ hfuel]

/-! ## The original and its pieces on the server -/

section Create

variable {α : Type}

theorem subset_createAll (create : Nat → EdsAnswer) (n : Nat) (st : EdsStore α)
    (objects : List (EdsObject α)) : st.objects ⊆ (createAll create n st objects).objects := by
  induction objects generalizing n st with
  | nil => exact List.Subset.refl _
  | cons o objects ih =>
      refine List.Subset.trans ?_ (ih (n + 1) _)
      rcases EdsStore.create_cases (create n) st (some o.uid) o.content with h | ⟨-, -, h⟩
      · rw [h]
        exact List.Subset.refl _
      · rw [h]
        exact List.subset_append_left _ _

theorem mem_of_mem_createAll {create : Nat → EdsAnswer}
    (hkeeps : ∀ n u, (create n).newUid (some u) = u) {n : Nat} {st : EdsStore α}
    {objects : List (EdsObject α)} {p : EdsObject α}
    (hp : p ∈ (createAll create n st objects).objects) : p ∈ st.objects ∨ p ∈ objects := by
  induction objects generalizing n st with
  | nil => exact Or.inl hp
  | cons o objects ih =>
      rcases ih hp with hold | hnew
      · rcases EdsStore.create_cases (create n) st (some o.uid) o.content with h | ⟨-, -, h⟩
        · rw [h] at hold
          exact Or.inl hold
        · rw [h, hkeeps] at hold
          exact (List.mem_append.mp hold).imp_right fun hlast =>
            List.mem_cons.mpr (Or.inl (List.mem_singleton.mp hlast))
      · exact Or.inr (List.mem_cons_of_mem o hnew)

theorem mem_createAll_iff {create : Nat → EdsAnswer}
    (hkeeps : ∀ n u, (create n).newUid (some u) = u) (n : Nat) (st : EdsStore α)
    (objects : List (EdsObject α)) (hnodup : (objects.map EdsObject.uid).Nodup)
    (hnew : ∀ o ∈ objects, st.has o.uid = false) (i : Nat) (hi : i < objects.length) :
    objects[i] ∈ (createAll create n st objects).objects ↔ (create (n + i)).error = none := by
  induction objects generalizing n st i with
  | nil => exact absurd hi (Nat.not_lt_zero i)
  | cons o objects ih =>
      obtain ⟨ho, hnodup⟩ := List.nodup_cons.mp hnodup
      have hfree := hnew o List.mem_cons_self
      have hother : ∀ o' ∈ objects, o.uid ≠ o'.uid := fun o' ho' heq =>
        ho (heq ▸ List.mem_map_of_mem ho')
      cases i with
      | zero =>
          have hnot : o ∉ st.objects := fun hmem => by
            rw [EdsStore.has_iff.mpr ⟨o, hmem, rfl⟩] at hfree
            contradiction
          rw [List.getElem_cons_zero, Nat.add_zero]
          unfold createAll
          constructor
          · intro hmem
            have hstored := (mem_of_mem_createAll hkeeps hmem).resolve_right
              fun hmem => hother o hmem rfl
            rcases EdsStore.create_cases (create n) st (some o.uid) o.content with
              h | ⟨herror, -, -⟩
            · rw [h] at hstored
              exact absurd hstored hnot
            · exact herror
          · intro herror
            refine subset_createAll create (n + 1) _ objects ?_
            simp [EdsStore.create, herror, hkeeps, hfree]
      | succ i =>
          rw [List.getElem_cons_succ, ← Nat.add_assoc, Nat.add_right_comm n i 1]
          refine ih (n + 1) _ hnodup (fun o' ho' => ?_) i (Nat.lt_of_succ_lt_succ hi)
          have hfree' := hnew o' (List.mem_cons_of_mem o ho')
          rcases EdsStore.create_cases (create n) st (some o.uid) o.content with h | ⟨-, -, h⟩
          · rw [h]
            exact hfree'
          · rw [h, EdsStore.has_append, hkeeps]
            simp [hfree', hother o' ho']

end Create

/-- The original is gone only if every piece is there. -/
def RemovedOnlyIfCreated (env : CalendarEnv τ ζ) (ans : SplitAnswers)
    (world : CalendarWorld (ECalEvent τ β)) (ccc : Change (ECalEvent τ β)) : Prop :=
  (processMultiDay env ans world ccc).2.2.2.store.has ccc.comp.uid = false →
    ∀ piece ∈ (processMultiDay env ans world ccc).2.2.1,
      piece ∈ (processMultiDay env ans world ccc).2.2.2.store.objects

/-- The server takes the creation of a piece for every day of the event. -/
def CreatesDays (env : CalendarEnv τ ζ) (ans : SplitAnswers) (event : ECalEvent τ β) : Prop :=
  ∀ span, eventSpan env event = some span →
    ∀ n < (dayBounds env span).length, (ans.create n).error = none

theorem dayKind_eq_split_iff {env : CalendarEnv τ ζ} {event : ECalEvent τ β} :
    dayKind env event = .split ↔ ∃ span, eventSpan env event = some span ∧
      span.dayEnd < span.eventEnd ∧ event.hasRecurrences = false ∧ env.multiDaySplit = true := by
  unfold dayKind
  cases eventSpan env event with
  | none => simp
  | some span =>
      by_cases hlater : span.eventEnd ≤ span.dayEnd
      · simp [hlater]
      · cases event.hasRecurrences <;> cases env.multiDaySplit <;>
          simp [hlater, Int.not_le.mp hlater]

theorem processMultiDay_of_not_split (env : CalendarEnv τ ζ) (ans : SplitAnswers)
    (world : CalendarWorld (ECalEvent τ β)) {ccc : Change (ECalEvent τ β)}
    (hkind : dayKind env ccc.comp.content ≠ .split) :
    (processMultiDay env ans world ccc).2.2 = ([], world) := by
  unfold processMultiDay
  unfold dayKind at hkind
  split
  · rfl
  · cases hspan : eventSpan env ccc.comp.content with
    | none => rfl
    | some span =>
        simp only [hspan] at hkind ⊢
        split
        · rfl
        · next hlater =>
            split
            · rfl
            · next hnot => simp [hlater, hnot] at hkind

theorem has_original {ans : SplitAnswers}
    {world : CalendarWorld (ECalEvent τ β)} {uid : String} (hthere : world.store.has uid = true)
    (objects : List (EdsObject (ECalEvent τ β))) :
    ((createAll ans.create 0 world.store objects).remove ans.remove uid).2.has uid =
      !ans.remove.error.isNone := by
  obtain ⟨o, ho, huid⟩ := EdsStore.has_iff.mp hthere
  have hkept : (createAll ans.create 0 world.store objects).has uid = true :=
    EdsStore.has_iff.mpr ⟨o, subset_createAll _ _ _ _ ho, huid⟩
  simp [has_remove, hkept]

theorem piece_mem_iff {env : CalendarEnv τ ζ} {ans : SplitAnswers}
    {world : CalendarWorld (ECalEvent τ β)} (hfresh : UidsFresh env (fun _ => ans) world)
    {event : ECalEvent τ β} {uid : String} (hthere : world.store.has uid = true)
    (span : EventSpan τ ζ) (bounds : List (Int × Int)) :
    (∀ piece ∈ pieceObjects env event span world.generated bounds,
      piece ∈ ((createAll ans.create 0 world.store
        (pieceObjects env event span world.generated bounds)).remove ans.remove uid).2.objects) ↔
      ∀ n < bounds.length, (ans.create n).error = none := by
  have hkeeps : ∀ n u, (ans.create n).newUid (some u) = u := hfresh.keeps 0
  have huids := map_uid_pieceObjects env event span world.generated bounds
  have hlength := length_pieceObjects env event span world.generated bounds
  generalize pieceObjects env event span world.generated bounds = objects at huids hlength ⊢
  have hnew : ∀ o ∈ objects, world.store.has o.uid = false := by
    intro o ho
    have hmem := List.mem_map_of_mem ho (f := EdsObject.uid)
    rw [huids] at hmem
    obtain ⟨k, hk, huid⟩ := List.mem_map.mp hmem
    rw [← huid]
    exact hfresh.fresh k (List.mem_range'_1.mp hk).1
  have hnodup : (objects.map EdsObject.uid).Nodup := by
    rw [huids]
    exact List.Nodup.map (fun j k => hfresh.inj j k) (List.nodup_range' 1)
  have hremoved : ∀ o ∈ objects,
      (o ∈ ((createAll ans.create 0 world.store objects).remove ans.remove uid).2.objects ↔
        o ∈ (createAll ans.create 0 world.store objects).objects) := by
    intro o ho
    have hne : uid ≠ o.uid := fun heq => by
      rw [heq, hnew o ho] at hthere
      contradiction
    rw [remove_objects, List.mem_filter]
    simp [hne]
  have hstored := mem_createAll_iff hkeeps 0 world.store objects hnodup hnew
  constructor
  · intro hall n hn
    rw [← hlength] at hn
    have hmem := (hremoved _ (List.getElem_mem hn)).mp (hall _ (List.getElem_mem hn))
    simpa using (hstored n hn).mp hmem
  · intro hall piece hpiece
    obtain ⟨i, hi, rfl⟩ := List.mem_iff_getElem.mp hpiece
    refine (hremoved _ hpiece).mpr ((hstored i hi).mpr ?_)
    simpa using hall i (hlength ▸ hi)

/-- No result of a creation is looked at: the original outlives a piece that was not
created only if it cannot be removed. -/
theorem removedOnlyIfCreated_iff {env : CalendarEnv τ ζ} {ans : SplitAnswers}
    {world : CalendarWorld (ECalEvent τ β)} (hfresh : UidsFresh env (fun _ => ans) world)
    {ccc : Change (ECalEvent τ β)} (htype : ccc.type ≠ .deleted)
    (hthere : world.store.has ccc.comp.uid = true) :
    RemovedOnlyIfCreated env ans world ccc ↔
      (dayKind env ccc.comp.content = .split →
        ans.remove.error ≠ none ∨ CreatesDays env ans ccc.comp.content) := by
  unfold RemovedOnlyIfCreated
  by_cases hkind : dayKind env ccc.comp.content = .split
  · obtain ⟨span, hspan, hlater, hrec, hsplit⟩ := dayKind_eq_split_iff.mp hkind
    have hcreates : CreatesDays env ans ccc.comp.content ↔
        ∀ n < (dayBounds env span).length, (ans.create n).error = none := by
      unfold CreatesDays
      simp [hspan]
    rw [processMultiDay_eq env ans world htype hspan hlater hrec hsplit rfl]
    simp only [List.mem_reverse]
    rw [has_original hthere, piece_mem_iff hfresh hthere, hcreates]
    cases ans.remove.error with
    | none => simp [hkind]
    | some e => simp
  · rw [processMultiDay_of_not_split env ans world hkind]
    simp [hthere, hkind]

end Split

/-! ## Events of two days -/

def datedEnv : CalendarEnv (Int × Bool) Unit where
  timezone := ()
  getTimezone _ := ()
  isDate t := t.2
  asTimet t _ := if t.2 then t.1 * 10 else t.1
  fromTimet t date _ := (if date then t / 10 else t, date)
  timeDayEnd t _ := t / 10 * 10 + 10
  lt_timeDayEnd t _ := by omega
  generateUid k := "piece" ++ toString k
  multiDaySplit := true

theorem datedEnv_endsDays : EndsDays datedEnv (· / 10) := by
  intro t u
  simp only [datedEnv]
  omega

theorem datedEnv_keepsInstants : KeepsInstants datedEnv (· / 10) where
  isDate _ _ _ := rfl
  timed _ _ := rfl
  first v hv u hu := by
    have hdate : v.2 = true := hv
    simp only [datedEnv, hdate, if_true] at hu ⊢
    omega
  date t ht := by
    have hlast := ht (t - 1) (by omega)
    simp only [datedEnv, if_true]
    omega

def wholeDays : ECalEvent (Int × Bool) Unit :=
  ⟨some ⟨some (1, true), none⟩, some ⟨some (3, true), none⟩, false, ()⟩

def wholeDaysSpan : EventSpan (Int × Bool) Unit := ⟨(1, true), (3, true), (), (), 10, 30, 20⟩

def wholeDaysChange : Change (ECalEvent (Int × Bool) Unit) := ⟨⟨"a", wholeDays⟩, .modified⟩

theorem wholeDays_tiles :
    ∃ bounds,
      ((processMultiDay datedEnv sampleAnswers ⟨⟨[⟨"a", wholeDays⟩]⟩, 0⟩
        wholeDaysChange).2.2.1.length = bounds.length) ∧
      Tiles 10 30 bounds ∧
      ∀ bound ∈ bounds, ∃ piece,
        eventSpan datedEnv (dayPiece datedEnv wholeDays wholeDaysSpan bound.1 bound.2) =
          some piece ∧
        piece.eventStart = bound.1 ∧ piece.eventEnd = bound.2 := by
  have hspan : eventSpan datedEnv wholeDaysChange.comp.content = some wholeDaysSpan := rfl
  have htype : wholeDaysChange.type ≠ .deleted := by decide
  obtain ⟨bounds, hpieces, htiles, -, hread, -⟩ := processMultiDay_tiles datedEnv_endsDays
    sampleAnswers ⟨⟨[⟨"a", wholeDays⟩]⟩, 0⟩ htype hspan ⟨20, by decide, by decide, by decide⟩
    rfl rfl
  have hlength := congrArg List.length hpieces
  simp only [List.length_map, List.length_reverse] at hlength
  exact ⟨bounds, hlength, htiles, hread datedEnv_keepsInstants rfl⟩

/-- The server does not take the second piece. -/
def secondRefused : SplitAnswers :=
  { sampleAnswers with
    create := fun n => ⟨if n = 1 then some .other else none, fun uid => uid.getD "made"⟩ }

/-- The hours of the second day are nowhere any more. -/
theorem secondRefused_removed :
    ¬ RemovedOnlyIfCreated sampleEnv secondRefused ⟨⟨[sampleEvent]⟩, 0⟩
      ⟨sampleEvent, .modified⟩ ∧
    (processMultiDay sampleEnv secondRefused ⟨⟨[sampleEvent]⟩, 0⟩
      ⟨sampleEvent, .modified⟩).2.2.2.store.objects.map EdsObject.uid = ["piece0"] := by
  unfold RemovedOnlyIfCreated
  decide

theorem sampleAnswers_removed :
    RemovedOnlyIfCreated sampleEnv sampleAnswers ⟨⟨[sampleEvent]⟩, 0⟩ ⟨sampleEvent, .modified⟩ :=
  (removedOnlyIfCreated_iff (sampleEnv_fresh fun _ _ => rfl) (by decide) (by decide)).mpr
    fun _ => Or.inr fun _ _ _ _ => rfl

end GnomePilot
