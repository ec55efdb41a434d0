import GnomePilot.Desktop.Changes

/-!
# The calendar conduit's events

The pilot knows no events of several days.  `process_multi_day` splits such an
event into one event a day, creates these on the server and removes the original;
`pre_sync` reports the pieces as added and the original as deleted.
-/

namespace GnomePilot

/-- A start or end as the component has it; `value` is its `ICalTime`. -/
structure ECalDateTime (τ : Type) where
  value : Option τ
  tzid : Option String
  deriving DecidableEq

/-- The properties of an event that decide how it is split, and the others. -/
structure ECalEvent (τ β : Type) where
  dtstart : Option (ECalDateTime τ)
  dtend : Option (ECalDateTime τ)
  hasRecurrences : Bool
  rest : β
  deriving DecidableEq

/-- What the conduit uses of the calendar library and of its configuration:
`τ` stands for its times, `ζ` for its time zones.  A day ends after it began. -/
structure CalendarEnv (τ ζ : Type) where
  timezone : ζ
  getTimezone : Option String → ζ
  isDate : τ → Bool
  asTimet : τ → ζ → Int
  fromTimet : Int → Bool → ζ → τ
  timeDayEnd : Int → ζ → Int
  lt_timeDayEnd : ∀ t z, t < timeDayEnd t z
  generateUid : Nat → String
  multiDaySplit : Bool

/-- How the server takes the creation of the pieces of an event and its removal. -/
structure SplitAnswers where
  create : Nat → EdsAnswer
  remove : EdsAnswer

/-- The server's objects and the number of uids generated so far. -/
structure CalendarWorld (α : Type) where
  store : EdsStore α
  generated : Nat

section Split

variable {τ ζ β : Type}

/-- The bounds of an event with a start and an end: its start and end, the end of
its first day, and the zones of start and end. -/
structure EventSpan (τ ζ : Type) where
  start : τ
  stop : τ
  tzStart : ζ
  tzEnd : ζ
  eventStart : Int
  eventEnd : Int
  dayEnd : Int

def eventSpan (env : CalendarEnv τ ζ) (event : ECalEvent τ β) : Option (EventSpan τ ζ) :=
  match event.dtstart, event.dtend with
  | some dtStart, some dtEnd =>
      match dtStart.value, dtEnd.value with
      | some start, some stop =>
          let tzStart := if env.isDate start then env.timezone else env.getTimezone dtStart.tzid
          let tzEnd := if env.isDate stop then env.timezone else env.getTimezone dtEnd.tzid
          let eventStart := env.asTimet start tzStart
          some ⟨start, stop, tzStart, tzEnd, eventStart, env.asTimet stop tzEnd,
            env.timeDayEnd eventStart env.timezone⟩
      | _, _ => none
  | _, _ => none

/-- The splitting loop: the day that is cut off next begins at `eventStart` and ends
at `dayEnd`.  The pieces are collected from the front. -/
def splitLoop (env : CalendarEnv τ ζ) (create : Nat → EdsAnswer) (event : ECalEvent τ β)
    (span : EventSpan τ ζ) : Nat → Int → Int → Nat → List (EdsObject (ECalEvent τ β)) →
    CalendarWorld (ECalEvent τ β) →
    List (EdsObject (ECalEvent τ β)) × CalendarWorld (ECalEvent τ β)
  | 0, _, _, _, pieces, world => (pieces, world)
  | fuel + 1, eventStart, dayEnd, n, pieces, world =>
      let last := span.eventEnd ≤ dayEnd
      let dayEnd := if last then span.eventEnd else dayEnd
      let isDate := env.isDate span.start && env.isDate span.stop
      let clone : EdsObject (ECalEvent τ β) :=
        ⟨env.generateUid world.generated,
          { event with
            dtstart := some ⟨some (env.fromTimet eventStart isDate span.tzStart),
              event.dtstart.bind (·.tzid)⟩
            dtend := some ⟨some (env.fromTimet dayEnd isDate span.tzEnd),
              event.dtend.bind (·.tzid)⟩ }⟩
      let world := ⟨(world.store.create (create n) (some clone.uid) clone.content).2,
        world.generated + 1⟩
      if last then (clone :: pieces, world)
      else splitLoop env create event span fuel dayEnd (env.timeDayEnd dayEnd env.timezone)
        (n + 1) (clone :: pieces) world

/-- The days left are fewer than the seconds left, so this much fuel is enough. -/
def splitFuel (span : EventSpan τ ζ) : Nat := (span.eventEnd - span.dayEnd).toNat + 1

/-- Whether the event spans several days, the change afterwards, the pieces from the
last to the first, and the server afterwards.  The original is removed after its
pieces were created; no result of the server is looked at. -/
def processMultiDay (env : CalendarEnv τ ζ) (ans : SplitAnswers)
    (world : CalendarWorld (ECalEvent τ β)) (ccc : Change (ECalEvent τ β)) :
    Bool × Change (ECalEvent τ β) × List (EdsObject (ECalEvent τ β)) ×
      CalendarWorld (ECalEvent τ β) :=
  if ccc.type = .deleted then (false, ccc, [], world)
  else
    match eventSpan env ccc.comp.content with
    | none => (false, ccc, [], world)
    | some span =>
        if span.eventEnd ≤ span.dayEnd then (false, ccc, [], world)
        else if ccc.comp.content.hasRecurrences || !env.multiDaySplit then
          (true, ccc, [], world)
        else
          let (pieces, world) := splitLoop env ans.create ccc.comp.content span (splitFuel span)
            span.eventStart span.dayEnd 0 [] world
          let world := { world with store := (world.store.remove ans.remove ccc.comp.uid).2 }
          (true, { ccc with type := .deleted }, pieces, world)

/-! ## `pre_sync` -/

/-- The state of the splitting pass: what was listed so far, the changes with the
mark of those in `removed`, and the changes of the pieces. -/
structure SplitPass (τ β : Type) where
  world : CalendarWorld (ECalEvent τ β)
  comps : List (EdsObject (ECalEvent τ β))
  changed : List (Change (ECalEvent τ β) × Bool)
  added : List (Change (ECalEvent τ β))

def splitStep (env : CalendarEnv τ ζ) (pass : SplitPass τ β)
    (turn : Change (ECalEvent τ β) × SplitAnswers) : SplitPass τ β :=
  match processMultiDay env turn.2 pass.world turn.1 with
  | (multi, ccc, pieces, world) =>
      if multi then
        ⟨world, pass.comps ++ pieces, pass.changed ++ [(ccc, true)],
          pass.added ++ pieces.map fun comp => ⟨comp, .added⟩⟩
      else ⟨world, pass.comps, pass.changed ++ [(ccc, false)], pass.added⟩

def splitTurns (ans : Nat → SplitAnswers) (comps : List (EdsObject (ECalEvent τ β))) :
    List (Change (ECalEvent τ β) × SplitAnswers) :=
  (buildChanged comps).zip ((List.range comps.length).map ans)

def splitPass (env : CalendarEnv τ ζ) (ans : Nat → SplitAnswers)
    (world : CalendarWorld (ECalEvent τ β)) (comps : List (EdsObject (ECalEvent τ β))) :
    SplitPass τ β :=
  (splitTurns ans comps).foldl (splitStep env) ⟨world, comps, [], []⟩

/-- The change list after the pass: an event of several days that the pilot does not
have is taken out again. -/
def SplitPass.changes (pass : SplitPass τ β) (map : EPilotMap) :
    List (Change (ECalEvent τ β)) :=
  ((pass.changed ++ pass.added.map fun ccc => (ccc, false)).filter fun c =>
    !(c.2 && (ePilotMapLookupPid map c.1.comp.uid false).1 = 0)).map Prod.fst

def calendarPreSync (env : CalendarEnv τ ζ) (ans : Nat → SplitAnswers) (cfg : PreSyncSettings)
    (map : EPilotMap) (world : CalendarWorld (ECalEvent τ β)) :
    Int × DesktopContext (ECalEvent τ β) × CalendarWorld (ECalEvent τ β) :=
  let pass := splitPass env ans world world.store.objects
  let (result, ctxt) := finishPreSync cfg
    (hashChanges map cfg.slow pass.comps (pass.changes map))
  (result, ctxt, pass.world)

end Split

/-! ## What the splitting pass does -/

section Pass

variable {τ ζ β : Type}

/-- What becomes of a changed event: it stays as it is, it spans several days and
stays whole, or it is split. -/
inductive DayKind where
  | within
  | kept
  | split
  deriving DecidableEq, Repr

def dayKind (env : CalendarEnv τ ζ) (event : ECalEvent τ β) : DayKind :=
  match eventSpan env event with
  | none => .within
  | some span =>
      if span.eventEnd ≤ span.dayEnd then .within
      else if event.hasRecurrences || !env.multiDaySplit then .kept
      else .split

/-- The change of an event after the pass, and whether it is in `removed`. -/
def dayOutcome (env : CalendarEnv τ ζ) (ccc : Change (ECalEvent τ β)) :
    Change (ECalEvent τ β) × Bool :=
  match dayKind env ccc.comp.content with
  | .within => (ccc, false)
  | .kept => (ccc, true)
  | .split => ({ ccc with type := .deleted }, true)

theorem dayOutcome_comp (env : CalendarEnv τ ζ) (ccc : Change (ECalEvent τ β)) :
    (dayOutcome env ccc).1.comp = ccc.comp := by
  unfold dayOutcome
  cases dayKind env ccc.comp.content with
  | within => rfl
  | kept => rfl
  | split => rfl

/-- The uid is none that a piece of a split event comes or is stored under. -/
def NoPiece (env : CalendarEnv τ ζ) (ans : SplitAnswers) (u : String) : Prop :=
  ∀ k, env.generateUid k ≠ u ∧ ∀ n, (ans.create n).newUid (some (env.generateUid k)) ≠ u

theorem splitLoop_spec (env : CalendarEnv τ ζ) (ans : SplitAnswers) (event : ECalEvent τ β)
    (span : EventSpan τ ζ) (u : String) (hu : NoPiece env ans u) (fuel : Nat)
    (eventStart dayEnd : Int) (n : Nat) (pieces : List (EdsObject (ECalEvent τ β)))
    (world : CalendarWorld (ECalEvent τ β)) (hpieces : ∀ p ∈ pieces, p.uid ≠ u) :
    (∀ p ∈ (splitLoop env ans.create event span fuel eventStart dayEnd n pieces world).1,
      p.uid ≠ u) ∧
    (splitLoop env ans.create event span fuel eventStart dayEnd n pieces world).2.store.has u =
      world.store.has u := by
  induction fuel generalizing eventStart dayEnd n pieces world with
  | zero => exact ⟨hpieces, rfl⟩
  | succ fuel ih =>
      have hcreate : ∀ content : ECalEvent τ β,
          (world.store.create (ans.create n) (some (env.generateUid world.generated)) content).2.has
            u = world.store.has u := by
        intro content
        rcases EdsStore.create_cases (ans.create n) world.store
            (some (env.generateUid world.generated)) content with h | ⟨-, -, h⟩
        · rw [h]
        · rw [h]
          simp only [EdsStore.has_append]
          simp [(hu world.generated).2 n]
      unfold splitLoop
      simp only
      split
      · refine ⟨fun p hp => ?_, hcreate _⟩
        cases List.mem_cons.mp hp with
        | inl hp => exact hp ▸ (hu world.generated).1
        | inr hp => exact hpieces p hp
      · have hpieces' : ∀ (content : ECalEvent τ β),
            ∀ p ∈ ⟨env.generateUid world.generated, content⟩ :: pieces, p.uid ≠ u := by
          intro content p hp
          cases List.mem_cons.mp hp with
          | inl hp => exact hp ▸ (hu world.generated).1
          | inr hp => exact hpieces p hp
        obtain ⟨hp, hs⟩ := ih _ _ (n + 1) _ ⟨_, world.generated + 1⟩ (hpieces' _)
        exact ⟨hp, hs.trans (hcreate _)⟩

def splitAway (env : CalendarEnv τ ζ) (u : String)
    (turn : Change (ECalEvent τ β) × SplitAnswers) : Bool :=
  dayKind env turn.1.comp.content = .split && turn.1.comp.uid = u &&
    turn.2.remove.error.isNone

theorem has_remove (a : EdsAnswer) (st : EdsStore (ECalEvent τ β)) (uid u : String) :
    (st.remove a uid).2.has u = (st.has u && !(decide (uid = u) && a.error.isNone)) := by
  rcases EdsStore.remove_cases a st uid with ⟨ha, hhas, h⟩ | ⟨ha, hhas, h⟩ | ⟨e, ha, h⟩
  · rw [h, EdsStore.has_filter]
    by_cases hu : uid = u
    · simp [hu, ha]
    · simp [hu, Ne.symm hu]
  · rw [h]
    by_cases hu : uid = u
    · simp [← hu, hhas]
    · simp [hu]
  · rw [h]
    simp [ha]

theorem processMultiDay_cases (env : CalendarEnv τ ζ) (ans : SplitAnswers)
    (world : CalendarWorld (ECalEvent τ β)) {ccc : Change (ECalEvent τ β)}
    (hm : ccc.type = .modified) :
    (dayKind env ccc.comp.content = .within ∧
      processMultiDay env ans world ccc = (false, ccc, [], world)) ∨
    (dayKind env ccc.comp.content = .kept ∧
      processMultiDay env ans world ccc = (true, ccc, [], world)) ∨
    (dayKind env ccc.comp.content = .split ∧ ∃ span pieces split,
      splitLoop env ans.create ccc.comp.content span (splitFuel span) span.eventStart
        span.dayEnd 0 [] world = (pieces, split) ∧
      processMultiDay env ans world ccc = (true, { ccc with type := .deleted }, pieces,
        { split with store := (split.store.remove ans.remove ccc.comp.uid).2 })) := by
  unfold processMultiDay dayKind
  simp only [hm]
  cases hspan : eventSpan env ccc.comp.content with
  | none => exact Or.inl ⟨rfl, rfl⟩
  | some span =>
      by_cases hday : span.eventEnd ≤ span.dayEnd
      · exact Or.inl (by simp [hday])
      · by_cases hrec : (ccc.comp.content.hasRecurrences || !env.multiDaySplit) = true
        · exact Or.inr (Or.inl (by simp [hday, hrec]))
        · cases hloop : splitLoop env ans.create ccc.comp.content span (splitFuel span)
            span.eventStart span.dayEnd 0 [] world with
          | mk pieces split =>
              exact Or.inr (Or.inr ⟨by simp [hday, hrec], span, pieces, split, hloop,
                by simp [hday, hrec, hloop]⟩)

theorem processMultiDay_outcome (env : CalendarEnv τ ζ) (ans : SplitAnswers)
    (world : CalendarWorld (ECalEvent τ β)) {ccc : Change (ECalEvent τ β)}
    (hm : ccc.type = .modified) :
    (processMultiDay env ans world ccc).1 = (dayOutcome env ccc).2 ∧
    (processMultiDay env ans world ccc).2.1 = (dayOutcome env ccc).1 := by
  rcases processMultiDay_cases env ans world hm with
    ⟨hkind, h⟩ | ⟨hkind, h⟩ | ⟨hkind, span, pieces, split, -, h⟩ <;>
  · rw [h, dayOutcome, hkind]
    exact ⟨rfl, rfl⟩

theorem processMultiDay_server (env : CalendarEnv τ ζ) (ans : SplitAnswers)
    (world : CalendarWorld (ECalEvent τ β)) {ccc : Change (ECalEvent τ β)}
    (hm : ccc.type = .modified) {u : String} (hu : NoPiece env ans u) :
    (∀ p ∈ (processMultiDay env ans world ccc).2.2.1, p.uid ≠ u) ∧
    (processMultiDay env ans world ccc).2.2.2.store.has u =
      (world.store.has u && !splitAway env u (ccc, ans)) := by
  unfold splitAway
  rcases processMultiDay_cases env ans world hm with
    ⟨hkind, h⟩ | ⟨hkind, h⟩ | ⟨hkind, span, pieces, split, hloop, h⟩
  · simp [h, hkind]
  · simp [h, hkind]
  · obtain ⟨hpieces, hhas⟩ := splitLoop_spec env ans ccc.comp.content span u hu
      (splitFuel span) span.eventStart span.dayEnd 0 [] world (fun _ hp => nomatch hp)
    rw [hloop] at hpieces hhas
    refine ⟨by rw [h]; exact hpieces, ?_⟩
    rw [h, hkind]
    simp [has_remove, hhas]

theorem splitStep_changed (env : CalendarEnv τ ζ) (pass : SplitPass τ β)
    (turn : Change (ECalEvent τ β) × SplitAnswers) (hm : turn.1.type = .modified) :
    (splitStep env pass turn).changed = pass.changed ++ [dayOutcome env turn.1] := by
  obtain ⟨hmulti, hccc⟩ := processMultiDay_outcome env turn.2 pass.world hm
  unfold splitStep
  rw [← Prod.eta (dayOutcome env turn.1), ← hmulti, ← hccc]
  obtain ⟨multi, ccc, pieces, world⟩ := processMultiDay env turn.2 pass.world turn.1
  cases multi with
  | false => rfl
  | true => rfl

theorem splitStep_server (env : CalendarEnv τ ζ) (pass : SplitPass τ β)
    (turn : Change (ECalEvent τ β) × SplitAnswers) :
    (splitStep env pass turn).world = (processMultiDay env turn.2 pass.world turn.1).2.2.2 ∧
    ∀ ccc ∈ (splitStep env pass turn).added, ccc ∈ pass.added ∨
      ccc.type = .added ∧
        ccc.comp ∈ (processMultiDay env turn.2 pass.world turn.1).2.2.1 := by
  unfold splitStep
  obtain ⟨multi, ccc, pieces, world⟩ := processMultiDay env turn.2 pass.world turn.1
  cases multi with
  | false => exact ⟨rfl, fun ccc hc => Or.inl hc⟩
  | true =>
      refine ⟨rfl, fun ccc hc => ?_⟩
      cases List.mem_append.mp hc with
      | inl hc => exact Or.inl hc
      | inr hc =>
          obtain ⟨p, hp, rfl⟩ := List.mem_map.mp hc
          exact Or.inr ⟨rfl, hp⟩

/-- Over the whole pass every change has its outcome, and the others are additions. -/
theorem foldl_splitStep_changed (env : CalendarEnv τ ζ)
    (turns : List (Change (ECalEvent τ β) × SplitAnswers)) (pass : SplitPass τ β)
    (hturns : ∀ turn ∈ turns, turn.1.type = .modified)
    (hadded : ∀ ccc ∈ pass.added, ccc.type = .added) :
    (turns.foldl (splitStep env) pass).changed =
      pass.changed ++ turns.map (fun turn => dayOutcome env turn.1) ∧
    ∀ ccc ∈ (turns.foldl (splitStep env) pass).added, ccc.type = .added := by
  induction turns generalizing pass with
  | nil => simpa using hadded
  | cons turn turns ih =>
      have hstep := splitStep_changed env pass turn (hturns turn (by simp))
      obtain ⟨hchanged, hadded'⟩ := ih (splitStep env pass turn)
        (fun t ht => hturns t (by simp [ht])) fun ccc hc =>
          ((splitStep_server env pass turn).2 ccc hc).elim (hadded ccc) And.left
      rw [List.foldl_cons]
      exact ⟨by rw [hchanged, hstep]; simp, hadded'⟩

theorem foldl_splitStep_server (env : CalendarEnv τ ζ) (u : String)
    (turns : List (Change (ECalEvent τ β) × SplitAnswers)) (pass : SplitPass τ β)
    (hturns : ∀ turn ∈ turns, turn.1.type = .modified ∧ NoPiece env turn.2 u)
    (hadded : ∀ ccc ∈ pass.added, ccc.comp.uid ≠ u) :
    (∀ ccc ∈ (turns.foldl (splitStep env) pass).added, ccc.comp.uid ≠ u) ∧
    (turns.foldl (splitStep env) pass).world.store.has u =
      (pass.world.store.has u && !turns.any (splitAway env u)) := by
  induction turns generalizing pass with
  | nil => simpa using hadded
  | cons turn turns ih =>
      obtain ⟨hm, hu⟩ := hturns turn (by simp)
      obtain ⟨hpieces, hhas⟩ := processMultiDay_server env turn.2 pass.world hm hu
      obtain ⟨hworld, hcases⟩ := splitStep_server env pass turn
      obtain ⟨hadded', hhas'⟩ := ih (splitStep env pass turn)
        (fun t ht => hturns t (by simp [ht])) fun ccc hc =>
          (hcases ccc hc).elim (hadded ccc) fun h => hpieces _ h.2
      rw [List.foldl_cons]
      refine ⟨hadded', ?_⟩
      rw [hhas', hworld, hhas, List.any_cons, Bool.not_or, Bool.and_assoc]

end Pass

end GnomePilot
