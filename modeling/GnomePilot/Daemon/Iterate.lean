import GnomePilot.Daemon.Manager
import Mathlib.Data.List.TakeWhile

/-!
# What a pass over the databases returns

`iterate_dbs` with its result: the list of databases is read, the matching conduit of
each is run and the backup conduits after it.  One variable holds the result of the
last run only; `reportsFailures_iff` says when that is enough for the caller.
-/

namespace GnomePilot.Daemon

/-- A database, and what the iterator returns if it is called on it. -/
structure DBTurn where
  db : DBEntry
  result : Int
  deriving DecidableEq, Repr

/-- The databases on the pilot, of which the first `listed` are read before
`dlp_ReadDBList` fails. -/
structure DBSweep where
  onPilot : List DBTurn
  listed : Nat

def DBSweep.dbs (sweep : DBSweep) : List DBTurn := sweep.onPilot.take sweep.listed

/-- What the loop has done: the result so far, the names for
`gpilot_manager_save_databases`, the databases it came to the end of its body with, the
runs of the iterator and those of the backup conduits. -/
structure IterateState where
  error : Int
  dbList : List String
  processed : List DBTurn
  calls : List (Conduit × DBTurn)
  backups : List (Conduit × DBTurn)
  deriving DecidableEq, Repr

/-- The body of the loop for a database that is not excluded. -/
def iterateTurn (conlist bconlist : List Conduit) (t : DBTurn) (st : IterateState) :
    IterateState :=
  let st := match findMatchingConduit conlist t.db with
    | some conduit => { st with error := t.result, calls := st.calls ++ [(conduit, t)] }
    | none => st
  { st with
    processed := st.processed ++ [t]
    backups := st.backups ++ bconlist.map (fun conduit => (conduit, t)) }

def iterateLoop (conlist bconlist : List Conduit) : List DBTurn → IterateState → IterateState
  | [], st => st
  | t :: rest, st =>
    if t.db.opens = false then { st with error := -1 }
    else
      let st := { st with dbList := st.dbList ++ [t.db.name] }
      if t.db.excludeFromSync then iterateLoop conlist bconlist rest st
      else iterateLoop conlist bconlist rest (iterateTurn conlist bconlist t st)

/-- `iterate_dbs`; what is returned is `error`. -/
def DBSweep.iterateDbs (sweep : DBSweep) (conlist bconlist : List Conduit) : IterateState :=
  iterateLoop conlist bconlist sweep.dbs ⟨0, [], [], [], []⟩

/-! ## What the loop comes to -/

/-- The databases the loop comes to. -/
def reached (dbs : List DBTurn) : List DBTurn := dbs.takeWhile (fun t => t.db.opens)

def included (t : DBTurn) : Bool := !t.db.excludeFromSync

def iteratorCall (conlist : List Conduit) (t : DBTurn) : Option (Conduit × DBTurn) :=
  (findMatchingConduit conlist t.db).map (fun conduit => (conduit, t))

def lastResult (error : Int) (calls : List (Conduit × DBTurn)) : Int :=
  (calls.getLast?.map (fun call => call.2.result)).getD error

theorem lastResult_append (error : Int) (calls calls' : List (Conduit × DBTurn)) :
    lastResult error (calls ++ calls') = lastResult (lastResult error calls) calls' := by
  unfold lastResult
  rw [List.getLast?_append]
  cases calls'.getLast? with
  | none => simp
  | some call => simp

/-- The state after the loop has run over databases that are opened. -/
def IterateState.after (conlist bconlist : List Conduit) (dbs : List DBTurn)
    (st : IterateState) : IterateState where
  error := lastResult st.error ((dbs.filter included).filterMap (iteratorCall conlist))
  dbList := st.dbList ++ dbs.map (fun t => t.db.name)
  processed := st.processed ++ dbs.filter included
  calls := st.calls ++ (dbs.filter included).filterMap (iteratorCall conlist)
  backups := st.backups ++
    (dbs.filter included).flatMap (fun t => bconlist.map (fun conduit => (conduit, t)))

theorem IterateState.after_nil (conlist bconlist : List Conduit) (st : IterateState) :
    st.after conlist bconlist [] = st := by
  simp [after, lastResult]

/-- One turn more, at the front. -/
theorem IterateState.after_cons (conlist bconlist : List Conduit) (t : DBTurn)
    (rest : List DBTurn) (st : IterateState) :
    st.after conlist bconlist (t :: rest) =
      (if t.db.excludeFromSync then { st with dbList := st.dbList ++ [t.db.name] }
        else iterateTurn conlist bconlist t
          { st with dbList := st.dbList ++ [t.db.name] }).after conlist bconlist rest := by
  cases hex : t.db.excludeFromSync with
  | true => simp [after, included, hex]
  | false =>
      cases hfind : findMatchingConduit conlist t.db with
      | none => simp [after, included, hex, iterateTurn, iteratorCall, hfind]
      | some conduit =>
          have hone := lastResult_append st.error [(conduit, t)]
            ((rest.filter included).filterMap (iteratorCall conlist))
          have hresult : lastResult st.error [(conduit, t)] = t.result := rfl
          rw [List.singleton_append, hresult] at hone
          simp [after, included, hex, iterateTurn, iteratorCall, hfind, hone]

/-- The loop stops at the first database that is not opened, with -1. -/
theorem iterateLoop_eq (conlist bconlist : List Conduit) (dbs : List DBTurn)
    (st : IterateState) :
    iterateLoop conlist bconlist dbs st =
      if dbs.all (fun t => t.db.opens) then st.after conlist bconlist dbs
      else { st.after conlist bconlist (reached dbs) with error := -1 } := by
  induction dbs generalizing st with
  | nil => simp [iterateLoop, IterateState.after_nil]
  | cons t rest ih =>
      unfold iterateLoop
      cases hopens : t.db.opens with
      | false => simp [reached, hopens, IterateState.after_nil]
      | true =>
          have hreached : reached (t :: rest) = t :: reached rest :=
            List.takeWhile_cons_of_pos hopens
          rw [if_neg (by decide), hreached, IterateState.after_cons, IterateState.after_cons]
          cases hex : t.db.excludeFromSync with
          | true => simp [hopens, ih]
          | false => simp [hopens, ih]

theorem reached_eq_self {dbs : List DBTurn} (h : ∀ t ∈ dbs, t.db.opens = true) :
    reached dbs = dbs :=
  List.takeWhile_eq_self_iff.mpr h

namespace DBSweep

/-- `dlp_OpenConduit` fails for a database of the list. -/
def Breaks (sweep : DBSweep) : Prop := ∃ t ∈ sweep.dbs, t.db.opens = false

theorem iterateDbs_of_breaks {sweep : DBSweep} (h : sweep.Breaks)
    (conlist bconlist : List Conduit) : (sweep.iterateDbs conlist bconlist).error = -1 := by
  obtain ⟨t, ht, hopens⟩ := h
  have hall : sweep.dbs.all (fun t => t.db.opens) = false := by
    rw [List.all_eq_false]
    exact ⟨t, ht, by simp [hopens]⟩
  unfold iterateDbs
  rw [iterateLoop_eq, hall]
  rfl

theorem iterateDbs_of_not_breaks {sweep : DBSweep} (h : ¬ sweep.Breaks)
    (conlist bconlist : List Conduit) : sweep.iterateDbs conlist bconlist =
      IterateState.after conlist bconlist sweep.dbs ⟨0, [], [], [], []⟩ := by
  have hall : sweep.dbs.all (fun t => t.db.opens) = true := by
    rw [List.all_eq_true]
    intro t ht
    cases hopens : t.db.opens with
    | true => rfl
    | false => exact absurd ⟨t, ht, hopens⟩ h
  unfold iterateDbs
  rw [iterateLoop_eq, hall, if_pos rfl]

theorem calls_iterateDbs (sweep : DBSweep) (conlist bconlist : List Conduit) :
    (sweep.iterateDbs conlist bconlist).calls =
      ((reached sweep.dbs).filter included).filterMap (iteratorCall conlist) := by
  unfold iterateDbs
  rw [iterateLoop_eq]
  split
  next hall => simp [IterateState.after, reached_eq_self (List.all_eq_true.mp hall)]
  next => simp [IterateState.after]

theorem manager_calls_eq (sweep : DBSweep) (conlist bconlist : List Conduit) (stamp : Nat)
    (iter : Conduit → Option Operation) :
    Daemon.iterateDbs stamp conlist iter (sweep.dbs.map DBTurn.db) =
      (sweep.iterateDbs conlist bconlist).calls.filterMap (fun call =>
        (iter call.1).map (fun operation => ⟨call.1.name, call.2.db.name, operation, stamp⟩)) := by
  rw [calls_iterateDbs]
  generalize sweep.dbs = dbs
  induction dbs with
  | nil => rfl
  | cons t rest ih =>
      rw [List.map_cons]
      unfold Daemon.iterateDbs
      cases hopens : t.db.opens with
      | false => simp [reached, hopens]
      | true =>
          have hreached : reached (t :: rest) = t :: reached rest :=
            List.takeWhile_cons_of_pos hopens
          rw [if_neg (by decide), hreached, ih]
          cases hex : t.db.excludeFromSync with
          | true => simp [included, hex]
          | false =>
              cases hfind : findMatchingConduit conlist t.db with
              | none => simp [included, hex, iteratorCall, hfind]
              | some conduit =>
                  cases hiter : iter conduit with
                  | none => simp [included, hex, iteratorCall, hfind, hiter]
                  | some operation => simp [included, hex, iteratorCall, hfind, hiter]

end DBSweep

/-! ## When every failure is reported -/

/-- The databases the iterator is called on if the loop is not cut short. -/
def DBSweep.called (sweep : DBSweep) (conlist : List Conduit) : List DBTurn :=
  (sweep.dbs.filter included).filter (fun t => (findMatchingConduit conlist t.db).isSome)

/-- The result is not 0 if a run of the iterator failed or the loop was cut short, and
0 only if every database that is not excluded was processed and no run failed. -/
def ReportsFailures (failed : Int → Bool) (conlist bconlist : List Conduit) (sweep : DBSweep) :
    Prop :=
  (((∃ call ∈ (sweep.iterateDbs conlist bconlist).calls, failed call.2.result = true) ∨
      sweep.Breaks) → (sweep.iterateDbs conlist bconlist).error ≠ 0) ∧
    ((sweep.iterateDbs conlist bconlist).error = 0 →
      (sweep.iterateDbs conlist bconlist).processed = sweep.onPilot.filter included ∧
        ∀ call ∈ (sweep.iterateDbs conlist bconlist).calls, failed call.2.result = false)

theorem map_snd_filterMap_iteratorCall (conlist : List Conduit) (dbs : List DBTurn) :
    (dbs.filterMap (iteratorCall conlist)).map Prod.snd =
      dbs.filter (fun t => (findMatchingConduit conlist t.db).isSome) := by
  induction dbs with
  | nil => rfl
  | cons t rest ih =>
      cases hfind : findMatchingConduit conlist t.db with
      | none => simp [iteratorCall, hfind, ih]
      | some conduit => simp [iteratorCall, hfind, ih]

/-- The result of a loop that is not cut short is that of the last run. -/
theorem lastResult_eq_zero_iff (conlist : List Conduit) (sweep : DBSweep) :
    lastResult 0 ((sweep.dbs.filter included).filterMap (iteratorCall conlist)) = 0 ↔
      ¬ ∃ t, (sweep.called conlist).getLast? = some t ∧ t.result ≠ 0 := by
  unfold DBSweep.called
  rw [← map_snd_filterMap_iteratorCall, List.getLast?_map]
  unfold lastResult
  cases ((sweep.dbs.filter included).filterMap (iteratorCall conlist)).getLast? with
  | none => simp
  | some call => simp

theorem forall_calls_iff (failed : Int → Bool) (conlist : List Conduit) (sweep : DBSweep) :
    (∀ call ∈ (sweep.dbs.filter included).filterMap (iteratorCall conlist),
        failed call.2.result = false) ↔
      ∀ t ∈ sweep.called conlist, failed t.result = false := by
  unfold DBSweep.called
  rw [← map_snd_filterMap_iteratorCall, List.forall_mem_map]

/-- The list holds every database that is not excluded exactly when those left out of it
are. -/
theorem filter_dbs_eq_iff (sweep : DBSweep) :
    sweep.dbs.filter included = sweep.onPilot.filter included ↔
      ∀ t ∈ sweep.onPilot.drop sweep.listed, t.db.excludeFromSync = true := by
  have hsplit : sweep.onPilot.filter included =
      sweep.dbs.filter included ++ (sweep.onPilot.drop sweep.listed).filter included := by
    rw [← List.filter_append, DBSweep.dbs, List.take_append_drop]
  rw [hsplit, List.self_eq_append_right, List.filter_eq_nil_iff]
  simp [included]

/-- Whichever results count as failures. -/
theorem reportsFailures_iff (failed : Int → Bool) (conlist bconlist : List Conduit)
    (sweep : DBSweep) :
    ReportsFailures failed conlist bconlist sweep ↔
      sweep.Breaks ∨
        (∃ t, (sweep.called conlist).getLast? = some t ∧ t.result ≠ 0) ∨
        ((∀ t ∈ sweep.called conlist, failed t.result = false) ∧
          ∀ t ∈ sweep.onPilot.drop sweep.listed, t.db.excludeFromSync = true) := by
  unfold ReportsFailures
  by_cases hbreaks : sweep.Breaks
  · simp [DBSweep.iterateDbs_of_breaks hbreaks, hbreaks]
  · rw [DBSweep.iterateDbs_of_not_breaks hbreaks]
    simp only [IterateState.after, List.nil_append]
    have hfailed : (∃ call ∈ (sweep.dbs.filter included).filterMap (iteratorCall conlist),
        failed call.2.result = true) ↔ ¬ ∀ t ∈ sweep.called conlist, failed t.result = false := by
      rw [← forall_calls_iff]
      push Not
      simp
    rw [hfailed, forall_calls_iff, filter_dbs_eq_iff]
    by_cases hlast : ∃ t, (sweep.called conlist).getLast? = some t ∧ t.result ≠ 0
    · have hresult := mt (lastResult_eq_zero_iff conlist sweep).mp (not_not.mpr hlast)
      simp [hlast, hresult]
    · have hresult := (lastResult_eq_zero_iff conlist sweep).mpr hlast
      rw [hresult]
      constructor
      · rintro ⟨-, hzero⟩
        obtain ⟨hlisted, hnone⟩ := hzero rfl
        exact Or.inr (Or.inr ⟨hnone, hlisted⟩)
      · rintro (h | h | ⟨hnone, hlisted⟩)
        · exact absurd h hbreaks
        · exact absurd h hlast
        · refine ⟨?_, fun _ => ⟨hlisted, hnone⟩⟩
          rintro (hfailed | h)
          · exact absurd hnone hfailed
          · exact absurd h hbreaks

/-! ## A failure that is masked -/

def toDoConduit : Conduit := ⟨"todo", .standard 1 "ToDoDB", .synchronize, .notSet⟩

def memoConduit : Conduit := ⟨"memo", .standard 2 "MemoDB", .synchronize, .notSet⟩

/-- The run on the first database fails, that on the second does not. -/
def toDoFails : DBSweep where
  onPilot := [⟨⟨"ToDoDB", 1, false, true⟩, -1⟩, ⟨⟨"MemoDB", 2, false, true⟩, 0⟩]
  listed := 2

theorem toDoFailure_masked :
    (toDoFails.iterateDbs [toDoConduit, memoConduit] []).error = 0 ∧
      (toDoFails.iterateDbs [toDoConduit, memoConduit] []).calls.map
        (fun call => call.2.result) = [-1, 0] ∧
      ¬ ReportsFailures (fun result => result < 0) [toDoConduit, memoConduit] [] toDoFails := by
  refine ⟨by decide, by decide, fun h => ?_⟩
  exact h.1 (Or.inl ⟨(toDoConduit, ⟨⟨"ToDoDB", 1, false, true⟩, -1⟩), by decide, by decide⟩)
    (by decide)

end GnomePilot.Daemon
