import GnomePilot.Conduits.InstallLoop

/-!
# All of a file or nothing

What the calls of an install leave on the pilot, and when that is the whole file or
nothing.  Two ways out return 0 with the file not installed: `goto close_and_exit`
after the database could not be created, and the end of the entry loop after an entry
could not be read.
-/

namespace GnomePilot.FileConduit

/-! ## What the calls leave -/

/-- The writes to the installed database that succeeded; `none` while there is no such
database.  The first `dlp_DeleteDB` comes before it is created. -/
def dlpEffect (deleteFails : Bool) (db : Option (List DlpCall)) (call : DlpCall) :
    Option (List DlpCall) :=
  match call with
  | .createDB _ true => some []
  | .deleteDB _ => if deleteFails then db else none
  | .writeResource _ _ _ true => db.map (· ++ [call])
  | .writeRecord _ _ _ _ true => db.map (· ++ [call])
  | _ => db

def leftOnPilot (deleteFails : Bool) (calls : List DlpCall) : Option (List DlpCall) :=
  calls.foldl (dlpEffect deleteFails) none

def wholeDB (file : PiFile) : List DlpCall :=
  (file.entries.filter (fun e => 0 < e.data.length)).map (fun e => writeCall file.info e true)

/-- The install comes back with 0, the whole database is on the pilot; or with less than
0, no database is left and the file stays. -/
def AllOrNothing (fl : Link) (deleteFails rm : Bool) (file : Option PiFile) : Prop :=
  ∃ outcome calls, fileInstallDb fl file = some (outcome, calls) ∧
    ((outcome.result = 0 ∧ ∃ f, file = some f ∧
        leftOnPilot deleteFails calls = some (wholeDB f)) ∨
      (outcome.result < 0 ∧ leftOnPilot deleteFails calls = none ∧ unlinks rm outcome = false))

theorem dlpEffect_write (deleteFails ok : Bool) (info : DBInfo) (e : Entry)
    (db : List DlpCall) : dlpEffect deleteFails (some db) (writeCall info e ok) =
      some (if ok then db ++ [writeCall info e true] else db) := by
  unfold writeCall
  cases info.resource <;> cases ok <;> rfl

theorem foldl_dlpEffect_writes (deleteFails : Bool) (info : DBInfo) (es : List Entry)
    (db : List DlpCall) :
    (es.map (fun e => writeCall info e true)).foldl (dlpEffect deleteFails) (some db) =
      some (db ++ es.map (fun e => writeCall info e true)) := by
  induction es generalizing db with
  | nil => simp
  | cons e es ih =>
      rw [List.map_cons, List.foldl_cons, dlpEffect_write, if_pos rfl, ih, List.append_assoc]
      rfl

/-- The calls up to the loop leave an empty database. -/
theorem leftOnPilot_created {fl : Link} {info info' : DBInfo} {created : List DlpCall}
    (h : createDB fl info = (some info', created)) (deleteFails : Bool) (name : String)
    (app : List UInt8) :
    leftOnPilot deleteFails
      ([.openConduit true, .deleteDB name] ++ created ++ announceCalls info' app) = some [] := by
  unfold leftOnPilot announceCalls
  unfold createDB at h
  split at h
  · split at h
    · cases h
    · split at h
      · cases h
      · obtain ⟨-, rfl⟩ := Prod.mk.inj h
        by_cases happ : 0 < app.length <;> simp [dlpEffect, happ]
  · obtain ⟨-, rfl⟩ := Prod.mk.inj h
    by_cases happ : 0 < app.length <;> simp [dlpEffect, happ]

theorem foldl_dlpEffect_finish (deleteFails : Bool) (info : DBInfo) (st : LoopState)
    (db : List DlpCall) :
    (finishInstall info st).2.foldl (dlpEffect deleteFails) (some db) =
      if st.result = 0 ∨ deleteFails = true then some db else none := by
  unfold finishInstall
  by_cases hresult : st.result = 0
  · cases hreset : st.reset <;> simp [hresult, dlpEffect]
  · cases deleteFails <;> simp [hresult, dlpEffect]

/-! ## The ways out -/

/-- `dlp_CreateDB` succeeds, under the name of the file or the one tried next. -/
def Created (fl : Link) (info : DBInfo) : Prop :=
  fl.createDB info.name = false ∨
    (∃ name, retryName (graffitiFlags info) = some name ∧ fl.createDB name = false)

theorem graffitiFlags_keeps (info : DBInfo) :
    (graffitiFlags info).name = info.name ∧ (graffitiFlags info).resource = info.resource := by
  unfold graffitiFlags
  split <;> exact ⟨rfl, rfl⟩

theorem createDB_of_created {fl : Link} {info : DBInfo} (h : Created fl info) :
    ∃ info' created, createDB fl (graffitiFlags info) = (some info', created) ∧
      info'.resource = info.resource := by
  obtain ⟨hname, hresource⟩ := graffitiFlags_keeps info
  unfold createDB
  rw [hname]
  cases hfirst : fl.createDB info.name with
  | false => exact ⟨graffitiFlags info, _, rfl, hresource⟩
  | true =>
      rcases h with h | ⟨name, hretry, hsecond⟩
      · rw [hfirst] at h
        contradiction
      · rw [hretry]
        simp only [hsecond, if_true, Bool.false_eq_true, if_false]
        exact ⟨_, _, rfl, hresource⟩

theorem createDB_of_not_created {fl : Link} {info : DBInfo} (h : ¬ Created fl info) :
    ∃ created, createDB fl (graffitiFlags info) = (none, created) := by
  obtain ⟨hfirst, hsecond⟩ := not_or.mp h
  rw [Bool.not_eq_false] at hfirst
  unfold createDB
  rw [(graffitiFlags_keeps info).1, hfirst]
  cases hretry : retryName (graffitiFlags info) with
  | none => exact ⟨_, rfl⟩
  | some name =>
      have hname : fl.createDB name = true := by
        cases hcreate : fl.createDB name with
        | true => rfl
        | false => exact absurd ⟨name, hretry, hcreate⟩ hsecond
      simp only [hname, if_true]
      exact ⟨_, rfl⟩

def installStart (fl : Link) (info : DBInfo) (file : PiFile) : LoopState :=
  loopStart fl info (appBlock fl info file.appInfo)
    (decide (file.info.creator = piMktag 'p' 't' 'c' 'h') || file.info.reset)

section WaysOut

variable {fl : Link} {deleteFails rm : Bool} {f : PiFile}

theorem allOrNothing_of_unopened {file : Option PiFile}
    (h : fl.openConduit = true ∨ fl.openFile = true ∨ file = none) :
    AllOrNothing fl deleteFails rm file := by
  unfold AllOrNothing fileInstallDb
  cases hconduit : fl.openConduit with
  | true =>
      exact ⟨.cancelled, _, rfl, Or.inr ⟨by decide, rfl, by simp [unlinks]⟩⟩
  | false =>
      have hfile : (if fl.openFile then none else file) = none := by
        rcases h with h | h | h
        · rw [hconduit] at h
          contradiction
        · rw [h]
          rfl
        · rw [h, ite_self]
      rw [hfile]
      exact ⟨.unreadable, _, rfl, Or.inr ⟨by decide, rfl, by simp [unlinks]⟩⟩

def createdCalls (fl : Link) (f : PiFile) (info : DBInfo) (created : List DlpCall)
    (st : LoopState) : List DlpCall :=
  [.openConduit true, .deleteDB f.info.name] ++ created ++
    announceCalls info (appBlock fl info f.appInfo) ++ st.calls ++ (finishInstall info st).2

theorem leftOnPilot_createdCalls {info : DBInfo} {created : List DlpCall}
    (hcreate : createDB fl (graffitiFlags f.info) = (some info, created)) {st : LoopState}
    {written : List DlpCall}
    (hwritten : st.calls.foldl (dlpEffect deleteFails) (some []) = some written) :
    leftOnPilot deleteFails (createdCalls fl f info created st) =
      if st.result = 0 ∨ deleteFails = true then some written else none := by
  have hbefore := leftOnPilot_created hcreate deleteFails f.info.name
    (appBlock fl info f.appInfo)
  unfold leftOnPilot at hbefore ⊢
  unfold createdCalls
  rw [List.foldl_append, List.foldl_append, hbefore, hwritten, foldl_dlpEffect_finish]

theorem finishInstall_fst (info : DBInfo) (st : LoopState) :
    (finishInstall info st).1 = if st.result = 0 then .installed else .failed := by
  unfold finishInstall
  split <;> rfl

variable (hconduit : fl.openConduit = false) (hopen : fl.openFile = false)

include hconduit hopen

theorem not_allOrNothing_of_not_created (h : ¬ Created fl f.info) :
    ¬ AllOrNothing fl deleteFails rm (some f) := by
  obtain ⟨created, hcreate⟩ := createDB_of_not_created h
  rintro ⟨outcome, calls, hrun, hcase⟩
  unfold fileInstallDb at hrun
  simp only [hconduit, hopen, Bool.false_eq_true, if_false, hcreate] at hrun
  obtain ⟨rfl, rfl⟩ := Prod.mk.inj (Option.some.inj hrun)
  rcases hcase with ⟨-, f', -, hleft⟩ | ⟨hneg, -⟩
  · -- no call creates the database
    have hcreated : created.foldl (dlpEffect deleteFails) none = none := by
      unfold createDB at hcreate
      split at hcreate
      · split at hcreate
        · obtain ⟨-, rfl⟩ := Prod.mk.inj hcreate
          rfl
        · split at hcreate
          · obtain ⟨-, rfl⟩ := Prod.mk.inj hcreate
            rfl
          · cases hcreate
      · cases hcreate
    simp [leftOnPilot, dlpEffect, hcreated] at hleft
  · exact absurd hneg (by decide)

theorem fileInstallDb_of_loop {info : DBInfo} {created : List DlpCall}
    (hcreate : createDB fl (graffitiFlags f.info) = (some info, created)) {st : LoopState}
    (hloop : installLoop fl info f.entries (f.entries.length + 1) (installStart fl info f) =
      some st) :
    fileInstallDb fl (some f) =
      some ((finishInstall info st).1, createdCalls fl f info created st) := by
  unfold fileInstallDb
  unfold installStart at hloop
  simp only [hconduit, hopen, Bool.false_eq_true, if_false, hcreate, hloop, Option.map_some]
  rfl

theorem allOrNothing_iff_of_loop {info : DBInfo} {created : List DlpCall}
    (hcreate : createDB fl (graffitiFlags f.info) = (some info, created))
    {st : LoopState} {written : List DlpCall}
    (hloop : installLoop fl info f.entries (f.entries.length + 1) (installStart fl info f) =
      some st)
    (hwritten : st.calls.foldl (dlpEffect deleteFails) (some []) = some written) :
    AllOrNothing fl deleteFails rm (some f) ↔
      if st.result = 0 then written = wholeDB f else deleteFails = false := by
  have hrun := fileInstallDb_of_loop hconduit hopen hcreate hloop
  have hleft := @leftOnPilot_createdCalls fl deleteFails f info created hcreate st written hwritten
  have houtcome := finishInstall_fst info st
  unfold AllOrNothing
  simp only [hrun, Option.some.injEq, Prod.mk.injEq]
  by_cases hresult : st.result = 0
  · rw [if_pos hresult] at houtcome ⊢
    constructor
    · rintro ⟨outcome, calls, ⟨rfl, rfl⟩, ⟨-, f', rfl, hwhole⟩ | ⟨hneg, -⟩⟩
      · rw [hleft, if_pos (Or.inl hresult)] at hwhole
        exact Option.some.inj hwhole
      · rw [houtcome] at hneg
        exact absurd hneg (by decide)
    · rintro rfl
      refine ⟨_, _, ⟨rfl, rfl⟩, Or.inl ⟨?_, f, rfl, ?_⟩⟩
      · rw [houtcome]
        rfl
      · rw [hleft, if_pos (Or.inl hresult)]
  · rw [if_neg hresult] at houtcome ⊢
    constructor
    · rintro ⟨outcome, calls, ⟨rfl, rfl⟩, ⟨hzero, -⟩ | ⟨-, hnone, -⟩⟩
      · rw [houtcome] at hzero
        exact absurd hzero (by decide)
      · cases hdelete : deleteFails with
        | false => rfl
        | true =>
            rw [hleft, if_pos (Or.inr hdelete)] at hnone
            contradiction
    · intro hdelete
      refine ⟨_, _, ⟨rfl, rfl⟩, Or.inr ⟨?_, ?_, ?_⟩⟩
      · rw [houtcome]
        decide
      · rw [hleft, if_neg (by simp [hresult, hdelete])]
      · rw [houtcome]
        simp [unlinks]

end WaysOut

/-! ## The entries of a created database -/

theorem installsAll_or_split (fl : Link) (i : Nat) (es : List Entry) :
    InstallsAll fl i es ∨ ∃ done e rest, es = done ++ e :: rest ∧ InstallsAll fl i done ∧
      ¬ Installs fl (i + done.length) e := by
  induction es generalizing i with
  | nil => exact Or.inl (installsAll_nil fl i)
  | cons e es ih =>
      by_cases h : Installs fl i e
      · rcases ih (i + 1) with hall | ⟨done, e', rest, rfl, hdone, hnot⟩
        · exact Or.inl (installsAll_cons.mpr ⟨h, hall⟩)
        · refine Or.inr ⟨e :: done, e', rest, rfl, installsAll_cons.mpr ⟨h, hdone⟩, ?_⟩
          rwa [List.length_cons, ← Nat.add_assoc, Nat.add_right_comm]
      · exact Or.inr ⟨[], e, es, rfl, installsAll_nil fl i, h⟩

/-- The length the loop starts with, as far as it matters: of the application block for
resources, of nothing for records. -/
def staleLen (fl : Link) (file : PiFile) : Nat :=
  if file.info.resource then file.appInfo.length else fl.unreadLen

section Entries

variable {fl : Link} {deleteFails rm : Bool} {f : PiFile} {info : DBInfo}

theorem stale_iff (hresource : info.resource = f.info.resource) :
    65535 < (installStart fl info f).len ↔ 65535 < staleLen fl f := by
  unfold installStart loopStart staleLen appBlock
  simp only [hresource]
  split
  · split
    · simp only [List.length_append, List.length_replicate]
      omega
    · rfl
  · rfl

/-- Where the loop stands after the first entries were installed. -/
theorem wroteEntries_start (fl : Link) (info : DBInfo) (f : PiFile) (done : List Entry) :
    ((installStart fl info f).wroteEntries info done).index = done.length ∧
      ((installStart fl info f).wroteEntries info done).result = 0 ∧
      ((installStart fl info f).wroteEntries info done).calls =
        done.map (fun e => writeCall info e true) := by
  obtain ⟨hindex, hresult, hcalls, -⟩ := wroteEntries_fields info (installStart fl info f) done
  refine ⟨?_, hresult, hcalls⟩
  rw [hindex]
  exact Nat.zero_add _

/-- The loop over a file whose first entries are installed comes to the next. -/
theorem installLoop_split {done rest : List Entry} {e : Entry}
    (hsplit : f.entries = done ++ e :: rest) (hdone : InstallsAll fl 0 done)
    (hstop : (installTurn fl info f.entries
      ((installStart fl info f).wroteEntries info done)).goesOn f.entries = false) :
    installLoop fl info f.entries (f.entries.length + 1) (installStart fl info f) =
      some (installTurn fl info f.entries ((installStart fl info f).wroteEntries info done)) := by
  have hrun := @installLoop_installsAll fl info [] done (e :: rest) (installStart fl info f)
    rfl rfl hdone (rest.length + 2)
  have hlength : f.entries.length + 1 = done.length + (rest.length + 2) := by
    rw [hsplit, List.length_append, List.length_cons]
    omega
  rw [List.nil_append, ← hsplit, if_neg (fun h => List.cons_ne_nil _ _ h.2)] at hrun
  rw [hlength, hrun]
  simp only [installLoop]
  rw [hstop]
  rfl

theorem getElem?_split {entries done rest : List Entry} {e : Entry}
    (hsplit : entries = done ++ e :: rest) : entries[done.length]? = some e := by
  rw [hsplit, List.getElem?_append_right (Nat.le_refl _), Nat.sub_self]
  rfl

theorem map_writeCall_eq (hresource : info.resource = f.info.resource) (es : List Entry) :
    es.map (fun e => writeCall info e true) = es.map (fun e => writeCall f.info e true) := by
  unfold writeCall
  rw [hresource]

theorem filter_nonempty_of_installsAll {i : Nat} {es : List Entry} (h : InstallsAll fl i es) :
    es.filter (fun e => 0 < e.data.length) = es := by
  rw [List.filter_eq_self]
  intro e he
  obtain ⟨j, hj⟩ := List.getElem?_of_mem he
  simpa using (h j e hj).2.1

variable (hconduit : fl.openConduit = false) (hopen : fl.openFile = false)
  (hcreated : Created fl f.info)

include hconduit hopen hcreated

theorem allOrNothing_of_installsAll (hne : f.entries ≠ []) (hall : InstallsAll fl 0 f.entries) :
    AllOrNothing fl deleteFails rm (some f) := by
  obtain ⟨info, created, hcreate, hresource⟩ := createDB_of_created hcreated
  have hrun := @installLoop_installsAll fl info [] f.entries [] (installStart fl info f) rfl rfl
    hall 1
  rw [List.nil_append, List.append_nil, if_pos ⟨hne, rfl⟩] at hrun
  obtain ⟨-, hresult, hcalls⟩ := wroteEntries_start fl info f f.entries
  have hwritten := foldl_dlpEffect_writes deleteFails info f.entries []
  rw [← hcalls, List.nil_append] at hwritten
  rw [allOrNothing_iff_of_loop hconduit hopen hcreate hrun hwritten, if_pos hresult, wholeDB,
    filter_nonempty_of_installsAll hall, hcalls, map_writeCall_eq hresource]

/-- Nothing is read of a file without entries. -/
theorem allOrNothing_iff_of_nil (hnil : f.entries = []) :
    AllOrNothing fl deleteFails rm (some f) ↔
      (65535 < staleLen fl f → deleteFails = false) := by
  obtain ⟨info, created, hcreate, hresource⟩ := createDB_of_created hcreated
  obtain ⟨hkeep, hcalls, hresult⟩ := @installTurn_of_unread fl info f.entries
    (installStart fl info f) (Or.inr (by rw [hnil]; rfl))
  have hloop : installLoop fl info f.entries (f.entries.length + 1) (installStart fl info f) =
      some (installTurn fl info f.entries (installStart fl info f)) := by
    simp only [installLoop]
    rw [if_neg (by simp [LoopState.goesOn, hkeep])]
  have hzero : (installStart fl info f).result = 0 := rfl
  rw [allOrNothing_iff_of_loop hconduit hopen hcreate hloop (by rw [hcalls]; rfl), hresult,
    hzero, ← stale_iff hresource]
  by_cases hstale : 65535 < (installStart fl info f).len
  · simp [hstale]
  · simp [hstale, wholeDB, hnil]

variable {done rest : List Entry} {e : Entry} (hsplit : f.entries = done ++ e :: rest)
  (hdone : InstallsAll fl 0 done)

include hsplit hdone

/-- An entry of length zero is read: the loop does not end. -/
theorem not_allOrNothing_of_empty (hread : fl.readEntry done.length = false)
    (hempty : e.data.length = 0) : ¬ AllOrNothing fl deleteFails rm (some f) := by
  obtain ⟨info, created, hcreate, -⟩ := createDB_of_created hcreated
  have htake : f.entries.take done.length = done := by
    rw [hsplit, List.take_left]
  have hnone := @installLoop_eq_none_of_empty fl info f.entries (installStart fl info f) rfl rfl
    done.length e (getElem?_split hsplit) hempty hread (by rw [htake]; exact hdone)
    (f.entries.length + 1)
  rintro ⟨outcome, calls, hrun, -⟩
  unfold fileInstallDb at hrun
  unfold installStart at hnone
  simp only [hconduit, hopen, Bool.false_eq_true, if_false, hcreate, hnone, Option.map_none,
    reduceCtorEq] at hrun

/-- The first entry that is not installed is too long or refused. -/
theorem allOrNothing_iff_of_refused (hread : fl.readEntry done.length = false)
    (hpos : 0 < e.data.length)
    (hrefused : 65535 < e.data.length ∨ fl.writeEntry done.length = true) :
    AllOrNothing fl deleteFails rm (some f) ↔ deleteFails = false := by
  obtain ⟨info, created, hcreate, -⟩ := createDB_of_created hcreated
  obtain ⟨hindex, -, hcalls⟩ := wroteEntries_start fl info f done
  generalize hst : (installStart fl info f).wroteEntries info done = st at hindex hcalls
  have hget : f.entries[st.index]? = some e := by
    rw [hindex]
    exact getElem?_split hsplit
  rw [← hindex] at hread hrefused
  have hwrites := foldl_dlpEffect_writes deleteFails info done []
  rw [← hcalls, List.nil_append] at hwrites
  have hturn : (installTurn fl info f.entries st).result = -1 ∧
      (installTurn fl info f.entries st).calls.foldl (dlpEffect deleteFails) (some []) =
        some st.calls := by
    by_cases hlong : 65535 < e.data.length
    · rw [installTurn_of_tooLong hget hread hlong]
      exact ⟨rfl, hwrites⟩
    · rw [installTurn_of_refused hget hread hpos (by omega) (hrefused.resolve_left hlong)]
      refine ⟨rfl, ?_⟩
      rw [List.foldl_append, hwrites]
      exact dlpEffect_write deleteFails false info e st.calls
  have hstop : (installTurn fl info f.entries st).goesOn f.entries = false := by
    simp [LoopState.goesOn, hturn.1]
  rw [← hst] at hstop hturn
  rw [allOrNothing_iff_of_loop hconduit hopen hcreate (installLoop_split hsplit hdone hstop)
    hturn.2, hturn.1, if_neg (by decide)]

/-- The first entry that is not installed cannot be read. -/
theorem allOrNothing_iff_of_unread (hread : fl.readEntry done.length = true) :
    AllOrNothing fl deleteFails rm (some f) ↔
      if done = [] ∧ 65535 < staleLen fl f then deleteFails = false
      else ∀ e' ∈ e :: rest, e'.data.length = 0 := by
  obtain ⟨info, created, hcreate, hresource⟩ := createDB_of_created hcreated
  obtain ⟨-, -, -, hlen⟩ := wroteEntries_fields info (installStart fl info f) done
  obtain ⟨hindex, hzero, hcalls⟩ := wroteEntries_start fl info f done
  generalize hst : (installStart fl info f).wroteEntries info done = st at hindex hzero hcalls hlen
  have hwrites := foldl_dlpEffect_writes deleteFails info done []
  rw [← hcalls, List.nil_append] at hwrites
  have hstale : 65535 < st.len ↔ done = [] ∧ 65535 < staleLen fl f := by
    rw [hlen, ← stale_iff hresource]
    cases hlast : done.getLast? with
    | none => simp [List.getLast?_eq_none_iff.mp hlast]
    | some e' =>
        have hmem : e' ∈ done := List.mem_of_getLast? hlast
        obtain ⟨j, hj⟩ := List.getElem?_of_mem hmem
        have hfits := (hdone j e' hj).2.2.1
        have hne : done ≠ [] := List.ne_nil_of_mem hmem
        simp [hne]
        omega
  obtain ⟨hkeep, hturncalls, hresult⟩ := @installTurn_of_unread fl info f.entries st
    (Or.inl (by rw [hindex, hread]))
  have hstop : (installTurn fl info f.entries st).goesOn f.entries = false := by
    simp [LoopState.goesOn, hkeep]
  rw [← hst] at hstop
  have hloop := installLoop_split hsplit hdone hstop
  rw [hst] at hloop
  rw [allOrNothing_iff_of_loop hconduit hopen hcreate hloop (by rw [hturncalls, hwrites]),
    hresult, hzero]
  by_cases hlong : 65535 < st.len
  · rw [if_pos hlong, if_pos (hstale.mp hlong), if_neg (by decide)]
  · rw [if_neg hlong, if_neg (mt hstale.mpr hlong), if_pos rfl, hcalls, wholeDB, hsplit,
      List.filter_append, filter_nonempty_of_installsAll hdone, List.map_append,
      map_writeCall_eq hresource, List.self_eq_append_right, List.map_eq_nil_iff,
      List.filter_eq_nil_iff]
    simp

end Entries

/-! ## When an install is all or nothing -/

/-- Every entry is installed; or the first one that is not is too long or refused and
the database is deleted again; or it cannot be read, with nothing but empty entries from
it on.  Where nothing was read before, a stale length beyond the limit counts as a
failure. -/
inductive EntriesSettled (fl : Link) (deleteFails : Bool) (stale : Nat) (entries : List Entry) :
    Prop
  | installed (hne : entries ≠ []) (hall : InstallsAll fl 0 entries)
  | nothing (hnil : entries = []) (hstale : 65535 < stale → deleteFails = false)
  | refused (done : List Entry) (e : Entry) (rest : List Entry)
      (hsplit : entries = done ++ e :: rest) (hdone : InstallsAll fl 0 done)
      (hread : fl.readEntry done.length = false) (hpos : 0 < e.data.length)
      (hrefused : 65535 < e.data.length ∨ fl.writeEntry done.length = true)
      (hdelete : deleteFails = false)
  | unread (done : List Entry) (e : Entry) (rest : List Entry)
      (hsplit : entries = done ++ e :: rest) (hdone : InstallsAll fl 0 done)
      (hread : fl.readEntry done.length = true) (hstale : done = [] → stale ≤ 65535)
      (hempty : ∀ e' ∈ e :: rest, e'.data.length = 0)
  | unreadStale (e : Entry) (rest : List Entry) (hsplit : entries = e :: rest)
      (hread : fl.readEntry 0 = true) (hstale : 65535 < stale) (hdelete : deleteFails = false)

theorem allOrNothing_iff_of_created {fl : Link} {deleteFails rm : Bool} {f : PiFile}
    (hconduit : fl.openConduit = false) (hopen : fl.openFile = false)
    (hcreated : Created fl f.info) :
    AllOrNothing fl deleteFails rm (some f) ↔
      EntriesSettled fl deleteFails (staleLen fl f) f.entries := by
  constructor
  · intro h
    rcases installsAll_or_split fl 0 f.entries with hall | ⟨done, e, rest, hsplit, hdone, hnot⟩
    · by_cases hnil : f.entries = []
      · exact .nothing hnil
          ((allOrNothing_iff_of_nil hconduit hopen hcreated hnil).mp h)
      · exact .installed hnil hall
    · rw [Nat.zero_add] at hnot
      cases hread : fl.readEntry done.length with
      | true =>
          have hunread := (allOrNothing_iff_of_unread hconduit hopen hcreated hsplit hdone
            hread).mp h
          by_cases hstale : done = [] ∧ 65535 < staleLen fl f
          · obtain ⟨rfl, hlong⟩ := hstale
            rw [if_pos ⟨rfl, hlong⟩] at hunread
            exact .unreadStale e rest hsplit hread hlong hunread
          · rw [if_neg hstale] at hunread
            refine .unread done e rest hsplit hdone hread (fun hnil => ?_) hunread
            have hshort := not_and.mp hstale hnil
            omega
      | false =>
          by_cases hempty : e.data.length = 0
          · exact absurd h (not_allOrNothing_of_empty hconduit hopen hcreated hsplit hdone hread
              hempty)
          · have hrefused : 65535 < e.data.length ∨ fl.writeEntry done.length = true := by
              by_contra hneither
              obtain ⟨hfits, hwrite⟩ := not_or.mp hneither
              exact hnot ⟨hread, by omega, by omega, by simpa using hwrite⟩
            exact .refused done e rest hsplit hdone hread (by omega) hrefused
              ((allOrNothing_iff_of_refused hconduit hopen hcreated hsplit hdone hread (by omega)
                hrefused).mp h)
  · intro h
    cases h with
    | installed hne hall => exact allOrNothing_of_installsAll hconduit hopen hcreated hne hall
    | nothing hnil hstale =>
        exact (allOrNothing_iff_of_nil hconduit hopen hcreated hnil).mpr hstale
    | refused done e rest hsplit hdone hread hpos hrefused hdelete =>
        exact (allOrNothing_iff_of_refused hconduit hopen hcreated hsplit hdone hread hpos
          hrefused).mpr hdelete
    | unread done e rest hsplit hdone hread hstale hempty =>
        rw [allOrNothing_iff_of_unread hconduit hopen hcreated hsplit hdone hread, if_neg]
        · exact hempty
        · rintro ⟨hnil, hlong⟩
          have hshort := hstale hnil
          omega
    | unreadStale e rest hsplit hread hstale hdelete =>
        have hiff := @allOrNothing_iff_of_unread fl deleteFails rm f hconduit hopen hcreated []
          rest e hsplit (installsAll_nil fl 0) hread
        rw [hiff, if_pos ⟨rfl, hstale⟩]
        exact hdelete

/-- An install is all or nothing exactly when the file is not opened, or its database is
created and its entries are settled. -/
theorem allOrNothing_iff (fl : Link) (deleteFails rm : Bool) (file : Option PiFile) :
    AllOrNothing fl deleteFails rm file ↔
      (fl.openConduit = true ∨ fl.openFile = true ∨ file = none) ∨
        ∃ f, file = some f ∧ Created fl f.info ∧
          EntriesSettled fl deleteFails (staleLen fl f) f.entries := by
  by_cases hunopened : fl.openConduit = true ∨ fl.openFile = true ∨ file = none
  · simp [hunopened, allOrNothing_of_unopened hunopened]
  · obtain ⟨hconduit, hopen, hfile⟩ : fl.openConduit = false ∧ fl.openFile = false ∧
        file ≠ none := by
      simpa only [not_or, Bool.not_eq_true] using hunopened
    obtain ⟨f, rfl⟩ := Option.ne_none_iff_exists'.mp hfile
    by_cases hcreated : Created fl f.info
    · rw [allOrNothing_iff_of_created hconduit hopen hcreated]
      simp [hconduit, hopen, hcreated]
    · simp [hconduit, hopen, hcreated, not_allOrNothing_of_not_created hconduit hopen hcreated]

/-! ## Files that are neither -/

/-- Two records of one byte. -/
def memoFile : PiFile := ⟨memoInfo, [], [⟨0, 1, 0, 0, [65]⟩, ⟨0, 2, 0, 0, [66]⟩]⟩

/-- The database cannot be created: 0 all the same.  The second record cannot be read:
the first stays on the pilot, the result is 0 and the file is removed. -/
theorem memoFile_neither :
    fileInstallDb { soundLink with createDB := fun _ => true } (some memoFile) =
      some (.notCreated, [.openConduit true, .deleteDB "Memos", .createDB memoInfo false,
        .sendError "Install of Memos failed"]) ∧
    Outcome.notCreated.result = 0 ∧
    ¬ AllOrNothing { soundLink with createDB := fun _ => true } false true (some memoFile) ∧
    (fileInstallDb { soundLink with readEntry := fun i => i = 1 } (some memoFile)).map
      (fun run => (run.1, leftOnPilot false run.2, unlinks true run.1)) =
        some (.installed, some [.writeRecord 0 1 0 [65] true], true) ∧
    ¬ AllOrNothing { soundLink with readEntry := fun i => i = 1 } false true (some memoFile) := by
  refine ⟨by decide, by decide, ?_, by decide, ?_⟩
  · refine not_allOrNothing_of_not_created rfl rfl ?_
    simp [Created, memoFile]
  · have hdone : InstallsAll { soundLink with readEntry := fun i => i = 1 } 0
        [⟨0, 1, 0, 0, [65]⟩] := installsAll_cons.mpr ⟨by decide, installsAll_nil _ _⟩
    have hiff := @allOrNothing_iff_of_unread { soundLink with readEntry := fun i => i = 1 } false
      true memoFile rfl rfl (Or.inl rfl) _ _ _ rfl hdone (by decide)
    rw [hiff]
    decide

end GnomePilot.FileConduit
