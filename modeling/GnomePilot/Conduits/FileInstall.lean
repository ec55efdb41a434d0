import Mathlib.Data.List.Basic

/-!
# Installing a file

`gnome_real_pilot_conduit_file_install_db` of the file conduit: a `.pdb` or `.prc`
file is opened, its database created on the pilot in place of an old one, and its
entries are written one by one.  The result is 0 or −1; the five ways out of the
function are kept apart, since two of them share the 0.
-/

namespace GnomePilot.FileConduit

def piMktag (c1 c2 c3 c4 : Char) : Nat :=
  ((c1.toNat * 256 + c2.toNat) * 256 + c3.toNat) * 256 + c4.toNat

/-! ## Files -/

/-- `struct DBInfo` of the file, with the flags the conduit looks at. -/
structure DBInfo where
  name : String
  creator : Nat
  type : Nat
  version : Nat
  resource : Bool
  reset : Bool
  newer : Bool
  deriving DecidableEq, Repr

/-- A resource has a type and an ID, a record attributes, a category and an ID. -/
structure Entry where
  type : Nat
  id : Nat
  flags : Nat
  catID : Nat
  data : List UInt8
  deriving DecidableEq, Repr

/-- What `pi_file_open` makes of a file. -/
structure PiFile where
  info : DBInfo
  appInfo : List UInt8
  entries : List Entry
  deriving DecidableEq, Repr

/-! ## The pilot -/

/-- Which of the calls made for one file fail, the version of the pilot, and the
record size nothing has been read into yet. -/
structure Link where
  openConduit : Bool
  openFile : Bool
  createDB : String → Bool
  readEntry : Nat → Bool
  writeEntry : Nat → Bool
  version : Nat
  unreadLen : Nat

inductive DlpCall where
  | openConduit (ok : Bool)
  | deleteDB (name : String)
  | createDB (info : DBInfo) (ok : Bool)
  | writeAppBlock (data : List UInt8)
  | writeResource (type id : Nat) (data : List UInt8) (ok : Bool)
  | writeRecord (flags id catID : Nat) (data : List UInt8) (ok : Bool)
  | closeDB
  | resetSystem
  | addSyncLogEntry (text : String)
  | sendError (text : String)
  | sendMessage (text : String)
  deriving DecidableEq, Repr

/-- The ways out: the session was cancelled, the file is no database file, the
database could not be created, an entry could not be written, and done. -/
inductive Outcome where
  | cancelled | unreadable | notCreated | failed | installed
  deriving DecidableEq, Repr

/-- The returned value: `goto close_and_exit` leaves `result` as it was set up. -/
def Outcome.result : Outcome → Int
  | .cancelled | .unreadable | .failed => -1
  | .notCreated | .installed => 0

/-! ## Creating the database -/

def graffitiName (info : DBInfo) : Option String :=
  if info.name = "Graffiti ShortCuts " then some "Graffiti ShortCuts"
  else if info.name = "Graffiti ShortCuts" then some "Graffiti ShortCuts "
  else if info.creator = piMktag 'g' 'r' 'a' 'f' then some "Graffiti ShortCuts"
  else none

def netPrefsName (creator : Nat) (name : String) : Option String :=
  if name = "Net Prefs " then some "Net Prefs"
  else if name = "Net Prefs" then some "Net Prefs "
  else if creator = piMktag 'n' 'e' 't' 'l' then some "Net Prefs"
  else none

/-- The name `dlp_CreateDB` is tried again under, if it is. -/
def retryName (info : DBInfo) : Option String :=
  (netPrefsName info.creator ((graffitiName info).getD info.name)).or (graffitiName info)

def graffitiFlags (info : DBInfo) : DBInfo :=
  if info.creator = piMktag 'g' 'r' 'a' 'f' then { info with newer := true, reset := true }
  else info

/-- One or two `dlp_CreateDB`: the database created, and the calls. -/
def createDB (fl : Link) (info : DBInfo) : Option DBInfo × List DlpCall :=
  if fl.createDB info.name then
    match retryName info with
    | none => (none, [.createDB info false])
    | some name =>
      let retried := { info with name := name }
      if fl.createDB name then (none, [.createDB info false, .createDB retried false])
      else (some retried, [.createDB info false, .createDB retried true])
  else (some info, [.createDB info true])

/-! ## The entry loop -/

/-- The variables of the loop; `len` and `type` keep what was last read into them. -/
structure LoopState where
  index : Nat
  keepReading : Bool
  result : Int
  wrote : Nat
  len : Nat
  type : Nat
  reset : Bool
  calls : List DlpCall
  deriving DecidableEq, Repr

def writeCall (info : DBInfo) (e : Entry) (ok : Bool) : DlpCall :=
  if info.resource then .writeResource e.type e.id e.data ok
  else .writeRecord e.flags e.id e.catID e.data ok

/-- `type == 'boot'` asks for a reset. -/
def resets (info : DBInfo) (type : Nat) : Bool :=
  info.resource && type = piMktag 'b' 'o' 'o' 't'

/-- The body of the `do` loop.  An entry of length zero is left by `continue`. -/
def installTurn (fl : Link) (info : DBInfo) (entries : List Entry) (st : LoopState) :
    LoopState :=
  match if fl.readEntry st.index then none else entries[st.index]? with
  | none =>
    let st := { st with keepReading := false }
    if st.len = 0 then st
    else if 65535 < st.len then { st with result := -1, index := st.index + 1 }
    else { st with reset := st.reset || resets info st.type, index := st.index + 1 }
  | some e =>
    let st := { st with keepReading := true, len := e.data.length, type := e.type }
    if st.len = 0 then st
    else if 65535 < st.len then { st with result := -1, index := st.index + 1 }
    else
      let st := { st with reset := st.reset || resets info e.type }
      if fl.writeEntry st.index then
        { st with
          result := -1
          index := st.index + 1
          calls := st.calls ++ [writeCall info e false] }
      else
        { st with
          wrote := st.wrote + 1
          index := st.index + 1
          calls := st.calls ++ [writeCall info e true] }

/-- The condition of the `do` loop. -/
def LoopState.goesOn (st : LoopState) (entries : List Entry) : Bool :=
  st.keepReading && st.result = 0 && st.index < entries.length

def installLoop (fl : Link) (info : DBInfo) (entries : List Entry) :
    Nat → LoopState → Option LoopState
  | 0, _ => none
  | fuel + 1, st =>
    let st := installTurn fl info entries st
    if st.goesOn entries then installLoop fl info entries fuel st else some st

/-! ## gnome_real_pilot_conduit_file_install_db -/

/-- The application block, lengthened for a short `MemoDB` of an OS 1.x pilot. -/
def appBlock (fl : Link) (info : DBInfo) (data : List UInt8) : List UInt8 :=
  if 0x0100 < fl.version ∧ info.name = "MemoDB" ∧ 0 < data.length ∧ data.length < 282 then
    data ++ List.replicate (282 - data.length) 0
  else data

/-- What the loop starts with.  A resource is read into the variable that held the
size of the application block. -/
def loopStart (fl : Link) (info : DBInfo) (app : List UInt8) (reset : Bool) : LoopState where
  index := 0
  keepReading := true
  result := 0
  wrote := 0
  len := if info.resource then app.length else fl.unreadLen
  type := 0
  reset := reset
  calls := []

def announceCalls (info : DBInfo) (app : List UInt8) : List DlpCall :=
  (if 0 < app.length then [.writeAppBlock app] else []) ++
    [.sendMessage ("Installing " ++ info.name ++ "...")]

def finishInstall (info : DBInfo) (st : LoopState) : Outcome × List DlpCall :=
  if st.result = 0 then
    (.installed, .closeDB :: (if st.reset then [.resetSystem] else []) ++
      [.addSyncLogEntry ("Installed " ++ info.name ++ "\n ")])
  else
    (.failed, [.closeDB, .deleteDB info.name,
      .addSyncLogEntry ("Install of " ++ info.name ++ " failed\n ")])

/-- The function on what `pi_file_open` finds; `none` when the loop does not end.
One turn an entry is enough if it does. -/
def fileInstallDb (fl : Link) (file : Option PiFile) : Option (Outcome × List DlpCall) :=
  if fl.openConduit then some (.cancelled, [.openConduit false])
  else
    match if fl.openFile then none else file with
    | none => some (.unreadable, [.openConduit true])
    | some file =>
      let reset := decide (file.info.creator = piMktag 'p' 't' 'c' 'h') || file.info.reset
      match createDB fl (graffitiFlags file.info) with
      | (none, created) =>
        let name := (retryName (graffitiFlags file.info)).getD file.info.name
        some (.notCreated, [.openConduit true, .deleteDB file.info.name] ++ created ++
          [.sendError ("Install of " ++ name ++ " failed")])
      | (some info, created) =>
        let app := appBlock fl info file.appInfo
        (installLoop fl info file.entries (file.entries.length + 1)
          (loopStart fl info app reset)).map fun st =>
            let (outcome, finished) := finishInstall info st
            (outcome, [.openConduit true, .deleteDB file.info.name] ++ created ++
              announceCalls info app ++ st.calls ++ finished)

/-- `unlink (src_file)` is reached with `rm` on the last way out only. -/
def unlinks (rm : Bool) (outcome : Outcome) : Bool := rm && outcome = .installed

/-! ## The loop ends or stands still -/

/-- A turn that goes on moves to the next entry, or has met an entry of length zero
and changes nothing any more. -/
theorem installTurn_goesOn {fl : Link} {info : DBInfo} {entries : List Entry} {st : LoopState}
    (h : (installTurn fl info entries st).goesOn entries = true) :
    (installTurn fl info entries st).index = st.index + 1 ∨
      installTurn fl info entries (installTurn fl info entries st) =
        installTurn fl info entries st := by
  generalize hread : (if fl.readEntry st.index then none else entries[st.index]?) = found
  unfold installTurn at h ⊢
  simp only [hread] at h ⊢
  cases found with
  | none =>
      simp only [LoopState.goesOn] at h
      split at h <;> try split at h
      all_goals simp at h
  | some e =>
      dsimp only at h ⊢
      by_cases hlen : e.data.length = 0
      · right
        simp [hlen, hread]
      · left
        simp only [hlen, if_false]
        split
        · rfl
        · split <;> rfl

theorem installLoop_stuck {fl : Link} {info : DBInfo} {entries : List Entry} {st : LoopState}
    (hgo : st.goesOn entries = true) (hstuck : installTurn fl info entries st = st) (n : Nat) :
    installLoop fl info entries n st = none := by
  induction n with
  | zero => rfl
  | succ n ih => simp [installLoop, hstuck, hgo, ih]

/-- A loop that has not ended after a turn for every entry never ends. -/
theorem installLoop_eq_none {fl : Link} {info : DBInfo} {entries : List Entry} (fuel n : Nat)
    {st : LoopState} (hindex : st.index ≤ entries.length)
    (hfuel : entries.length < fuel + st.index)
    (h : installLoop fl info entries fuel st = none) : installLoop fl info entries n st = none := by
  induction fuel generalizing st n with
  | zero => omega
  | succ fuel ih =>
      cases n with
      | zero => rfl
      | succ n =>
          simp only [installLoop] at h ⊢
          cases hgo : (installTurn fl info entries st).goesOn entries with
          | false => simp [hgo] at h
          | true =>
              simp only [hgo, if_true] at h ⊢
              rcases installTurn_goesOn hgo with hnext | hstuck
              · have hlt : (installTurn fl info entries st).index < entries.length := by
                  simp only [LoopState.goesOn, Bool.and_eq_true, decide_eq_true_eq] at hgo
                  exact hgo.2
                exact ih n (Nat.le_of_lt hlt) (by omega) h
              · exact installLoop_stuck hgo hstuck n

/-- An install that does not come back is in a loop no number of turns ends. -/
theorem fileInstallDb_eq_none {fl : Link} {file : Option PiFile}
    (h : fileInstallDb fl file = none) :
    ∃ f info app reset, file = some f ∧
      ∀ n, installLoop fl info f.entries n (loopStart fl info app reset) = none := by
  unfold fileInstallDb at h
  split at h
  · contradiction
  · split at h
    · contradiction
    next f hf =>
      have hfile : file = some f := by
        split at hf
        · contradiction
        · exact hf
      split at h
      · contradiction
      next info created _ =>
        have hloop := Option.map_eq_none_iff.mp h
        refine ⟨f, info, appBlock fl info f.appInfo,
          decide (f.info.creator = piMktag 'p' 't' 'c' 'h') || f.info.reset, hfile, fun n => ?_⟩
        exact installLoop_eq_none _ n (Nat.zero_le _) (by simp [loopStart]) hloop

end GnomePilot.FileConduit
