import GnomePilot.Conduits.BackupRestore
import GnomePilot.Queue.Pending

/-!
# Restoring a pilot

`do_restore_foreach` completes a queued restore request after the backup conduits
have run, and `gpilot_start_unknown_restore` stamps an unknown pilot with a profile.
Neither looks at what the restore returned; `restore_recorded_iff` says when
everything was installed all the same.
-/

namespace GnomePilot.Daemon

open Queue FileConduit BackupConduit

/-! ## Passes -/

/-- One restore after the other; `none` when one does not come back.  So is a pass that
writes past the end of its array of databases: what happens then is left open. -/
def runPasses (fs : FileSystem) : List RestorePass → Reports → Option Reports
  | [], reports => some reports
  | p :: rest, reports => (p.restore fs reports).bind fun done => runPasses fs rest done.1

def lastPass (fs : FileSystem) (passes : List RestorePass) (path : Path) : Option RestorePass :=
  passes.reverse.find? (fun p => path ∈ p.files fs)

def LastInstalls (fs : FileSystem) (passes : List RestorePass) (path : Path) : Prop :=
  ∃ p, lastPass fs passes path = some p ∧ p.install fs path = some .installed

theorem runPasses_eq_none {fs : FileSystem} {passes : List RestorePass} {reports : Reports} :
    runPasses fs passes reports = none ↔ ∃ p ∈ passes, p.Stops fs := by
  induction passes generalizing reports with
  | nil => simp [runPasses]
  | cons p rest ih =>
      unfold runPasses
      cases hrestore : p.restore fs reports with
      | none => simp [RestorePass.restore_eq_none.mp hrestore]
      | some done =>
          have hgoes : ¬ p.Stops fs := by
            intro hstops
            have hnone : p.restore fs reports = none := RestorePass.restore_eq_none.mpr hstops
            rw [hrestore] at hnone
            contradiction
          simp [ih, hgoes]

theorem lookup_runPasses {fs : FileSystem} {passes : List RestorePass} {reports reports' : Reports}
    (h : runPasses fs passes reports = some reports') (path : Path) : reports'.lookup path =
      match lastPass fs passes path with
      | some p => p.install fs path
      | none => reports.lookup path := by
  induction passes generalizing reports with
  | nil =>
      obtain rfl := Option.some.inj h
      rfl
  | cons p rest ih =>
      obtain ⟨done, hrestore, hrest⟩ := Option.bind_eq_some_iff.mp h
      rw [ih hrest]
      unfold lastPass
      rw [List.reverse_cons, List.find?_append]
      cases hlast : rest.reverse.find? (fun p => decide (path ∈ p.files fs)) with
      | some q => rfl
      | none =>
          rw [Option.none_or, List.find?_singleton]
          dsimp only
          rw [RestorePass.lookup_restore hrestore]
          by_cases hmem : path ∈ p.files fs <;> simp [hmem]

theorem lookup_runPasses_eq_installed {fs : FileSystem} {passes : List RestorePass}
    {reports : Reports} (h : runPasses fs passes [] = some reports) (path : Path) :
    reports.lookup path = some .installed ↔ LastInstalls fs passes path := by
  rw [lookup_runPasses h]
  unfold LastInstalls
  cases lastPass fs passes path with
  | none => simp
  | some p => simp

/-! ## do_restore_foreach -/

/-- A loaded backup conduit and its `cfg->backup_dir`. -/
structure LoadedBackup where
  name : String
  backupDir : Path

/-- The conduits, whether `dbus_notify_completion` has a connection, the desktop's
files, and what fails in the pass of a backup and a file conduit. -/
structure RestoreCarrier where
  conduitList : List LoadedBackup
  fileConduitList : List String
  gdbusConnection : Bool
  fs : FileSystem
  trouble : String → String → Trouble

/-- `req->parameters.restore.directory` -/
def restoreDirectory (req : GPilotRequest) : Option Path :=
  match req.parameters with
  | .restore (some directory) => some directory.toUTF8.data.toList
  | _ => none

namespace RestoreCarrier

/-- The passes over a directory; a null one is the conduit's own. -/
def passes (carrier : RestoreCarrier) (directory : Option Path) : List RestorePass :=
  carrier.conduitList.flatMap fun backup =>
    carrier.fileConduitList.map fun file =>
      ⟨directory.getD backup.backupDir, carrier.trouble backup.name file⟩

def directories (carrier : RestoreCarrier) : Option Path → List Path
  | some directory => [directory]
  | none => carrier.conduitList.map LoadedBackup.backupDir

end RestoreCarrier

/-- The queue file, with what one request has led to: the reports, the requests
purged, and whether the daemon does not come back. -/
structure RestoreState where
  kf : KeyFile
  reports : Reports
  purged : List GPilotRequest
  stopped : Bool

/-- `do_restore_foreach`; after a pass that does not come back nothing else is done. -/
def doRestoreForeach (carrier : RestoreCarrier) (kf : KeyFile) (req : GPilotRequest) :
    RestoreState :=
  match runPasses carrier.fs (carrier.passes (restoreDirectory req)) [] with
  | none => ⟨kf, [], [], true⟩
  | some reports =>
    if carrier.gdbusConnection then ⟨gpcQueuePurgeRequest kf req, reports, [req], false⟩
    else ⟨kf, reports, [], false⟩

def PurgedIfRestored (carrier : RestoreCarrier) (kf : KeyFile) (req : GPilotRequest) : Prop :=
  req ∈ (doRestoreForeach carrier kf req).purged →
    ∀ directory ∈ carrier.directories (restoreDirectory req),
      ∀ path ∈ carrier.fs.databaseFiles directory,
        (doRestoreForeach carrier kf req).reports.lookup path = some .installed

theorem purgedIfRestored_iff (carrier : RestoreCarrier) (kf : KeyFile) (req : GPilotRequest) :
    PurgedIfRestored carrier kf req ↔
      carrier.gdbusConnection = false ∨
        (∃ p ∈ carrier.passes (restoreDirectory req), p.Stops carrier.fs) ∨
        ∀ directory ∈ carrier.directories (restoreDirectory req),
          ∀ path ∈ carrier.fs.databaseFiles directory,
            LastInstalls carrier.fs (carrier.passes (restoreDirectory req)) path := by
  unfold PurgedIfRestored doRestoreForeach
  cases hrun : runPasses carrier.fs (carrier.passes (restoreDirectory req)) [] with
  | none => simp [runPasses_eq_none.mp hrun]
  | some reports =>
      have hgoes : ¬ ∃ p ∈ carrier.passes (restoreDirectory req), p.Stops carrier.fs := by
        rw [← runPasses_eq_none, hrun]
        exact Option.some_ne_none _
      cases hconn : carrier.gdbusConnection with
      | false => simp
      | true => simp [hgoes, lookup_runPasses_eq_installed hrun]

/-! ## gpilot_start_unknown_restore -/

/-- The `struct PilotUser` written to the device. -/
structure PilotUser where
  userID : UInt32
  username : List UInt8
  deriving DecidableEq, Repr

structure PilotProfile where
  pilotId : UInt32
  pilotUsername : List UInt8

/-- What the function leads to: the reports, the user info written, and the result. -/
structure UnknownRestore where
  reports : Reports
  written : Option PilotUser
  result : Bool

/-- `gpilot_start_unknown_restore`; `backup` is the directory of the backup conduit if
that could be instantiated, `file` says whether the file conduit could. -/
def gpilotStartUnknownRestore (fs : FileSystem) (trouble : Trouble) (pilot : PilotProfile)
    (backup : Option Path) (file : Bool) : Option UnknownRestore :=
  match backup, file with
  | some backupDir, true =>
    (runPasses fs [⟨backupDir, trouble⟩] []).map fun reports =>
      { reports := reports
        written := some ⟨pilot.pilotId, pilot.pilotUsername.take 126⟩
        result := true }
  | _, _ => some ⟨[], none, false⟩

/-- The profile is written and the result is true only if every database file of the
backup directory was installed. -/
def StampedIfRestored (fs : FileSystem) (trouble : Trouble) (pilot : PilotProfile)
    (backup : Option Path) (file : Bool) : Prop :=
  ∀ r, gpilotStartUnknownRestore fs trouble pilot backup file = some r →
    (r.written ≠ none ∨ r.result = true) →
      ∀ backupDir ∈ backup, ∀ path ∈ fs.databaseFiles backupDir,
        r.reports.lookup path = some .installed

theorem stampedIfRestored_iff (fs : FileSystem) (trouble : Trouble) (pilot : PilotProfile)
    (backup : Option Path) (file : Bool) :
    StampedIfRestored fs trouble pilot backup file ↔
      ∀ backupDir ∈ backup, file = true →
        (⟨backupDir, trouble⟩ : RestorePass).Stops fs ∨
          ∀ path ∈ fs.databaseFiles backupDir, LastInstalls fs [⟨backupDir, trouble⟩] path := by
  unfold StampedIfRestored gpilotStartUnknownRestore
  cases backup with
  | none => simp
  | some backupDir =>
      cases file with
      | false => simp
      | true =>
          cases hrun : runPasses fs [⟨backupDir, trouble⟩] [] with
          | none =>
              have hstops := runPasses_eq_none.mp hrun
              simp only [List.mem_singleton, exists_eq_left] at hstops
              simp [hrun, hstops]
          | some reports =>
              have hgoes : ¬ (⟨backupDir, trouble⟩ : RestorePass).Stops fs := by
                intro hstops
                have hnone : runPasses fs [⟨backupDir, trouble⟩] [] = none :=
                  runPasses_eq_none.mpr ⟨_, List.mem_singleton_self _, hstops⟩
                rw [hrun] at hnone
                contradiction
              simp [hrun, hgoes, lookup_runPasses_eq_installed hrun]

/-- Only restored directories are recorded as restored exactly when nothing is recorded,
the restore does not come back, or every database file is installed by the last pass
that comes to it. -/
theorem restore_recorded_iff (carrier : RestoreCarrier) (kf : KeyFile) (req : GPilotRequest)
    (fs : FileSystem) (trouble : Trouble) (pilot : PilotProfile) (backup : Option Path)
    (file : Bool) :
    (PurgedIfRestored carrier kf req ↔
      carrier.gdbusConnection = false ∨
        (∃ p ∈ carrier.passes (restoreDirectory req), p.Stops carrier.fs) ∨
        ∀ directory ∈ carrier.directories (restoreDirectory req),
          ∀ path ∈ carrier.fs.databaseFiles directory,
            LastInstalls carrier.fs (carrier.passes (restoreDirectory req)) path) ∧
    (StampedIfRestored fs trouble pilot backup file ↔
      ∀ backupDir ∈ backup, file = true →
        (⟨backupDir, trouble⟩ : RestorePass).Stops fs ∨
          ∀ path ∈ fs.databaseFiles backupDir,
            LastInstalls fs [⟨backupDir, trouble⟩] path) :=
  ⟨purgedIfRestored_iff carrier kf req, stampedIfRestored_iff fs trouble pilot backup file⟩

/-! ## A restore that fails -/

/-- The file `A` of a database without entries, in every directory. -/
def oneDatabase : FileSystem where
  entries _ := [[65]]
  isDir _ := false
  piFile _ := some ⟨⟨"A", 1, 2, 1, false, false, false⟩, [], []⟩

/-- `dlp_CreateDB` fails. -/
def createFails : Trouble where
  opendir := false
  readdir := 1
  piFileOpen _ := false
  link _ := ⟨false, false, fun _ => true, fun _ => false, fun _ => false, 0x300, 0⟩

def oneDatabaseCarrier : RestoreCarrier where
  conduitList := [⟨"gpbackup1", [98]⟩]
  fileConduitList := ["gpfile1"]
  gdbusConnection := true
  fs := oneDatabase
  trouble _ _ := createFails

def restoreRequest : GPilotRequest where
  pilotId := 5
  handle := 1
  timeout := 0
  cradle := none
  clientId := none
  parameters := .restore (some "b")
  sectionName := none

/-- The only file is not installed, the request is purged and the pilot stamped. -/
theorem failedRestore_recorded :
    (doRestoreForeach oneDatabaseCarrier .empty restoreRequest).purged = [restoreRequest] ∧
      (doRestoreForeach oneDatabaseCarrier .empty restoreRequest).reports =
        [([98, 47, 65], .notCreated)] ∧
      ¬ PurgedIfRestored oneDatabaseCarrier .empty restoreRequest ∧
      ¬ StampedIfRestored oneDatabase createFails ⟨5, [117]⟩ (some [98]) true := by
  refine ⟨by decide, by decide, fun h => ?_, fun h => ?_⟩
  · have hinstalled := h (by decide) [98] (by decide) [98, 47, 65] (by decide)
    exact absurd hinstalled (by decide)
  · have hinstalled := h ⟨[([98, 47, 65], .notCreated)], some ⟨5, [117]⟩, true⟩ rfl
      (Or.inr rfl) [98] rfl [98, 47, 65] (by decide)
    exact absurd hinstalled (by decide)

end GnomePilot.Daemon
