import GnomePilot.Conduits.BackupCopy

/-!
# What a backup leaves behind

When a backup that fails leaves the previous one, and when a backup that succeeds is
complete.  The modification time of the file is all a later pass looks at, so that the
second matters to every run of backups after it.
-/

namespace GnomePilot.BackupConduit

open FileConduit

/-- The backup comes to the copying. -/
def copies (cfg : ConduitCfg) (trouble : BackupTrouble) (db : PilotContents) (files : Files) :
    Bool :=
  !cfg.excludes db.db && !trouble.dir &&
    !(cfg.updatedOnly && unmodified db (cfg.nameOf db.db) files)

section Backup

variable {cfg : ConduitCfg} {noOfBackups : Nat} {trouble : BackupTrouble} {db : PilotContents}
  {files : Files}

theorem backupDatabase_of_copies (h : copies cfg trouble db files = true) :
    backupDatabase cfg noOfBackups trouble db files =
      copyDatabase noOfBackups trouble db (cfg.nameOf db.db) files := by
  simp only [copies, Bool.and_eq_true, Bool.not_eq_true'] at h
  obtain ⟨⟨hex, hdir⟩, hskip⟩ := h
  unfold backupDatabase
  simp only [hex, hdir, hskip, Bool.false_eq_true, if_false]

/-- The copying comes to its end where the paths of the generations have room. -/
theorem backupDatabase_copied (h : copies cfg trouble db files = true)
    (hfits : noOfBackups ≤ 10000) :
    backupDatabase cfg noOfBackups trouble db files =
      some (copied noOfBackups trouble db (cfg.nameOf db.db) files) := by
  rw [backupDatabase_of_copies h, copyDatabase_eq, if_pos hfits]

theorem backupDatabase_overruns (h : copies cfg trouble db files = true)
    (hfits : ¬ noOfBackups ≤ 10000) : backupDatabase cfg noOfBackups trouble db files = none := by
  rw [backupDatabase_of_copies h, copyDatabase_eq, if_neg hfits]

/-- Without the copying nothing changes, and the result is not 0. -/
theorem backupDatabase_of_not_copies (h : copies cfg trouble db files = false) :
    ∃ result, backupDatabase cfg noOfBackups trouble db files = some (result, files) ∧
      result ≠ 0 ∧ (result = 1 → unmodified db (cfg.nameOf db.db) files = true) := by
  unfold backupDatabase
  cases hex : cfg.excludes db.db with
  | true => exact ⟨2, rfl, by decide, fun h2 => absurd h2 (by decide)⟩
  | false =>
      cases hdir : trouble.dir with
      | true => exact ⟨-1, rfl, by decide, fun h1 => absurd h1 (by decide)⟩
      | false =>
          have hskip : (cfg.updatedOnly && unmodified db (cfg.nameOf db.db) files) = true := by
            simpa [copies, hex, hdir] using h
          simp only [Bool.false_eq_true, if_false, hskip, if_true]
          exact ⟨1, rfl, by decide, fun _ => (Bool.and_eq_true_iff.mp hskip).2⟩

theorem copied_fst_ne_one (noOfBackups : Nat) (trouble : BackupTrouble) (db : PilotContents)
    (name : String) (files : Files) : (copied noOfBackups trouble db name files).1 ≠ 1 := by
  unfold copied
  cases trouble.piFileCreate with
  | true => simp
  | false => cases trouble.spoils <;> simp

/-! ## After a failed backup -/

/-- A backup that fails leaves the contents of the previous one under its name or as the
newest generation kept. -/
def FailedKeeps (cfg : ConduitCfg) (noOfBackups : Nat) (trouble : BackupTrouble)
    (db : PilotContents) (files : Files) : Prop :=
  ∃ x, backupDatabase cfg noOfBackups trouble db files = some x ∧
    (x.1 < 0 → ∀ c, files.contents (cfg.nameOf db.db) = some c →
      x.2.contents (cfg.nameOf db.db) = some c ∨
        (0 < noOfBackups ∧ x.2.contents (generationName (cfg.nameOf db.db) 0) = some c))

/-- If the renames succeed, the file of the database becomes the newest generation. -/
theorem newest_kept (hmove : ∀ i, trouble.move i = false) (hpos : 0 < noOfBackups)
    {c : PiFile} (hc : files.contents (cfg.nameOf db.db) = some c) :
    (moveGenerations trouble.move (cfg.nameOf db.db) noOfBackups files).contents
      (generationName (cfg.nameOf db.db) 0) = some c := by
  obtain ⟨file, hfile, rfl⟩ := Option.map_eq_some_iff.mp hc
  have hview := contents_moveGenerations trouble.move cfg.backupDir db.db.name
    db.db.resource noOfBackups files 1
  have hmoves : Slots.moves trouble.move noOfBackups (slotsOf (cfg.nameOf db.db) files) 0 =
      true := by
    have hslot : slotsOf (cfg.nameOf db.db) files 0 = some file := hfile
    simp [Slots.moves, hslot, hmove, hpos]
  have hone := (Slots.shift_eq trouble.move noOfBackups
    (slotsOf (cfg.nameOf db.db) files)).2 0
  rw [if_pos hmoves] at hone
  refine hview.trans ?_
  change (Slots.shift trouble.move noOfBackups (slotsOf (cfg.nameOf db.db) files) 1).map
    BackupFile.contents = some file.contents
  rw [hone]
  exact hc

/-- What the copying leaves of the previous backup when it fails. -/
theorem copied_keeps_iff (hmove : ∀ i, trouble.move i = false) :
    ((copied noOfBackups trouble db (cfg.nameOf db.db) files).1 < 0 →
      ∀ c, files.contents (cfg.nameOf db.db) = some c →
        (copied noOfBackups trouble db (cfg.nameOf db.db) files).2.contents
            (cfg.nameOf db.db) = some c ∨
          (0 < noOfBackups ∧ (copied noOfBackups trouble db (cfg.nameOf db.db) files).2.contents
            (generationName (cfg.nameOf db.db) 0) = some c)) ↔
      0 < noOfBackups ∨ files.contents (cfg.nameOf db.db) = none ∨
        trouble.piFileCreate = true ∨ trouble.spoils = false ∨
        files.contents (cfg.nameOf db.db) = some (writtenFile trouble db).contents := by
  unfold copied
  by_cases hpos : 0 < noOfBackups
  · simp only [hpos, true_or, iff_true, true_and]
    intro _ c hc
    right
    have hkept := newest_kept hmove hpos hc
    split
    · exact hkept
    · have hne : generationName (cfg.nameOf db.db) 0 ≠ cfg.nameOf db.db :=
        generationName_ne cfg.backupDir db.db.name db.db.resource 0
      unfold Files.contents at hkept ⊢
      dsimp only
      rw [Files.write_of_ne _ _ hne]
      exact hkept
  · have hzero : noOfBackups = 0 := Nat.eq_zero_of_not_pos hpos
    subst hzero
    have hmoved : moveGenerations trouble.move (cfg.nameOf db.db) 0 files = files := rfl
    rw [hmoved]
    cases hcreate : trouble.piFileCreate with
    | true =>
        simp only [if_true, true_or, or_true, iff_true]
        exact fun _ c hc => Or.inl hc
    | false =>
        cases hspoils : trouble.spoils with
        | false => simp
        | true =>
            cases hprevious : files.contents (cfg.nameOf db.db) with
            | none => simp
            | some c => simp [Files.contents, eq_comm]

/-- A failed backup keeps the previous one exactly when the copying is not come to, or the
paths of the generations have room and: a generation is kept, there is no previous one, the
new file is not created, nothing fails from there on, or what is written is what was
there. -/
theorem failedKeeps_iff (hmove : ∀ i, trouble.move i = false) :
    FailedKeeps cfg noOfBackups trouble db files ↔
      copies cfg trouble db files = false ∨ noOfBackups ≤ 10000 ∧
        (0 < noOfBackups ∨ files.contents (cfg.nameOf db.db) = none ∨
          trouble.piFileCreate = true ∨ trouble.spoils = false ∨
          files.contents (cfg.nameOf db.db) = some (writtenFile trouble db).contents) := by
  unfold FailedKeeps
  cases hcopies : copies cfg trouble db files with
  | false =>
      obtain ⟨result, hresult, -⟩ :=
        @backupDatabase_of_not_copies cfg noOfBackups trouble db files hcopies
      rw [hresult]
      simp only [true_or, iff_true]
      exact ⟨(result, files), rfl, fun _ c hc => Or.inl hc⟩
  | true =>
      by_cases hfits : noOfBackups ≤ 10000
      · rw [backupDatabase_copied hcopies hfits, ← copied_keeps_iff hmove]
        simp [hfits]
      · rw [backupDatabase_overruns hcopies hfits]
        simp [hfits]

/-! ## After a successful backup -/

/-- A backup that returns 0 and leaves the file with the time of the database leaves it
with every entry. -/
def StampedComplete (cfg : ConduitCfg) (noOfBackups : Nat) (trouble : BackupTrouble)
    (db : PilotContents) (files : Files) : Prop :=
  ∃ x, backupDatabase cfg noOfBackups trouble db files = some x ∧
    (x.1 = 0 → unmodified db (cfg.nameOf db.db) x.2 = true →
      (x.2.contents (cfg.nameOf db.db)).map PiFile.entries = some db.entries)

def AllCopied (trouble : BackupTrouble) (db : PilotContents) : Prop :=
  ∀ i < db.entries.length, trouble.readEntry i = false ∧ trouble.append i = false

theorem copiedContents_entries_iff :
    (copiedContents trouble db).entries = db.entries ↔ AllCopied trouble db := by
  have hcopied : (copiedContents trouble db).entries = entriesCopied trouble 0 db.entries :=
    (copyEntries_eq trouble db.entries).2
  rw [hcopied, entriesCopied_eq_iff]
  unfold AllCopied
  simp

theorem copied_complete_iff :
    ((copied noOfBackups trouble db (cfg.nameOf db.db) files).1 = 0 →
      unmodified db (cfg.nameOf db.db)
          (copied noOfBackups trouble db (cfg.nameOf db.db) files).2 = true →
        ((copied noOfBackups trouble db (cfg.nameOf db.db) files).2.contents
          (cfg.nameOf db.db)).map PiFile.entries = some db.entries) ↔
      trouble.piFileCreate = true ∨ trouble.spoils = true ∨
        (trouble.utime = true ∧ trouble.now ≠ db.modifyDate) ∨ AllCopied trouble db := by
  unfold copied
  cases hcreate : trouble.piFileCreate with
  | true => simp
  | false =>
      cases hspoils : trouble.spoils with
      | true => simp
      | false =>
          obtain ⟨⟨hopen, hread⟩, hclose⟩ : (trouble.openDB = false ∧
              trouble.readOpenDBInfo = false) ∧ trouble.piFileClose = false := by
            simpa [BackupTrouble.spoils] using hspoils
          have hfile : writtenFile trouble db = ⟨copiedContents trouble db,
              if trouble.utime then trouble.now else db.modifyDate⟩ := by
            simp [writtenFile, hopen, hread, hclose]
          rw [← copiedContents_entries_iff]
          cases hutime : trouble.utime with
          | false => simp [hfile, hutime, unmodified, Files.contents]
          | true =>
              by_cases hnow : trouble.now = db.modifyDate
              · simp [hfile, hutime, unmodified, Files.contents, hnow]
              · simp [hfile, hutime, unmodified, Files.contents, hnow]

theorem stampedComplete_iff : StampedComplete cfg noOfBackups trouble db files ↔
    copies cfg trouble db files = false ∨ noOfBackups ≤ 10000 ∧
      (trouble.piFileCreate = true ∨ trouble.spoils = true ∨
        (trouble.utime = true ∧ trouble.now ≠ db.modifyDate) ∨ AllCopied trouble db) := by
  unfold StampedComplete
  cases hcopies : copies cfg trouble db files with
  | false =>
      obtain ⟨result, hresult, hne, -⟩ :=
        @backupDatabase_of_not_copies cfg noOfBackups trouble db files hcopies
      rw [hresult]
      simp only [true_or, iff_true]
      exact ⟨(result, files), rfl, fun hzero => absurd hzero hne⟩
  | true =>
      by_cases hfits : noOfBackups ≤ 10000
      · have hcomplete := @copied_complete_iff cfg noOfBackups trouble db files
        rw [backupDatabase_copied hcopies hfits, ← hcomplete]
        simp [hfits]
      · rw [backupDatabase_overruns hcopies hfits]
        simp [hfits]

end Backup

/-! ## Runs of backups -/

/-- A backup of a later or earlier session. -/
structure BackupStep where
  cfg : ConduitCfg
  noOfBackups : Nat
  trouble : BackupTrouble
  db : PilotContents

namespace BackupStep

def name (s : BackupStep) : String := s.cfg.nameOf s.db.db

def run (s : BackupStep) (files : Files) : Option (Int × Files) :=
  backupDatabase s.cfg s.noOfBackups s.trouble s.db files

end BackupStep

def runBackups (steps : List BackupStep) (files : Files) : Option Files :=
  steps.foldlM (fun files s => (s.run files).map Prod.snd) files

def Faithful (s : BackupStep) (files : Files) : Prop :=
  ∀ file, files s.name = some file → file.mtime = s.db.modifyDate →
    file.contents.entries = s.db.entries

/-- The backups into one directory.  The modification date of a database changes with its
entries, and no file is there that has the date but not the entries. -/
structure BackupHistory where
  backupDir : String
  files : Files
  steps : List BackupStep
  inDir : ∀ s ∈ steps, s.cfg.backupDir = backupDir
  dated : ∀ s ∈ steps, ∀ s' ∈ steps, s.name = s'.name → s.db.modifyDate = s'.db.modifyDate →
    s.db.entries = s'.db.entries
  faithful : ∀ s ∈ steps, Faithful s files

/-- Where the step sets the time of its file, every entry was copied; where it does not, the
file is not written at a modification date of the database. -/
structure BackupStep.Careful (s : BackupStep) (steps : List BackupStep) : Prop where
  fits : s.noOfBackups ≤ 10000
  unstamped : s.trouble.spoils = true ∨ s.trouble.utime = true →
    ∀ s' ∈ steps, s'.name = s.name → s.trouble.now ≠ s'.db.modifyDate
  stamped : s.trouble.spoils = false → s.trouble.utime = false → AllCopied s.trouble s.db

/-- What the copying leaves under the name of the database: the file written, the one
that was there, or none. -/
theorem copied_name (cfg : ConduitCfg) (noOfBackups : Nat) (trouble : BackupTrouble)
    (db : PilotContents) (files : Files) :
    (copied noOfBackups trouble db (cfg.nameOf db.db) files).2 (cfg.nameOf db.db) =
        some (writtenFile trouble db) ∨
      (copied noOfBackups trouble db (cfg.nameOf db.db) files).2 (cfg.nameOf db.db) =
        files (cfg.nameOf db.db) ∨
      (copied noOfBackups trouble db (cfg.nameOf db.db) files).2 (cfg.nameOf db.db) = none := by
  unfold copied
  split
  · have hview := congrFun (slotsOf_moveGenerations trouble.move cfg.backupDir db.db.name
      db.db.resource noOfBackups files) 0
    rw [(Slots.shift_eq trouble.move noOfBackups _).1] at hview
    right
    split at hview
    · exact Or.inr hview
    · exact Or.inl hview
  · exact Or.inl (Files.write_self _ _ _)

theorem copied_other (cfg : ConduitCfg) (noOfBackups : Nat) (trouble : BackupTrouble)
    (db : PilotContents) (files : Files) {name' : String} {resource' : Bool}
    (h : createName cfg.backupDir name' resource' ≠ cfg.nameOf db.db) :
    (copied noOfBackups trouble db (cfg.nameOf db.db) files).2
        (createName cfg.backupDir name' resource') =
      files (createName cfg.backupDir name' resource') := by
  have hother := moveGenerations_other trouble.move h noOfBackups files
  unfold copied
  split
  · exact hother
  · exact (Files.write_of_ne _ _ h).trans hother

theorem mtime_writtenFile (trouble : BackupTrouble) (db : PilotContents) :
    (writtenFile trouble db).mtime =
      if trouble.spoils = true ∨ trouble.utime = true then trouble.now else db.modifyDate := by
  unfold writtenFile BackupTrouble.spoils
  cases trouble.openDB <;> cases trouble.readOpenDBInfo <;> cases trouble.piFileClose <;>
    cases trouble.utime <;> rfl

theorem entries_writtenFile {trouble : BackupTrouble} {db : PilotContents}
    (hspoils : trouble.spoils = false) (hall : AllCopied trouble db) :
    (writtenFile trouble db).contents.entries = db.entries := by
  obtain ⟨hopen, -⟩ := Bool.or_eq_false_iff.mp hspoils
  unfold writtenFile
  rw [hopen]
  exact copiedContents_entries_iff.mpr hall

/-- The file written has a time at which no database changed, or that of the database and
then its entries. -/
theorem writtenFile_cases {s : BackupStep} {steps : List BackupStep} (h : s.Careful steps) :
    (∀ s' ∈ steps, s'.name = s.name →
        (writtenFile s.trouble s.db).mtime ≠ s'.db.modifyDate) ∨
      ((writtenFile s.trouble s.db).mtime = s.db.modifyDate ∧
        (writtenFile s.trouble s.db).contents.entries = s.db.entries) := by
  rw [mtime_writtenFile]
  by_cases hunstamped : s.trouble.spoils = true ∨ s.trouble.utime = true
  · rw [if_pos hunstamped]
    exact Or.inl (h.unstamped hunstamped)
  · rw [if_neg hunstamped]
    rw [not_or, Bool.not_eq_true, Bool.not_eq_true] at hunstamped
    obtain ⟨hspoils, hutime⟩ := hunstamped
    exact Or.inr ⟨rfl, entries_writtenFile hspoils (h.stamped hspoils hutime)⟩

namespace BackupHistory

theorem copied_faithful (h : BackupHistory) {s s' : BackupStep} (hs : s ∈ h.steps)
    (hs' : s' ∈ h.steps) (hcareful : s.Careful h.steps) {files : Files}
    (hfaithful : Faithful s' files) :
    Faithful s' (copied s.noOfBackups s.trouble s.db s.name files).2 := by
  intro file hfile hmtime
  by_cases hname : s'.name = s.name
  · rw [hname] at hfile
    rcases copied_name s.cfg s.noOfBackups s.trouble s.db files with hw | hold | hnone
    · rw [BackupStep.name, hw] at hfile
      obtain rfl := Option.some.inj hfile
      rcases writtenFile_cases hcareful with hnow | ⟨hdate, hentries⟩
      · exact absurd hmtime (hnow s' hs' hname)
      · rw [hentries]
        exact h.dated s hs s' hs' hname.symm (hdate.symm.trans hmtime)
    · rw [BackupStep.name, hold] at hfile
      refine hfaithful file ?_ hmtime
      rw [hname]
      exact hfile
    · rw [BackupStep.name, hnone] at hfile
      contradiction
  · have hpath : s'.name = createName s.cfg.backupDir s'.db.db.name s'.db.db.resource := by
      rw [BackupStep.name, ConduitCfg.nameOf, h.inDir s' hs', h.inDir s hs]
    rw [hpath] at hname hfile
    rw [BackupStep.name, copied_other s.cfg s.noOfBackups s.trouble s.db files hname, ← hpath]
      at hfile
    exact hfaithful file hfile hmtime

theorem run_faithful (h : BackupHistory) {s s' : BackupStep} (hs : s ∈ h.steps)
    (hs' : s' ∈ h.steps) (hcareful : s.Careful h.steps) {files : Files}
    (hfaithful : Faithful s' files) :
    ∃ x, s.run files = some x ∧ Faithful s' x.2 ∧
      (x.1 = 1 → unmodified s.db s.name files = true) := by
  cases hcopies : copies s.cfg s.trouble s.db files with
  | false =>
      obtain ⟨result, hresult, -, hskip⟩ :=
        @backupDatabase_of_not_copies s.cfg s.noOfBackups s.trouble s.db files hcopies
      exact ⟨(result, files), hresult, hfaithful, hskip⟩
  | true =>
      exact ⟨_, backupDatabase_copied hcopies hcareful.fits,
        h.copied_faithful hs hs' hcareful hfaithful,
        fun hone => absurd hone (copied_fst_ne_one _ _ _ _ _)⟩

theorem runBackups_faithful (h : BackupHistory) {done : List BackupStep}
    (hdone : ∀ s ∈ done, s ∈ h.steps ∧ s.Careful h.steps) {s' : BackupStep}
    (hs' : s' ∈ h.steps) {files : Files} (hfaithful : Faithful s' files) :
    ∃ files', runBackups done files = some files' ∧ Faithful s' files' := by
  induction done generalizing files with
  | nil => exact ⟨files, rfl, hfaithful⟩
  | cons s rest ih =>
      obtain ⟨hs, hcareful⟩ := hdone s List.mem_cons_self
      obtain ⟨x, hrun, hkept, -⟩ := h.run_faithful hs hs' hcareful hfaithful
      obtain ⟨files', hrest, hfinal⟩ :=
        ih (fun t ht => hdone t (List.mem_cons_of_mem _ ht)) hkept
      refine ⟨files', ?_, hfinal⟩
      rw [← hrest]
      simp [runBackups, hrun]

/-- Every backup comes to its end, and one that skips its database because the times match
skips a complete file. -/
def SkipsComplete (h : BackupHistory) : Prop :=
  ∀ done s later, h.steps = done ++ s :: later →
    ∃ files x, runBackups done h.files = some files ∧ s.run files = some x ∧
      (x.1 = 1 → (files.contents s.name).map PiFile.entries = some s.db.entries)

theorem skipsComplete_of_careful (h : BackupHistory)
    (hcareful : ∀ s ∈ h.steps, s.Careful h.steps) : h.SkipsComplete := by
  intro done s later hsplit
  have hs : s ∈ h.steps := by
    rw [hsplit]
    simp
  obtain ⟨files, hfiles, hfaithful⟩ := h.runBackups_faithful (fun t ht => by
    have hmem : t ∈ h.steps := by
      rw [hsplit]
      exact List.mem_append_left _ ht
    exact ⟨hmem, hcareful t hmem⟩) hs (h.faithful s hs)
  obtain ⟨x, hrun, -, hskip⟩ := h.run_faithful hs hs (hcareful s hs) hfaithful
  refine ⟨files, x, hfiles, hrun, fun hone => ?_⟩
  have hunmodified := hskip hone
  unfold unmodified at hunmodified
  rw [decide_eq_true_eq] at hunmodified
  obtain ⟨file, hfile, hmtime⟩ := Option.map_eq_some_iff.mp hunmodified
  simp [Files.contents, hfile, hfaithful file hfile hmtime]

end BackupHistory

/-- A stamped backup is complete exactly under this condition, and a run of careful
backups skips complete files only. -/
theorem successfulBackup_complete_iff (cfg : ConduitCfg) (noOfBackups : Nat)
    (trouble : BackupTrouble) (db : PilotContents) (files : Files) (h : BackupHistory) :
    (StampedComplete cfg noOfBackups trouble db files ↔
      copies cfg trouble db files = false ∨ noOfBackups ≤ 10000 ∧
        (trouble.piFileCreate = true ∨ trouble.spoils = true ∨
          (trouble.utime = true ∧ trouble.now ≠ db.modifyDate) ∨ AllCopied trouble db)) ∧
    ((∀ s ∈ h.steps, s.Careful h.steps) → h.SkipsComplete) :=
  ⟨stampedComplete_iff, h.skipsComplete_of_careful⟩

/-! ## Backups that go wrong -/

/-- Nothing fails; a file is written at the time 100. -/
def soundBackup : BackupTrouble where
  dir := false
  move _ := false
  piFileCreate := false
  openDB := false
  readOpenDBInfo := false
  readAppBlock := false
  readEntry _ := false
  append _ := false
  piFileClose := false
  utime := false
  now := 100

def memoDB : PilotContents :=
  ⟨⟨"A", 1, 2, 1, false, false, false⟩, [], [⟨0, 1, 0, 0, [65]⟩, ⟨0, 2, 0, 0, [66]⟩], 50⟩

def memoBackup (trouble : BackupTrouble) : BackupStep where
  cfg := ⟨"/b", true, false, [], []⟩
  noOfBackups := 0
  trouble := trouble
  db := memoDB

def earlierBackup : Files := fun path =>
  if path = "/b/A.pdb" then some ⟨⟨memoDB.info, [], [⟨0, 1, 0, 0, [65]⟩]⟩, 40⟩ else none

/-- The database cannot be opened, and the only backup becomes an empty one. -/
theorem earlierBackup_lost :
    (∃ files', (memoBackup { soundBackup with openDB := true }).run earlierBackup =
        some (-1, files') ∧ files'.contents "/b/A.pdb" = some ⟨memoDB.info, [], []⟩) ∧
      ¬ FailedKeeps ⟨"/b", true, false, [], []⟩ 0 { soundBackup with openDB := true } memoDB
        earlierBackup := by
  refine ⟨⟨_, rfl, by decide⟩, ?_⟩
  rintro ⟨x, hrun, h⟩
  obtain rfl := Option.some.inj hrun
  have hkept := h (by decide) ⟨memoDB.info, [], [⟨0, 1, 0, 0, [65]⟩]⟩ (by decide)
  exact absurd hkept (by decide)

/-- With a generation kept the backup is there afterwards. -/
theorem earlierBackup_kept :
    FailedKeeps ⟨"/b", true, false, [], []⟩ 1 { soundBackup with openDB := true } memoDB
      earlierBackup :=
  (failedKeeps_iff (fun _ => rfl)).mpr (Or.inr ⟨by decide, Or.inl (by decide)⟩)

/-- The second entry cannot be read; the file is stamped and skipped from then on. -/
theorem shortBackup_skipped :
    (∃ files', (memoBackup { soundBackup with readEntry := fun i => i = 1 }).run earlierBackup =
        some (0, files') ∧
      files' "/b/A.pdb" = some ⟨⟨memoDB.info, [], [⟨0, 1, 0, 0, [65]⟩]⟩, 50⟩ ∧
      (memoBackup soundBackup).run files' = some (1, files')) ∧
      ¬ StampedComplete ⟨"/b", true, false, [], []⟩ 0
        { soundBackup with readEntry := fun i => i = 1 } memoDB earlierBackup := by
  refine ⟨⟨_, rfl, by decide, rfl⟩, ?_⟩
  rintro ⟨x, hrun, h⟩
  obtain rfl := Option.some.inj hrun
  exact absurd (h rfl (by decide)) (by decide)

def memoHistory : BackupHistory where
  backupDir := "/b"
  files := earlierBackup
  steps := [memoBackup soundBackup, memoBackup soundBackup]
  inDir := by simp [memoBackup]
  dated := by simp [memoBackup]
  faithful := by
    intro s hs file hfile hmtime
    obtain rfl : s = memoBackup soundBackup := by simpa using hs
    obtain rfl := Option.some.inj hfile
    exact absurd hmtime (by decide)

/-- The second backup skips the file the first one has completed. -/
theorem memoHistory_skipsComplete :
    ((runBackups [memoBackup soundBackup] earlierBackup).bind
        (memoBackup soundBackup).run).map Prod.fst = some 1 ∧ memoHistory.SkipsComplete := by
  refine ⟨rfl, (successfulBackup_complete_iff ⟨"/b", true, false, [], []⟩ 0 soundBackup
    memoDB earlierBackup memoHistory).2 ?_⟩
  intro s hs
  obtain rfl : s = memoBackup soundBackup := by simpa [memoHistory] using hs
  refine ⟨by decide, ?_, fun _ _ i _ => ⟨rfl, rfl⟩⟩
  rintro (hspoils | hutime)
  · cases hspoils
  · cases hutime

end GnomePilot.BackupConduit
