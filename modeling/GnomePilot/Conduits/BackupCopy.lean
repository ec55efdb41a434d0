import GnomePilot.Conduits.Generations

/-!
# Copying a database into its backup file

`gnome_real_pilot_conduit_backup_backup` with the files: the generations are moved on,
the entries are appended to a new file one by one, and `pi_file_close` writes it under
the name of the database.  On every way out after `pi_file_create` the file is closed,
so that it is written also when the backup has failed.
-/

namespace GnomePilot.BackupConduit

open FileConduit

/-- A database on the pilot. -/
structure PilotContents where
  info : DBInfo
  appInfo : List UInt8
  entries : List Entry
  modifyDate : Int
  deriving DecidableEq, Repr

/-- Which calls of one backup fail: the test of the backup directory, the moves of the
generations, and the others by their names.  `now` is the time at which a file is written. -/
structure BackupTrouble where
  dir : Bool
  move : Nat → Bool
  piFileCreate : Bool
  openDB : Bool
  readOpenDBInfo : Bool
  readAppBlock : Bool
  readEntry : Nat → Bool
  append : Nat → Bool
  piFileClose : Bool
  utime : Bool
  now : Int

/-! ## The copy loop -/

/-- The variables of the loop, and the entries appended so far. -/
structure CopyState where
  index : Nat
  keepReading : Bool
  wrote : Nat
  appended : List Entry

/-- The body of the `do` loop; an entry that cannot be appended is passed over. -/
def copyTurn (trouble : BackupTrouble) (entries : List Entry) (st : CopyState) : CopyState :=
  match if trouble.readEntry st.index then none else entries[st.index]? with
  | none => { st with index := st.index + 1, keepReading := false }
  | some e =>
    if trouble.append st.index then { st with index := st.index + 1, keepReading := true }
    else
      { index := st.index + 1
        keepReading := true
        wrote := st.wrote + 1
        appended := st.appended ++ [e] }

/-- The condition of the loop. -/
def CopyState.goesOn (st : CopyState) (entries : List Entry) : Bool :=
  st.keepReading && st.index < entries.length

def copyLoop (trouble : BackupTrouble) (entries : List Entry) : Nat → CopyState → CopyState
  | 0, st => st
  | fuel + 1, st =>
    let st := copyTurn trouble entries st
    if st.goesOn entries then copyLoop trouble entries fuel st else st

/-- One turn an entry is enough, see `copyEntries_eq`. -/
def copyEntries (trouble : BackupTrouble) (entries : List Entry) : CopyState :=
  copyLoop trouble entries (entries.length + 1) ⟨0, true, 0, []⟩

/-- The entries read up to the first that cannot be, without those not appended. -/
def entriesCopied (trouble : BackupTrouble) : Nat → List Entry → List Entry
  | _, [] => []
  | i, e :: rest =>
    if trouble.readEntry i then []
    else if trouble.append i then entriesCopied trouble (i + 1) rest
    else e :: entriesCopied trouble (i + 1) rest

theorem entriesCopied_cons {trouble : BackupTrouble} {i : Nat} (hread : trouble.readEntry i = false)
    (e : Entry) (rest : List Entry) : entriesCopied trouble i (e :: rest) =
      (if trouble.append i then [] else [e]) ++ entriesCopied trouble (i + 1) rest := by
  simp only [entriesCopied, hread, Bool.false_eq_true, if_false]
  split <;> rfl

theorem copyTurn_of_unread {trouble : BackupTrouble} {entries : List Entry} {st : CopyState}
    (h : trouble.readEntry st.index = true ∨ entries[st.index]? = none) :
    copyTurn trouble entries st = { st with index := st.index + 1, keepReading := false } := by
  have hfound : (if trouble.readEntry st.index then none else entries[st.index]?) = none := by
    rcases h with h | h
    · rw [h]
      rfl
    · rw [h, ite_self]
  unfold copyTurn
  rw [hfound]

theorem copyTurn_of_read {trouble : BackupTrouble} {entries : List Entry} {st : CopyState}
    {e : Entry} (hread : trouble.readEntry st.index = false) (hget : entries[st.index]? = some e) :
    (copyTurn trouble entries st).index = st.index + 1 ∧
      (copyTurn trouble entries st).keepReading = true ∧
      (copyTurn trouble entries st).appended =
        st.appended ++ if trouble.append st.index then [] else [e] := by
  unfold copyTurn
  simp only [hread, Bool.false_eq_true, if_false, hget]
  split <;> simp

theorem copyLoop_eq (trouble : BackupTrouble) (before rest : List Entry) (fuel : Nat)
    {st : CopyState} (hindex : st.index = before.length) (hfuel : rest.length < fuel) :
    (copyLoop trouble (before ++ rest) fuel st).goesOn (before ++ rest) = false ∧
      (copyLoop trouble (before ++ rest) fuel st).appended =
        st.appended ++ entriesCopied trouble st.index rest := by
  induction rest generalizing before fuel st with
  | nil =>
      obtain ⟨fuel, rfl⟩ : ∃ n, fuel = n + 1 := ⟨fuel - 1, by omega⟩
      have hget : (before ++ [])[st.index]? = none := by
        rw [List.append_nil, hindex]
        exact List.getElem?_eq_none (Nat.le_refl _)
      simp only [copyLoop]
      rw [copyTurn_of_unread (Or.inr hget)]
      simp [CopyState.goesOn, entriesCopied]
  | cons e rest ih =>
      obtain ⟨fuel, rfl⟩ : ∃ n, fuel = n + 1 := ⟨fuel - 1, by omega⟩
      simp only [copyLoop]
      cases hread : trouble.readEntry st.index with
      | true =>
          rw [copyTurn_of_unread (Or.inl hread)]
          simp [CopyState.goesOn, entriesCopied, hread]
      | false =>
          have hget : (before ++ e :: rest)[st.index]? = some e := by
            rw [hindex, List.getElem?_append_right (Nat.le_refl _), Nat.sub_self]
            rfl
          have hlist : before ++ e :: rest = (before ++ [e]) ++ rest := by simp
          obtain ⟨hat, hkeep, happended⟩ := copyTurn_of_read hread hget
          have hat' : (copyTurn trouble (before ++ e :: rest) st).index =
              (before ++ [e]).length := by
            rw [hat, hindex, List.length_append]
            rfl
          rw [entriesCopied_cons hread, ← List.append_assoc, ← happended, ← hat]
          generalize copyTurn trouble (before ++ e :: rest) st = st' at hkeep hat' ⊢
          cases rest with
          | nil =>
              have hstop : st'.goesOn (before ++ [e]) = false := by
                simp [CopyState.goesOn, hat']
              rw [hstop]
              exact ⟨hstop, by simp [entriesCopied]⟩
          | cons e' rest =>
              have hgo : st'.goesOn (before ++ e :: e' :: rest) = true := by
                simp [CopyState.goesOn, hkeep, hat']
              rw [hgo, if_pos rfl, hlist]
              exact ih (before ++ [e]) fuel hat' (by simpa using hfuel)

/-- The loop has ended, with these entries appended. -/
theorem copyEntries_eq (trouble : BackupTrouble) (entries : List Entry) :
    (copyEntries trouble entries).goesOn entries = false ∧
      (copyEntries trouble entries).appended = entriesCopied trouble 0 entries :=
  copyLoop_eq trouble [] entries (entries.length + 1) rfl (Nat.lt_succ_self _)

theorem length_entriesCopied_le (trouble : BackupTrouble) (i : Nat) (es : List Entry) :
    (entriesCopied trouble i es).length ≤ es.length := by
  induction es generalizing i with
  | nil => exact Nat.le_refl _
  | cons e rest ih =>
      have hrest := ih (i + 1)
      unfold entriesCopied
      split
      · simp
      · split
        · rw [List.length_cons]
          omega
        · rw [List.length_cons, List.length_cons]
          omega

theorem entriesCopied_eq_iff (trouble : BackupTrouble) (i : Nat) (es : List Entry) :
    entriesCopied trouble i es = es ↔
      ∀ j < es.length, trouble.readEntry (i + j) = false ∧ trouble.append (i + j) = false := by
  induction es generalizing i with
  | nil => simp [entriesCopied]
  | cons e rest ih =>
      have hlength := length_entriesCopied_le trouble (i + 1) rest
      have hsplit : (∀ j < (e :: rest).length,
          trouble.readEntry (i + j) = false ∧ trouble.append (i + j) = false) ↔
          (trouble.readEntry i = false ∧ trouble.append i = false) ∧
            ∀ j < rest.length,
              trouble.readEntry (i + 1 + j) = false ∧ trouble.append (i + 1 + j) = false := by
        rw [List.length_cons, Nat.forall_lt_succ_left]
        simp only [Nat.add_zero, Nat.add_assoc, Nat.add_comm 1]
      rw [hsplit]
      unfold entriesCopied
      cases hread : trouble.readEntry i with
      | true => simp
      | false =>
          cases happend : trouble.append i with
          | true =>
              simp only [Bool.false_eq_true, if_false, if_true, Bool.true_eq_false, and_false,
                false_and, iff_false]
              intro heq
              have := congrArg List.length heq
              rw [List.length_cons] at this
              omega
          | false => simp [ih]

/-! ## gnome_real_pilot_conduit_backup_backup -/

/-- `pi_file_close` -/
def Files.write (files : Files) (name : String) (file : BackupFile) : Files := fun path =>
  if path = name then some file else files path

@[simp] theorem Files.write_self (files : Files) (name : String) (file : BackupFile) :
    files.write name file name = some file := if_pos rfl

theorem Files.write_of_ne (files : Files) {name path : String} (file : BackupFile)
    (h : path ≠ name) : files.write name file path = files path := if_neg h

theorem Files.write_write (files : Files) (name : String) (file file' : BackupFile) :
    (files.write name file).write name file' = files.write name file' := by
  funext path
  unfold Files.write
  split <;> rfl

def copiedContents (trouble : BackupTrouble) (db : PilotContents) : PiFile where
  info := db.info
  appInfo := if trouble.readAppBlock then [] else db.appInfo
  entries := (copyEntries trouble db.entries).appended

/-- The backup from the moving of the generations on. -/
def copyDatabase (noOfBackups : Nat) (trouble : BackupTrouble) (db : PilotContents)
    (name : String) (files : Files) : Option (Int × Files) := do
  let files ← createBackupOfBackup trouble.move name noOfBackups files
  if trouble.piFileCreate then return (-1, files)
  if trouble.openDB || trouble.readOpenDBInfo then
    return (-1, files.write name ⟨⟨db.info, [], []⟩, trouble.now⟩)
  let contents := copiedContents trouble db
  let files := files.write name ⟨contents, trouble.now⟩
  if trouble.piFileClose then return (-1, files)
  if trouble.utime then return (0, files)
  return (0, files.write name ⟨contents, db.modifyDate⟩)

def PilotContents.db (db : PilotContents) : PilotDB := ⟨db.info.name, db.info.resource, false⟩

/-- The modification time of the file is that of the database. -/
def unmodified (db : PilotContents) (name : String) (files : Files) : Bool :=
  (files name).map BackupFile.mtime = some db.modifyDate

/-- `gnome_real_pilot_conduit_backup_backup`; `none` when the path of a generation is printed
past the end of its block. -/
def backupDatabase (cfg : ConduitCfg) (noOfBackups : Nat) (trouble : BackupTrouble)
    (db : PilotContents) (files : Files) : Option (Int × Files) :=
  if cfg.excludes db.db then some (2, files)
  else if trouble.dir then some (-1, files)
  else
    let name := cfg.nameOf db.db
    if cfg.updatedOnly && unmodified db name files then some (1, files)
    else copyDatabase noOfBackups trouble db name files

/-- The result is that of the backup in a pass. -/
theorem backup_snd_eq (cfg : ConduitCfg) (noOfBackups : Nat) (trouble : BackupTrouble)
    (db : PilotContents) (files : Files) (opens : Bool) {copied : Int × Files}
    (h : copyDatabase noOfBackups trouble db (cfg.nameOf db.db) files = some copied) :
    (backupDatabase cfg noOfBackups trouble db files).map Prod.fst =
      some (cfg.backup ⟨db.db, opens, !trouble.dir, unmodified db (cfg.nameOf db.db) files,
        copied.1⟩).2 := by
  unfold ConduitCfg.backup backupDatabase
  cases cfg.excludes db.db with
  | true => rfl
  | false =>
      cases trouble.dir with
      | true => rfl
      | false =>
          simp only [Bool.false_eq_true, if_false, Bool.not_false, Bool.true_eq_false, h]
          split <;> rfl

/-- The copying fails after the file was created. -/
def BackupTrouble.spoils (trouble : BackupTrouble) : Bool :=
  trouble.openDB || trouble.readOpenDBInfo || trouble.piFileClose

/-- The file the copying leaves under the name of the database. -/
def writtenFile (trouble : BackupTrouble) (db : PilotContents) : BackupFile :=
  if trouble.openDB || trouble.readOpenDBInfo then ⟨⟨db.info, [], []⟩, trouble.now⟩
  else ⟨copiedContents trouble db,
    if trouble.piFileClose || trouble.utime then trouble.now else db.modifyDate⟩

/-- What the copying comes to. -/
def copied (noOfBackups : Nat) (trouble : BackupTrouble) (db : PilotContents) (name : String)
    (files : Files) : Int × Files :=
  if trouble.piFileCreate then (-1, moveGenerations trouble.move name noOfBackups files)
  else (if trouble.spoils then -1 else 0,
    (moveGenerations trouble.move name noOfBackups files).write name (writtenFile trouble db))

/-- It comes to that where the paths of the generations have room. -/
theorem copyDatabase_eq (cfg : ConduitCfg) (noOfBackups : Nat) (trouble : BackupTrouble)
    (db : PilotContents) (files : Files) :
    copyDatabase noOfBackups trouble db (cfg.nameOf db.db) files =
      if noOfBackups ≤ 10000 then some (copied noOfBackups trouble db (cfg.nameOf db.db) files)
      else none := by
  unfold copyDatabase copied BackupTrouble.spoils writtenFile ConduitCfg.nameOf
  rw [createBackupOfBackup_eq]
  by_cases hfits : noOfBackups ≤ 10000
  · rw [if_pos hfits, if_pos hfits]
    cases hcreate : trouble.piFileCreate with
    | true => rfl
    | false =>
        cases hopen : trouble.openDB || trouble.readOpenDBInfo with
        | true => simp
        | false =>
            cases hclose : trouble.piFileClose with
            | true => simp
            | false =>
                cases hutime : trouble.utime with
                | true => simp
                | false => simp [Files.write_write]
  · rw [if_neg hfits, if_neg hfits]
    rfl

end GnomePilot.BackupConduit
