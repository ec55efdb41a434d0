import GnomePilot.Conduits.FileInstall
import Mathlib.Data.List.Perm.Basic

/-!
# Restoring a directory

`gnome_real_pilot_conduit_backup_restore`: the database files of a directory are
collected, sorted, and handed one by one to the file conduit.  A pass either does
not come back, or leaves a report for every file it has handed over.
-/

namespace GnomePilot.BackupConduit

open FileConduit

/-! ## Files -/

/-- The bytes of a path or a file name. -/
abbrev Path := List UInt8

/-- `"%s/%s"` -/
def Path.join (source name : Path) : Path := source ++ 47 :: name

/-- The desktop's files: the entries of the directories, which paths are directories
for `lstat`, and the database files. -/
structure FileSystem where
  entries : Path → List Path
  isDir : Path → Bool
  piFile : Path → Option PiFile

def FileSystem.databaseFiles (fs : FileSystem) (source : Path) : List Path :=
  ((fs.entries source).map (Path.join source)).filter
    (fun path => !fs.isDir path && (fs.piFile path).isSome)

/-- What fails in one pass: `opendir`; `readdir` after a number of entries;
`pi_file_open` of a file, as it does wherever `lstat` fails; and the calls made while
a file is installed. -/
structure Trouble where
  opendir : Bool
  readdir : Nat
  piFileOpen : Path → Bool
  link : Path → Link

structure FileDB where
  fname : Path
  creator : Nat
  type : Nat
  maxblock : Nat
  deriving DecidableEq, Repr

def loadFile (fname : Path) (file : PiFile) : FileDB where
  fname := fname
  creator := file.info.creator
  type := file.info.type
  maxblock := (file.entries.map (fun e => e.data.length)).foldl max 0

/-! ## Collecting -/

def maxDbs : Nat := 256

/-- One pass over the directory `source`. -/
structure RestorePass where
  source : Path
  trouble : Trouble

namespace RestorePass

/-- Dotfiles and directories are skipped. -/
def skips (p : RestorePass) (fs : FileSystem) (name : Path) : Bool :=
  name.head? = some 46 || fs.isDir (Path.join p.source name)

def fname (p : RestorePass) (name : Path) : Path := (Path.join p.source name).take 254

/-- The file a slot of the array is filled with. -/
def openFile (p : RestorePass) (fs : FileSystem) (fname : Path) : Option PiFile :=
  if p.trouble.piFileOpen fname then none else fs.piFile fname

/-- The loop over the directory, with `dbcount` slots of the array filled; `none` when
it writes past the end of the array.  A file that cannot be opened leaves its slot to
the next one. -/
def collect (p : RestorePass) (fs : FileSystem) : Nat → List Path → Option (List FileDB)
  | _, [] => some []
  | dbcount, name :: rest =>
    if p.skips fs name then p.collect fs dbcount rest
    else if maxDbs ≤ dbcount then none
    else
      match p.openFile fs (p.fname name) with
      | none => p.collect fs dbcount rest
      | some file =>
        (p.collect fs (dbcount + 1) rest).map (loadFile (p.fname name) file :: ·)

/-- The entries `readdir` returns. -/
def read (p : RestorePass) (fs : FileSystem) : List Path :=
  (fs.entries p.source).take p.trouble.readdir

end RestorePass

/-! ## Sorting -/

/-- `compare`: types of `appl` sort later than other types. -/
def compare (d1 d2 : FileDB) : Int :=
  if d1.creator = d2.creator ∧ d1.type ≠ d2.type ∧ d1.type = piMktag 'a' 'p' 'p' 'l' then 1
  else if d1.creator = d2.creator ∧ d1.type ≠ d2.type ∧ d2.type = piMktag 'a' 'p' 'p' 'l' then -1
  else if d1.maxblock < d2.maxblock then 1
  else 0

/-- The inner loop: slot `i` holds `d`, and is exchanged with every later slot it
compares greater than. -/
def exchange (d : FileDB) : List FileDB → FileDB × List FileDB
  | [] => (d, [])
  | d' :: rest =>
    if 0 < compare d d' then
      let (first, rest) := exchange d' rest
      (first, d :: rest)
    else
      let (first, rest) := exchange d rest
      (first, d' :: rest)

def sortSlots : Nat → List FileDB → List FileDB
  | 0, dbs => dbs
  | _, [] => []
  | n + 1, d :: dbs => (exchange d dbs).1 :: sortSlots n (exchange d dbs).2

def sortDbs (dbs : List FileDB) : List FileDB := sortSlots dbs.length dbs

theorem exchange_perm (d : FileDB) (dbs : List FileDB) :
    ((exchange d dbs).1 :: (exchange d dbs).2).Perm (d :: dbs) := by
  induction dbs generalizing d with
  | nil => exact List.Perm.refl _
  | cons d' rest ih =>
      unfold exchange
      split
      · exact (List.Perm.swap _ _ _).trans ((ih d').cons d)
      · exact (List.Perm.swap _ _ _).trans (((ih d).cons d').trans (List.Perm.swap _ _ _))

theorem sortSlots_perm (n : Nat) (dbs : List FileDB) : (sortSlots n dbs).Perm dbs := by
  induction n generalizing dbs with
  | zero => exact List.Perm.refl _
  | succ n ih =>
      cases dbs with
      | nil => exact List.Perm.refl _
      | cons d dbs => exact ((ih _).cons _).trans (exchange_perm d dbs)

/-- The sort loses no file and adds none. -/
theorem sortDbs_perm (dbs : List FileDB) : (sortDbs dbs).Perm dbs := sortSlots_perm _ _

/-! ## Restoring -/

/-- The reports of the installs that came back, the last one first. -/
abbrev Reports := List (Path × Outcome)

namespace RestorePass

def install (p : RestorePass) (fs : FileSystem) (fname : Path) : Option Outcome :=
  (fileInstallDb (p.trouble.link fname) (fs.piFile fname)).map Prod.fst

/-- The loop over the callback `gnome_pilot_conduit_backup_func`; `none` when an
install does not come back. -/
def callbacks (p : RestorePass) (fs : FileSystem) :
    List FileDB → Reports × Int → Option (Reports × Int)
  | [], done => some done
  | db :: rest, (reports, result) =>
    match p.install fs db.fname with
    | none => none
    | some outcome =>
      let err := outcome.result
      p.callbacks fs rest ((db.fname, outcome) :: reports, if err < 0 then err else result)

/-- `gnome_real_pilot_conduit_backup_restore`: the reports and the result.  `readdir`
on a directory that was not opened ends the daemon. -/
def restore (p : RestorePass) (fs : FileSystem) (reports : Reports) : Option (Reports × Int) :=
  if p.trouble.opendir then none
  else (p.collect fs 0 (p.read fs)).bind fun dbs => p.callbacks fs (sortDbs dbs) (reports, 0)

/-! ## What a pass comes to -/

/-- The paths tried of the entries read. -/
def tried (p : RestorePass) (fs : FileSystem) (names : List Path) : List Path :=
  (names.filter (fun name => !p.skips fs name)).map p.fname

def opens (p : RestorePass) (fs : FileSystem) (fname : Path) : Bool :=
  (p.openFile fs fname).isSome

/-- The files of a pass: those tried that can be opened. -/
def files (p : RestorePass) (fs : FileSystem) : List Path :=
  (p.tried fs (p.read fs)).filter (p.opens fs)

/-- A path is tried when the array is full: `dbcount` files and those opened before. -/
def Overflows (p : RestorePass) (fs : FileSystem) (dbcount : Nat) (tried : List Path) : Prop :=
  ∃ before fname after, tried = before ++ fname :: after ∧
    maxDbs ≤ dbcount + (before.filter (p.opens fs)).length

/-- The pass does not come back: the directory cannot be opened, the array is too
small, or the install of a file does not end. -/
def Stops (p : RestorePass) (fs : FileSystem) : Prop :=
  p.trouble.opendir = true ∨ p.Overflows fs 0 (p.tried fs (p.read fs)) ∨
    ∃ fname ∈ p.files fs, p.install fs fname = none

theorem tried_cons (p : RestorePass) (fs : FileSystem) (name : Path) (rest : List Path) :
    p.tried fs (name :: rest) =
      if p.skips fs name then p.tried fs rest else p.fname name :: p.tried fs rest := by
  unfold tried
  cases h : p.skips fs name <;> simp [h]

theorem not_overflows_nil (p : RestorePass) (fs : FileSystem) (dbcount : Nat) :
    ¬ p.Overflows fs dbcount [] := by
  rintro ⟨before, fname, after, h, _⟩
  simp at h

theorem length_filter_opens_cons (p : RestorePass) (fs : FileSystem) (dbcount : Nat) (fname : Path)
    (before : List Path) : dbcount + ((fname :: before).filter (p.opens fs)).length =
      (if p.opens fs fname then dbcount + 1 else dbcount) +
        (before.filter (p.opens fs)).length := by
  rw [List.filter_cons]
  split
  · rw [List.length_cons]
    omega
  · rfl

theorem overflows_cons (p : RestorePass) (fs : FileSystem) (dbcount : Nat) (fname : Path)
    (rest : List Path) : p.Overflows fs dbcount (fname :: rest) ↔
      maxDbs ≤ dbcount ∨
        p.Overflows fs (if p.opens fs fname then dbcount + 1 else dbcount) rest := by
  constructor
  · rintro ⟨before, fname', after, hsplit, hfull⟩
    cases before with
    | nil => exact Or.inl hfull
    | cons head before =>
        obtain ⟨rfl, hrest⟩ := List.cons.inj hsplit
        rw [length_filter_opens_cons] at hfull
        exact Or.inr ⟨before, fname', after, hrest, hfull⟩
  · rintro (hfull | ⟨before, fname', after, rfl, hfull⟩)
    · exact ⟨[], fname, rest, rfl, hfull⟩
    · rw [← length_filter_opens_cons] at hfull
      exact ⟨fname :: before, fname', after, rfl, hfull⟩

theorem collect_eq_none {p : RestorePass} {fs : FileSystem} {dbcount : Nat} {names : List Path} :
    p.collect fs dbcount names = none ↔ p.Overflows fs dbcount (p.tried fs names) := by
  induction names generalizing dbcount with
  | nil => simp [collect, tried, not_overflows_nil]
  | cons name rest ih =>
      rw [tried_cons]
      unfold collect
      by_cases hskip : p.skips fs name = true
      · rw [if_pos hskip, if_pos hskip]
        exact ih
      · rw [if_neg hskip, if_neg hskip, overflows_cons]
        by_cases hfull : maxDbs ≤ dbcount
        · simp [hfull]
        · rw [if_neg hfull]
          cases hopen : p.openFile fs (p.fname name) with
          | none => simp [opens, hopen, hfull, ih]
          | some file => simp [opens, hopen, hfull, ih]

/-- The array holds the files opened, in the order of the directory. -/
theorem map_fname_collect {p : RestorePass} {fs : FileSystem} {dbcount : Nat} {names : List Path}
    {dbs : List FileDB} (h : p.collect fs dbcount names = some dbs) :
    dbs.map FileDB.fname = (p.tried fs names).filter (p.opens fs) := by
  induction names generalizing dbcount dbs with
  | nil =>
      obtain rfl := Option.some.inj h
      rfl
  | cons name rest ih =>
      rw [tried_cons]
      unfold collect at h
      by_cases hskip : p.skips fs name = true
      · rw [if_pos hskip] at h ⊢
        exact ih h
      · rw [if_neg hskip] at h ⊢
        split at h
        · contradiction
        · cases hopen : p.openFile fs (p.fname name) with
          | none =>
              rw [hopen] at h
              rw [List.filter_cons_of_neg (by simp [opens, hopen])]
              exact ih h
          | some file =>
              rw [hopen] at h
              obtain ⟨dbs', hdbs', rfl⟩ := Option.map_eq_some_iff.mp h
              rw [List.filter_cons_of_pos (by simp [opens, hopen]), List.map_cons, ih hdbs']
              rfl

/-! ## What a pass reports -/

theorem callbacks_eq_none {p : RestorePass} {fs : FileSystem} {dbs : List FileDB}
    {done : Reports × Int} : p.callbacks fs dbs done = none ↔
      ∃ fname ∈ dbs.map FileDB.fname, p.install fs fname = none := by
  induction dbs generalizing done with
  | nil => simp [callbacks]
  | cons db rest ih =>
      unfold callbacks
      cases hinstall : p.install fs db.fname with
      | none => simp [hinstall]
      | some outcome => simp [hinstall, ih]

/-- The last report on a file of the pass is what its install came to; those on other
files are as they were. -/
theorem lookup_callbacks {p : RestorePass} {fs : FileSystem} {dbs : List FileDB}
    {done done' : Reports × Int} (h : p.callbacks fs dbs done = some done') (fname : Path) :
    done'.1.lookup fname =
      if fname ∈ dbs.map FileDB.fname then p.install fs fname else done.1.lookup fname := by
  induction dbs generalizing done with
  | nil =>
      obtain rfl := Option.some.inj h
      rfl
  | cons db rest ih =>
      unfold callbacks at h
      cases hinstall : p.install fs db.fname with
      | none =>
          rw [hinstall] at h
          contradiction
      | some outcome =>
          rw [hinstall] at h
          rw [ih h, List.map_cons]
          by_cases hrest : fname ∈ rest.map FileDB.fname
          · rw [if_pos hrest, if_pos (List.mem_cons_of_mem _ hrest)]
          · rw [if_neg hrest]
            by_cases heq : fname = db.fname
            · rw [heq, List.lookup_cons_self, if_pos List.mem_cons_self, hinstall]
            · have hnot : fname ∉ db.fname :: rest.map FileDB.fname := by
                rw [List.mem_cons, not_or]
                exact ⟨heq, hrest⟩
              rw [if_neg hnot, List.lookup_cons, beq_false_of_ne heq]

theorem mem_map_fname_sortDbs {p : RestorePass} {fs : FileSystem} {dbs : List FileDB}
    (h : p.collect fs 0 (p.read fs) = some dbs) (fname : Path) :
    fname ∈ (sortDbs dbs).map FileDB.fname ↔ fname ∈ p.files fs := by
  rw [((sortDbs_perm dbs).map _).mem_iff, map_fname_collect h]
  rfl

theorem restore_eq_none {p : RestorePass} {fs : FileSystem} {reports : Reports} :
    p.restore fs reports = none ↔ p.Stops fs := by
  unfold restore Stops
  by_cases hopen : p.trouble.opendir = true
  · simp [hopen]
  · rw [if_neg hopen]
    cases hcollect : p.collect fs 0 (p.read fs) with
    | none => simp [collect_eq_none.mp hcollect]
    | some dbs =>
        have hfits : ¬ p.Overflows fs 0 (p.tried fs (p.read fs)) := by
          rw [← collect_eq_none, hcollect]
          exact Option.some_ne_none _
        simp [hopen, hfits, callbacks_eq_none, mem_map_fname_sortDbs hcollect]

theorem lookup_restore {p : RestorePass} {fs : FileSystem} {reports reports' : Reports}
    {result : Int} (h : p.restore fs reports = some (reports', result)) (fname : Path) :
    reports'.lookup fname =
      if fname ∈ p.files fs then p.install fs fname else reports.lookup fname := by
  unfold restore at h
  split at h
  · contradiction
  · obtain ⟨dbs, hcollect, hcallbacks⟩ := Option.bind_eq_some_iff.mp h
    rw [lookup_callbacks hcallbacks fname]
    simp only [mem_map_fname_sortDbs hcollect]

end RestorePass

end GnomePilot.BackupConduit
