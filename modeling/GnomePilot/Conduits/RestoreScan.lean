import GnomePilot.Conduits.BackupRestore

/-!
# The files a restore hands over

The scan fills an array of `MAXDBS` slots through an index that is not compared with
the limit, and opens each file by a path of at most 254 bytes.  The callback is called
once for every readable file of the directory, unless one of these limits is met.
-/

namespace GnomePilot.BackupConduit

namespace RestorePass

/-- The paths the callback is called with; `none` when the scan does not get there. -/
def calls (p : RestorePass) (fs : FileSystem) : Option (List Path) :=
  if p.trouble.opendir then none
  else (p.collect fs 0 (p.read fs)).map fun dbs => (sortDbs dbs).map FileDB.fname

def readable (p : RestorePass) (fs : FileSystem) : List Path :=
  (fs.databaseFiles p.source).filter fun path => !p.trouble.piFileOpen path

/-- The scan keeps to its array, and the callback is called exactly once for each
readable database file. -/
def HandlesAll (p : RestorePass) (fs : FileSystem) : Prop :=
  ∃ calls, p.calls fs = some calls ∧ calls.Perm (p.readable fs)

/-- The entries read that are neither dotfiles nor directories. -/
def visible (p : RestorePass) (fs : FileSystem) : List Path :=
  (p.read fs).filter fun name => !p.skips fs name

/-- A path for which the buffer is too small. -/
def long (p : RestorePass) (name : Path) : Bool := 254 < (Path.join p.source name).length

/-- The readable database files among some entries. -/
def readableOf (p : RestorePass) (fs : FileSystem) (names : List Path) : List Path :=
  (names.map (Path.join p.source)).filter fun path => !fs.isDir path && p.opens fs path

/-- The readable database files that `readdir` failed before, and the dotfiles. -/
def missed (p : RestorePass) (fs : FileSystem) : List Path :=
  p.readableOf fs ((p.read fs).filter fun name => name.head? = some 46) ++
    p.readableOf fs ((fs.entries p.source).drop p.trouble.readdir)

def cutShort (p : RestorePass) (fs : FileSystem) : List Path :=
  (((p.visible fs).filter p.long).map p.fname).filter (p.opens fs)

/-- No path that is cut short is that of a readable file; the cut ones are those of the
files that are missed, in general none. -/
def PathsFit (p : RestorePass) (fs : FileSystem) : Prop :=
  p.readableOf fs ((p.visible fs).filter p.long) = [] ∧ (p.cutShort fs).Perm (p.missed fs)

/-! ## The calls -/

/-- The reports are left by the calls, in their order. -/
theorem map_fst_callbacks {p : RestorePass} {fs : FileSystem} {dbs : List FileDB}
    {done done' : Reports × Int} (h : p.callbacks fs dbs done = some done') :
    done'.1.reverse.map Prod.fst = done.1.reverse.map Prod.fst ++ dbs.map FileDB.fname := by
  induction dbs generalizing done with
  | nil =>
      obtain rfl := Option.some.inj h
      simp
  | cons db rest ih =>
      unfold callbacks at h
      cases hinstall : p.install fs db.fname with
      | none =>
          rw [hinstall] at h
          contradiction
      | some outcome =>
          rw [hinstall] at h
          rw [ih h]
          simp

theorem calls_of_restore {p : RestorePass} {fs : FileSystem} {reports : Reports} {result : Int}
    (h : p.restore fs [] = some (reports, result)) :
    p.calls fs = some (reports.reverse.map Prod.fst) := by
  unfold restore at h
  unfold calls
  split at h
  · contradiction
  · obtain ⟨dbs, hcollect, hcallbacks⟩ := Option.bind_eq_some_iff.mp h
    rename_i hopen
    rw [if_neg hopen, hcollect, map_fst_callbacks hcallbacks]
    rfl

theorem calls_eq_none {p : RestorePass} {fs : FileSystem} : p.calls fs = none ↔
    p.trouble.opendir = true ∨ p.Overflows fs 0 (p.tried fs (p.read fs)) := by
  unfold calls
  by_cases hopen : p.trouble.opendir = true
  · simp [hopen]
  · rw [if_neg hopen, Option.map_eq_none_iff, collect_eq_none]
    simp [hopen]

/-- The calls are those for the paths tried that can be opened. -/
theorem perm_files_of_calls {p : RestorePass} {fs : FileSystem} {calls : List Path}
    (h : p.calls fs = some calls) : calls.Perm (p.files fs) := by
  unfold RestorePass.calls at h
  split at h
  · contradiction
  · obtain ⟨dbs, hcollect, rfl⟩ := Option.map_eq_some_iff.mp h
    have hfiles : dbs.map FileDB.fname = p.files fs := map_fname_collect hcollect
    rw [← hfiles]
    exact (sortDbs_perm dbs).map FileDB.fname

/-- A pass that keeps to its array has filled no more slots than it has. -/
theorem length_collect_le {p : RestorePass} {fs : FileSystem} {dbcount : Nat} {names : List Path}
    {dbs : List FileDB} (h : p.collect fs dbcount names = some dbs) :
    dbs = [] ∨ dbcount + dbs.length ≤ maxDbs := by
  induction names generalizing dbcount dbs with
  | nil => exact Or.inl (Option.some.inj h).symm
  | cons name rest ih =>
      unfold collect at h
      by_cases hskip : p.skips fs name = true
      · rw [if_pos hskip] at h
        exact ih h
      · rw [if_neg hskip] at h
        by_cases hfull : maxDbs ≤ dbcount
        · rw [if_pos hfull] at h
          contradiction
        · rw [if_neg hfull] at h
          cases hopen : p.openFile fs (p.fname name) with
          | none =>
              rw [hopen] at h
              exact ih h
          | some file =>
              rw [hopen] at h
              obtain ⟨dbs', hdbs', rfl⟩ := Option.map_eq_some_iff.mp h
              refine Or.inr ?_
              rw [List.length_cons]
              rcases ih hdbs' with rfl | hle
              · rw [List.length_nil]
                omega
              · omega

/-! ## What is missed and what is cut short -/

theorem readable_eq (p : RestorePass) (fs : FileSystem) :
    p.readable fs = p.readableOf fs (fs.entries p.source) := by
  unfold readable FileSystem.databaseFiles readableOf
  rw [List.filter_filter]
  refine List.filter_congr fun path _ => ?_
  unfold opens openFile
  cases p.trouble.piFileOpen path <;> simp

theorem readableOf_append (p : RestorePass) (fs : FileSystem) (names names' : List Path) :
    p.readableOf fs (names ++ names') = p.readableOf fs names ++ p.readableOf fs names' := by
  unfold readableOf
  rw [List.map_append, List.filter_append]

theorem readableOf_perm {p : RestorePass} {fs : FileSystem} {names names' : List Path}
    (h : names.Perm names') : (p.readableOf fs names).Perm (p.readableOf fs names') :=
  (h.map _).filter _

/-- A test splits the entries. -/
theorem readableOf_split (p : RestorePass) (fs : FileSystem) (q : Path → Bool)
    (names : List Path) :
    (p.readableOf fs names).Perm
      (p.readableOf fs (names.filter q) ++ p.readableOf fs (names.filter fun name => !q name)) := by
  rw [← readableOf_append]
  exact readableOf_perm (List.filter_append_perm q names).symm

/-- Of what `readdir` returns, the visible entries and the dotfiles are database files. -/
theorem readableOf_visible (p : RestorePass) (fs : FileSystem) :
    p.readableOf fs ((p.read fs).filter fun name => !decide (name.head? = some 46)) =
      p.readableOf fs (p.visible fs) := by
  unfold readableOf visible
  rw [List.filter_map, List.filter_map, List.filter_filter, List.filter_filter]
  refine congrArg _ (List.filter_congr fun name _ => ?_)
  by_cases hdir : fs.isDir (Path.join p.source name) = true <;> simp [skips, hdir]

theorem readable_perm (p : RestorePass) (fs : FileSystem) :
    (p.readable fs).Perm (p.readableOf fs (p.visible fs) ++ p.missed fs) := by
  have hsplit : fs.entries p.source =
      p.read fs ++ (fs.entries p.source).drop p.trouble.readdir :=
    (List.take_append_drop _ _).symm
  rw [readable_eq, hsplit, readableOf_append, ← readableOf_visible, missed, ← List.append_assoc]
  refine List.Perm.append_right _ ?_
  exact (p.readableOf_split fs (fun name => name.head? = some 46) _).trans List.perm_append_comm

theorem fname_of_not_long {p : RestorePass} {name : Path} (h : p.long name = false) :
    p.fname name = Path.join p.source name :=
  List.take_of_length_le (Nat.le_of_not_lt (of_decide_eq_false h))

theorem files_short (p : RestorePass) (fs : FileSystem) :
    (((p.visible fs).filter fun name => !p.long name).map p.fname).filter (p.opens fs) =
      p.readableOf fs ((p.visible fs).filter fun name => !p.long name) := by
  unfold readableOf
  have hmap : ((p.visible fs).filter fun name => !p.long name).map p.fname =
      ((p.visible fs).filter fun name => !p.long name).map (Path.join p.source) :=
    List.map_congr_left fun name hname =>
      fname_of_not_long (by simpa using (List.mem_filter.mp hname).2)
  rw [hmap]
  refine List.filter_congr fun path hpath => ?_
  obtain ⟨name, hname, rfl⟩ := List.mem_map.mp hpath
  obtain ⟨-, hskip⟩ := List.mem_filter.mp (List.mem_filter.mp hname).1
  have hdir : fs.isDir (Path.join p.source name) = false := by
    unfold skips at hskip
    simp only [Bool.not_eq_true', Bool.or_eq_false_iff] at hskip
    exact hskip.2
  rw [hdir]
  rfl

theorem files_perm (p : RestorePass) (fs : FileSystem) :
    (p.files fs).Perm
      (p.readableOf fs ((p.visible fs).filter fun name => !p.long name) ++ p.cutShort fs) := by
  rw [← files_short, cutShort, ← List.filter_append, ← List.map_append]
  exact (((List.filter_append_perm p.long (p.visible fs)).symm.trans
    List.perm_append_comm).map p.fname).filter _

/-- A path longer than the buffer is that of no call. -/
theorem length_of_mem_cutShort {p : RestorePass} {fs : FileSystem} {path : Path}
    (h : path ∈ p.cutShort fs) : path.length ≤ 254 := by
  obtain ⟨name, -, rfl⟩ := List.mem_map.mp (List.mem_filter.mp h).1
  exact List.length_take_le _ _

theorem length_of_mem_long {p : RestorePass} {fs : FileSystem} {path : Path}
    (h : path ∈ p.readableOf fs ((p.visible fs).filter p.long)) : 254 < path.length := by
  obtain ⟨name, hname, rfl⟩ := List.mem_map.mp (List.mem_filter.mp h).1
  exact of_decide_eq_true (List.mem_filter.mp hname).2

/-- What is opened is what is readable exactly when what is opened under other paths is
what is missed. -/
theorem files_perm_readable_iff (p : RestorePass) (fs : FileSystem) :
    (p.files fs).Perm (p.readable fs) ↔ p.PathsFit fs := by
  let short := p.readableOf fs ((p.visible fs).filter fun name => !p.long name)
  let tooLong := p.readableOf fs ((p.visible fs).filter p.long)
  have hfiles : (p.files fs).Perm (short ++ p.cutShort fs) := p.files_perm fs
  have hreadable : (p.readable fs).Perm (short ++ (tooLong ++ p.missed fs)) := by
    rw [← List.append_assoc]
    refine (p.readable_perm fs).trans (List.Perm.append_right _ ?_)
    exact (p.readableOf_split fs p.long _).trans List.perm_append_comm
  have hcut : (p.files fs).Perm (p.readable fs) ↔
      (p.cutShort fs).Perm (tooLong ++ p.missed fs) := by
    refine Iff.trans ?_ (List.perm_append_left_iff short)
    exact ⟨fun h => (hfiles.symm.trans h).trans hreadable,
      fun h => (hfiles.trans h).trans hreadable.symm⟩
  rw [hcut]
  constructor
  · intro h
    have hnil : tooLong = [] := List.eq_nil_iff_forall_not_mem.mpr fun path hpath => by
      have hlong : 254 < path.length := length_of_mem_long hpath
      have hcut := length_of_mem_cutShort (h.mem_iff.mpr (List.mem_append_left _ hpath))
      omega
    rw [hnil] at h
    exact ⟨hnil, h⟩
  · rintro ⟨hnil, h⟩
    change tooLong = [] at hnil
    rw [hnil]
    exact h

/-! ## A directory of any size -/

/-- A restore handles the directory when it can be opened, when no entry is left to try
after 256 files were opened, and when no file is missed and no path is cut short that
matters. -/
theorem handlesAll_iff (p : RestorePass) (fs : FileSystem) : p.HandlesAll fs ↔
    p.trouble.opendir = false ∧ ¬ p.Overflows fs 0 (p.tried fs (p.read fs)) ∧
      p.PathsFit fs := by
  rw [← files_perm_readable_iff]
  constructor
  · rintro ⟨calls, hcalls, hperm⟩
    have hsome : p.calls fs ≠ none := hcalls ▸ Option.some_ne_none calls
    rw [Ne, calls_eq_none, not_or, Bool.not_eq_true] at hsome
    exact ⟨hsome.1, hsome.2, (perm_files_of_calls hcalls).symm.trans hperm⟩
  · rintro ⟨hopen, hfits, hfiles⟩
    have hsome : p.calls fs ≠ none := by
      rw [Ne, calls_eq_none, hopen]
      exact fun h => hfits (h.resolve_left Bool.false_ne_true)
    obtain ⟨calls, hcalls⟩ := Option.ne_none_iff_exists'.mp hsome
    exact ⟨calls, hcalls, (perm_files_of_calls hcalls).trans hfiles⟩

/-! ## One file too many -/

/-- A directory of more files than the array has slots, each of which can be opened. -/
theorem overflows_of_length {p : RestorePass} {fs : FileSystem}
    (hopens : ∀ name ∈ p.visible fs, p.opens fs (p.fname name) = true)
    (hlength : maxDbs < (p.visible fs).length) :
    p.Overflows fs 0 (p.tried fs (p.read fs)) := by
  have hsplit : p.visible fs = (p.visible fs).take maxDbs ++ (p.visible fs).drop maxDbs :=
    (List.take_append_drop _ _).symm
  obtain ⟨name, after, hdrop⟩ : ∃ name after, (p.visible fs).drop maxDbs = name :: after := by
    refine List.exists_cons_of_length_pos ?_
    rw [List.length_drop]
    omega
  refine ⟨((p.visible fs).take maxDbs).map p.fname, p.fname name, after.map p.fname, ?_, ?_⟩
  · change (p.visible fs).map p.fname = _
    rw [hsplit, hdrop, List.map_append, List.map_cons, ← hdrop, ← hsplit]
  · have hall : ∀ fname ∈ ((p.visible fs).take maxDbs).map p.fname, p.opens fs fname = true := by
      intro fname hfname
      obtain ⟨name, hname, rfl⟩ := List.mem_map.mp hfname
      exact hopens name (List.mem_of_mem_take hname)
    rw [List.filter_eq_self.mpr hall, List.length_map, List.length_take]
    omega

/-- `"DB"` and a number, in two digits from `A` on. -/
def fullName (n : Nat) : Path :=
  [68, 66, UInt8.ofNat (65 + n / 16), UInt8.ofNat (65 + n % 16)]

/-- Nothing fails. -/
def fullPass : RestorePass where
  source := [47, 98]
  trouble :=
    { opendir := false
      readdir := 257
      piFileOpen := fun _ => false
      link := fun _ =>
        ⟨false, false, fun _ => false, fun _ => false, fun _ => false, 0x300, 0⟩ }

/-- 257 databases without entries. -/
def fullDirectory : FileSystem where
  entries := fun _ => (List.range 257).map fullName
  isDir := fun _ => false
  piFile := fun _ => some ⟨⟨"Memos", 1, 2, 1, false, false, false⟩, [], []⟩

theorem visible_fullDirectory :
    fullPass.visible fullDirectory = (List.range 257).map fullName := by
  have hread : fullPass.read fullDirectory = (List.range 257).map fullName :=
    List.take_of_length_le (by simp [fullDirectory, fullPass])
  unfold visible
  rw [hread, List.filter_eq_self]
  intro name hname
  obtain ⟨n, _, rfl⟩ := List.mem_map.mp hname
  rfl

/-- The last file of 257 is past the end of the array. -/
theorem fullDirectory_overruns :
    (fullPass.readable fullDirectory).length = 257 ∧
      fullPass.collect fullDirectory 0 (fullPass.read fullDirectory) = none ∧
        fullPass.restore fullDirectory [] = none ∧ ¬ fullPass.HandlesAll fullDirectory := by
  have hlength : (fullPass.visible fullDirectory).length = 257 := by
    rw [visible_fullDirectory, List.length_map, List.length_range]
  have hoverflows : fullPass.Overflows fullDirectory 0
      (fullPass.tried fullDirectory (fullPass.read fullDirectory)) :=
    overflows_of_length (fun _ _ => rfl) (by rw [hlength, maxDbs]; omega)
  refine ⟨?_, collect_eq_none.mpr hoverflows,
    restore_eq_none.mpr (Or.inr (Or.inl hoverflows)), ?_⟩
  · have hall : ∀ path ∈ (fullDirectory.entries fullPass.source).map (Path.join fullPass.source),
        (!fullDirectory.isDir path && fullPass.opens fullDirectory path) = true := fun _ _ => rfl
    rw [readable_eq, readableOf, List.filter_eq_self.mpr hall, List.length_map]
    simp [fullDirectory]
  · rintro ⟨calls, hcalls, _⟩
    rw [calls_eq_none.mpr (Or.inr hoverflows)] at hcalls
    exact Option.some_ne_none calls hcalls.symm

end RestorePass

end GnomePilot.BackupConduit
