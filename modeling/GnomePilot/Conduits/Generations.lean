import GnomePilot.Conduits.FileInstall
import GnomePilot.Conduits.Naming
import GnomePilot.Lib.Shift

/-!
# Generations of a backup

`gnome_pilot_conduit_backup_create_backup_of_backup` moves the file of a database into
the directory `0` and every generation into the next directory, the oldest first.  A
`rename` that fails is reported and the loop goes on.
-/

namespace GnomePilot.BackupConduit

open FileConduit

/-! ## Files -/

structure BackupFile where
  contents : PiFile
  mtime : Int
  deriving DecidableEq, Repr

/-- The files by their path. -/
abbrev Files := String → Option BackupFile

namespace Files

def contents (files : Files) (path : String) : Option PiFile :=
  (files path).map BackupFile.contents

/-- `rename`; a file of that name is replaced. -/
def rename (files : Files) (source target : String) : Files := fun path =>
  if path = target then files source else if path = source then none else files path

end Files

/-- `"/%d/%s"` after what stands before the last slash. -/
def generationName (name : String) (i : Nat) : String :=
  dirOf name ++ "/" ++ toString i ++ "/" ++ baseOf name

/-- The name printed into the block of `g_malloc (strlen (name) + 6)`; `none` when it goes,
with its final zero, past the end. -/
def printGeneration (name : String) (i : Nat) : Option String :=
  if (generationName name i).utf8ByteSize + 1 ≤ name.utf8ByteSize + 6 then
    some (generationName name i)
  else none

def backupNameFrom (name : String) : Nat → Option String
  | 0 => some name
  | i + 1 => printGeneration name i

/-- `gnome_pilot_conduit_backup_create_backup_of_backup` for the indices below `n`; at
`i`, `access` or `rename` fails if `fails i`. -/
def createBackupOfBackup (fails : Nat → Bool) (name : String) : Nat → Files → Option Files
  | 0, files => some files
  | i + 1, files => do
    let source ← backupNameFrom name i
    let target ← printGeneration name i
    createBackupOfBackup fails name i
      (if (files source).isSome && !fails i then files.rename source target else files)

/-! ## The names are different -/

theorem generationName_createName (backupDir name : String) (resource : Bool) (i : Nat) :
    generationName (createName backupDir name resource) i =
      backupDir ++ "/" ++ toString i ++ "/" ++ fileName name resource := by
  obtain ⟨hdir, hbase⟩ := split_createName backupDir name resource
  rw [generationName, hdir, hbase]

theorem generationName_ne (backupDir name : String) (resource : Bool) (i : Nat) :
    generationName (createName backupDir name resource) i ≠
      createName backupDir name resource := by
  intro h
  rw [generationName_createName, createName_eq] at h
  have hlength := congrArg (fun s => s.toList.length) h
  simp only [String.toList_append, List.length_append] at hlength
  have hslash : "/".toList.length = 1 := rfl
  omega

/-- The path of another database is none of the generations. -/
theorem createName_ne_generationName (backupDir name name' : String) (resource resource' : Bool)
    (i : Nat) : createName backupDir name' resource' ≠
      generationName (createName backupDir name resource) i := by
  intro h
  rw [generationName_createName, createName_eq] at h
  have hlist := congrArg String.toList h
  simp only [String.toList_append, List.append_assoc, List.append_cancel_left_eq] at hlist
  have hmem : '/' ∈ (fileName name' resource').toList := by
    rw [hlist]
    simp
  exact (fileName_safe name' resource' '/' hmem).1 rfl

theorem generationName_inj {backupDir name : String} {resource : Bool} {i j : Nat}
    (h : generationName (createName backupDir name resource) i =
      generationName (createName backupDir name resource) j) : i = j := by
  rw [generationName_createName, generationName_createName] at h
  have hlist := congrArg String.toList h
  simp only [String.toList_append, List.append_assoc, List.append_cancel_left_eq,
    List.append_cancel_right_eq] at hlist
  exact Numeral.toString_nat_injective (String.toList_inj.mp hlist)

/-! ## The blocks -/

/-- A generation of up to four digits has room in its block. -/
theorem printGeneration_createName (backupDir name : String) (resource : Bool) (i : Nat) :
    printGeneration (createName backupDir name resource) i =
      if i < 10000 then some (generationName (createName backupDir name resource) i)
      else none := by
  have hslash : "/".utf8ByteSize = 1 := rfl
  have hdigits : (toString i).utf8ByteSize ≤ 4 ↔ i < 10000 := by
    rw [Nat.toString_eq_repr, Numeral.utf8ByteSize_repr, Nat.length_repr_le_iff (by decide)]
  have hfits : (generationName (createName backupDir name resource) i).utf8ByteSize + 1 ≤
      (createName backupDir name resource).utf8ByteSize + 6 ↔ i < 10000 := by
    rw [generationName_createName, createName_eq]
    simp only [String.utf8ByteSize_append, hslash]
    omega
  unfold printGeneration
  simp only [hfits]

/-! ## The loop is a shift -/

/-- The path of a slot: the file itself, then its generations. -/
def slotName (name : String) : Nat → String
  | 0 => name
  | i + 1 => generationName name i

theorem slotName_inj {backupDir name : String} {resource : Bool} {i j : Nat}
    (h : slotName (createName backupDir name resource) i =
      slotName (createName backupDir name resource) j) : i = j := by
  cases i with
  | zero =>
      cases j with
      | zero => rfl
      | succ j => exact absurd h.symm (generationName_ne backupDir name resource j)
  | succ i =>
      cases j with
      | zero => exact absurd h (generationName_ne backupDir name resource i)
      | succ j => rw [generationName_inj h]

def moveGenerations (fails : Nat → Bool) (name : String) : Nat → Files → Files
  | 0, files => files
  | i + 1, files =>
    moveGenerations fails name i
      (if (files (slotName name i)).isSome && !fails i then
        files.rename (slotName name i) (slotName name (i + 1))
      else files)

theorem backupNameFrom_createName (backupDir name : String) (resource : Bool) {i : Nat}
    (h : i < 10000) : backupNameFrom (createName backupDir name resource) i =
      some (slotName (createName backupDir name resource) i) := by
  cases i with
  | zero => rfl
  | succ i =>
      have hprint := printGeneration_createName backupDir name resource i
      rwa [if_pos (Nat.lt_of_succ_lt h)] at hprint

/-- The loop comes through for up to 10000 generations. -/
theorem createBackupOfBackup_eq (fails : Nat → Bool) (backupDir name : String) (resource : Bool)
    (n : Nat) (files : Files) :
    createBackupOfBackup fails (createName backupDir name resource) n files =
      if n ≤ 10000 then some (moveGenerations fails (createName backupDir name resource) n files)
      else none := by
  induction n generalizing files with
  | zero => rfl
  | succ i ih =>
      unfold createBackupOfBackup
      rw [printGeneration_createName]
      by_cases hfits : i < 10000
      · rw [backupNameFrom_createName _ _ _ hfits, if_pos hfits, if_pos (Nat.succ_le_of_lt hfits)]
        exact (ih _).trans (if_pos (Nat.le_of_lt hfits))
      · rw [if_neg hfits, if_neg fun hle => hfits (Nat.lt_of_succ_le hle)]
        cases backupNameFrom (createName backupDir name resource) i <;> rfl

/-- The files of a database by generation: first the file itself. -/
def slotsOf (name : String) (files : Files) : Nat → Option BackupFile :=
  fun k => files (slotName name k)

/-- A rename from one index to the next is a move between slots. -/
theorem slotsOf_rename {backupDir name : String} {resource : Bool} (files : Files) (i : Nat) :
    slotsOf (createName backupDir name resource)
        (files.rename (slotName (createName backupDir name resource) i)
          (slotName (createName backupDir name resource) (i + 1))) =
      fun j => if j = i + 1 then slotsOf (createName backupDir name resource) files i
        else if j = i then none else slotsOf (createName backupDir name resource) files j := by
  funext j
  unfold slotsOf Files.rename
  by_cases hj : j = i + 1
  · rw [if_pos hj, if_pos (congrArg _ hj)]
  · rw [if_neg hj, if_neg fun h => hj (slotName_inj h)]
    by_cases hj' : j = i
    · rw [if_pos hj', if_pos (congrArg _ hj')]
    · rw [if_neg hj', if_neg fun h => hj' (slotName_inj h)]

theorem slotsOf_moveGenerations (fails : Nat → Bool) (backupDir name : String)
    (resource : Bool) (n : Nat) (files : Files) :
    slotsOf (createName backupDir name resource)
        (moveGenerations fails (createName backupDir name resource) n files) =
      Slots.shift fails n (slotsOf (createName backupDir name resource) files) := by
  induction n generalizing files with
  | zero => rfl
  | succ i ih =>
      unfold moveGenerations Slots.shift
      rw [ih]
      congr 1
      unfold Slots.move
      have hslot : slotsOf (createName backupDir name resource) files i =
        files (slotName (createName backupDir name resource) i) := rfl
      rw [hslot]
      split
      · rw [slotsOf_rename, hslot]
      · rfl

/-- The file of another database stays where it is. -/
theorem moveGenerations_other (fails : Nat → Bool) {backupDir name name' : String}
    {resource resource' : Bool}
    (h : createName backupDir name' resource' ≠ createName backupDir name resource) (n : Nat)
    (files : Files) :
    moveGenerations fails (createName backupDir name resource) n files
        (createName backupDir name' resource') = files (createName backupDir name' resource') := by
  induction n generalizing files with
  | zero => rfl
  | succ i ih =>
      have hsource : createName backupDir name' resource' ≠
          slotName (createName backupDir name resource) i := by
        cases i with
        | zero => exact h
        | succ i => exact createName_ne_generationName backupDir name name' resource resource' i
      unfold moveGenerations
      rw [ih]
      split
      · unfold Files.rename
        have htarget := createName_ne_generationName backupDir name name' resource resource' i
        exact (if_neg htarget).trans (if_neg hsource)
      · rfl

/-! ## What is kept -/

/-- The file is afterwards under its name or the newest generation, and every generation
but the oldest is where it was or the next one. -/
def Rotated (name : String) (n : Nat) (files files' : Files) : Prop :=
  (∀ c, files.contents name = some c →
    files'.contents name = some c ∨ files'.contents (generationName name 0) = some c) ∧
  ∀ k, k + 1 < n → ∀ c, files.contents (generationName name k) = some c →
    files'.contents (generationName name k) = some c ∨
      files'.contents (generationName name (k + 1)) = some c

/-- The loop comes through, and nothing but the oldest generation is lost. -/
def KeepsGenerations (fails : Nat → Bool) (name : String) (n : Nat) (files : Files) : Prop :=
  ∃ files', createBackupOfBackup fails name n files = some files' ∧ Rotated name n files files'

/-- Where the rename of a generation fails, that of the file before it fails too, unless
both have the same contents, or those are in the next generation and stay there. -/
def NothingOverwritten (fails : Nat → Bool) (name : String) (n : Nat) (files : Files) : Prop :=
  ∀ k, k + 1 < n → fails (k + 1) = true → fails k = false →
    ∀ file, files (generationName name k) = some file →
      ∀ file', files (slotName name k) = some file' →
        file'.contents = file.contents ∨
          ((k + 2 < n → fails (k + 2) = true) ∧
            files.contents (generationName name (k + 1)) = some file.contents)

theorem contents_moveGenerations (fails : Nat → Bool) (backupDir name : String)
    (resource : Bool) (n : Nat) (files : Files) (k : Nat) :
    (moveGenerations fails (createName backupDir name resource) n files).contents
        (slotName (createName backupDir name resource) k) =
      (Slots.shift fails n (slotsOf (createName backupDir name resource) files) k).map
        BackupFile.contents := by
  rw [← slotsOf_moveGenerations]
  rfl

theorem stays_iff (fails : Nat → Bool) (path : String) (n : Nat) (files : Files) (k : Nat)
    (c : PiFile) :
    (Slots.moves fails n (slotsOf path files) (k + 1) = false ∧
        (slotsOf path files (k + 1)).map BackupFile.contents = some c) ↔
      ((k + 1 < n → fails (k + 1) = true) ∧ files.contents (generationName path k) = some c) := by
  have hslot : slotsOf path files (k + 1) = files (generationName path k) := rfl
  unfold Slots.moves Files.contents
  rw [hslot]
  cases files (generationName path k) with
  | none => simp
  | some file => simp

section Kept

variable {fails : Nat → Bool} {path : String} {n : Nat} {files : Files}

/-- The file of the database is afterwards in its slot or the next. -/
theorem current_kept (hview : ∀ k,
      (moveGenerations fails path n files).contents (slotName path k) =
        (Slots.shift fails n (slotsOf path files) k).map BackupFile.contents)
    {c : PiFile} (hc : files.contents path = some c) :
    (moveGenerations fails path n files).contents path = some c ∨
      (moveGenerations fails path n files).contents (generationName path 0) = some c := by
  obtain ⟨file, hfile, rfl⟩ := Option.map_eq_some_iff.mp hc
  have hslot : slotsOf path files 0 = some file := hfile
  have hzero := hview 0
  have hone := hview 1
  rcases Slots.shift_keeps_zero fails n hslot with h | h
  · rw [h] at hzero
    exact Or.inl hzero
  · rw [h] at hone
    exact Or.inr hone

/-- When a generation is afterwards where it was or the next one. -/
theorem generation_kept_iff (hview : ∀ k,
      (moveGenerations fails path n files).contents (slotName path k) =
        (Slots.shift fails n (slotsOf path files) k).map BackupFile.contents)
    {k : Nat} (hk : k + 1 < n) {file : BackupFile}
    (hgen : files (generationName path k) = some file) :
    ((moveGenerations fails path n files).contents (generationName path k) =
          some file.contents ∨
        (moveGenerations fails path n files).contents (generationName path (k + 1)) =
          some file.contents) ↔
      (fails (k + 1) = true → fails k = false →
        ∀ file', files (slotName path k) = some file' →
          file'.contents = file.contents ∨
            ((k + 2 < n → fails (k + 2) = true) ∧
              files.contents (generationName path (k + 1)) = some file.contents)) := by
  have hslot : slotsOf path files (k + 1) = some file := hgen
  have hkeeps := Slots.shift_keeps_succ_iff BackupFile.contents fails n hslot
  have hself := hview (k + 1)
  have hnext := hview (k + 2)
  rw [← hself, ← hnext] at hkeeps
  have hmoves : Slots.moves fails n (slotsOf path files) (k + 1) = !fails (k + 1) := by
    simp [Slots.moves, hslot, hk]
  have hbefore : slotsOf path files k = files (slotName path k) := rfl
  refine hkeeps.trans ?_
  rw [hmoves, stays_iff, hbefore]
  unfold Slots.moves
  rw [hbefore]
  cases files (slotName path k) with
  | none => simp
  | some file' =>
      have hlt : k < n := Nat.lt_of_succ_lt hk
      cases hfails : fails (k + 1) with
      | false => simp
      | true =>
          cases hmoved : fails k with
          | true => simp [hlt]
          | false => simp [hlt]

end Kept

theorem keepsGenerations_iff (fails : Nat → Bool) (backupDir name : String) (resource : Bool)
    (n : Nat) (files : Files) :
    KeepsGenerations fails (createName backupDir name resource) n files ↔
      n ≤ 10000 ∧ NothingOverwritten fails (createName backupDir name resource) n files := by
  have hview := contents_moveGenerations fails backupDir name resource n files
  unfold KeepsGenerations
  rw [createBackupOfBackup_eq]
  by_cases hfits : n ≤ 10000
  · simp only [hfits, if_true, true_and, Option.some.injEq, exists_eq_left']
    unfold Rotated NothingOverwritten
    generalize createName backupDir name resource = path at hview ⊢
    rw [and_iff_right fun c hc => current_kept hview hc]
    refine forall_congr' fun k => forall_congr' fun hk => ?_
    cases hgen : files (generationName path k) with
    | none => simp [Files.contents, hgen]
    | some file =>
        have hcontents : files.contents (generationName path k) = some file.contents := by
          simp [Files.contents, hgen]
        have hkept := generation_kept_iff hview hk hgen
        rw [hcontents]
        simpa using hkept
  · simp [hfits]

/-! ## A generation that is lost -/

/-- The file `A.pdb` and its generation 0, which cannot be moved. -/
def twoGenerations : Files := fun path =>
  if path = "/b/A.pdb" then some ⟨⟨⟨"A", 1, 2, 1, false, false, false⟩, [], []⟩, 20⟩
  else if path = "/b/0/A.pdb" then some ⟨⟨⟨"A", 1, 2, 1, false, false, false⟩, [7], []⟩, 10⟩
  else none

theorem olderGeneration_lost :
    (∃ files', createBackupOfBackup (fun i => i = 1) "/b/A.pdb" 2 twoGenerations = some files' ∧
      files'.contents "/b/0/A.pdb" = some ⟨⟨"A", 1, 2, 1, false, false, false⟩, [], []⟩ ∧
      files'.contents "/b/1/A.pdb" = none) ∧
      ¬ KeepsGenerations (fun i => i = 1) "/b/A.pdb" 2 twoGenerations := by
  have hmoved : createBackupOfBackup (fun i => i = 1) "/b/A.pdb" 2 twoGenerations =
      some (moveGenerations (fun i => i = 1) "/b/A.pdb" 2 twoGenerations) :=
    createBackupOfBackup_eq _ "/b" "A" false 2 twoGenerations
  refine ⟨⟨_, hmoved, by decide, by decide⟩, ?_⟩
  rintro ⟨files', hfiles', h⟩
  obtain rfl := Option.some.inj (hmoved.symm.trans hfiles')
  have hkept := h.2 0 (by decide) ⟨⟨"A", 1, 2, 1, false, false, false⟩, [7], []⟩ (by decide)
  exact absurd hkept (by decide)

end GnomePilot.BackupConduit
