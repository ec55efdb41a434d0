import Mathlib.Data.List.TakeWhile
import GnomePilot.Lib.Strike
import GnomePilot.Queue.Request

/-!
# Backing up databases

The backup conduit: the files found in the backup directory at load, the backups of
the databases a pass comes to, and the files moved to `del/` when the conduit is
unloaded.  The copying of a database is its result only.
-/

namespace GnomePilot.BackupConduit

open Queue

/-! ## File names -/

/-- What `protect_name` writes for a character. -/
def protectChar (c : Char) : List Char :=
  if c = '/' then ['=', '2', 'F']
  else if c = '=' then ['=', '3', 'D']
  else if c = '\n' then ['=', '0', 'A']
  else if c = '\r' then ['=', '0', 'D']
  else [c]

def protectName (s : String) : String := String.ofList (s.toList.flatMap protectChar)

def extension (resource : Bool) : String := if resource then ".prc" else ".pdb"

/-- `gnome_pilot_conduit_backup_create_name`; `resource` is `dlpDBFlagResource`. -/
def createName (backupDir name : String) (resource : Bool) : String :=
  backupDir ++ "/" ++ protectName name ++ extension resource

theorem protectChar_append_inj {c c' : Char} {s s' : List Char}
    (h : protectChar c ++ s = protectChar c' ++ s') : c = c' ∧ s = s' := by
  unfold protectChar at h
  grind

theorem flatMap_protectChar_inj {s s' : List Char}
    (h : s.flatMap protectChar = s'.flatMap protectChar) : s = s' := by
  have hne : ∀ c s, protectChar c ++ s ≠ [] := by
    intro c s
    unfold protectChar
    grind
  induction s generalizing s' with
  | nil =>
      cases s' with
      | nil => rfl
      | cons c' s' => exact absurd h.symm (hne c' _)
  | cons c s ih =>
      cases s' with
      | nil => exact absurd h (hne c _)
      | cons c' s' =>
          obtain ⟨rfl, hrest⟩ := protectChar_append_inj h
          rw [ih hrest]

/-- A file name is that of one database name and kind only. -/
theorem createName_inj {backupDir name name' : String} {resource resource' : Bool}
    (h : createName backupDir name resource = createName backupDir name' resource') :
    name = name' ∧ resource = resource' := by
  have hlist := congrArg String.toList h
  simp only [createName, String.toList_append, List.append_assoc, List.append_cancel_left_eq]
    at hlist
  have hlen : (extension resource).toList.length = (extension resource').toList.length := by
    cases resource <;> cases resource' <;> decide
  obtain ⟨hname, hext⟩ := List.append_inj' hlist hlen
  simp only [protectName, String.toList_ofList] at hname
  refine ⟨String.toList_inj.mp (flatMap_protectChar_inj hname), ?_⟩
  cases resource <;> cases resource' <;> first | rfl | exact absurd hext (by decide)

/-! ## The conduit -/

structure ConduitCfg where
  backupDir : String
  updatedOnly : Bool
  removeDeleted : Bool
  excludeFiles : List String
  filesInBackup : List String
  deriving DecidableEq, Repr

/-- The databases `dlp_ReadDBList` finds. -/
structure PilotDB where
  name : String
  resource : Bool
  excludeFromSync : Bool
  deriving DecidableEq, Repr

/-- A database and what happens when its turn comes: whether `dlp_OpenConduit`
succeeds, whether the backup directory is usable, whether the file has the time of
the database, and what the copying returns. -/
structure Turn where
  db : PilotDB
  opens : Bool
  dirUsable : Bool
  unchanged : Bool
  copied : Int
  deriving DecidableEq, Repr

namespace ConduitCfg

def nameOf (cfg : ConduitCfg) (db : PilotDB) : String :=
  createName cfg.backupDir db.name db.resource

/-- `load_configuration`: the entries of the directory, the last one first; those with
a name of up to four bytes are ignored. -/
def load (cfg : ConduitCfg) (dir : Option (List String)) : ConduitCfg :=
  { cfg with filesInBackup := match dir with
    | some entries => ((entries.filter (fun entry => 4 < entry.utf8ByteSize)).map
        (fun entry => cfg.backupDir ++ "/" ++ entry)).reverse
    | none => [] }

/-- `gnome_pilot_conduit_backup_remove_deleted` -/
def strikeFile (cfg : ConduitCfg) (name : String) : ConduitCfg :=
  if cfg.removeDeleted then
    { cfg with filesInBackup :=
        cfg.filesInBackup.eraseP (fun filename => sameIgnoringCase filename name) }
  else cfg

/-- The database is in `exclude_files`. -/
def excludes (cfg : ConduitCfg) (db : PilotDB) : Bool :=
  cfg.excludeFiles.any (fun name => sameIgnoringCase name db.name)

/-- `gnome_real_pilot_conduit_backup_backup` -/
def backup (cfg : ConduitCfg) (t : Turn) : ConduitCfg × Int :=
  if cfg.excludes t.db then (cfg, 2)
  else if t.dirUsable = false then (cfg, -1)
  else
    let cfg' := cfg.strikeFile (cfg.nameOf t.db)
    if cfg.updatedOnly && t.unchanged then (cfg', 1) else (cfg', t.copied)

/-- `iterate_dbs` with the conduit in its list of backup conduits. -/
def pass (cfg : ConduitCfg) : List Turn → ConduitCfg
  | [] => cfg
  | t :: rest =>
    if t.opens = false then cfg
    else if t.db.excludeFromSync then cfg.pass rest
    else (cfg.backup t).1.pass rest

/-- `destroy_configuration`: the files whose `rename` into `del/` succeeds. -/
def destroy (cfg : ConduitCfg) (renames : String → Bool) : List String :=
  if cfg.removeDeleted then cfg.filesInBackup.filter renames else []

end ConduitCfg

/-! ## Sessions -/

/-- One pass over the databases on the pilot, of which the first `listed` are read
before `dlp_ReadDBList` fails. -/
structure Pass where
  onPilot : List Turn
  listed : Nat

/-- The databases `iterate_dbs` has collected. -/
def Pass.dbs (p : Pass) : List Turn := p.onPilot.take p.listed

/-- The conduit is loaded with a configuration, finds a directory, makes a number of
passes, and is unloaded. -/
structure Session where
  cfg : ConduitCfg
  dir : Option (List String)
  passes : List Pass
  renames : String → Bool

/-- The configuration at unload. -/
def Session.run (x : Session) : ConduitCfg :=
  x.passes.foldl (fun cfg p => cfg.pass p.dbs) (x.cfg.load x.dir)

/-- The files moved into `del/`. -/
def Session.moved (x : Session) : List String := x.run.destroy x.renames

/-- The whole list was read and every turn was reached. -/
def Pass.Completed (p : Pass) : Prop :=
  p.onPilot.length ≤ p.listed ∧ ∀ t ∈ p.onPilot, t.opens = true

def Pass.Lacks (p : Pass) (name : String) (resource : Bool) : Prop :=
  ∀ t ∈ p.onPilot, ¬ (t.db.name = name ∧ t.db.resource = resource)

/-- A file is moved only if a pass was completed and the database of the file was not
in its list. -/
def Session.MovesDeleted (x : Session) : Prop :=
  ∀ f ∈ x.moved, ∃ p ∈ x.passes, p.Completed ∧
    ∀ name resource, f = createName x.cfg.backupDir name resource → p.Lacks name resource

/-! ## Which files are left at unload -/

def foldCase (s : String) : List Char := s.toList.map Char.toLower

namespace ConduitCfg

/-- The backup of this database comes to the striking. -/
def reaches (cfg : ConduitCfg) (t : Turn) : Bool :=
  !t.db.excludeFromSync && !cfg.excludes t.db && t.dirUsable

def struckNames (cfg : ConduitCfg) (turns : List Turn) : List String :=
  ((turns.takeWhile Turn.opens).filter cfg.reaches).map (fun t => cfg.nameOf t.db)

/-- The configuration with these names struck off its files. -/
def struck (cfg : ConduitCfg) (names : List String) : ConduitCfg :=
  { cfg with filesInBackup :=
      if cfg.removeDeleted then strikes foldCase cfg.filesInBackup (names.map foldCase)
      else cfg.filesInBackup }

@[simp] theorem struck_nil (cfg : ConduitCfg) : cfg.struck [] = cfg := by
  simp [struck]

theorem struck_append (cfg : ConduitCfg) (names names' : List String) :
    (cfg.struck names).struck names' = cfg.struck (names ++ names') := by
  unfold struck
  by_cases h : cfg.removeDeleted = true
  · simp [h, strikes_append]
  · simp [h]

@[simp] theorem struckNames_struck (cfg : ConduitCfg) (names : List String) (turns : List Turn) :
    (cfg.struck names).struckNames turns = cfg.struckNames turns := rfl

theorem strikeFile_eq (cfg : ConduitCfg) (name : String) :
    cfg.strikeFile name = cfg.struck [name] := by
  unfold strikeFile struck
  split <;> rfl

/-- A backup changes the list of files only, and only by its own name. -/
theorem fst_backup (cfg : ConduitCfg) (t : Turn) :
    (cfg.backup t).1 = cfg.struck
      (if !cfg.excludes t.db && t.dirUsable then [cfg.nameOf t.db] else []) := by
  unfold backup
  cases hex : cfg.excludes t.db with
  | true => simp
  | false =>
      cases hdir : t.dirUsable with
      | false => simp
      | true =>
          simp only [Bool.false_eq_true, if_false, Bool.true_eq_false, strikeFile_eq]
          split <;> rfl

theorem struckNames_cons (cfg : ConduitCfg) {t : Turn} (h : t.opens = true) (rest : List Turn) :
    cfg.struckNames (t :: rest) =
      (if cfg.reaches t then [cfg.nameOf t.db] else []) ++ cfg.struckNames rest := by
  unfold struckNames
  rw [List.takeWhile_cons_of_pos h, List.filter_cons]
  split <;> rfl

theorem pass_eq (cfg : ConduitCfg) (turns : List Turn) :
    cfg.pass turns = cfg.struck (cfg.struckNames turns) := by
  induction turns generalizing cfg with
  | nil => exact cfg.struck_nil.symm
  | cons t rest ih =>
      unfold pass
      cases hopens : t.opens with
      | false =>
          rw [if_pos rfl, struckNames, List.takeWhile_cons_of_neg (by simp [hopens])]
          exact cfg.struck_nil.symm
      | true =>
          rw [if_neg (by decide), cfg.struckNames_cons hopens]
          cases hsync : t.db.excludeFromSync with
          | true =>
              have hreaches : cfg.reaches t = false := by simp [reaches, hsync]
              rw [if_pos rfl, ih, hreaches]
              rfl
          | false =>
              have hreaches : cfg.reaches t = (!cfg.excludes t.db && t.dirUsable) := by
                simp [reaches, hsync]
              rw [if_neg (by decide), ih, fst_backup, struckNames_struck, struck_append, hreaches]

end ConduitCfg

namespace Session

def candidates (x : Session) : List String := (x.cfg.load x.dir).filesInBackup

def struckNames (x : Session) : List String :=
  x.passes.flatMap (fun p => x.cfg.struckNames p.dbs)

theorem foldl_pass (cfg : ConduitCfg) (passes : List Pass) :
    passes.foldl (fun cfg p => cfg.pass p.dbs) cfg =
      cfg.struck (passes.flatMap (fun p => cfg.struckNames p.dbs)) := by
  induction passes generalizing cfg with
  | nil => exact cfg.struck_nil.symm
  | cons p passes ih =>
      rw [List.foldl_cons, ih, ConduitCfg.pass_eq, List.flatMap_cons]
      exact cfg.struck_append _ _

theorem run_eq (x : Session) : x.run = (x.cfg.load x.dir).struck x.struckNames :=
  foldl_pass _ _

/-- Enough of the names struck off are that of the file, ignoring case, to come to it
in the list. -/
def Strikes (x : Session) (f : String) : Prop :=
  f ∉ (withKey foldCase x.candidates (foldCase f)).drop
    ((x.struckNames.map foldCase).count (foldCase f))

/-- The files moved are those found and not struck off. -/
theorem mem_moved {x : Session} {f : String} : f ∈ x.moved ↔
    x.cfg.removeDeleted = true ∧ x.renames f = true ∧ ¬ x.Strikes f := by
  have hflag : ((x.cfg.load x.dir).struck x.struckNames).removeDeleted = x.cfg.removeDeleted := rfl
  unfold moved ConduitCfg.destroy Strikes
  rw [run_eq, hflag, not_not, ← mem_strikes]
  by_cases h : x.cfg.removeDeleted = true
  · have hload : (x.cfg.load x.dir).removeDeleted = true := h
    rw [if_pos h, List.mem_filter, ConduitCfg.struck, if_pos hload]
    simp [h, candidates, and_comm]
  · simp [h]

end Session

/-! ## When only deleted databases are moved -/

namespace Session

/-- Nothing is removed, or every file that can be moved is struck off or belongs to no
database of a pass that was completed. -/
def Careful (x : Session) : Prop :=
  x.cfg.removeDeleted = false ∨ ∀ f ∈ x.candidates, x.renames f = true →
    x.Strikes f ∨ ∃ p ∈ x.passes, p.Completed ∧ ∀ t ∈ p.onPilot, x.cfg.nameOf t.db ≠ f

theorem mem_candidates_of_not_strikes {x : Session} {f : String} (h : ¬ x.Strikes f) :
    f ∈ x.candidates := by
  unfold Strikes at h
  rw [not_not, ← mem_strikes] at h
  have hmem := mem_strikes.mp h
  exact List.mem_of_mem_filter (List.mem_of_mem_drop hmem)

/-- The database of a file is not in the list exactly when no database in it would be
backed up to the file. -/
theorem lacks_iff (x : Session) (p : Pass) (f : String) :
    (∀ name resource, f = createName x.cfg.backupDir name resource → p.Lacks name resource) ↔
      ∀ t ∈ p.onPilot, x.cfg.nameOf t.db ≠ f := by
  constructor
  · intro h t ht heq
    exact h t.db.name t.db.resource heq.symm t ht ⟨rfl, rfl⟩
  · intro h name resource hf t ht hdb
    apply h t ht
    rw [hf, ConduitCfg.nameOf, hdb.1, hdb.2]

theorem movesDeleted_iff (x : Session) : x.MovesDeleted ↔ x.Careful := by
  unfold MovesDeleted Careful
  constructor
  · intro h
    by_cases hflag : x.cfg.removeDeleted = true
    · refine Or.inr fun f _ hrename => ?_
      by_cases hstruck : x.Strikes f
      · exact Or.inl hstruck
      · obtain ⟨p, hp, hdone, hlacks⟩ := h f (mem_moved.mpr ⟨hflag, hrename, hstruck⟩)
        exact Or.inr ⟨p, hp, hdone, (x.lacks_iff p f).mp hlacks⟩
    · exact Or.inl (by simpa using hflag)
  · intro h f hf
    obtain ⟨hflag, hrename, hstruck⟩ := mem_moved.mp hf
    rcases h with hoff | h
    · rw [hoff] at hflag
      contradiction
    · rcases h f (mem_candidates_of_not_strikes hstruck) hrename with hs | ⟨p, hp, hdone, hnone⟩
      · exact absurd hs hstruck
      · exact ⟨p, hp, hdone, (x.lacks_iff p f).mpr hnone⟩

theorem mem_struckNames_of_completed (cfg : ConduitCfg) {p : Pass} (hdone : p.Completed)
    (hreach : ∀ t ∈ p.onPilot, cfg.reaches t = true) {t : Turn} (ht : t ∈ p.onPilot) :
    cfg.nameOf t.db ∈ cfg.struckNames p.dbs := by
  have hdbs : p.dbs = p.onPilot := List.take_of_length_le hdone.1
  have hopens : p.onPilot.takeWhile Turn.opens = p.onPilot :=
    List.takeWhile_eq_self_iff.mpr hdone.2
  unfold ConduitCfg.struckNames
  rw [hdbs, hopens, List.filter_eq_self.mpr hreach]
  exact List.mem_map_of_mem ht

/-- A session is careful if one pass was completed and backed up every database, and no
two files have names that differ in case only. -/
theorem careful_of_completed (x : Session) {p : Pass} (hp : p ∈ x.passes) (hdone : p.Completed)
    (hreach : ∀ t ∈ p.onPilot, x.cfg.reaches t = true)
    (hnodup : (x.candidates.map foldCase).Nodup) : x.Careful := by
  refine Or.inr fun f _ _ => ?_
  by_cases hdb : ∃ t ∈ p.onPilot, x.cfg.nameOf t.db = f
  · obtain ⟨t, ht, rfl⟩ := hdb
    left
    have hname : x.cfg.nameOf t.db ∈ x.struckNames :=
      List.mem_flatMap.mpr ⟨p, hp, mem_struckNames_of_completed x.cfg hdone hreach ht⟩
    unfold Strikes
    rw [← mem_strikes, mem_strikes_of_nodup hnodup, not_and, not_not]
    intro _
    exact List.mem_map_of_mem hname
  · right
    exact ⟨p, hp, hdone, fun t ht heq => hdb ⟨t, ht, heq⟩⟩

end Session

/-- The sessions of a history move the files of deleted databases only, exactly when
each of them is careful. -/
theorem movesDeleted_history_iff (history : List Session) :
    (∀ x ∈ history, x.MovesDeleted) ↔ ∀ x ∈ history, x.Careful :=
  forall₂_congr fun x _ => x.movesDeleted_iff

/-- Files of deleted databases are to be removed; two files are found. -/
def addressBackup (passes : List Pass) : Session where
  cfg := ⟨"/b", true, true, [], []⟩
  dir := some [".", "..", "del", "AddressDB.pdb", "OldDB.pdb"]
  passes := passes
  renames _ := true

def addressTurn : Turn := ⟨⟨"AddressDB", false, false⟩, true, true, false, 0⟩

/-- Without a pass every file is moved, and with a pass that breaks off before the first
database; with a completed pass only the file of the deleted database is. -/
theorem unsynchronized_moved :
    (addressBackup []).moved = ["/b/OldDB.pdb", "/b/AddressDB.pdb"] ∧
      (addressBackup [⟨[{ addressTurn with opens := false }], 1⟩]).moved =
        ["/b/OldDB.pdb", "/b/AddressDB.pdb"] ∧
      (addressBackup [⟨[addressTurn], 1⟩]).moved = ["/b/OldDB.pdb"] ∧
      ¬ (∀ x ∈ [addressBackup []], x.MovesDeleted) := by
  refine ⟨by decide, by decide, by decide, fun h => ?_⟩
  obtain ⟨p, hp, _⟩ := h _ List.mem_cons_self "/b/AddressDB.pdb" (by decide)
  exact absurd hp List.not_mem_nil

end GnomePilot.BackupConduit
