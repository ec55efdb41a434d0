import GnomePilot.Conduits.Backup
import GnomePilot.Lib.Escape

/-!
# The names of backup files

`protect_name` escapes what would end a path component or a line, and the escape
character itself.  A file name is thus one component of the path and leads back to the
database; `strrchr` finds the slash before it.
-/

namespace GnomePilot.BackupConduit

/-- Neither a slash nor a line break. -/
def PathSafe (s : String) : Prop := ∀ c ∈ s.toList, c ≠ '/' ∧ c ≠ '\r' ∧ c ≠ '\n'

def fileName (name : String) (resource : Bool) : String := protectName name ++ extension resource

theorem createName_eq (backupDir name : String) (resource : Bool) :
    createName backupDir name resource = backupDir ++ "/" ++ fileName name resource :=
  String.append_assoc

theorem safe_of_all {cs : List Char}
    (h : cs.all (fun c => c ≠ '/' && c ≠ '\r' && c ≠ '\n') = true) {c : Char} (hc : c ∈ cs) :
    c ≠ '/' ∧ c ≠ '\r' ∧ c ≠ '\n' := by
  have hsafe := List.all_eq_true.mp h c hc
  simpa [and_assoc] using hsafe

theorem protectChar_safe {c c' : Char} (h : c' ∈ protectChar c) :
    c' ≠ '/' ∧ c' ≠ '\r' ∧ c' ≠ '\n' := by
  unfold protectChar at h
  split at h
  · exact safe_of_all (by decide) h
  · split at h
    · exact safe_of_all (by decide) h
    · split at h
      · exact safe_of_all (by decide) h
      · split at h
        · exact safe_of_all (by decide) h
        · obtain rfl := List.mem_singleton.mp h
          exact ⟨‹_›, ‹_›, ‹_›⟩

theorem protectName_safe (name : String) : PathSafe (protectName name) := by
  intro c hc
  rw [protectName, String.toList_ofList] at hc
  obtain ⟨c', -, hmem⟩ := List.mem_flatMap.mp hc
  exact protectChar_safe hmem

theorem fileName_safe (name : String) (resource : Bool) : PathSafe (fileName name resource) := by
  intro c hc
  rw [fileName, String.toList_append, List.mem_append] at hc
  rcases hc with hc | hc
  · exact protectName_safe name c hc
  · cases resource
    · exact safe_of_all (by decide) hc
    · exact safe_of_all (by decide) hc

/-- A file name is one component of a path, and that of one database only. -/
theorem backupName_safe_unique :
    (∀ backupDir name resource, ∃ file,
      createName backupDir name resource = backupDir ++ "/" ++ file ∧ PathSafe file) ∧
    ∀ backupDir name name' resource resource',
      createName backupDir name resource = createName backupDir name' resource' ↔
        name = name' ∧ resource = resource' := by
  constructor
  · intro backupDir name resource
    exact ⟨_, createName_eq backupDir name resource, fileName_safe name resource⟩
  · intro backupDir name name' resource resource'
    constructor
    · exact createName_inj
    · rintro ⟨rfl, rfl⟩
      rfl

/-! ## The buffer -/

theorem length_protectChar (c : Char) :
    (protectChar c).length = if protectChar c = [c] then 1 else 3 := by
  unfold protectChar
  split
  next h => subst h; decide
  split
  next h => subst h; decide
  split
  next h => subst h; decide
  split
  next h => subst h; decide
  simp

theorem protectChar_uniform : Escape.Uniform protectChar 3 where
  wide := by decide
  length c := by
    by_cases hplain : protectChar c = [c]
    · exact Or.inl hplain
    · have hlength := length_protectChar c
      rw [if_neg hplain] at hlength
      exact Or.inr hlength

/-- The buffer of three bytes a character holds the escaped name and its final zero
exactly if some character is not escaped. -/
theorem protectName_fits_iff (name : String) :
    (protectName name).toList.length + 1 ≤ 3 * name.toList.length ↔
      ∃ c ∈ name.toList, protectChar c = [c] := by
  rw [protectName, String.toList_ofList, Nat.succ_le_iff]
  exact protectChar_uniform.length_flatMap_lt_iff name.toList

/-! ## The last slash -/

/-- What stands before the last slash. -/
def dirOf (path : String) : String :=
  String.ofList ((path.toList.reverse.dropWhile (fun c => c ≠ '/')).drop 1).reverse

/-- `strrchr (path, '/') + 1` -/
def baseOf (path : String) : String :=
  String.ofList (path.toList.reverse.takeWhile (fun c => c ≠ '/')).reverse

theorem split_at_last_slash {dir base : String} (h : '/' ∉ base.toList) :
    dirOf (dir ++ "/" ++ base) = dir ∧ baseOf (dir ++ "/" ++ base) = base := by
  have hlist : (dir ++ "/" ++ base).toList.reverse =
      base.toList.reverse ++ '/' :: dir.toList.reverse := by
    simp [String.toList_append]
  have hbase : ∀ c ∈ base.toList.reverse, decide (c ≠ '/') = true := by
    intro c hc
    rw [decide_eq_true_eq]
    rintro rfl
    exact h (List.mem_reverse.mp hc)
  unfold dirOf baseOf
  rw [hlist, List.takeWhile_append_of_pos hbase, List.dropWhile_append_of_pos hbase]
  simp

theorem split_createName (backupDir name : String) (resource : Bool) :
    dirOf (createName backupDir name resource) = backupDir ∧
      baseOf (createName backupDir name resource) = fileName name resource := by
  rw [createName_eq]
  refine split_at_last_slash fun h => ?_
  exact (fileName_safe name resource '/' h).1 rfl

end GnomePilot.BackupConduit
