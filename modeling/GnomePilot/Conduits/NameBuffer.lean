import GnomePilot.Conduits.Naming
import GnomePilot.Lib.CString
import GnomePilot.Lib.Pointer

/-!
# The buffer of an escaped name

`gnome_pilot_conduit_backup_create_name` gets three bytes for every byte of the name, and
`protect_name` writes the escaped name and its final zero through a pointer to them.
-/

namespace GnomePilot.BackupConduit.NameBuffer

/-! ## The two functions -/

/-- The `switch` of `protect_name`. -/
def protectChar (d : Pointer UInt8) (c : UInt8) : Pointer UInt8 :=
  if c = '/'.toUInt8 then ((d.put '='.toUInt8).put '2'.toUInt8).put 'F'.toUInt8
  else if c = '='.toUInt8 then ((d.put '='.toUInt8).put '3'.toUInt8).put 'D'.toUInt8
  else if c = '\n'.toUInt8 then ((d.put '='.toUInt8).put '0'.toUInt8).put 'A'.toUInt8
  else if c = '\r'.toUInt8 then ((d.put '='.toUInt8).put '0'.toUInt8).put 'D'.toUInt8
  else d.put c

def protectName (d : Pointer UInt8) (s : CString) : Pointer UInt8 :=
  (s.bytes.foldl protectChar d).put 0

/-- `strlen (PI_DBINFO (dbinfo)->name) * 3` -/
def tmpNameSize (name : CString) : Nat := name.length * 3

/-- The pointer after the call; `g_new0` has filled `tmp_name` with zeros. -/
def tmpName (name : CString) : Pointer UInt8 := protectName (.start fun _ => 0) name

/-- No more bytes are written than there are in `tmp_name`, and no other ones. -/
structure Suffices (name : CString) : Prop where
  count : (tmpName name).stores.length ≤ tmpNameSize name
  within : (tmpName name).Within (tmpNameSize name)

/-- The bytes of a string in UTF-8. -/
def utf8 (s : String) : List UInt8 := s.toList.flatMap String.utf8EncodeChar

/-- `g_strdup_printf ("%s/%s.prc", cfg->backup_dir, tmp_name)`, or the same with `.pdb`. -/
def printName (backupDir name : CString) (resource : Bool) : CString where
  bytes := backupDir.bytes ++ utf8 "/" ++ name.bytes ++ utf8 (extension resource)
  terminated := by
    have hslash : 0 ∉ utf8 "/" := by decide
    have hextension : 0 ∉ utf8 (extension resource) := by cases resource <;> decide
    simp only [List.mem_append, not_or]
    exact ⟨⟨⟨backupDir.terminated, hslash⟩, name.terminated⟩, hextension⟩

/-- `gnome_pilot_conduit_backup_create_name`, if `protect_name` does not write past the end
of `tmp_name`. -/
def createName (backupDir name : CString) (resource : Bool) : Option CString :=
  if (tmpName name).Within (tmpNameSize name) then
    some (printName backupDir
      (CString.ofField fun i : Fin (tmpNameSize name) => (tmpName name).memory i) resource)
  else none

/-! ## What is written -/

/-- What is written for a byte. -/
def escape (c : UInt8) : List UInt8 :=
  if c = '/'.toUInt8 then utf8 "=2F"
  else if c = '='.toUInt8 then utf8 "=3D"
  else if c = '\n'.toUInt8 then utf8 "=0A"
  else if c = '\r'.toUInt8 then utf8 "=0D"
  else [c]

theorem protectChar_eq (d : Pointer UInt8) (c : UInt8) : protectChar d c = d.puts (escape c) := by
  unfold protectChar escape
  split_ifs <;> rfl

theorem foldl_protectChar (d : Pointer UInt8) (s : List UInt8) :
    s.foldl protectChar d = d.puts (s.flatMap escape) := by
  induction s generalizing d with
  | nil => rfl
  | cons c s ih =>
      rw [List.foldl_cons, protectChar_eq, ih, List.flatMap_cons, Pointer.puts_append]

theorem protectName_eq (d : Pointer UInt8) (s : CString) :
    protectName d s = d.puts (s.bytes.flatMap escape ++ [0]) := by
  rw [protectName, foldl_protectChar, Pointer.puts_append]
  rfl

theorem escape_eq_singleton_iff (c : UInt8) :
    escape c = [c] ↔
      c ≠ '/'.toUInt8 ∧ c ≠ '='.toUInt8 ∧ c ≠ '\n'.toUInt8 ∧ c ≠ '\r'.toUInt8 := by
  have hlength : ∀ s : String, (utf8 s).length = 3 → utf8 s ≠ [c] := by
    intro s hs h
    rw [h, List.length_singleton] at hs
    omega
  unfold escape
  split_ifs with h h h h
  · exact iff_of_false (hlength _ (by decide)) fun hc => hc.1 h
  · exact iff_of_false (hlength _ (by decide)) fun hc => hc.2.1 h
  · exact iff_of_false (hlength _ (by decide)) fun hc => hc.2.2.1 h
  · exact iff_of_false (hlength _ (by decide)) fun hc => hc.2.2.2 h
  · exact iff_of_true rfl ⟨by assumption, by assumption, by assumption, h⟩

theorem escape_uniform : Escape.Uniform escape 3 where
  wide := by decide
  length c := by
    unfold escape
    split_ifs
    · exact Or.inr (by decide)
    · exact Or.inr (by decide)
    · exact Or.inr (by decide)
    · exact Or.inr (by decide)
    · exact Or.inl rfl

theorem zero_not_mem_escape {c : UInt8} (hc : c ≠ 0) : 0 ∉ escape c := by
  unfold escape
  split_ifs
  · decide
  · decide
  · decide
  · decide
  · simpa using hc.symm

/-- The name as it is written. -/
def escaped (name : CString) : CString where
  bytes := name.bytes.flatMap escape
  terminated h := by
    obtain ⟨c, hc, hzero⟩ := List.mem_flatMap.mp h
    exact zero_not_mem_escape (fun h => name.terminated (h ▸ hc)) hzero

theorem bytes_escaped (name : CString) :
    (escaped name).bytes = name.bytes.flatMap escape := rfl

theorem tmpName_eq (name : CString) :
    tmpName name = (Pointer.start fun _ => 0).puts ((escaped name).bytes ++ [0]) :=
  protectName_eq _ name

/-! ## What fits -/

theorem length_stores (name : CString) :
    (tmpName name).stores.length = (escaped name).length + 1 := by
  rw [tmpName_eq, Pointer.length_stores, List.length_append]
  rfl

theorem within_iff (name : CString) (size : Nat) :
    (tmpName name).Within size ↔ (escaped name).length < size := by
  rw [tmpName_eq, Pointer.within_start_puts, List.length_append, List.length_singleton,
    Nat.succ_le_iff]
  rfl

theorem suffices_iff_length (name : CString) :
    Suffices name ↔ (escaped name).length < tmpNameSize name := by
  rw [← within_iff]
  constructor
  · exact Suffices.within
  · intro h
    refine ⟨?_, h⟩
    rw [length_stores]
    exact (within_iff name _).mp h

/-- The final zero is the only byte that can be outside. -/
theorem within_succ (name : CString) : (tmpName name).Within (tmpNameSize name + 1) := by
  rw [within_iff, tmpNameSize, Nat.mul_comm]
  exact Nat.lt_succ_of_le (escape_uniform.length_flatMap_le name.bytes)

/-- The buffer suffices exactly for the names with a character that is not escaped. -/
theorem suffices_iff (name : CString) :
    Suffices name ↔ ∃ c ∈ name.bytes,
      c ≠ '/'.toUInt8 ∧ c ≠ '='.toUInt8 ∧ c ≠ '\n'.toUInt8 ∧ c ≠ '\r'.toUInt8 := by
  rw [suffices_iff_length, tmpNameSize, Nat.mul_comm]
  refine (escape_uniform.length_flatMap_lt_iff name.bytes).trans ?_
  exact exists_congr fun c => and_congr_right fun _ => escape_eq_singleton_iff c

def slash : CString := ⟨utf8 "/", by decide⟩

/-- There is no room for the zero after an empty name, nor after one slash. -/
theorem slash_overruns : ¬ Suffices CString.empty ∧ ¬ Suffices slash :=
  ⟨fun h => absurd h.count (by decide), fun h => absurd h.count (by decide)⟩

/-! ## The file name

Where the buffer suffices, the file has the name that `BackupConduit.createName` gives it.
-/

theorem utf8_append (s t : String) : utf8 (s ++ t) = utf8 s ++ utf8 t := by
  rw [utf8, String.toList_append, List.flatMap_append]
  rfl

/-- The bytes of a character outside ASCII are no ASCII characters. -/
theorem toNat_of_mem_utf8EncodeChar {c : Char} {b : UInt8} (h : b ∈ String.utf8EncodeChar c) :
    b.toNat = c.toNat ∨ 128 ≤ b.toNat := by
  have hval : c.val.toNat = c.toNat := rfl
  revert h
  fun_cases String.utf8EncodeChar c
  all_goals
    simp only [List.mem_cons, List.not_mem_nil, or_false]
    rintro (rfl | rfl | rfl | rfl) <;> rw [UInt8.toNat_ofNat'] <;> omega

theorem eq_of_toUInt8_mem {c x : Char} (hx : x.toNat < 128)
    (h : x.toUInt8 ∈ String.utf8EncodeChar c) : c = x := by
  have hnat : x.toUInt8.toNat = x.toNat := by
    have hval : x.toUInt8.toNat = x.val.toNat % 256 := UInt32.toNat_toUInt8 x.val
    have heq : x.val.toNat = x.toNat := rfl
    omega
  cases toNat_of_mem_utf8EncodeChar h with
  | inl hc => exact Char.toNat_inj.mp (hc.symm.trans hnat)
  | inr hlarge => omega

/-- A character is escaped in its bytes as it is itself. -/
theorem flatMap_escape_utf8EncodeChar (c : Char) :
    (String.utf8EncodeChar c).flatMap escape =
      (BackupConduit.protectChar c).flatMap String.utf8EncodeChar := by
  unfold BackupConduit.protectChar
  split_ifs with hslash heq hnewline hreturn
  · rw [hslash]
    decide
  · rw [heq]
    decide
  · rw [hnewline]
    decide
  · rw [hreturn]
    decide
  · have hplain : ∀ b ∈ String.utf8EncodeChar c, escape b = [b] := by
      intro b hb
      rw [escape_eq_singleton_iff]
      refine ⟨?_, ?_, ?_, ?_⟩
      · rintro rfl
        exact hslash (eq_of_toUInt8_mem (by decide) hb)
      · rintro rfl
        exact heq (eq_of_toUInt8_mem (by decide) hb)
      · rintro rfl
        exact hnewline (eq_of_toUInt8_mem (by decide) hb)
      · rintro rfl
        exact hreturn (eq_of_toUInt8_mem (by decide) hb)
    rw [List.flatMap_singleton, List.flatMap_congr hplain, List.flatMap_singleton']

theorem escaped_utf8 {name : CString} {s : String} (hname : name.bytes = utf8 s) :
    (escaped name).bytes = utf8 (BackupConduit.protectName s) := by
  rw [bytes_escaped, hname, utf8, utf8, BackupConduit.protectName, String.toList_ofList,
    List.flatMap_assoc, List.flatMap_assoc]
  exact List.flatMap_congr fun c _ => flatMap_escape_utf8EncodeChar c

/-- What `%s` prints of `tmp_name`. -/
theorem ofField_tmpName {name : CString} (h : (escaped name).length < tmpNameSize name) :
    (CString.ofField fun i : Fin (tmpNameSize name) => (tmpName name).memory i) =
      escaped name := by
  have hfield : (fun i : Fin (tmpNameSize name) => (tmpName name).memory i) =
      (escaped name).toField (tmpNameSize name) (escaped name).length := by
    funext i
    rw [tmpName_eq, Pointer.memory_start_puts, CString.toField, CString.length, Nat.min_self]
    by_cases hi : (i : Nat) < (escaped name).bytes.length
    · rw [if_pos hi, List.getElem?_append_left hi, List.getD_eq_getElem?_getD]
    · rw [if_neg hi, List.getElem?_append_right (Nat.le_of_not_lt hi)]
      cases (i : Nat) - (escaped name).bytes.length with
      | zero => rfl
      | succ n => rfl
  rw [hfield, CString.ofField_toField h, CString.take_of_length_le (Nat.le_refl _)]

theorem createName_eq_some_iff {backupDir name : CString} {dir s : String}
    (hdir : backupDir.bytes = utf8 dir) (hname : name.bytes = utf8 s) (resource : Bool)
    (file : CString) :
    createName backupDir name resource = some file ↔
      Suffices name ∧ file.bytes = utf8 (BackupConduit.createName dir s resource) := by
  have hbytes : (printName backupDir (escaped name) resource).bytes =
      utf8 (BackupConduit.createName dir s resource) := by
    rw [BackupConduit.createName, utf8_append, utf8_append, utf8_append, ← hdir,
      ← escaped_utf8 hname]
    rfl
  rw [createName, suffices_iff_length, ← within_iff]
  by_cases h : (tmpName name).Within (tmpNameSize name)
  · have hlength := (within_iff name _).mp h
    rw [if_pos h, ofField_tmpName hlength, Option.some.injEq, and_iff_right h, ← hbytes]
    exact ⟨fun heq => congrArg CString.bytes heq.symm, fun heq => CString.ext heq.symm⟩
  · rw [if_neg h]
    exact iff_of_false (Option.some_ne_none file).symm fun hfile => h hfile.1

end GnomePilot.BackupConduit.NameBuffer
