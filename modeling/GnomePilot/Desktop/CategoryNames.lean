import GnomePilot.Desktop.Categories
import GnomePilot.Desktop.Charset
import Mathlib.Algebra.GroupWithZero.Nat

/-!
# Categories by name

The calendar, to-do and memo conduits map the first category of an object to a slot of the
pilot's table by its name, and a slot back to a name.  A name that is in no slot is added,
cut to 15 characters; it is looked up in full.
-/

namespace GnomePilot.Category

instance Slot.neZero : NeZero 16 := ⟨Nat.succ_ne_zero 15⟩

def CategoryAppInfo.string (c : CategoryAppInfo) (i : Slot) : CString := CString.ofField (c.name i)

namespace Shared

/-- `e_pilot_add_category_if_possible` in the shared copy, for any string. -/
def ePilotAddCategoryIfPossible (catToAdd : CString) (category : CategoryAppInfo) :
    Slot × CategoryAppInfo :=
  match category.empties with
  | [] => (0, category)
  | i :: _ =>
    (i,
      { renamed := Function.update category.renamed i true
        name := Function.update category.name i (catToAdd.toField 16 15)
        ID := Function.update category.ID i (.ofNat (desktopUniqueID fun _ => category.ID i)) })

/-- The slot from the second on with the name. -/
def lookup (categoryString : CString) (category : CategoryAppInfo) : Option Slot :=
  ((List.finRange 15).map Fin.succ).find? fun i => categoryString = category.string i

/-- `e_pilot_local_category_to_remote` of an object with these categories -/
def ePilotLocalCategoryToRemote (charset : Charset) (categories : List CString)
    (category : CategoryAppInfo) : Slot × CategoryAppInfo :=
  match categories with
  | [] => (0, category)
  | first :: _ =>
      let categoryString := charset.utf8ToPchar first
      match lookup categoryString category with
      | some i => (i, category)
      | none => ePilotAddCategoryIfPossible categoryString category

/-- The category that clears the others. -/
def space : CString := ⟨[32], by decide⟩

/-- `e_pilot_remote_category_to_local`: the categories of the object afterwards. -/
def ePilotRemoteCategoryToLocal (charset : Charset) (pilotCategory : Slot)
    (categories : List CString) (category : CategoryAppInfo) : List CString :=
  if pilotCategory = 0 then [space]
  else
    let categoryString := charset.utf8FromPchar (category.string pilotCategory)
    categoryString :: categories.erase categoryString

end Shared

open Shared

/-- A name of at least one character is added as in `Calendar`. -/
theorem calendar_add_eq (c : CategoryAppInfo) (name : CategoryName) :
    Calendar.ePilotAddCategoryIfPossible c name =
      (((Shared.ePilotAddCategoryIfPossible ⟨name.bytes, name.terminated⟩ c).1.val : Int),
        (Shared.ePilotAddCategoryIfPossible ⟨name.bytes, name.terminated⟩ c).2) := by
  unfold Calendar.ePilotAddCategoryIfPossible addCategory Shared.ePilotAddCategoryIfPossible
  cases c.empties with
  | nil => rfl
  | cons i rest => rfl

/-! ## Looking up and adding -/

section Step

variable {c : CategoryAppInfo} {s : CString} {i : Slot}

theorem lookup_eq_none_iff : lookup s c = none ↔ ∀ i : Slot, i ≠ 0 → s ≠ c.string i := by
  unfold lookup
  rw [List.find?_eq_none]
  constructor
  · intro h i hi
    obtain ⟨j, rfl⟩ := Fin.exists_succ_eq.mpr hi
    simpa using h j.succ (List.mem_map_of_mem (List.mem_finRange j))
  · intro h i hi
    obtain ⟨j, -, rfl⟩ := List.mem_map.mp hi
    simpa using h j.succ (Fin.succ_ne_zero j)

theorem lookup_eq_some (h : lookup s c = some i) : i ≠ 0 ∧ s = c.string i := by
  obtain ⟨j, -, rfl⟩ := List.mem_map.mp (List.mem_of_find?_eq_some h)
  exact ⟨Fin.succ_ne_zero j, by simpa using List.find?_some h⟩

theorem used_iff_string_ne : c.used i ↔ c.string i ≠ CString.empty := by
  have hfirst : List.ofFn (c.name i) = c.name i 0 :: List.ofFn fun j : Fin 15 => c.name i j.succ :=
    List.ofFn_succ
  have hstring : c.string i = CString.empty ↔ (c.string i).bytes = [] :=
    ⟨fun h => by rw [h]; rfl, fun h => CString.ext h⟩
  rw [ne_eq, not_congr hstring, CategoryAppInfo.used, CategoryAppInfo.string, CString.ofField]
  dsimp only
  rw [hfirst, List.takeWhile_cons]
  by_cases hzero : c.name i 0 = 0
  · simp [hzero]
  · simp [hzero]

/-- The table after a string was added. -/
theorem add_cons {rest : List Slot} (h : c.empties = i :: rest) (s : CString) :
    Shared.ePilotAddCategoryIfPossible s c = (i,
      { renamed := Function.update c.renamed i true
        name := Function.update c.name i (s.toField 16 15)
        ID := Function.update c.ID i (calendarID c i) }) := by
  rw [← desktopUniqueID_calendar]
  simp [Shared.ePilotAddCategoryIfPossible, h]

theorem string_add {rest : List Slot} (h : c.empties = i :: rest) (s : CString) (j : Slot) :
    (Shared.ePilotAddCategoryIfPossible s c).2.string j =
      if j = i then s.take 15 else c.string j := by
  rw [add_cons h]
  dsimp only [CategoryAppInfo.string]
  by_cases hj : j = i
  · rw [if_pos hj, hj, Function.update_self]
    exact CString.ofField_toField (by decide) s
  · rw [if_neg hj, Function.update_of_ne hj]

theorem empties_add {rest : List Slot} (h : c.empties = i :: rest) (hs : s ≠ CString.empty) :
    (Shared.ePilotAddCategoryIfPossible s c).2.empties = rest := by
  have hne : s.bytes ≠ [] := fun h => hs (CString.ext h)
  have heq : (Calendar.ePilotAddCategoryIfPossible c ⟨s.bytes, hne, s.terminated⟩).2 =
      (Shared.ePilotAddCategoryIfPossible s c).2 := by rw [calendar_add_eq]
  rw [← heq]
  exact empties_addCategory h _

theorem calendarID_ne (c : CategoryAppInfo) (i : Slot) : calendarID c i ≠ c.ID i := by
  unfold calendarID
  by_cases h : c.ID i = 128
  · simp [h]
  · rw [if_neg h]
    exact Ne.symm h

/-- A string that was not found is found after it was added to another slot than the first
exactly if it was not cut. -/
theorem lookup_add {rest : List Slot} (h : c.empties = i :: rest) (hnone : lookup s c = none) :
    lookup s (Shared.ePilotAddCategoryIfPossible s c).2 =
      if i ≠ 0 ∧ s.length ≤ 15 then some i else none := by
  have hother := lookup_eq_none_iff.mp hnone
  by_cases hfits : i ≠ 0 ∧ s.length ≤ 15
  · rw [if_pos hfits]
    cases hfound : lookup s (Shared.ePilotAddCategoryIfPossible s c).2 with
    | none =>
        have hi := lookup_eq_none_iff.mp hfound i hfits.1
        rw [string_add h, if_pos rfl, CString.take_of_length_le hfits.2] at hi
        exact absurd rfl hi
    | some k =>
        obtain ⟨hk, hstring⟩ := lookup_eq_some hfound
        rw [string_add h] at hstring
        by_cases hki : k = i
        · rw [hki]
        · rw [if_neg hki] at hstring
          exact absurd hstring (hother k hk)
  · rw [if_neg hfits, lookup_eq_none_iff]
    intro k hk hstring
    rw [string_add h] at hstring
    by_cases hki : k = i
    · rw [if_pos hki] at hstring
      refine hfits ⟨hki ▸ hk, ?_⟩
      rw [hstring]
      exact CString.length_take_le 15 s
    · rw [if_neg hki] at hstring
      exact hother k hk hstring

end Step

/-! ## There and back -/

section RoundTrip

variable {charset : Charset} {c : CategoryAppInfo} {name : CString} {others : List CString}

/-- The name as the pilot can have it: cut to the length of its names if it is longer. -/
def pilotName (charset : Charset) (name : CString) : CString :=
  if (charset.utf8ToPchar name).length ≤ 15 then name
  else charset.utf8FromPchar ((charset.utf8ToPchar name).take 15)

/-- What a conduit needs of the mapping of an object's first category: mapped again it
changes nothing, and the slot is mapped back to the name and this to the slot. -/
structure CategoryKept (charset : Charset) (c : CategoryAppInfo) (name : CString)
    (others : List CString) : Prop where
  again :
    let mapped := ePilotLocalCategoryToRemote charset (name :: others) c
    ePilotLocalCategoryToRemote charset (name :: others) mapped.2 = mapped
  back :
    let mapped := ePilotLocalCategoryToRemote charset (name :: others) c
    mapped.1 ≠ 0 → (ePilotRemoteCategoryToLocal charset mapped.1 (name :: others)
      mapped.2).head? = some (pilotName charset name)
  forth :
    let mapped := ePilotLocalCategoryToRemote charset (name :: others) c
    mapped.1 ≠ 0 → (ePilotLocalCategoryToRemote charset (ePilotRemoteCategoryToLocal charset
      mapped.1 (name :: others) mapped.2) mapped.2).1 = mapped.1

/-- What the table has to offer: the name, no room, an empty slot other than the first for a
short name, or the first slot only. -/
def Fits (charset : Charset) (c : CategoryAppInfo) (name : CString) : Prop :=
  let categoryString := charset.utf8ToPchar name
  (∃ i : Slot, i ≠ 0 ∧ categoryString = c.string i) ∧ charset.Keeps name ∨
  (∀ i : Slot, i ≠ 0 → categoryString ≠ c.string i) ∧
    (c.empties = [] ∨
      (∃ i rest, c.empties = i :: rest ∧ i ≠ 0) ∧ categoryString.length ≤ 15 ∧
        charset.Keeps name ∨
      c.empties = [0] ∧ categoryString ≠ CString.empty)

theorem categoryKept_of_slot {i : Slot} {c' : CategoryAppInfo} (hi : i ≠ 0)
    (hmapped : ePilotLocalCategoryToRemote charset (name :: others) c = (i, c'))
    (hagain : ePilotLocalCategoryToRemote charset (name :: others) c' = (i, c'))
    (hstring : c'.string i = charset.utf8ToPchar name)
    (hlength : (charset.utf8ToPchar name).length ≤ 15) :
    CategoryKept charset c name others ↔ charset.Keeps name := by
  have hback : ePilotRemoteCategoryToLocal charset i (name :: others) c' =
      charset.utf8FromPchar (charset.utf8ToPchar name) ::
        (name :: others).erase (charset.utf8FromPchar (charset.utf8ToPchar name)) := by
    unfold ePilotRemoteCategoryToLocal
    rw [if_neg hi, hstring]
  constructor
  · intro h
    have hhead := h.back
    simp only [hmapped, hback, List.head?_cons, pilotName, if_pos hlength] at hhead
    exact Option.some.inj (hhead hi)
  · intro hkeeps
    have hkeeps' : charset.utf8FromPchar (charset.utf8ToPchar name) = name := hkeeps
    refine ⟨?_, ?_, ?_⟩
    · simp only [hmapped]
      exact hagain
    · simp only [hmapped, hback, List.head?_cons, pilotName, if_pos hlength, hkeeps']
      exact fun _ => trivial
    · simp only [hmapped, hback, hkeeps']
      exact fun _ => congrArg Prod.fst hagain

theorem localCategory_of_lookup {i : Slot} (h : lookup (charset.utf8ToPchar name) c = some i) :
    ePilotLocalCategoryToRemote charset (name :: others) c = (i, c) := by
  simp [ePilotLocalCategoryToRemote, h]

theorem localCategory_of_none (h : lookup (charset.utf8ToPchar name) c = none) :
    ePilotLocalCategoryToRemote charset (name :: others) c =
      Shared.ePilotAddCategoryIfPossible (charset.utf8ToPchar name) c := by
  simp [ePilotLocalCategoryToRemote, h]

/-- A name that is not found the second time either goes to another slot, unless there is
none but the first. -/
theorem add_add_eq_iff {s : CString} {i : Slot} {rest : List Slot} (h : c.empties = i :: rest)
    (hs : s ≠ CString.empty) :
    Shared.ePilotAddCategoryIfPossible s (Shared.ePilotAddCategoryIfPossible s c).2 =
      Shared.ePilotAddCategoryIfPossible s c ↔ c.empties = [0] := by
  have hempties := empties_add h hs
  have hfirst : (Shared.ePilotAddCategoryIfPossible s c).1 = i := by rw [add_cons h]
  have hnodup : (i :: rest).Nodup := h ▸ (List.nodup_finRange 16).filter _
  cases rest with
  | nil =>
      have hsecond : Shared.ePilotAddCategoryIfPossible s
          (Shared.ePilotAddCategoryIfPossible s c).2 =
            (0, (Shared.ePilotAddCategoryIfPossible s c).2) := by
        rw [Shared.ePilotAddCategoryIfPossible, hempties]
      rw [hsecond, h, Prod.ext_iff, hfirst]
      simp [eq_comm]
  | cons k rest =>
      have hki : k ≠ i := by
        rintro rfl
        exact (List.nodup_cons.mp hnodup).1 List.mem_cons_self
      rw [h]
      constructor
      · intro heq
        have hslot := congrArg Prod.fst heq
        rw [add_cons hempties, hfirst] at hslot
        exact absurd hslot hki
      · intro hone
        simp at hone

/-- The empty string makes no difference to the first slot but for its ID. -/
theorem add_empty_ne (hnone : lookup CString.empty c = none) (h : ∃ rest, c.empties = 0 :: rest) :
    Shared.ePilotAddCategoryIfPossible CString.empty
        (Shared.ePilotAddCategoryIfPossible CString.empty c).2 ≠
      Shared.ePilotAddCategoryIfPossible CString.empty c := by
  obtain ⟨rest, h⟩ := h
  have hunused : ¬ (Shared.ePilotAddCategoryIfPossible CString.empty c).2.used 0 := by
    rw [used_iff_string_ne, not_not, string_add h, if_pos rfl]
    exact CString.take_of_length_le (Nat.zero_le 15)
  obtain ⟨k, rest', hempties⟩ := List.exists_cons_of_ne_nil
    (List.ne_nil_of_mem (mem_empties.mpr hunused))
  have hk : k = 0 := by
    by_contra hk
    have hmem := mem_empties.mp (hempties ▸ List.mem_cons_self)
    rw [used_iff_string_ne, not_not, string_add h, if_neg hk] at hmem
    exact lookup_eq_none_iff.mp hnone k hk hmem.symm
  intro heq
  have hID := congrFun (congrArg (fun r => r.2.ID) heq) 0
  rw [add_cons hempties, hk] at hID
  simp only [Function.update_self] at hID
  exact calendarID_ne _ _ hID

theorem categoryKept_of_slot_zero
    (hmapped : (ePilotLocalCategoryToRemote charset (name :: others) c).1 = 0)
    (hagain : ePilotLocalCategoryToRemote charset (name :: others)
      (ePilotLocalCategoryToRemote charset (name :: others) c).2 =
        ePilotLocalCategoryToRemote charset (name :: others) c) :
    CategoryKept charset c name others :=
  ⟨hagain, fun h => absurd hmapped h, fun h => absurd hmapped h⟩

/-- A name that is added to the first slot: it is never looked at, so the name is added once
more. -/
theorem categoryKept_of_added_zero {rest : List Slot} (hempties : c.empties = 0 :: rest)
    (hlookup : lookup (charset.utf8ToPchar name) c = none) :
    CategoryKept charset c name others ↔
      rest = [] ∧ charset.utf8ToPchar name ≠ CString.empty := by
  have hmapped := @localCategory_of_none charset c name others hlookup
  have hfound := lookup_add hempties hlookup
  rw [if_neg (fun h => h.1 rfl)] at hfound
  have hagain := @localCategory_of_none charset _ name others hfound
  have hfirst : (Shared.ePilotAddCategoryIfPossible (charset.utf8ToPchar name) c).1 = 0 := by
    rw [add_cons hempties]
  have hkept : CategoryKept charset c name others ↔
      Shared.ePilotAddCategoryIfPossible (charset.utf8ToPchar name)
        (Shared.ePilotAddCategoryIfPossible (charset.utf8ToPchar name) c).2 =
      Shared.ePilotAddCategoryIfPossible (charset.utf8ToPchar name) c := by
    constructor
    · intro h
      have h := h.again
      simp only [hmapped, hagain] at h
      exact h
    · intro h
      exact categoryKept_of_slot_zero (by rw [hmapped, hfirst]) (by rw [hmapped, hagain, h])
  rw [hkept]
  by_cases hempty : charset.utf8ToPchar name = CString.empty
  · rw [hempty] at hlookup ⊢
    have hne := add_empty_ne hlookup ⟨rest, hempties⟩
    simp [hne]
  · rw [add_add_eq_iff hempties hempty, hempties]
    simp [hempty]

theorem categoryKept_of_added {i : Slot} {rest : List Slot} (hempties : c.empties = i :: rest)
    (hlookup : lookup (charset.utf8ToPchar name) c = none) :
    CategoryKept charset c name others ↔
      i ≠ 0 ∧ (charset.utf8ToPchar name).length ≤ 15 ∧ charset.Keeps name ∨
      i = 0 ∧ rest = [] ∧ charset.utf8ToPchar name ≠ CString.empty := by
  have hmapped := @localCategory_of_none charset c name others hlookup
  have hfound := lookup_add hempties hlookup
  have hfirst : (Shared.ePilotAddCategoryIfPossible (charset.utf8ToPchar name) c).1 = i := by
    rw [add_cons hempties]
  by_cases hi : i = 0
  · rw [categoryKept_of_added_zero (hi ▸ hempties) hlookup]
    simp [hi]
  · by_cases hlength : (charset.utf8ToPchar name).length ≤ 15
    · rw [if_pos ⟨hi, hlength⟩] at hfound
      have hstring := string_add hempties (charset.utf8ToPchar name) i
      rw [if_pos rfl, CString.take_of_length_le hlength] at hstring
      rw [categoryKept_of_slot hi (hmapped.trans (Prod.ext hfirst rfl))
        (localCategory_of_lookup hfound) hstring hlength]
      simp [hi, hlength]
    · -- What was stored is shorter than the name, so the name is added once more.
      rw [if_neg (fun h => hlength h.2)] at hfound
      have hempty : charset.utf8ToPchar name ≠ CString.empty := fun h =>
        hlength (by rw [h]; exact Nat.zero_le 15)
      refine iff_of_false (fun h => ?_) (by simp [hi, hlength])
      have h := h.again
      simp only [hmapped, @localCategory_of_none charset _ name others hfound] at h
      rw [add_add_eq_iff hempties hempty, hempties] at h
      exact hi (List.cons.inj h).1

/-- Whether the mapping does what the conduits need of it. -/
theorem categoryKept_iff (charset : Charset) {c : CategoryAppInfo}
    (hterm : ∀ i, c.name i 15 = 0) (name : CString) (others : List CString) :
    CategoryKept charset c name others ↔ Fits charset c name := by
  unfold Fits
  dsimp only
  cases hlookup : lookup (charset.utf8ToPchar name) c with
  | some i =>
      obtain ⟨hi, hstring⟩ := lookup_eq_some hlookup
      have hmapped := @localCategory_of_lookup charset c name others i hlookup
      have hlength : (charset.utf8ToPchar name).length ≤ 15 := by
        rw [hstring]
        exact CString.length_ofField_lt (hterm i)
      rw [categoryKept_of_slot hi hmapped hmapped hstring.symm hlength]
      constructor
      · exact fun hkeeps => Or.inl ⟨⟨i, hi, hstring⟩, hkeeps⟩
      · rintro (⟨-, hkeeps⟩ | ⟨hnot, -⟩)
        · exact hkeeps
        · exact absurd hstring (hnot i hi)
  | none =>
      have hnot := lookup_eq_none_iff.mp hlookup
      have hfound : ¬ ((∃ i : Slot, i ≠ 0 ∧ charset.utf8ToPchar name = c.string i) ∧
          charset.Keeps name) := fun ⟨⟨i, hi, hstring⟩, _⟩ => hnot i hi hstring
      rw [or_iff_right hfound, and_iff_right hnot]
      cases hempties : c.empties with
      | nil =>
          refine iff_of_true (categoryKept_of_slot_zero ?_ ?_) (Or.inl rfl)
          · simp [localCategory_of_none hlookup, Shared.ePilotAddCategoryIfPossible, hempties]
          · simp [localCategory_of_none hlookup, Shared.ePilotAddCategoryIfPossible, hempties]
      | cons i rest =>
          rw [categoryKept_of_added hempties hlookup]
          by_cases hi : i = 0
          · simp [hi]
          · simp [hi]

end RoundTrip

/-! ## A long name and a short one -/

/-- A charset in which every text stays as it is. -/
def plainCharset : Charset := ⟨some, some⟩

def nameOfLength (n : Nat) : CString := ⟨List.replicate n 65, by simp⟩

/-- Two syncs of an object take the second and the third slot for its category. -/
theorem longName_mapped_twice :
    let mapped := ePilotLocalCategoryToRemote plainCharset [nameOfLength 16] unfiledOnly
    mapped.1 = 1 ∧
      (ePilotLocalCategoryToRemote plainCharset [nameOfLength 16] mapped.2).1 = 2 ∧
      ¬ CategoryKept plainCharset unfiledOnly (nameOfLength 16) [] := by
  have hfirst : (ePilotLocalCategoryToRemote plainCharset [nameOfLength 16] unfiledOnly).1 = 1 := by
    decide
  have hsecond : (ePilotLocalCategoryToRemote plainCharset [nameOfLength 16]
      (ePilotLocalCategoryToRemote plainCharset [nameOfLength 16] unfiledOnly).2).1 = 2 := by
    decide
  refine ⟨hfirst, hsecond, fun h => ?_⟩
  have hagain := congrArg Prod.fst h.again
  rw [hfirst, hsecond] at hagain
  exact absurd hagain (by decide)

theorem shortName_kept : CategoryKept plainCharset unfiledOnly (nameOfLength 15) [] := by
  have hempties : unfiledOnly.empties = (List.finRange 15).map Fin.succ := by decide
  refine (categoryKept_iff plainCharset (by decide) (nameOfLength 15) []).mpr
    (Or.inr ⟨by decide, Or.inr (Or.inl ⟨⟨1, _, hempties, by decide⟩, by decide, rfl⟩)⟩)

end GnomePilot.Category
