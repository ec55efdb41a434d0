import GnomePilot.Lib.History
import Mathlib.Data.Finset.Card
import Mathlib.Data.Fintype.Card
import Mathlib.Order.Interval.Finset.Nat
import Mathlib.Data.List.FinRange

/-!
# Adding a category

`e_pilot_add_category_if_possible`, in the copy the calendar conduits share and in the
copy of the address conduit.  The copies differ in one index: which slot's ID is
compared when an unused ID is searched.
-/

namespace GnomePilot.Category

/-- `PILOT_MAX_CATEGORIES` -/
abbrev Slot := Fin 16

/-- `struct CategoryAppInfo`, as far as the function reads and writes it. -/
structure CategoryAppInfo where
  renamed : Slot → Bool
  name : Slot → Fin 16 → UInt8
  ID : Slot → UInt8

/-- A category name as a caller has it: a C string with at least one character. -/
structure CategoryName where
  bytes : List UInt8
  nonempty : bytes ≠ []
  terminated : 0 ∉ bytes

/-- `strlen (category->name[i]) != 0` -/
def CategoryAppInfo.used (c : CategoryAppInfo) (i : Slot) : Prop := c.name i 0 ≠ 0

instance (c : CategoryAppInfo) (i : Slot) : Decidable (c.used i) :=
  inferInstanceAs (Decidable (_ ≠ _))

def CategoryAppInfo.empties (c : CategoryAppInfo) : List Slot :=
  (List.finRange 16).filter (fun i => ¬ c.used i)

/-- At most 15 characters are copied, the rest of the array is cleared. -/
def truncated (catToAdd : CategoryName) (j : Fin 16) : UInt8 :=
  if j < min catToAdd.bytes.length 15 then catToAdd.bytes.getD j 0 else 0

/-- The inner loop: `found` is set when one of the compared IDs is the candidate. -/
def found (compared : Slot → UInt8) (candidate : Nat) : Bool :=
  (List.finRange 16).any (fun j => (compared j).toNat = candidate)

/-- The outer loop, from 128 to 255; past the end the variable is 256. -/
def desktopUniqueID (compared : Slot → UInt8) : Nat :=
  ((List.range' 128 128).find? (fun candidate => !found compared candidate)).getD 256

/-- The function with the IDs its inner loop compares; the result is the slot filled,
or 0. -/
def addCategory (compared : CategoryAppInfo → Slot → Slot → UInt8) (category : CategoryAppInfo)
    (catToAdd : CategoryName) : Int × CategoryAppInfo :=
  match category.empties with
  | [] => (0, category)
  | i :: _ =>
    (i.val,
      { renamed := Function.update category.renamed i true
        name := Function.update category.name i (truncated catToAdd)
        ID := Function.update category.ID i
          (.ofNat (desktopUniqueID (compared category i))) })

namespace Calendar

/-- The copy in `libecalendar-common-conduit.c` compares `category->ID[i]`. -/
def ePilotAddCategoryIfPossible : CategoryAppInfo → CategoryName → Int × CategoryAppInfo :=
  addCategory fun category i _ => category.ID i

end Calendar

namespace Address

/-- The copy in `address-conduit.c` compares `category->ID[j]`. -/
def ePilotAddCategoryIfPossible : CategoryAppInfo → CategoryName → Int × CategoryAppInfo :=
  addCategory fun category _ j => category.ID j

end Address

/-! ## What a call must do -/

/-- The used slots have pairwise distinct IDs. -/
def CategoryAppInfo.Distinct (c : CategoryAppInfo) : Prop :=
  ∀ i j, c.used i → c.used j → c.ID i = c.ID j → i = j

/-- Used slots keep name and ID, and one empty slot was filled or none. -/
structure Fills (c c' : CategoryAppInfo) : Prop where
  kept : ∀ i, c.used i → c'.used i ∧ c'.name i = c.name i ∧ c'.ID i = c.ID i
  one : c' = c ∨ ∃ i, ¬ c.used i ∧ c'.used i ∧
    ∀ j, j ≠ i → c'.renamed j = c.renamed j ∧ c'.name j = c.name j ∧ c'.ID j = c.ID j

/-- What a sequence of calls must keep. -/
structure StaysUnique (add : CategoryAppInfo → CategoryName → Int × CategoryAppInfo)
    (c : CategoryAppInfo) (names : List CategoryName) : Prop where
  distinct : History.Always (fun c name => (add c name).2) CategoryAppInfo.Distinct c names
  fills : History.Allowed (fun c name => (add c name).2)
    (fun c name => Fills c (add c name).2) c names

/-! ## One call -/

section Step

variable {compared : CategoryAppInfo → Slot → Slot → UInt8} {c : CategoryAppInfo}

theorem mem_empties {i : Slot} : i ∈ c.empties ↔ ¬ c.used i := by
  simp [CategoryAppInfo.empties]

theorem truncated_zero_ne (name : CategoryName) : truncated name 0 ≠ 0 := by
  obtain ⟨bytes, hne, hterm⟩ := name
  cases bytes with
  | nil => exact absurd rfl hne
  | cons b bs =>
      have hb : b ≠ 0 := by
        rintro rfl
        exact hterm List.mem_cons_self
      simpa [truncated] using hb

theorem addCategory_full (h : c.empties = []) (name : CategoryName) :
    (addCategory compared c name).2 = c := by
  simp [addCategory, h]

/-- The table after a call that finds an empty slot. -/
theorem addCategory_cons {i : Slot} {rest : List Slot} (h : c.empties = i :: rest)
    (name : CategoryName) :
    (addCategory compared c name).2 =
      { renamed := Function.update c.renamed i true
        name := Function.update c.name i (truncated name)
        ID := Function.update c.ID i (.ofNat (desktopUniqueID (compared c i))) } := by
  simp [addCategory, h]

theorem used_addCategory {i : Slot} {rest : List Slot} (h : c.empties = i :: rest)
    (name : CategoryName) (j : Slot) :
    (addCategory compared c name).2.used j ↔ j = i ∨ c.used j := by
  rw [addCategory_cons h]
  unfold CategoryAppInfo.used
  by_cases hj : j = i
  · simp [hj, truncated_zero_ne]
  · simp [hj]

theorem empties_addCategory {i : Slot} {rest : List Slot} (h : c.empties = i :: rest)
    (name : CategoryName) : (addCategory compared c name).2.empties = rest := by
  have hnodup : (i :: rest).Nodup := h ▸ (List.nodup_finRange 16).filter _
  have hfilter : (addCategory compared c name).2.empties = c.empties.filter (fun j => j ≠ i) := by
    unfold CategoryAppInfo.empties
    rw [List.filter_filter]
    apply List.filter_congr
    intro j _
    rw [← Bool.decide_and]
    apply decide_eq_decide.mpr
    rw [used_addCategory h]
    tauto
  rw [hfilter, h, List.filter_cons_of_neg (by simp), List.filter_eq_self]
  intro j hj
  have : j ≠ i := by
    rintro rfl
    exact (List.nodup_cons.mp hnodup).1 hj
  simp [this]

/-- A call fills the first empty slot or leaves the table alone. -/
theorem fills_addCategory (c : CategoryAppInfo) (name : CategoryName) :
    Fills c (addCategory compared c name).2 := by
  cases h : c.empties with
  | nil =>
      rw [addCategory_full h]
      exact ⟨fun i hi => ⟨hi, rfl, rfl⟩, Or.inl rfl⟩
  | cons i rest =>
      have hi : ¬ c.used i := mem_empties.mp (h ▸ List.mem_cons_self)
      refine ⟨fun j hj => ?_, Or.inr ⟨i, hi, (used_addCategory h name i).mpr (Or.inl rfl), ?_⟩⟩
      · have hji : j ≠ i := by
          rintro rfl
          exact hi hj
        refine ⟨(used_addCategory h name j).mpr (Or.inr hj), ?_, ?_⟩ <;>
          rw [addCategory_cons h] <;> exact Function.update_of_ne hji _ _
      · intro j hj
        rw [addCategory_cons h]
        exact ⟨Function.update_of_ne hj _ _, Function.update_of_ne hj _ _,
          Function.update_of_ne hj _ _⟩

/-- The IDs stay distinct exactly when no used slot has the new one. -/
theorem distinct_addCategory {i : Slot} {rest : List Slot} (h : c.empties = i :: rest)
    (hd : c.Distinct) (name : CategoryName) : (addCategory compared c name).2.Distinct ↔
      ∀ j, c.used j → c.ID j ≠ .ofNat (desktopUniqueID (compared c i)) := by
  have hi : ¬ c.used i := mem_empties.mp (h ▸ List.mem_cons_self)
  have hID : ∀ j, (addCategory compared c name).2.ID j =
      if j = i then .ofNat (desktopUniqueID (compared c i)) else c.ID j := by
    intro j
    rw [addCategory_cons h]
    exact Function.update_apply _ _ _ _
  unfold CategoryAppInfo.Distinct
  simp only [used_addCategory h, hID]
  constructor
  · intro hdist j hj heq
    have hji : j ≠ i := by
      rintro rfl
      exact hi hj
    have := hdist j i (Or.inr hj) (Or.inl rfl)
    rw [if_neg hji, if_pos rfl] at this
    exact hji (this heq)
  · intro hfresh j k hj hk heq
    by_cases hji : j = i <;> by_cases hki : k = i
    · rw [hji, hki]
    · rw [if_pos hji, if_neg hki] at heq
      exact absurd heq.symm (hfresh k (hk.resolve_left hki))
    · rw [if_neg hji, if_pos hki] at heq
      exact absurd heq (hfresh j (hj.resolve_left hji))
    · rw [if_neg hji, if_neg hki] at heq
      exact hd j k (hj.resolve_left hji) (hk.resolve_left hki) heq

end Step

/-! ## The search for an ID -/

theorem found_iff {compared : Slot → UInt8} {candidate : Nat} :
    found compared candidate = true ↔ ∃ j, (compared j).toNat = candidate := by
  simp [found]

/-- Sixteen slots cannot take all the IDs from 128 to 255. -/
theorem exists_not_found (compared : Slot → UInt8) :
    ∃ candidate ∈ List.range' 128 128, found compared candidate = false := by
  by_contra hall
  have himage : Finset.Ico 128 256 ⊆ Finset.univ.image (fun j => (compared j).toNat) := by
    intro d hd
    rw [Finset.mem_Ico] at hd
    have hfound : found compared d = true := by
      by_contra hno
      exact hall ⟨d, by rw [List.mem_range'_1]; omega, by simpa using hno⟩
    obtain ⟨j, hj⟩ := found_iff.mp hfound
    exact Finset.mem_image.mpr ⟨j, Finset.mem_univ j, hj⟩
  have hcard := (Finset.card_le_card himage).trans Finset.card_image_le
  rw [Nat.card_Ico, Finset.card_univ, Fintype.card_fin] at hcard
  omega

/-- The ID found is in range and is none of the compared ones. -/
theorem desktopUniqueID_fresh (compared : Slot → UInt8) :
    desktopUniqueID compared < 256 ∧ ∀ j, (compared j).toNat ≠ desktopUniqueID compared := by
  unfold desktopUniqueID
  cases hfind : (List.range' 128 128).find? (fun d => !found compared d) with
  | none =>
      obtain ⟨d, hd, hno⟩ := exists_not_found compared
      have := List.find?_eq_none.mp hfind d hd
      simp [hno] at this
  | some d =>
      have hd := List.mem_range'_1.mp (List.mem_of_find?_eq_some hfind)
      have hno : found compared d = false := by simpa using List.find?_some hfind
      refine ⟨by rw [Option.getD_some]; omega, fun j hj => ?_⟩
      rw [Option.getD_some] at hj
      rw [found_iff.mpr ⟨j, hj⟩] at hno
      contradiction

/-- The ID the calendar copy gives slot `i`. -/
def calendarID (c : CategoryAppInfo) (i : Slot) : UInt8 := if c.ID i = 128 then 129 else 128

theorem desktopUniqueID_calendar (c : CategoryAppInfo) (i : Slot) :
    .ofNat (desktopUniqueID fun _ => c.ID i) = calendarID c i := by
  have hfound : ∀ d : Nat, found (fun _ => c.ID i) d = decide ((c.ID i).toNat = d) := by
    intro d
    rw [Bool.eq_iff_iff, found_iff, decide_eq_true_eq]
    exact ⟨fun ⟨_, h⟩ => h, fun h => ⟨0, h⟩⟩
  unfold desktopUniqueID calendarID
  simp only [hfound]
  by_cases hid : c.ID i = 128
  · simp [hid, List.range'_succ]
  · have hne : (c.ID i).toNat ≠ 128 := fun h => hid (UInt8.toNat_inj.mp h)
    rw [List.range'_succ, List.find?_cons_of_pos (by simpa using hne), if_neg hid]
    rfl

/-! ## Sequences of calls -/

theorem fills_always (compared : CategoryAppInfo → Slot → Slot → UInt8) (c : CategoryAppInfo)
    (names : List CategoryName) :
    History.Allowed (fun c name => (addCategory compared c name).2)
      (fun c name => Fills c (addCategory compared c name).2) c names := by
  induction names generalizing c with
  | nil => trivial
  | cons name names ih => exact ⟨fills_addCategory c name, ih _⟩

theorem distinct_address {c : CategoryAppInfo} (hd : c.Distinct) (name : CategoryName) :
    (Address.ePilotAddCategoryIfPossible c name).2.Distinct := by
  unfold Address.ePilotAddCategoryIfPossible
  cases h : c.empties with
  | nil => rwa [addCategory_full h]
  | cons i rest =>
      rw [distinct_addCategory h hd]
      intro j _ heq
      obtain ⟨hlt, hfresh⟩ := desktopUniqueID_fresh c.ID
      apply hfresh j
      rw [heq, UInt8.toNat_ofNat']
      exact Nat.mod_eq_of_lt hlt

/-- The slots the next `n` calls fill get IDs that no used slot has and that differ
from one another. -/
def FreshInTurn (c : CategoryAppInfo) (n : Nat) : Prop :=
  ((c.empties.take n).map (calendarID c)).Nodup ∧
    ∀ i ∈ c.empties.take n, ∀ j, c.used j → c.ID j ≠ calendarID c i

theorem calendarID_addCategory {compared : CategoryAppInfo → Slot → Slot → UInt8}
    {c : CategoryAppInfo} {i : Slot} {rest : List Slot} (h : c.empties = i :: rest)
    (name : CategoryName) {k : Slot} (hk : k ≠ i) :
    calendarID (addCategory compared c name).2 k = calendarID c k := by
  have : (addCategory compared c name).2.ID k = c.ID k := by
    rw [addCategory_cons h]
    exact Function.update_of_ne hk _ _
  simp only [calendarID, this]

/-- One call more: the first empty slot is in order, and so are the ones after it in the
table the call leaves. -/
theorem freshInTurn_succ {c : CategoryAppInfo} {i : Slot} {rest : List Slot}
    (h : c.empties = i :: rest) (name : CategoryName) (n : Nat) : FreshInTurn c (n + 1) ↔
      (∀ j, c.used j → c.ID j ≠ calendarID c i) ∧
        FreshInTurn (Calendar.ePilotAddCategoryIfPossible c name).2 n := by
  have hnodup : (i :: rest).Nodup := h ▸ (List.nodup_finRange 16).filter _
  have hne : ∀ k ∈ rest.take n, k ≠ i := by
    rintro k hk rfl
    exact (List.nodup_cons.mp hnodup).1 (List.mem_of_mem_take hk)
  have hi : ¬ c.used i := mem_empties.mp (h ▸ List.mem_cons_self)
  have hID : ∀ j, (Calendar.ePilotAddCategoryIfPossible c name).2.ID j =
      if j = i then calendarID c i else c.ID j := by
    intro j
    rw [Calendar.ePilotAddCategoryIfPossible, addCategory_cons h]
    simp only [desktopUniqueID_calendar]
    exact Function.update_apply _ _ _ _
  have hmap : (rest.take n).map (calendarID (Calendar.ePilotAddCategoryIfPossible c name).2) =
      (rest.take n).map (calendarID c) :=
    List.map_congr_left fun k hk => calendarID_addCategory h name (hne k hk)
  have hused := @used_addCategory (fun c i _ => c.ID i) c i rest h name
  unfold FreshInTurn
  rw [show (Calendar.ePilotAddCategoryIfPossible c name).2.empties = rest from
    empties_addCategory h name, hmap, h, List.take_succ_cons, List.map_cons, List.nodup_cons]
  constructor
  · rintro ⟨⟨hnot, hrest⟩, hfresh⟩
    refine ⟨hfresh i List.mem_cons_self, hrest, fun k hk j hj => ?_⟩
    rw [hID, show calendarID (Calendar.ePilotAddCategoryIfPossible c name).2 k = calendarID c k from
      calendarID_addCategory h name (hne k hk)]
    rcases (hused j).mp hj with rfl | hj
    · rw [if_pos rfl]
      intro heq
      exact hnot (List.mem_map.mpr ⟨k, hk, heq.symm⟩)
    · rw [if_neg (fun hji : j = i => hi (hji ▸ hj))]
      exact hfresh k (List.mem_cons_of_mem _ hk) j hj
  · rintro ⟨hfirst, hrest, hfresh⟩
    have hlater : ∀ k ∈ rest.take n, ∀ j, j = i ∨ c.used j →
        (if j = i then calendarID c i else c.ID j) ≠ calendarID c k := by
      intro k hk j hj
      have := hfresh k hk j ((hused j).mpr hj)
      rwa [hID, show calendarID (Calendar.ePilotAddCategoryIfPossible c name).2 k =
        calendarID c k from calendarID_addCategory h name (hne k hk)] at this
    refine ⟨⟨fun hmem => ?_, hrest⟩, fun k hk j hj => ?_⟩
    · obtain ⟨k, hk, heq⟩ := List.mem_map.mp hmem
      have := hlater k hk i (Or.inl rfl)
      rw [if_pos rfl] at this
      exact this heq.symm
    · rcases List.mem_cons.mp hk with rfl | hk
      · exact hfirst j hj
      · have := hlater k hk j (Or.inr hj)
        rwa [if_neg (fun hji : j = i => hi (hji ▸ hj))] at this

theorem distinct_calendar_iff {c : CategoryAppInfo} (hd : c.Distinct)
    (names : List CategoryName) :
    History.Always (fun c name => (Calendar.ePilotAddCategoryIfPossible c name).2)
        CategoryAppInfo.Distinct c names ↔ FreshInTurn c names.length := by
  induction names generalizing c with
  | nil => simp [History.Always, FreshInTurn, hd]
  | cons name names ih =>
      cases h : c.empties with
      | nil =>
          have hfull : (Calendar.ePilotAddCategoryIfPossible c name).2 = c :=
            addCategory_full h name
          simp only [History.Always, hfull]
          have hnone : ∀ n, FreshInTurn c n := fun n => by simp [FreshInTurn, h]
          exact ⟨fun _ => hnone _, fun _ => ⟨hd, (ih hd).mpr (hnone _)⟩⟩
      | cons i rest =>
          have hstep : (Calendar.ePilotAddCategoryIfPossible c name).2.Distinct ↔
              ∀ j, c.used j → c.ID j ≠ calendarID c i := by
            rw [← desktopUniqueID_calendar]
            exact distinct_addCategory h hd name
          rw [List.length_cons, freshInTurn_succ h name, ← hstep]
          constructor
          · rintro ⟨-, hrest⟩
            exact ⟨hrest.head, (ih hrest.head).mp hrest⟩
          · rintro ⟨hd', hrest⟩
            exact ⟨hd, (ih hd').mpr hrest⟩

/-- The address copy keeps the IDs distinct for good.  The calendar copy does exactly as
long as the IDs it gives, 128 or 129, are new. -/
theorem staysUnique_iff {c : CategoryAppInfo} (hd : c.Distinct) (names : List CategoryName) :
    StaysUnique Address.ePilotAddCategoryIfPossible c names ∧
      (StaysUnique Calendar.ePilotAddCategoryIfPossible c names ↔
        FreshInTurn c names.length) := by
  refine ⟨⟨?_, fills_always _ c names⟩, fun h => (distinct_calendar_iff hd names).mp h.distinct,
    fun h => ⟨(distinct_calendar_iff hd names).mpr h, fills_always _ c names⟩⟩
  induction names generalizing c with
  | nil => exact hd
  | cons name names ih => exact ⟨hd, ih (distinct_address hd name)⟩

def letter (b : UInt8) (h : b ≠ 0) : CategoryName where
  bytes := [b]
  nonempty := by simp
  terminated := by simpa using h.symm

/-- A table with one used slot, slot 0 with ID 0. -/
def unfiledOnly : CategoryAppInfo where
  renamed _ := false
  name i j := if i = 0 ∧ j = 0 then 85 else 0
  ID _ := 0

theorem unfiledOnly_distinct : unfiledOnly.Distinct := by
  unfold CategoryAppInfo.Distinct
  decide

theorem staysUnique_unfiledOnly :
    StaysUnique Address.ePilotAddCategoryIfPossible unfiledOnly
        [letter 65 (by decide), letter 66 (by decide)] ∧
      (StaysUnique Calendar.ePilotAddCategoryIfPossible unfiledOnly
        [letter 65 (by decide), letter 66 (by decide)] ↔ FreshInTurn unfiledOnly 2) :=
  staysUnique_iff unfiledOnly_distinct _

/-- Two categories added to it by the calendar copy both get ID 128. -/
theorem twoCategories_collide :
    let c := (Calendar.ePilotAddCategoryIfPossible
      (Calendar.ePilotAddCategoryIfPossible unfiledOnly (letter 65 (by decide))).2
      (letter 66 (by decide))).2
    unfiledOnly.Distinct ∧ c.used 1 ∧ c.used 2 ∧ c.ID 1 = 128 ∧ c.ID 2 = 128 ∧
      ¬ StaysUnique Calendar.ePilotAddCategoryIfPossible unfiledOnly
        [letter 65 (by decide), letter 66 (by decide)] := by
  refine ⟨unfiledOnly_distinct, by decide, by decide, by decide, by decide, fun h => ?_⟩
  have hdist := h.distinct.2.2 1 2 (by decide) (by decide) (by decide)
  exact absurd hdist (by decide)

end GnomePilot.Category
