import GnomePilot.Desktop.Address
import GnomePilot.Desktop.CategoryNames
import GnomePilot.Lib.Stock
import Mathlib.Data.List.Infix

/-!
# Phones of a contact in the record

In a record that is in priority order the numbers of the contact take the entries from the
first one on.  The entries after them are not cleared: what the record had there is left.
-/

namespace GnomePilot.Card

open EContactField

variable {κ : Type} [EVCard κ]

def numbers (contact : EContact κ) : List (EContactField × Nat) :=
  priorityTable.filter fun p => (filled (contact.number p.1)).isSome

theorem nodup_fields : (priorityTable.map Prod.fst).Nodup := by decide

theorem nodup_numbers (contact : EContact κ) : ((numbers contact).map Prod.fst).Nodup :=
  nodup_fields.sublist (List.filter_sublist.map Prod.fst)

theorem mem_numbers {contact : EContact κ} {p : EContactField × Nat} :
    p ∈ numbers contact ↔ p ∈ priorityTable ∧ ∃ s, filled (contact.number p.1) = some s := by
  rw [numbers, List.mem_filter, Option.isSome_iff_exists]

theorem filled_eq_some {text : Option CString} {s : CString} :
    filled text = some s ↔ text = some s ∧ s ≠ CString.empty := by
  rw [filled, Option.filter_eq_some_iff]
  simp

section Place

variable {charset : Charset} {contact : EContact κ}

theorem placeStep_of_none {s : Address × Nat} {p : EContactField × Nat}
    (hnumber : filled (contact.number p.1) = none) : placeStep charset contact s p = s := by
  simp [placeStep, hnumber]

theorem placeStep_of_le {s : Address × Nat} {p : EContactField × Nat} (hfull : 5 ≤ s.2) :
    placeStep charset contact s p = s :=
  dif_neg (Nat.not_lt.mpr hfull)

theorem placeStep_of_some {s : Address × Nat} {p : EContactField × Nat} {phoneStr : CString}
    (hnumber : filled (contact.number p.1) = some phoneStr) (hlast : s.2 < 5) :
    placeStep charset contact s p =
      ({ s.1 with
          phone := Function.update s.1.phone ⟨s.2, hlast⟩ (some (charset.utf8ToPchar phoneStr))
          phoneLabel := Function.update s.1.phoneLabel ⟨s.2, hlast⟩ p.2 }, s.2 + 1) := by
  simp [placeStep, hnumber, hlast]

/-- The numbers of the rest of the table go to the entries from `k` on, up to the last. -/
theorem foldl_placeStep (table : List (EContactField × Nat)) (addr : Address) (k : Nat)
    (hk : k ≤ 5) :
    let fields := table.filter fun p => (filled (contact.number p.1)).isSome
    let s := table.foldl (placeStep charset contact) (addr, k)
    s.2 = min 5 (k + fields.length) ∧
    (∀ i : Fin 5, i < k → s.1.phone i = addr.phone i ∧ s.1.phoneLabel i = addr.phoneLabel i) ∧
    ∀ i : Fin 5, k ≤ i →
      s.1.phone i = (fields[i - k]?).elim (addr.phone i)
        (fun p => (contact.number p.1).map charset.utf8ToPchar) ∧
      s.1.phoneLabel i = (fields[i - k]?).elim (addr.phoneLabel i) Prod.snd := by
  induction table generalizing addr k with
  | nil => exact ⟨by simp [hk], fun _ _ => ⟨rfl, rfl⟩, fun _ _ => ⟨rfl, rfl⟩⟩
  | cons p table ih =>
      dsimp only
      rw [List.foldl_cons]
      cases hnumber : filled (contact.number p.1) with
      | none =>
          rw [placeStep_of_none hnumber, List.filter_cons_of_neg (by simp [hnumber])]
          exact ih addr k hk
      | some phoneStr =>
          rw [List.filter_cons_of_pos (by simp [hnumber])]
          by_cases hlast : k < 5
          · rw [placeStep_of_some hnumber hlast]
            have hnumber := (filled_eq_some.mp hnumber).1
            obtain ⟨hcount, hbefore, hafter⟩ := ih { addr with
              phone := Function.update addr.phone ⟨k, hlast⟩ (some (charset.utf8ToPchar phoneStr))
              phoneLabel := Function.update addr.phoneLabel ⟨k, hlast⟩ p.2 } (k + 1) hlast
            refine ⟨by rw [hcount, List.length_cons]; omega, fun i hi => ?_, fun i hi => ?_⟩
            · have hne : i ≠ ⟨k, hlast⟩ := fun h => by simp [h] at hi
              obtain ⟨hphone, hlabel⟩ := hbefore i (by omega)
              exact ⟨hphone.trans (Function.update_of_ne hne _ _),
                hlabel.trans (Function.update_of_ne hne _ _)⟩
            · rcases Nat.eq_or_lt_of_le hi with heq | hlt
              · have hi : i = ⟨k, hlast⟩ := Fin.ext heq.symm
                obtain ⟨hphone, hlabel⟩ := hbefore i (by omega)
                rw [hphone, hlabel, hi]
                simp [hnumber]
              · have hne : i ≠ ⟨k, hlast⟩ := fun h => by simp [h] at hlt
                obtain ⟨hphone, hlabel⟩ := hafter i hlt
                have hindex : (i : Nat) - k = i - (k + 1) + 1 := by omega
                rw [hphone, hlabel, hindex, List.getElem?_cons_succ]
                simp [Function.update_of_ne hne]
          · rw [placeStep_of_le (Nat.not_lt.mp hlast)]
            obtain ⟨hcount, hbefore, -⟩ := ih addr k hk
            refine ⟨by rw [hcount, List.length_cons]; omega, hbefore, fun i hi => ?_⟩
            exact absurd i.isLt (by omega)

theorem syncByPriority_spec (addr : Address) (i : Fin 5) :
    (syncByPriority charset contact addr).phone i =
      ((numbers contact)[(i : Nat)]?).elim (addr.phone i)
        (fun p => (contact.number p.1).map charset.utf8ToPchar) ∧
    (syncByPriority charset contact addr).phoneLabel i =
      ((numbers contact)[(i : Nat)]?).elim (i : Nat) Prod.snd := by
  obtain ⟨hcount, -, hafter⟩ := @foldl_placeStep κ _ charset contact priorityTable addr 0
    (Nat.zero_le 5)
  obtain ⟨hphone, hlabel⟩ := hafter i (Nat.zero_le i)
  simp only [Nat.zero_add, Nat.sub_zero] at hcount hphone hlabel
  unfold syncByPriority numbers
  simp only [hcount, hphone, hlabel, true_and]
  generalize priorityTable.filter (fun p => (filled (contact.number p.1)).isSome) = fields
  by_cases hlength : fields.length ≤ i
  · rw [List.getElem?_eq_none hlength, if_pos (by omega)]
    rfl
  · rw [List.getElem?_eq_getElem (Nat.lt_of_not_le hlength), if_neg (by omega)]
    rfl

end Place

/-! ## What the record should have -/

/-- The entries are those of the fields `placed`: numbers of the contact, as many as fit,
and nothing else. -/
structure Holds (charset : Charset) (contact : EContact κ) (addr : Address)
    (placed : List (EContactField × Nat)) : Prop where
  nodup : (placed.map Prod.fst).Nodup
  numbers : ∀ p ∈ placed, p ∈ numbers contact
  fits : placed.length = min 5 (Card.numbers contact).length
  entries : ∀ (i : Fin 5) p, placed[(i : Nat)]? = some p →
    addr.phoneLabel i = p.2 ∧ addr.phone i = (contact.number p.1).map charset.utf8ToPchar
  empty : ∀ i : Fin 5, placed.length ≤ i → filled (addr.phone i) = none

theorem isSyncable_congr {a b : Address} (hphone : a.phone = b.phone)
    (hlabel : a.phoneLabel = b.phoneLabel) : isSyncable a = isSyncable b := by
  have hstep : syncableStep a = syncableStep b := by
    funext s i
    simp only [syncableStep, hphone, hlabel]
  rw [isSyncable, isSyncable, hstep]

theorem setTexts_phones {κ : Type} (charset : Charset) (defaultAddress : Fin 3)
    (contact : EContact κ) (addr : Address) :
    (setTexts charset defaultAddress contact addr).phone = addr.phone ∧
    (setTexts charset defaultAddress contact addr).phoneLabel = addr.phoneLabel := by
  unfold setTexts
  cases (findAddress defaultAddress contact).bind contact.address with
  | none => exact ⟨rfl, rfl⟩
  | some address => exact ⟨rfl, rfl⟩

section Projection

variable {charset : Charset} {defaultAddress : Fin 3} {contact : EContact κ}
  {previous : Option Address}

theorem localRecordFromEcard_syncable (h : isSyncable (unsynced previous) = true) (i : Fin 5) :
    let addr := localRecordFromEcard charset defaultAddress contact previous
    addr.phone i = ((numbers contact)[(i : Nat)]?).elim ((unsynced previous).phone i)
      (fun p => (contact.number p.1).map charset.utf8ToPchar) ∧
    addr.phoneLabel i = ((numbers contact)[(i : Nat)]?).elim (i : Nat) Prod.snd := by
  obtain ⟨hphone, hlabel⟩ := setTexts_phones charset defaultAddress contact (unsynced previous)
  dsimp only [localRecordFromEcard]
  rw [isSyncable_congr hphone hlabel, if_pos h, ← hphone]
  exact syncByPriority_spec _ i

/-- The record has the numbers of the contact that fit and nothing else if the entries after
them were empty. -/
theorem holdsNumbers_iff (h : isSyncable (unsynced previous) = true) :
    (∃ placed, Holds charset contact
        (localRecordFromEcard charset defaultAddress contact previous) placed) ↔
      ∀ i : Fin 5, (numbers contact).length ≤ i →
        filled ((unsynced previous).phone i) = none := by
  have hentry := fun i => @localRecordFromEcard_syncable κ _ charset defaultAddress contact previous h i
  constructor
  · rintro ⟨placed, hplaced⟩ i hi
    have hlength := hplaced.fits
    have hempty := hplaced.empty i (by omega)
    rw [(hentry i).1, List.getElem?_eq_none hi] at hempty
    exact hempty
  · intro hold
    have hlength : ((numbers contact).take 5).length = min 5 (numbers contact).length :=
      List.length_take
    refine ⟨(numbers contact).take 5, ?_, fun p hp => List.mem_of_mem_take hp, hlength,
      fun i p hp => ?_, fun i hi => ?_⟩
    · exact (nodup_numbers contact).sublist ((List.take_sublist 5 _).map Prod.fst)
    · rw [List.getElem?_take_of_lt i.isLt] at hp
      obtain ⟨hphone, hlabel⟩ := hentry i
      rw [hp] at hphone hlabel
      exact ⟨hlabel, hphone⟩
    · have hi : (numbers contact).length ≤ i := by omega
      rw [(hentry i).1, List.getElem?_eq_none hi]
      exact hold i hi

end Projection

/-! ## The numbers of a vCard -/

/-- The attributes of a vCard that numbers are kept in, by their names and types. -/
inductive Attribute where
  | work | home | email | workFax | homeFax | otherFax | pager | cell | other | main
  deriving DecidableEq, Repr

/-- A field is one of the attributes of its kind, in their order. -/
def EContactField.element : EContactField → Option (Attribute × Nat)
  | phoneBusiness => some (.work, 0)
  | phoneBusiness2 => some (.work, 1)
  | phoneHome => some (.home, 0)
  | phoneHome2 => some (.home, 1)
  | email1 => some (.email, 0)
  | email2 => some (.email, 1)
  | email3 => some (.email, 2)
  | phoneBusinessFax => some (.workFax, 0)
  | phoneHomeFax => some (.homeFax, 0)
  | phoneOtherFax => some (.otherFax, 0)
  | phonePager => some (.pager, 0)
  | phoneMobile => some (.cell, 0)
  | phoneOther => some (.other, 0)
  | phonePrimary => some (.main, 0)
  | fieldLast => none

/-- A text replaces the element of the field or, if there is none, comes after the others; an
empty one takes the element out.  No empty elements are put in between. -/
def setElement (texts : List CString) (n : Nat) (text : Option CString) : List CString :=
  match filled text with
  | some s => if n < texts.length then texts.set n s else texts ++ [s]
  | none => texts.eraseIdx n

structure EVCard.Lawful (elements : κ → Attribute → List CString) : Prop where
  new : ∀ a, elements EVCard.new a = []
  get : ∀ vcard field a n, field.element = some (a, n) →
    EVCard.eContactGetConst vcard field = (elements vcard a)[n]?
  set_self : ∀ vcard field a n text, field.element = some (a, n) →
    elements (EVCard.eContactSet vcard field text) a = setElement (elements vcard a) n text
  set_of_ne : ∀ vcard field a n text b, field.element = some (a, n) → b ≠ a →
    elements (EVCard.eContactSet vcard field text) b = elements vcard b

/-- A vCard that has nothing but numbers. -/
structure VCard where
  elements : Attribute → List CString

instance : EVCard VCard where
  new := ⟨fun _ => []⟩
  eContactSet vcard field text :=
    match field.element with
    | some (a, n) =>
        ⟨Function.update vcard.elements a (setElement (vcard.elements a) n text)⟩
    | none => vcard
  eContactGetConst vcard field :=
    field.element.bind fun p => (vcard.elements p.1)[p.2]?

theorem VCard.lawful : EVCard.Lawful VCard.elements where
  new _ := rfl
  get vcard field a n h := by simp [EVCard.eContactGetConst, h]
  set_self vcard field a n text h := by simp [EVCard.eContactSet, h]
  set_of_ne vcard field a n text b h hb := by simp [EVCard.eContactSet, h, hb]

/-! ## A number that was deleted -/

def one : CString := ⟨[49], by decide⟩

/-- A record with the number 1 at work. -/
def workRecord : Address :=
  { Address.zero with phone := Function.update (fun _ => none) 0 (some one) }

/-- A contact without a number. -/
def emptyContact : EContact VCard := EContact.new

/-- The contact has no number any more; that of the record is left. -/
theorem deletedNumber_stays :
    isSyncable (unsynced (some workRecord)) = true ∧
    (¬ ∃ placed, Holds Category.plainCharset emptyContact
      (localRecordFromEcard Category.plainCharset 0 emptyContact (some workRecord)) placed) ∧
    (localRecordFromEcard Category.plainCharset 0 emptyContact (some workRecord)).phone 0 =
      some one := by
  refine ⟨by decide, fun ⟨placed, hplaced⟩ => ?_, by decide⟩
  have hnone : placed.length = 0 := hplaced.fits.trans (by decide)
  exact absurd (hplaced.empty 0 (by omega)) (by decide)

/-- A contact that has the number 1 at home only. -/
def homeContact : EContact VCard :=
  { emptyContact with
    vcard := EVCard.eContactSet EVCard.new phoneHome (some one) }

/-- The number at home takes the place of that at work. -/
theorem changedNumber_held :
    ∃ placed, Holds Category.plainCharset homeContact
      (localRecordFromEcard Category.plainCharset 0 homeContact (some workRecord)) placed :=
  (holdsNumbers_iff (by decide)).mpr (by decide)

end GnomePilot.Card
