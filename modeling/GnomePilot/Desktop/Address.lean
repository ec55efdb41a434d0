import GnomePilot.Desktop.Charset
import Mathlib.Logic.Function.Basic

/-!
# Addresses and contacts

`ecard_from_remote_record` and `local_record_from_ecard` of the address conduit: a record of
the pilot is written over a contact, and a contact is read as a record.  The record has five
entries for phones, each with a label; the contact has a field for each of fourteen numbers.
-/

namespace GnomePilot.Card

/-- The numbers among the fields of a contact, and `E_CONTACT_FIELD_LAST`. -/
inductive EContactField where
  | phoneBusiness
  | phoneHome
  | phoneBusinessFax
  | email1
  | phonePager
  | phoneMobile
  | phoneBusiness2
  | phoneHome2
  | phoneHomeFax
  | email2
  | phoneOther
  | phonePrimary
  | phoneOtherFax
  | email3
  | fieldLast
  deriving DecidableEq, Repr

open EContactField

def labelWork : Nat := 0
def labelHome : Nat := 1
def labelFax : Nat := 2
def labelOther : Nat := 3
def labelEmail : Nat := 4
def labelMain : Nat := 5
def labelPager : Nat := 6
def labelMobile : Nat := 7

/-- `priority`, without the last field. -/
def priority : List EContactField :=
  [phoneBusiness, phoneHome, phoneBusinessFax, email1, phonePager, phoneMobile, phoneBusiness2,
    phoneHome2, phoneHomeFax, email2, phoneOther, phonePrimary, phoneOtherFax, email3]

/-- `priority_label`, without the -1 at its end. -/
def priorityLabel : List Nat :=
  [labelWork, labelHome, labelFax, labelEmail, labelPager, labelMobile, labelWork, labelHome,
    labelFax, labelEmail, labelOther, labelMain, labelFax, labelEmail]

/-- Both tables side by side. -/
def priorityTable : List (EContactField × Nat) := priority.zip priorityLabel

/-- `struct Address` -/
structure Address where
  lastname : Option CString
  firstname : Option CString
  company : Option CString
  phone : Fin 5 → Option CString
  address : Option CString
  city : Option CString
  state : Option CString
  zip : Option CString
  country : Option CString
  title : Option CString
  custom : Fin 4 → Option CString
  note : Option CString
  phoneLabel : Fin 5 → Nat
  showPhone : Nat

/-- A record of zeros. -/
def Address.zero : Address where
  lastname := none
  firstname := none
  company := none
  phone _ := none
  address := none
  city := none
  state := none
  zip := none
  country := none
  title := none
  custom _ := none
  note := none
  phoneLabel _ := 0
  showPhone := 0

structure EContactAddress where
  street : Option CString
  ext : Option CString
  locality : Option CString
  region : Option CString
  code : Option CString
  country : Option CString

/-- What libebook keeps of the numbers of a contact, with `e_contact_set` and
`e_contact_get_const` of their fields. -/
class EVCard (κ : Type) where
  new : κ
  eContactSet : κ → EContactField → Option CString → κ
  eContactGetConst : κ → EContactField → Option CString

/-- The fields of an `EContact` that the conduit writes and reads, with the addresses from
`E_CONTACT_FIRST_ADDRESS_ID` to `E_CONTACT_LAST_ADDRESS_ID`. -/
structure EContact (κ : Type) where
  given : Option CString
  family : Option CString
  fullName : Option CString
  fileAs : Option CString
  title : Option CString
  org : Option CString
  note : Option CString
  vcard : κ
  address : Fin 3 → Option EContactAddress

variable {κ : Type} [EVCard κ]

def EContact.number (contact : EContact κ) : EContactField → Option CString :=
  EVCard.eContactGetConst contact.vcard

/-- `e_contact_new` -/
def EContact.new : EContact κ where
  given := none
  family := none
  fullName := none
  fileAs := none
  title := none
  org := none
  note := none
  vcard := EVCard.new
  address _ := none

/-- `phone_str && *phone_str`: a text that has a character. -/
def filled (text : Option CString) : Option CString := text.filter (· ≠ CString.empty)

/-! ## The fields of a label -/

/-- The first of the fields, or the one that follows `field`. -/
def getNext (fields : List EContactField) : Option EContactField → EContactField
  | none => fields.headD fieldLast
  | some field => (fields.dropWhile (· ≠ field)).tail.headD fieldLast

def mailFields : List EContactField := [email1, email2, email3]
def homeFields : List EContactField := [phoneHome, phoneHome2]
def workFields : List EContactField := [phoneBusiness, phoneBusiness2]
def faxFields : List EContactField := [phoneBusinessFax, phoneHomeFax, phoneOtherFax]

def getNextMail : Option EContactField → EContactField := getNext mailFields
def getNextHome : Option EContactField → EContactField := getNext homeFields
def getNextWork : Option EContactField → EContactField := getNext workFields
def getNextFax : Option EContactField → EContactField := getNext faxFields
def getNextOther : Option EContactField → EContactField := getNext [phoneOther]
def getNextMain : Option EContactField → EContactField := getNext [phonePrimary]
def getNextPager : Option EContactField → EContactField := getNext [phonePager]
def getNextMobile : Option EContactField → EContactField := getNext [phoneMobile]

/-- The function that is called for a label; there is none for another number. -/
def getNextOf (label : Nat) : Option EContactField → EContactField :=
  if label = labelEmail then getNextMail
  else if label = labelHome then getNextHome
  else if label = labelWork then getNextWork
  else if label = labelFax then getNextFax
  else if label = labelOther then getNextOther
  else if label = labelMain then getNextMain
  else if label = labelPager then getNextPager
  else if label = labelMobile then getNextMobile
  else fun _ => fieldLast

/-- The variables `next_mail` to `next_mobile`, by their labels. -/
abbrev Next : Type := Nat → EContactField

def getNextInit : Next := fun label => getNextOf label none

def Next.advance (next : Next) (label : Nat) : Next :=
  Function.update next label (getNextOf label (some (next label)))

def isNextDone (field : EContactField) : Bool := field = fieldLast

/-! ## Which records are in priority order -/

/-- The loop of `is_syncable`; for `l` it has the rest of both tables from there on. -/
structure Search where
  next : Next
  rest : List (EContactField × Nat)

def syncableStep (addr : Address) (s : Search) (i : Fin 5) : Option Search :=
  let phonelabel := addr.phoneLabel i
  if (filled (addr.phone i)).isNone then some s
  else
    match s.rest.dropWhile fun p => p.2 ≠ phonelabel with
    | [] => none
    | p :: rest =>
        if isNextDone (s.next phonelabel) || s.next phonelabel ≠ p.1 then none
        else some ⟨s.next.advance phonelabel, p :: rest⟩

def isSyncable (addr : Address) : Bool :=
  ((List.finRange 5).foldlM (syncableStep addr)
    ⟨getNextInit, priorityTable⟩).isSome

/-! ## A contact as a record -/

section Convert

variable (charset : Charset)

def placeStep (contact : EContact κ) (s : Address × Nat) (p : EContactField × Nat) :
    Address × Nat :=
  if h : s.2 < 5 then
    match filled (contact.number p.1) with
    | some phoneStr =>
        ({ s.1 with
            phone := Function.update s.1.phone ⟨s.2, h⟩ (some (charset.utf8ToPchar phoneStr))
            phoneLabel := Function.update s.1.phoneLabel ⟨s.2, h⟩ p.2 }, s.2 + 1)
    | none => s
  else s

/-- Sync by priority: the entries that are left over get their own index as label. -/
def syncByPriority (contact : EContact κ) (addr : Address) : Address :=
  let (addr, phone) := priorityTable.foldl (placeStep charset contact) (addr, 0)
  { addr with
    phoneLabel := fun i => if phone ≤ i then i else addr.phoneLabel i
    showPhone := 0 }

/-- An entry gets the next number of its label; without one it stays as it is. -/
def entryStep (contact : EContact κ) (s : Next × Address) (i : Fin 5) : Next × Address :=
  let phonelabel := s.2.phoneLabel i
  if isNextDone (s.1 phonelabel) then s
  else
    (s.1.advance phonelabel,
      match filled (contact.number (s.1 phonelabel)) with
      | some phoneStr =>
          { s.2 with phone := Function.update s.2.phone i (some (charset.utf8ToPchar phoneStr)) }
      | none => s.2)

/-- Not completely syncable. -/
def syncByLabel (contact : EContact κ) (addr : Address) : Address :=
  ((List.finRange 5).foldl (entryStep charset contact) (getNextInit, addr)).2

/-- What is kept of the record that the pilot has, if it has one. -/
def unsynced : Option Address → Address
  | none => Address.zero
  | some addr =>
      { Address.zero with
        phone := addr.phone
        phoneLabel := addr.phoneLabel
        showPhone := addr.showPhone
        custom := addr.custom }

def findAddress (defaultAddress : Fin 3) (contact : EContact κ) : Option (Fin 3) :=
  (defaultAddress :: List.finRange 3).find? fun field => (contact.address field).isSome

def newline : CString := ⟨[10], by decide⟩

/-- `g_strconcat` of two strings -/
def strconcat (s t : CString) : CString :=
  ⟨s.bytes ++ t.bytes, fun h => (List.mem_append.mp h).elim s.terminated t.terminated⟩

def lines (address : EContactAddress) : Option CString :=
  match filled address.ext with
  | some ext => address.street.map fun street => strconcat (strconcat street newline) ext
  | none => address.street

def setTexts (defaultAddress : Fin 3) (contact : EContact κ) (addr : Address) : Address :=
  let toPchar (text : Option CString) := text.map charset.utf8ToPchar
  let addr := { addr with
    firstname := toPchar contact.given
    lastname := toPchar contact.family
    company := toPchar contact.org
    title := toPchar contact.title
    note := toPchar contact.note }
  match (findAddress defaultAddress contact).bind contact.address with
  | none => addr
  | some address =>
      { addr with
        address := toPchar (lines address)
        city := toPchar address.locality
        state := toPchar address.region
        zip := toPchar address.code
        country := toPchar address.country }

/-- `local_record_from_ecard`, where `dlp_ReadRecordById` has found the record `previous`. -/
def localRecordFromEcard (defaultAddress : Fin 3) (contact : EContact κ)
    (previous : Option Address) : Address :=
  let addr := setTexts charset defaultAddress contact (unsynced previous)
  if isSyncable addr then syncByPriority charset contact addr
  else syncByLabel charset contact addr

/-! ## A record as a contact -/

def splitLines (text : Option CString) : Option CString × CString :=
  match text with
  | none => (none, CString.empty)
  | some txt =>
      if 10 ∈ txt.bytes then
        (some ⟨txt.bytes.takeWhile (· ≠ 10),
            fun h => txt.terminated ((List.takeWhile_sublist _).subset h)⟩,
          ⟨(txt.bytes.dropWhile (· ≠ 10)).tail,
            fun h => txt.terminated ((List.dropWhile_sublist _).subset (List.mem_of_mem_tail h))⟩)
      else (some txt, CString.empty)

/-- The texts that are not phones; `nameToString` is `e_contact_name_to_string`. -/
def readTexts (nameToString : Option CString → Option CString → Option CString)
    (defaultAddress : Fin 3) (address : Address) (contact : EContact κ) : EContact κ :=
  let fromPchar (text : Option CString) := text.map charset.utf8FromPchar
  let fullName := nameToString (fromPchar address.firstname) (fromPchar address.lastname)
  let field := (findAddress defaultAddress contact).getD defaultAddress
  let (street, ext) := splitLines (fromPchar address.address)
  { contact with
    given := fromPchar address.firstname
    family := fromPchar address.lastname
    fullName := fullName
    fileAs := if (filled fullName).isNone then fromPchar address.company else contact.fileAs
    title := fromPchar address.title
    org := fromPchar address.company
    note := fromPchar address.note
    address := Function.update contact.address field
      (some ⟨street, some ext, fromPchar address.city, fromPchar address.state,
        fromPchar address.zip, fromPchar address.country⟩) }

/-- An entry, also an empty one, is written to the next field of its label. -/
def ecardStep (address : Address) (s : Next × EContact κ) (i : Fin 5) : Next × EContact κ :=
  let phonelabel := address.phoneLabel i
  if isNextDone (s.1 phonelabel) then s
  else
    (s.1.advance phonelabel,
      { s.2 with
        vcard := EVCard.eContactSet s.2.vcard (s.1 phonelabel)
          ((address.phone i).map charset.utf8FromPchar) })

/-- `ecard_from_remote_record` of the record `address` -/
def ecardFromRemoteRecord (nameToString : Option CString → Option CString → Option CString)
    (defaultAddress : Fin 3) (address : Address) (inContact : Option (EContact κ)) : EContact κ :=
  let contact := readTexts charset nameToString defaultAddress address
    (inContact.getD EContact.new)
  ((List.finRange 5).foldl (ecardStep charset address) (getNextInit, contact)).2

end Convert

end GnomePilot.Card
