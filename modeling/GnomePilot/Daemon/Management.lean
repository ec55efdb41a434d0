import GnomePilot.Queue.Request
import GnomePilot.Lib.HashTable
import Mathlib.Data.List.Induction

/-!
# The conduits that are installed

`gnome-pilot-conduit-management`: each installed conduit is described by an XML file.
The files are read once, into blocks of data that two tables find by ID and by name.
`find_build` says what the tables find, `neverFreed_iff` when a block that was freed is
still found.
-/

namespace GnomePilot.Daemon.Management

open Queue

/-! ## A file -/

/-- An element with its properties, or a text node. -/
structure XmlNode where
  name : String
  props : List (String × String)
  deriving DecidableEq

def XmlNode.xmlGetProp (node : XmlNode) (prop : String) : Option String := node.props.lookup prop

/-- The root element and the nodes in it. -/
structure XmlRoot extends XmlNode where
  children : List XmlNode
  deriving DecidableEq

def CONDUIT_XML_VERSION : String := "1.0"

/-- `check_xml_version` allocates a block for this version only. -/
def checkXmlVersion (root : XmlRoot) : Bool :=
  (root.xmlGetProp "version").any fun version => sameIgnoringCase version CONDUIT_XML_VERSION

/-- `read_conduit_topdata`: the ID and the location; shared libraries are the only type
there is. -/
def readConduitTopdata (root : XmlRoot) : Option (String × String) :=
  match root.children.find? fun node => sameIgnoringCase node.name "conduit" with
  | none => none
  | some node =>
    match node.xmlGetProp "id", node.xmlGetProp "location" with
    | some id, some location =>
      if ' ' ∈ id.toList then none
      else if (node.xmlGetProp "type").any fun type => sameIgnoringCase type "shlib" then
        some (id, location)
      else none
    | _, _ => none

/-- A turn of the loop of `read_conduit_name`. -/
def nameTurn (getLang : String) (currentName : Option String) (node : XmlNode) : Option String :=
  if sameIgnoringCase node.name "name" then
    if ((node.xmlGetProp "lang").isNone ∧ currentName.isNone) ∨
        (node.xmlGetProp "lang").any fun lang => sameIgnoringCase lang getLang then
      node.xmlGetProp "value"
    else currentName
  else currentName

def readConduitName (getLang : String) (root : XmlRoot) : Option String :=
  root.children.foldl (nameTurn getLang) none

abbrev Attributes := AList fun _ : String => String

/-- The key an attribute is stored under. -/
def attrWithLang (name : String) (lang : Option String) : String :=
  match lang with
  | some lang => name ++ "-" ++ lang
  | none => name

def isString (node : XmlNode) : Bool :=
  (node.xmlGetProp "type").all fun type => sameIgnoringCase type "string"

/-- A turn of the loop of `read_conduit_attributes`. -/
def attributeTurn (attributes : Attributes) (node : XmlNode) : Attributes :=
  if sameIgnoringCase node.name "conduit-attribute" then
    match node.xmlGetProp "name", node.xmlGetProp "value" with
    | some name, some value =>
      if isString node then
        attributes.insert (attrWithLang name (node.xmlGetProp "lang")) value
      else attributes
    | _, _ => attributes
  else attributes

def readConduitAttributes (root : XmlRoot) : Attributes := root.children.foldl attributeTurn ∅

/-! ## The tables -/

structure GnomePilotConduitMgmtData where
  id : String
  location : String
  name : String
  stringAttributes : Attributes
  deriving DecidableEq

/-- The blocks by address, `none` for one that was freed, and the two tables of
addresses. -/
structure Tables where
  next : Nat
  heap : Nat → Option GnomePilotConduitMgmtData
  conduitidToDatastruct : AList fun _ : String => Nat
  conduitnameToDatastruct : AList fun _ : String => Nat

def Tables.empty : Tables := ⟨0, fun _ => none, ∅, ∅⟩

/-- What `read_conduit_xml` does with a file; `none` if it uses the block it did not get
for a file of another version.  A file without a name is entered under its ID before its
block is freed. -/
def readConduitXml (getLang : String) (t : Tables) (doc : Option XmlRoot) : Option Tables :=
  match doc with
  | none => some t
  | some root =>
    if !sameIgnoringCase root.name "gnome-pilot-conduit" then some t
    else if !checkXmlVersion root then none
    else
      match readConduitTopdata root with
      | none => some t
      | some (id, location) =>
        let ret := t.next
        let t := { t with
          next := t.next + 1
          conduitidToDatastruct := t.conduitidToDatastruct.insert id ret }
        match readConduitName getLang root with
        | none => some t
        | some name =>
          some { t with
            conduitnameToDatastruct := t.conduitnameToDatastruct.insert name ret
            heap := fun p =>
              if p = ret then some ⟨id, location, name, readConduitAttributes root⟩ else t.heap p }

/-- The loop of `initializer` over the files. -/
def initializer (getLang : String) (files : List (Option XmlRoot)) : Option Tables :=
  files.foldlM (readConduitXml getLang) .empty

inductive GnomePilotConduitFilter where
  | id | name
  deriving DecidableEq, Repr

def Tables.whichToUse (t : Tables) : GnomePilotConduitFilter → AList fun _ : String => Nat
  | .id => t.conduitidToDatastruct
  | .name => t.conduitnameToDatastruct

/-- What `gnome_pilot_conduit_management_new` finds: the block, or `some none` for one
that was freed. -/
def Tables.find (t : Tables) (filter : GnomePilotConduitFilter) (name : String) :
    Option (Option GnomePilotConduitMgmtData) :=
  ((t.whichToUse filter).lookup name).map t.heap

/-- `gnome_pilot_conduit_management_get_conduits` -/
def Tables.getConduits (t : Tables) (filter : GnomePilotConduitFilter) : List String :=
  (t.whichToUse filter).keys

/-! ## Which files are read -/

/-- An entry of a directory; `special` is what `stat` says of directories, character
devices, pipes and sockets. -/
structure DirEntry where
  name : String
  special : Bool
  deriving DecidableEq

def selectDirEntry (path extension : String) (entry : DirEntry) : Option String :=
  if extension.toList.isSuffixOf entry.name.toList && !entry.special then
    some (path ++ "/" ++ entry.name)
  else none

/-- A turn of the loop over a directory: a name is put before the ones found so far. -/
def dirTurn (path ext : String) (result : List String) (entry : DirEntry) : List String :=
  match selectDirEntry path ext entry with
  | some fullname => fullname :: result
  | none => result

/-- `get_conduit_file_names` for the directories in the order of the search path, those
that can be opened. -/
def getConduitFileNames (ext : String) (dirs : List (String × List DirEntry)) : List String :=
  dirs.foldl (fun result dir => dir.2.foldl (dirTurn dir.1 ext) result) []

/-! ## What a file enters -/

/-- What a file of this version enters into the tables. -/
structure Entry where
  id : String
  location : String
  name : Option String
  stringAttributes : Attributes
  deriving DecidableEq

/-- The block of the entry, unless it was freed for the lack of a name. -/
def Entry.data (e : Entry) : Option GnomePilotConduitMgmtData :=
  e.name.map fun name => ⟨e.id, e.location, name, e.stringAttributes⟩

/-- The file is a description of a conduit, of whatever version. -/
def describes (root : XmlRoot) : Bool := sameIgnoringCase root.name "gnome-pilot-conduit"

def Compatible (doc : Option XmlRoot) : Prop :=
  ∀ root ∈ doc, describes root = true → checkXmlVersion root = true

instance Compatible.decidable (doc : Option XmlRoot) : Decidable (Compatible doc) :=
  inferInstanceAs (Decidable (∀ root ∈ doc, describes root = true → checkXmlVersion root = true))

def entryOf (getLang : String) : Option XmlRoot → Option Entry
  | none => none
  | some root =>
    if describes root then
      (readConduitTopdata root).map fun top =>
        ⟨top.1, top.2, readConduitName getLang root, readConduitAttributes root⟩
    else none

def Tables.enter (t : Tables) (e : Entry) : Tables where
  next := t.next + 1
  heap p := if p = t.next then e.data else t.heap p
  conduitidToDatastruct := t.conduitidToDatastruct.insert e.id t.next
  conduitnameToDatastruct :=
    match e.name with
    | some name => t.conduitnameToDatastruct.insert name t.next
    | none => t.conduitnameToDatastruct

def build (entries : List Entry) : Tables := entries.foldl Tables.enter .empty

/-- Addresses in the tables were given out, and nothing is at the others. -/
structure Tables.Allocated (t : Tables) : Prop where
  free : ∀ p, t.next ≤ p → t.heap p = none
  lt : ∀ filter name p, (t.whichToUse filter).lookup name = some p → p < t.next

theorem allocated_empty : Tables.empty.Allocated where
  free _ _ := rfl
  lt filter name p h := by
    cases filter <;> simp [Tables.empty, Tables.whichToUse] at h

def Entry.key (e : Entry) : GnomePilotConduitFilter → Option String
  | .id => some e.id
  | .name => e.name

theorem lookup_enter (t : Tables) (e : Entry) (filter : GnomePilotConduitFilter) (name : String) :
    ((t.enter e).whichToUse filter).lookup name =
      if e.key filter = some name then some t.next else (t.whichToUse filter).lookup name := by
  cases filter with
  | id =>
      have hinsert := HashTable.lookup_insert_ite t.conduitidToDatastruct name e.id t.next
      simpa [Tables.whichToUse, Tables.enter, Entry.key, eq_comm] using hinsert
  | name =>
      cases hname : e.name with
      | none => simp [Tables.whichToUse, Tables.enter, Entry.key, hname]
      | some own =>
          have hinsert := HashTable.lookup_insert_ite t.conduitnameToDatastruct name own t.next
          simpa [Tables.whichToUse, Tables.enter, Entry.key, hname, eq_comm] using hinsert

theorem Tables.Allocated.enter {t : Tables} (h : t.Allocated) (e : Entry) :
    (t.enter e).Allocated where
  free p hp := by
    have hlt : t.next < p := hp
    have hne : p ≠ t.next := by omega
    change (if p = t.next then e.data else t.heap p) = none
    rw [if_neg hne]
    exact h.free p (by omega)
  lt filter name p hlookup := by
    change p < t.next + 1
    rw [lookup_enter] at hlookup
    split at hlookup
    · have := Option.some.inj hlookup
      omega
    · have := h.lt filter name p hlookup
      omega

theorem allocated_build (entries : List Entry) : (build entries).Allocated := by
  induction entries using List.reverseRecOn with
  | nil => exact allocated_empty
  | append_singleton entries e ih =>
      rw [build, List.foldl_append]
      exact ih.enter e

theorem readConduitXml_eq (getLang : String) {t : Tables} (h : t.Allocated)
    (doc : Option XmlRoot) : readConduitXml getLang t doc =
      if Compatible doc then some ((entryOf getLang doc).elim t t.enter) else none := by
  cases doc with
  | none => simp [readConduitXml, Compatible, entryOf]
  | some root =>
      unfold readConduitXml entryOf
      cases hdescribes : describes root with
      | false =>
          have hroot : sameIgnoringCase root.name "gnome-pilot-conduit" = false := hdescribes
          simp [Compatible, hdescribes, hroot]
      | true =>
          have hroot : sameIgnoringCase root.name "gnome-pilot-conduit" = true := hdescribes
          cases hversion : checkXmlVersion root with
          | false => simp [Compatible, hdescribes, hroot, hversion]
          | true =>
              cases htop : readConduitTopdata root with
              | none => simp [Compatible, hdescribes, hroot, hversion, htop]
              | some top =>
                  have hheap : t.heap = fun p => if p = t.next then none else t.heap p := by
                    funext p
                    split
                    · exact h.free p (by omega)
                    · rfl
                  cases hname : readConduitName getLang root with
                  | none =>
                      simp [Compatible, hdescribes, hroot, hversion, htop, hname, Tables.enter,
                        Entry.data, ← hheap]
                  | some name =>
                      simp [Compatible, hdescribes, hroot, hversion, htop, hname, Tables.enter,
                        Entry.data]

theorem foldlM_readConduitXml (getLang : String) (files : List (Option XmlRoot)) {t : Tables}
    (h : t.Allocated) : files.foldlM (readConduitXml getLang) t =
      if ∀ doc ∈ files, Compatible doc then
        some ((files.filterMap (entryOf getLang)).foldl Tables.enter t)
      else none := by
  induction files generalizing t with
  | nil => simp
  | cons doc files ih =>
      rw [List.foldlM_cons, readConduitXml_eq getLang h]
      by_cases hdoc : Compatible doc
      · rw [if_pos hdoc]
        cases hentry : entryOf getLang doc with
        | none => simpa [hentry, hdoc] using ih h
        | some e => simpa [hentry, hdoc] using ih (h.enter e)
      · simp [hdoc]

/-- The files are read exactly when none is of another version. -/
theorem initializer_eq (getLang : String) (files : List (Option XmlRoot)) :
    initializer getLang files = if ∀ doc ∈ files, Compatible doc then
      some (build (files.filterMap (entryOf getLang))) else none :=
  foldlM_readConduitXml getLang files allocated_empty

/-! ## What the tables find -/

theorem find_enter {t : Tables} (h : t.Allocated) (e : Entry) (filter : GnomePilotConduitFilter)
    (name : String) : (t.enter e).find filter name =
      if e.key filter = some name then some e.data else t.find filter name := by
  unfold Tables.find
  rw [lookup_enter]
  split
  · simp [Tables.enter]
  · cases hlookup : (t.whichToUse filter).lookup name with
    | none => rfl
    | some p =>
        have := h.lt filter name p hlookup
        simp [Tables.enter, Nat.ne_of_lt this]

def lastEntry (filter : GnomePilotConduitFilter) (name : String) (entries : List Entry) :
    Option Entry :=
  (entries.filter fun e => e.key filter = some name).getLast?

theorem lastEntry_append (filter : GnomePilotConduitFilter) (name : String)
    (entries : List Entry) (e : Entry) : lastEntry filter name (entries ++ [e]) =
      if e.key filter = some name then some e else lastEntry filter name entries := by
  unfold lastEntry
  rw [List.filter_append]
  split <;> simp [*]

/-- A lookup finds what the last file of the ID or name entered. -/
theorem find_build (filter : GnomePilotConduitFilter) (name : String) (entries : List Entry) :
    (build entries).find filter name = (lastEntry filter name entries).map Entry.data := by
  induction entries using List.reverseRecOn with
  | nil => cases filter <;> rfl
  | append_singleton entries e ih =>
      have hbuild : build (entries ++ [e]) = (build entries).enter e := by
        simp [build]
      rw [hbuild, lastEntry_append, find_enter (allocated_build entries), ih]
      split <;> rfl

theorem lastEntry_eq_some {filter : GnomePilotConduitFilter} {name : String}
    {entries : List Entry} {e : Entry} (h : lastEntry filter name entries = some e) :
    e ∈ entries ∧ e.key filter = some name := by
  have hmem := List.mem_of_getLast? h
  simpa using hmem

/-- What is found by a name is a block that is there. -/
theorem find_name_ne_freed (entries : List Entry) (name : String) :
    (build entries).find .name name ≠ some none := by
  rw [find_build]
  intro h
  obtain ⟨e, he, hdata⟩ := Option.map_eq_some_iff.mp h
  have hname := (lastEntry_eq_some he).2
  change e.name = some name at hname
  simp [Entry.data, hname] at hdata

theorem find_id_ne_freed {entries : List Entry}
    (h : ∀ id e, lastEntry .id id entries = some e → e.name.isSome) (id : String) :
    (build entries).find .id id ≠ some none := by
  rw [find_build]
  intro hfreed
  obtain ⟨e, he, hdata⟩ := Option.map_eq_some_iff.mp hfreed
  have hsome := h id e he
  simp only [Entry.data, Option.map_eq_none_iff] at hdata
  simp [hdata] at hsome

/-- All files are read, and no lookup comes to a block that was freed, exactly when no
file is of another version and the last file of each ID gives a name. -/
theorem neverFreed_iff (getLang : String) (files : List (Option XmlRoot)) :
    (∃ t, initializer getLang files = some t ∧ ∀ filter name, t.find filter name ≠ some none) ↔
      (∀ doc ∈ files, Compatible doc) ∧ ∀ id e,
        lastEntry .id id (files.filterMap (entryOf getLang)) = some e → e.name.isSome := by
  rw [initializer_eq]
  by_cases hfiles : ∀ doc ∈ files, Compatible doc
  · rw [if_pos hfiles]
    generalize files.filterMap (entryOf getLang) = entries
    constructor
    · intro h
      obtain ⟨t, ht, hfound⟩ := h
      obtain rfl := Option.some.inj ht
      refine ⟨hfiles, fun id e he => ?_⟩
      have hid := hfound .id id
      rw [find_build, he] at hid
      cases hname : e.name with
      | none => simp [Entry.data, hname] at hid
      | some name => rfl
    · intro h
      refine ⟨build entries, rfl, fun filter name => ?_⟩
      cases filter with
      | name => exact find_name_ne_freed entries name
      | id => exact find_id_ne_freed h.2 name
  · rw [if_neg hfiles]
    simp [hfiles]

end GnomePilot.Daemon.Management
