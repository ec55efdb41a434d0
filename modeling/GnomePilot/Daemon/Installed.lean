import GnomePilot.Daemon.Management
import Mathlib.Data.List.DropRight
import Mathlib.Data.List.Infix

/-!
# Names and attributes of installed conduits

How the name of a conduit is chosen among its translations, which attribute is found in
which language, and what the callers of the management see: the files are read at the
first call and never again.
-/

namespace GnomePilot.Daemon.Management

open Queue

/-! ## The name -/

/-- A name in the language. -/
def translated (getLang : String) (node : XmlNode) : Bool :=
  (node.xmlGetProp "lang").any fun lang => sameIgnoringCase lang getLang

/-- The first name that is given without a language. -/
def firstDefault (nodes : List XmlNode) : Option String :=
  (nodes.filter fun node => (node.xmlGetProp "lang").isNone).findSome? fun node =>
    node.xmlGetProp "value"

def nameNodes (root : XmlRoot) : List XmlNode :=
  root.children.filter fun node => sameIgnoringCase node.name "name"

theorem foldl_nameTurn_filter (getLang : String) (nodes : List XmlNode)
    (current : Option String) : nodes.foldl (nameTurn getLang) current =
      (nodes.filter fun node => sameIgnoringCase node.name "name").foldl (nameTurn getLang)
        current := by
  induction nodes generalizing current with
  | nil => rfl
  | cons node nodes ih =>
      cases hname : sameIgnoringCase node.name "name" with
      | true => simp [hname, ih]
      | false =>
          have hskip : nameTurn getLang current node = current := by simp [nameTurn, hname]
          simp [hname, hskip, ih]

theorem firstDefault_append (nodes : List XmlNode) (node : XmlNode) :
    firstDefault (nodes ++ [node]) = (firstDefault nodes).or
      (if (node.xmlGetProp "lang").isNone then node.xmlGetProp "value" else none) := by
  unfold firstDefault
  rw [List.filter_append, List.findSome?_append]
  split <;> simp [*]

theorem foldl_nameTurn {getLang : String} {nodes : List XmlNode}
    (h : ∀ node ∈ nodes, sameIgnoringCase node.name "name" = true) :
    nodes.foldl (nameTurn getLang) none =
      ((nodes.filter (translated getLang)).getLast?.bind (·.xmlGetProp "value")).or
        (firstDefault (nodes.rtakeWhile fun node => !translated getLang node)) := by
  induction nodes using List.reverseRecOn with
  | nil => rfl
  | append_singleton nodes node ih =>
      have hrest := ih fun n hn => h n (List.mem_append_left _ hn)
      have hname := h node (List.mem_append_right _ List.mem_cons_self)
      have hturn : ∀ current, nameTurn getLang current node =
          if ((node.xmlGetProp "lang").isNone ∧ current.isNone) ∨ translated getLang node then
            node.xmlGetProp "value" else current := by
        intro current
        simp [nameTurn, hname, translated]
      rw [List.foldl_append, List.foldl_cons, List.foldl_nil, hrest, hturn, List.filter_append]
      cases htranslated : translated getLang node with
      | true =>
          rw [List.rtakeWhile_concat_neg _ _ _ (by simp [htranslated])]
          simp [htranslated, firstDefault]
      | false =>
          rw [List.rtakeWhile_concat_pos _ _ _ (by simp [htranslated]), firstDefault_append,
            ← Option.or_assoc, List.filter_cons_of_neg (by simp [htranslated]), List.filter_nil,
            List.append_nil]
          generalize ((nodes.filter (translated getLang)).getLast?.bind _).or _ = found
          cases node.xmlGetProp "lang" <;> cases found <;> simp

/-- The name of a conduit is the value of the last translation into the language.  Without
one, or where that has no value, it is the first value given without a language after
it. -/
theorem readConduitName_eq (getLang : String) (root : XmlRoot) :
    readConduitName getLang root =
      (((nameNodes root).filter (translated getLang)).getLast?.bind (·.xmlGetProp "value")).or
        (firstDefault ((nameNodes root).rtakeWhile fun node => !translated getLang node)) := by
  unfold readConduitName
  rw [foldl_nameTurn_filter]
  exact foldl_nameTurn fun node hnode => (List.mem_filter.mp hnode).2

/-! ## Attributes -/

/-- `strstr (attribute_name, "##")` -/
def namesLanguage (name : String) : Bool := "##".toList <:+: name.toList

/-- `gnome_pilot_conduit_management_get_attribute` -/
def getAttribute (attributes : Attributes) (getLang attributeName : String)
    (lang : Option String) : Option String :=
  let attributeNameWithLang :=
    if namesLanguage attributeName then attributeName
    else lang.getD getLang ++ "##" ++ attributeName
  (attributes.lookup attributeNameWithLang).or (attributes.lookup attributeName)

def attributeOf (node : XmlNode) : Option (String × String) :=
  if sameIgnoringCase node.name "conduit-attribute" && isString node then
    match node.xmlGetProp "name", node.xmlGetProp "value" with
    | some name, some value => some (attrWithLang name (node.xmlGetProp "lang"), value)
    | _, _ => none
  else none

theorem attributeTurn_eq (attributes : Attributes) (node : XmlNode) :
    attributeTurn attributes node =
      (attributeOf node).elim attributes fun a => attributes.insert a.1 a.2 := by
  unfold attributeTurn attributeOf
  cases hnode : sameIgnoringCase node.name "conduit-attribute" with
  | false => simp
  | true =>
      cases node.xmlGetProp "name" with
      | none => simp
      | some name =>
          cases node.xmlGetProp "value" with
          | none => simp
          | some value => cases isString node <;> simp

def attributesOf (root : XmlRoot) : List (String × String) := root.children.filterMap attributeOf

/-- The last value given for a key. -/
def lastAttribute (root : XmlRoot) (key : String) : Option String :=
  (((attributesOf root).filter fun a => a.1 = key).getLast?).map Prod.snd

theorem lookup_readConduitAttributes (root : XmlRoot) (key : String) :
    (readConduitAttributes root).lookup key = lastAttribute root key := by
  unfold readConduitAttributes lastAttribute attributesOf
  induction root.children using List.reverseRecOn with
  | nil => rfl
  | append_singleton nodes node ih =>
      rw [List.foldl_append, List.foldl_cons, List.foldl_nil, attributeTurn_eq,
        List.filterMap_append]
      cases hnode : attributeOf node with
      | none => simp [hnode, ih]
      | some a =>
          rw [Option.elim_some, HashTable.lookup_insert_ite, ih]
          by_cases hkey : key = a.1
          · simp [hnode, hkey]
          · simp [hnode, hkey, Ne.symm hkey]

theorem lastAttribute_ne_none {root : XmlRoot} {key : String} (h : lastAttribute root key ≠ none) :
    ∃ a ∈ attributesOf root, a.1 = key := by
  unfold lastAttribute at h
  cases hlast : ((attributesOf root).filter fun a => a.1 = key).getLast? with
  | none => simp [hlast] at h
  | some a =>
      have hmem := List.mem_of_getLast? hlast
      exact ⟨a, List.mem_of_mem_filter hmem, by simpa using (List.mem_filter.mp hmem).2⟩

theorem getAttribute_eq {attributeName : String} (h : namesLanguage attributeName = false)
    (root : XmlRoot) (getLang : String) (lang : Option String) :
    getAttribute (readConduitAttributes root) getLang attributeName lang =
      (lastAttribute root (lang.getD getLang ++ "##" ++ attributeName)).or
        (lastAttribute root attributeName) := by
  simp [getAttribute, h, lookup_readConduitAttributes]

theorem length_le_of_mem {keys : List String} {key : String} (h : key ∈ keys) :
    key.length ≤ (keys.flatMap String.toList).length := by
  induction keys with
  | nil => cases h
  | cons k keys ih =>
      rw [List.flatMap_cons, List.length_append, String.length_toList]
      rcases List.mem_cons.mp h with rfl | h
      · omega
      · have := ih h
        omega

/-- There is a language nothing is given for. -/
theorem exists_untranslated (root : XmlRoot) (attributeName : String) :
    ∃ lang, lastAttribute root (lang ++ "##" ++ attributeName) = none := by
  let keys := (attributesOf root).map Prod.fst
  refine ⟨String.ofList (List.replicate ((keys.flatMap String.toList).length + 1) 'x'), ?_⟩
  by_contra h
  obtain ⟨a, ha, hkey⟩ := lastAttribute_ne_none h
  have hlen := length_le_of_mem (List.mem_map_of_mem (f := Prod.fst) ha)
  rw [hkey, String.length_append, String.length_append, String.length_ofList,
    List.length_replicate] at hlen
  have hkeys : (((attributesOf root).map Prod.fst).flatMap String.toList).length =
      (keys.flatMap String.toList).length := rfl
  omega

/-- The language an attribute is asked for in makes no difference exactly when no element
is named after a language, two number signs and the attribute with a value of its own.
A translated element is stored under its name, a dash and its language. -/
theorem languageIgnored_iff (root : XmlRoot) {attributeName : String}
    (h : namesLanguage attributeName = false) :
    (∀ getLang getLang' lang lang',
        getAttribute (readConduitAttributes root) getLang attributeName lang =
          getAttribute (readConduitAttributes root) getLang' attributeName lang') ↔
      ∀ lang value, lastAttribute root (lang ++ "##" ++ attributeName) = some value →
        lastAttribute root attributeName = some value := by
  constructor
  · intro hsame lang value hvalue
    obtain ⟨other, hother⟩ := exists_untranslated root attributeName
    have heq := hsame lang other none none
    rw [getAttribute_eq h, getAttribute_eq h, Option.getD_none, Option.getD_none, hvalue,
      hother] at heq
    simpa using heq.symm
  · intro hvalue
    have hplain : ∀ getLang lang,
        getAttribute (readConduitAttributes root) getLang attributeName lang =
          lastAttribute root attributeName := by
      intro getLang lang
      rw [getAttribute_eq h]
      cases hfound : lastAttribute root (lang.getD getLang ++ "##" ++ attributeName) with
      | none => rfl
      | some value => exact (hvalue _ value hfound).symm
    intro getLang getLang' lang lang'
    rw [hplain, hplain]

def memoFile : XmlRoot where
  name := "gnome-pilot-conduit"
  props := [("version", "1.0")]
  children := [⟨"conduit-attribute",
    [("name", "description"), ("lang", "de"), ("value", "Notizen")]⟩]

theorem languageIgnored_memoFile :
    (∀ getLang getLang' lang lang',
        getAttribute (readConduitAttributes memoFile) getLang "description" lang =
          getAttribute (readConduitAttributes memoFile) getLang' "description" lang') ↔
      ∀ lang value, lastAttribute memoFile (lang ++ "##" ++ "description") = some value →
        lastAttribute memoFile "description" = some value :=
  languageIgnored_iff memoFile (by decide)

/-! ## The search path -/

/-- The files of a directory that describe conduits. -/
def selected (ext : String) (dir : String × List DirEntry) : List String :=
  dir.2.filterMap (selectDirEntry dir.1 ext)

theorem foldl_dirTurn (path ext : String) (entries : List DirEntry) (result : List String) :
    entries.foldl (dirTurn path ext) result =
      (entries.filterMap (selectDirEntry path ext)).reverse ++ result := by
  induction entries generalizing result with
  | nil => rfl
  | cons entry entries ih =>
      rw [List.foldl_cons, ih]
      cases hentry : selectDirEntry path ext entry <;> simp [dirTurn, hentry]

/-- The names are collected from the last to the first. -/
theorem getConduitFileNames_eq (ext : String) (dirs : List (String × List DirEntry)) :
    getConduitFileNames ext dirs = (dirs.flatMap (selected ext)).reverse := by
  have hloop : ∀ result, dirs.foldl (fun result dir => dir.2.foldl (dirTurn dir.1 ext) result)
      result = (dirs.flatMap (selected ext)).reverse ++ result := by
    induction dirs with
    | nil => exact fun result => rfl
    | cons dir dirs ih =>
        intro result
        rw [List.foldl_cons, foldl_dirTurn, ih]
        simp [selected]
  rw [getConduitFileNames, hloop, List.append_nil]

theorem lastEntry_reverse (filter : GnomePilotConduitFilter) (name : String)
    (entries : List Entry) : lastEntry filter name entries.reverse =
      entries.find? fun e => e.key filter = some name := by
  simp [lastEntry]

/-- Where several files have the same ID or name, the first on the search path is found. -/
theorem find_searchPath (getLang : String) (xmlParseFile : String → Option XmlRoot)
    (dirs : List (String × List DirEntry)) (filter : GnomePilotConduitFilter) (name : String) :
    (initializer getLang ((getConduitFileNames ".conduit" dirs).map xmlParseFile)).map
        (fun t => t.find filter name) =
      if ∀ file ∈ dirs.flatMap (selected ".conduit"), Compatible (xmlParseFile file) then
        some ((((dirs.flatMap (selected ".conduit")).filterMap fun file =>
          entryOf getLang (xmlParseFile file)).find? fun e => e.key filter = some name).map
            Entry.data)
      else none := by
  have hcompatible : (∀ doc ∈ (getConduitFileNames ".conduit" dirs).map xmlParseFile,
      Compatible doc) ↔
        ∀ file ∈ dirs.flatMap (selected ".conduit"), Compatible (xmlParseFile file) := by
    rw [getConduitFileNames_eq, List.forall_mem_map]
    simp only [List.mem_reverse]
  rw [initializer_eq]
  by_cases h : ∀ file ∈ dirs.flatMap (selected ".conduit"), Compatible (xmlParseFile file)
  · rw [if_pos (hcompatible.mpr h), if_pos h, Option.map_some, find_build,
      getConduitFileNames_eq, List.filterMap_map, List.filterMap_reverse, lastEntry_reverse]
    rfl
  · rw [if_neg fun hall => h (hcompatible.mp hall), if_neg h]
    rfl

/-! ## The callers -/

/-- The management as a whole: whether the files were read, and how many calls of `new`
there are more than of `destroy`. -/
structure Library where
  gpcmInitialized : Bool
  numberOfInstances : Int
  tables : Tables

def Library.start : Library := ⟨false, 0, .empty⟩

/-- What the callers do; `destroy` is called for a management that `new` returned. -/
inductive LibraryCall where
  | new (name : String) (filter : GnomePilotConduitFilter)
  | destroy
  | getConduits (filter : GnomePilotConduitFilter)
  deriving DecidableEq

/-- What they get. -/
inductive Answer where
  | management (mgmtdata : Option (Option GnomePilotConduitMgmtData))
  | nothing
  | names (output : List String)
  deriving DecidableEq

/-- `gnome_pilot_conduit_management_initializer`, with the files as they are now. -/
def Library.initialized (getLang : String) (l : Library) (files : List (Option XmlRoot)) :
    Option Library :=
  if l.gpcmInitialized then some l
  else (initializer getLang files).map fun t => { l with gpcmInitialized := true, tables := t }

/-- The functions of the management, with the files as they are now. -/
def Library.call (getLang : String) (l : Library) (files : List (Option XmlRoot)) :
    LibraryCall → Option (Library × Answer)
  | .new name filter =>
    (if l.numberOfInstances = 0 then l.initialized getLang files else some l).map fun l =>
      ({ l with numberOfInstances := l.numberOfInstances + 1 },
        .management (l.tables.find filter name))
  | .destroy => some ({ l with numberOfInstances := l.numberOfInstances - 1 }, .nothing)
  | .getConduits filter =>
    (l.initialized getLang files).map fun l => (l, .names (l.tables.getConduits filter))

/-- The calls with the files at their time.  `live` counts the managements that were
returned and not destroyed; without one there is nothing to destroy. -/
def Library.run (getLang : String) (l : Library) (live : Nat) :
    List (List (Option XmlRoot) × LibraryCall) → Option (List Answer)
  | [] => some []
  | (_, .destroy) :: calls =>
    if live = 0 then (l.run getLang 0 calls).map fun answers => .nothing :: answers
    else
      (run getLang { l with numberOfInstances := l.numberOfInstances - 1 } (live - 1) calls).map
        fun answers => .nothing :: answers
  | (files, .new name filter) :: calls =>
    (l.call getLang files (.new name filter)).bind fun result =>
      (run getLang result.1 (if result.2 = .management none then live else live + 1) calls).map
        fun answers => result.2 :: answers
  | (files, .getConduits filter) :: calls =>
    (l.call getLang files (.getConduits filter)).bind fun result =>
      (run getLang result.1 live calls).map fun answers => result.2 :: answers

def answerOf (t : Tables) : LibraryCall → Answer
  | .new name filter => .management (t.find filter name)
  | .destroy => .nothing
  | .getConduits filter => .names (t.getConduits filter)

/-- There are at least as many instances as managements, and the first made sure that
the files are read. -/
structure Library.Counted (l : Library) (live : Nat) : Prop where
  le : (live : Int) ≤ l.numberOfInstances
  read : l.numberOfInstances ≠ 0 → l.gpcmInitialized = true

/-- Once the files are read every call is answered by what was in them. -/
theorem run_of_initialized (getLang : String)
    (calls : List (List (Option XmlRoot) × LibraryCall)) {l : Library} {live : Nat}
    (hcounted : l.Counted live) (hread : l.gpcmInitialized = true) :
    l.run getLang live calls = some (calls.map fun call => answerOf l.tables call.2) := by
  induction calls generalizing l live with
  | nil => rfl
  | cons call calls ih =>
      have hle := hcounted.le
      obtain ⟨files, call⟩ := call
      cases call with
      | destroy =>
          unfold Library.run
          by_cases hlive : live = 0
          · rw [if_pos hlive, ih (hlive ▸ hcounted) hread]
            rfl
          · have hless : ({ l with numberOfInstances := l.numberOfInstances - 1 } :
                Library).Counted (live - 1) := by
              refine ⟨?_, fun _ => hread⟩
              change ((live - 1 : Nat) : Int) ≤ l.numberOfInstances - 1
              omega
            rw [if_neg hlive, ih hless hread]
            rfl
      | getConduits filter =>
          unfold Library.run
          simp only [Library.call, Library.initialized, hread, if_true, Option.map_some,
            Option.bind_some]
          rw [ih hcounted hread]
          rfl
      | new name filter =>
          have hmore : ∀ live', live' ≤ live + 1 →
              ({ l with numberOfInstances := l.numberOfInstances + 1 } : Library).Counted
                live' := by
            intro live' hlive'
            refine ⟨?_, fun _ => hread⟩
            change (live' : Int) ≤ l.numberOfInstances + 1
            omega
          have hnew : (if l.numberOfInstances = 0 then l.initialized getLang files else some l) =
              some l := by
            simp [Library.initialized, hread]
          unfold Library.run
          simp only [Library.call, hnew, Option.map_some, Option.bind_some]
          rw [ih (hmore _ (by split <;> omega)) hread]
          rfl

/-- The files as they were at the first call that looks at them. -/
def firstFiles (calls : List (List (Option XmlRoot) × LibraryCall)) : List (Option XmlRoot) :=
  ((calls.find? fun call => call.2 ≠ .destroy).map Prod.fst).getD []

/-- Every call, however many there are and whatever is installed meanwhile, is answered
by the files as they were at the first. -/
theorem run_start (getLang : String) (calls : List (List (Option XmlRoot) × LibraryCall)) :
    Library.start.run getLang 0 calls =
      (initializer getLang (firstFiles calls)).map fun t =>
        calls.map fun call => answerOf t call.2 := by
  induction calls with
  | nil => rfl
  | cons call calls ih =>
      obtain ⟨files, call⟩ := call
      cases call with
      | destroy =>
          have hfirst : firstFiles ((files, .destroy) :: calls) = firstFiles calls := rfl
          unfold Library.run
          rw [if_pos rfl, ih, hfirst, Option.map_map]
          rfl
      | getConduits filter =>
          have hfirst : firstFiles ((files, .getConduits filter) :: calls) = files := rfl
          rw [hfirst]
          unfold Library.run
          cases hinit : initializer getLang files with
          | none => simp [Library.call, Library.initialized, Library.start, hinit]
          | some t =>
              have hcounted : (⟨true, 0, t⟩ : Library).Counted 0 := ⟨Int.le_refl 0, fun _ => rfl⟩
              have hrest := run_of_initialized getLang calls hcounted rfl
              simp [Library.call, Library.initialized, Library.start, hinit, hrest, answerOf]
      | new name filter =>
          have hfirst : firstFiles ((files, .new name filter) :: calls) = files := rfl
          rw [hfirst]
          unfold Library.run
          cases hinit : initializer getLang files with
          | none => simp [Library.call, Library.initialized, Library.start, hinit]
          | some t =>
              have hcounted : ∀ live, live ≤ 1 → (⟨true, 1, t⟩ : Library).Counted live := by
                intro live hlive
                refine ⟨?_, fun _ => rfl⟩
                change (live : Int) ≤ 1
                omega
              have hrest := fun live hlive =>
                run_of_initialized getLang calls (hcounted live hlive) rfl
              simp only [Library.call, Library.initialized, Library.start, if_true, hinit,
                Bool.false_eq_true, if_false, Option.map_some, Option.bind_some, Int.zero_add]
              rw [hrest _ (by split <;> omega)]
              rfl

end GnomePilot.Daemon.Management
