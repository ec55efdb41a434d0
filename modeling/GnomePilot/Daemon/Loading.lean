import GnomePilot.Daemon.Enablement
import GnomePilot.Daemon.Installed

/-!
# Loading conduits

`gpilot_load_conduits` at the start of a session: each conduit listed in the pilot's
configuration file is looked up among the installed ones, configured and instantiated.
`loaded_iff` says what is loaded after any calls that enabled and disabled conduits.
-/

namespace GnomePilot.Daemon.Loading

open Queue Enablement
open Management hiding Entry

/-! ## The conduits that can be loaded -/

/-- Tables in which nothing that was freed is found and every block is found under its own
ID. -/
structure Catalogue where
  tables : Tables
  live : ∀ filter name, tables.find filter name ≠ some none
  named : ∀ id data, tables.find .id id = some (some data) → data.id = id

/-- `gnome_pilot_conduit_management_new` -/
def Catalogue.new (c : Catalogue) (filter : GnomePilotConduitFilter) (name : String) :
    Option GnomePilotConduitMgmtData := (c.tables.find filter name).join

theorem find_id_build {entries : List Management.Entry} {id : String}
    {data : GnomePilotConduitMgmtData}
    (h : (build entries).find .id id = some (some data)) : data.id = id := by
  rw [find_build] at h
  obtain ⟨e, he, hdata⟩ := Option.map_eq_some_iff.mp h
  obtain ⟨name, -, rfl⟩ := Option.map_eq_some_iff.mp hdata
  exact Option.some.inj (lastEntry_eq_some he).2

def Catalogue.ofEntries (entries : List Management.Entry)
    (h : ∀ id e, lastEntry .id id entries = some e → e.name.isSome) : Catalogue where
  tables := build entries
  live filter name := by
    cases filter with
    | name => exact find_name_ne_freed entries name
    | id => exact find_id_ne_freed h name
  named _ _ := find_id_build

/-- What the conduit's library makes of a call to instantiate it. -/
inductive Instance where
  | failed
  | invalid
  | conduit (kind : ConduitKind)
  deriving DecidableEq

/-- The kind of a conduit that was made and is one of the three kinds. -/
def Instance.kind : Instance → Option ConduitKind
  | .conduit kind => some kind
  | _ => none

structure LoadedConduit where
  id : String
  name : String
  kind : ConduitKind
  config : ConduitConfig
  deriving DecidableEq

def LoadedConduit.toConduit (c : LoadedConduit) : Conduit :=
  ⟨c.name, c.kind, c.config.syncType, c.config.firstSyncType⟩

/-- The lists `gpilot_load_conduits` fills. -/
structure ConduitLists where
  clist : List LoadedConduit
  blist : List LoadedConduit
  flist : List LoadedConduit
  deriving DecidableEq

def ConduitLists.append (lists : ConduitLists) (c : LoadedConduit) : ConduitLists :=
  match c.kind with
  | .backup => { lists with blist := lists.blist ++ [c] }
  | .file => { lists with flist := lists.flist ++ [c] }
  | .standard _ _ => { lists with clist := lists.clist ++ [c] }

variable (format : ListFormat ' ') (catalogue : Catalogue)
  (instantiate : GnomePilotConduitMgmtData → Instance)

/-- The fields of an object that was just made; the first sync type is `Custom`. -/
def newConfig : ConduitConfig := ⟨.custom, .custom, false⟩

/-- A turn of the loop: an unknown conduit, one that cannot be instantiated and one of no
known kind are passed over. -/
def loadTurn (kf : KeyFile) (lists : ConduitLists) (conduitName : String) : ConduitLists :=
  match catalogue.new .id conduitName with
  | none => lists
  | some manager =>
    let conduitConfig := (gnomePilotConduitConfigLoadConfig format kf manager.id newConfig).2
    match instantiate manager with
    | .failed => lists
    | .invalid => lists
    | .conduit kind => lists.append ⟨manager.id, manager.name, kind, conduitConfig⟩

def gpilotLoadConduits (kf : KeyFile) : ConduitLists :=
  (conduits format kf).foldl (loadTurn format catalogue instantiate kf) ⟨[], [], []⟩

/-! ## What is loaded -/

/-- The conduit that a name in the list stands for. -/
def loadable (kf : KeyFile) (conduitName : String) : Option LoadedConduit :=
  (catalogue.new .id conduitName).bind fun manager =>
    (instantiate manager).kind.map fun kind =>
      ⟨manager.id, manager.name, kind,
        (gnomePilotConduitConfigLoadConfig format kf manager.id newConfig).2⟩

theorem loadTurn_eq (kf : KeyFile) (lists : ConduitLists) (conduitName : String) :
    loadTurn format catalogue instantiate kf lists conduitName =
      (loadable format catalogue instantiate kf conduitName).elim lists lists.append := by
  unfold loadTurn loadable
  cases catalogue.new .id conduitName with
  | none => rfl
  | some manager =>
      simp only [Option.bind_some]
      cases instantiate manager <;> rfl

def ConduitLists.listFor (lists : ConduitLists) : ConduitKind → List LoadedConduit
  | .backup => lists.blist
  | .file => lists.flist
  | .standard _ _ => lists.clist

def ConduitLists.all (lists : ConduitLists) : List LoadedConduit :=
  lists.clist ++ lists.blist ++ lists.flist

def ConduitLists.Sorted (lists : ConduitLists) : Prop :=
  ∀ c ∈ lists.all, c ∈ lists.listFor c.kind

theorem sorted_append {lists : ConduitLists} (h : lists.Sorted) (c : LoadedConduit) :
    (lists.append c).Sorted := by
  have hother : ∀ d ∈ lists.all, d ∈ (lists.append c).listFor d.kind := by
    intro d hd
    have hlisted := h d hd
    unfold ConduitLists.append
    split <;> cases hkind : d.kind <;> rw [hkind] at hlisted <;>
      simp_all [ConduitLists.listFor]
  have hown : c ∈ (lists.append c).listFor c.kind := by
    unfold ConduitLists.append
    cases hkind : c.kind <;> simp [ConduitLists.listFor]
  intro d hd
  have hcases : d = c ∨ d ∈ lists.all := by
    unfold ConduitLists.append ConduitLists.all at hd
    unfold ConduitLists.all
    split at hd <;> simp at hd ⊢ <;> tauto
  rcases hcases with rfl | hd
  · exact hown
  · exact hother d hd

theorem perm_all_append (lists : ConduitLists) (c : LoadedConduit) :
    (lists.append c).all.Perm (c :: lists.all) := by
  unfold ConduitLists.append ConduitLists.all
  split
  · rw [← List.append_assoc, List.append_assoc _ [c]]
    exact List.perm_middle
  · rw [← List.append_assoc]
    exact List.perm_append_singleton c _
  · rw [List.append_assoc, List.append_assoc, List.append_assoc]
    exact List.perm_middle

/-- The loop sorts what the names stand for by kind, and loses nothing. -/
theorem foldl_loadTurn (kf : KeyFile) (names : List String) {lists : ConduitLists}
    (h : lists.Sorted) :
    (names.foldl (loadTurn format catalogue instantiate kf) lists).Sorted ∧
      (names.foldl (loadTurn format catalogue instantiate kf) lists).all.Perm
        (names.filterMap (loadable format catalogue instantiate kf) ++ lists.all) := by
  induction names generalizing lists with
  | nil => exact ⟨h, List.Perm.refl _⟩
  | cons name names ih =>
      rw [List.foldl_cons, loadTurn_eq]
      cases hname : loadable format catalogue instantiate kf name with
      | none =>
          rw [List.filterMap_cons_none hname]
          exact ih h
      | some c =>
          rw [List.filterMap_cons_some hname]
          obtain ⟨hsorted, hperm⟩ := ih (sorted_append h c)
          refine ⟨hsorted, hperm.trans ?_⟩
          exact ((perm_all_append lists c).append_left _).trans List.perm_middle

theorem loadable_id {kf : KeyFile} {name : String} {c : LoadedConduit}
    (h : loadable format catalogue instantiate kf name = some c) : c.id = name := by
  obtain ⟨manager, hmanager, hc⟩ := Option.bind_eq_some_iff.mp h
  obtain ⟨kind, -, rfl⟩ := Option.map_eq_some_iff.mp hc
  exact catalogue.named name manager (Option.join_eq_some_iff.mp hmanager)

theorem loadable_eq_some {kf : KeyFile} {name : String}
    (hname : isEnabled format kf name = true) {c : LoadedConduit} :
    loadable format catalogue instantiate kf name = some c ↔
      ∃ manager, catalogue.new .id name = some manager ∧ c.id = name ∧ c.name = manager.name ∧
        (instantiate manager).kind = some c.kind ∧ c.config = loadConfig kf name := by
  constructor
  · intro h
    have hid := loadable_id format catalogue instantiate h
    obtain ⟨manager, hmanager, hc⟩ := Option.bind_eq_some_iff.mp h
    obtain ⟨kind, hkind, rfl⟩ := Option.map_eq_some_iff.mp hc
    have hown : manager.id = name := hid
    have hconfig : (gnomePilotConduitConfigLoadConfig format kf manager.id newConfig).2 =
        loadConfig kf name := by
      rw [hown, gnomePilotConduitConfigLoadConfig, if_pos hname]
    exact ⟨manager, hmanager, hid, rfl, hkind, hconfig⟩
  · intro h
    obtain ⟨manager, hmanager, hid, hmgmt, hkind, hconfig⟩ := h
    have hown := catalogue.named name manager (Option.join_eq_some_iff.mp hmanager)
    obtain ⟨id, mgmtName, kind, config⟩ := c
    obtain rfl : id = name := hid
    obtain rfl : mgmtName = manager.name := hmgmt
    obtain rfl : config = loadConfig kf id := hconfig
    simp [loadable, hmanager, hkind, hown, gnomePilotConduitConfigLoadConfig, hname]

theorem nodup_conduits_run (calls : List Call) {kf : KeyFile} (h : Listed format kf)
    (hnodup : (conduits format kf).Nodup) : Listed format (run format kf calls) ∧
      (conduits format (run format kf calls)).Nodup := by
  induction calls generalizing kf with
  | nil => exact ⟨h, hnodup⟩
  | cons call calls ih =>
      have hstep : (conduits format (step format kf call)).Nodup := by
        rw [conduits_step format h]
        exact nodup_listAfter hnodup call
      exact ih (h.step format call) hstep

theorem mem_conduits_run (calls : List Call) {kf : KeyFile} (h : Listed format kf)
    {name : String} (hname : name ∈ conduits format (run format kf calls)) :
    name ∈ conduits format kf ∨ ∃ call ∈ calls, name = call.id.text := by
  induction calls generalizing kf with
  | nil => exact Or.inl hname
  | cons call calls ih =>
      rcases ih (h.step format call) hname with hlisted | ⟨other, hother, rfl⟩
      · rw [conduits_step format h] at hlisted
        rcases mem_listAfter hlisted with hlisted | rfl
        · exact Or.inl hlisted
        · exact Or.inr ⟨call, List.mem_cons_self, rfl⟩
      · exact Or.inr ⟨other, List.mem_cons_of_mem _ hother, rfl⟩

theorem loaded_perm (kf : KeyFile) :
    (gpilotLoadConduits format catalogue instantiate kf).Sorted ∧
      (gpilotLoadConduits format catalogue instantiate kf).all.Perm
        ((conduits format kf).filterMap (loadable format catalogue instantiate kf)) := by
  have hempty : ConduitLists.Sorted ⟨[], [], []⟩ := by
    intro c hc
    cases hc
  simpa [gpilotLoadConduits, ConduitLists.all] using
    foldl_loadTurn format catalogue instantiate kf (conduits format kf) hempty

theorem map_id_filterMap_loadable (kf : KeyFile) (names : List String) :
    ((names.filterMap (loadable format catalogue instantiate kf)).map LoadedConduit.id).Sublist
      names := by
  induction names with
  | nil => exact List.Sublist.slnil
  | cons name names ih =>
      cases hname : loadable format catalogue instantiate kf name with
      | none =>
          rw [List.filterMap_cons_none hname]
          exact ih.cons name
      | some c =>
          rw [List.filterMap_cons_some hname, List.map_cons,
            loadable_id format catalogue instantiate hname]
          exact ih.cons_cons name

def viewAfter (calls : List Call) (id : ConduitId) : View :=
  (callsOf id calls).foldl View.step ⟨false, unset⟩

/-- After any calls on a new file, for conduits that are apart, a session loads each
conduit once, into the list for its kind, and loads just those that the calls left
enabled, that are installed and that can be instantiated, each as the calls for it left it
configured. -/
theorem loaded_iff {ids : Set ConduitId} (hapart : Apart ids) {calls : List Call}
    (hcalls : ∀ call ∈ calls, call.id ∈ ids) :
    let lists := gpilotLoadConduits format catalogue instantiate (run format .empty calls)
    lists.Sorted ∧ (lists.all.map LoadedConduit.id).Nodup ∧ ∀ c, c ∈ lists.all ↔
      ∃ id ∈ ids, (viewAfter calls id).enabled = true ∧ ∃ manager,
        catalogue.new .id id.text = some manager ∧ c.id = id.text ∧ c.name = manager.name ∧
          (instantiate manager).kind = some c.kind ∧ c.config = (viewAfter calls id).config := by
  intro lists
  have hempty := listed_empty format
  have hnodup := (nodup_conduits_run format calls hempty List.nodup_nil).2
  obtain ⟨hsorted, hperm⟩ :=
    loaded_perm format catalogue instantiate (run format .empty calls)
  have hview : ∀ id ∈ ids, viewOf format (run format .empty calls) id.text =
      viewAfter calls id := fun id hid => viewOf_run format hapart hcalls hid hempty
  have hids : (lists.all.map LoadedConduit.id).Nodup := by
    rw [(hperm.map LoadedConduit.id).nodup_iff]
    exact hnodup.sublist (map_id_filterMap_loadable format catalogue instantiate _ _)
  refine ⟨hsorted, hids, fun c => ?_⟩
  rw [hperm.mem_iff, List.mem_filterMap]
  constructor
  · intro h
    obtain ⟨name, hname, hc⟩ := h
    rcases mem_conduits_run format calls hempty hname with hnone | ⟨call, hcall, rfl⟩
    · cases hnone
    have henabled := (isEnabled_iff format).mpr hname
    have hown := hview _ (hcalls call hcall)
    refine ⟨call.id, hcalls call hcall, ?_, ?_⟩
    · rw [← hown]
      exact henabled
    · rw [← hown]
      exact (loadable_eq_some format catalogue instantiate henabled).mp hc
  · intro h
    obtain ⟨id, hid, henabled, hmanager⟩ := h
    rw [← hview id hid] at henabled hmanager
    exact ⟨id.text, (isEnabled_iff format).mp henabled,
      (loadable_eq_some format catalogue instantiate henabled).mpr hmanager⟩

def memo : ConduitId := ⟨"memo", by decide⟩

def memoCatalogue : Catalogue :=
  .ofEntries [⟨"memo", "libmemo.so", some "Memo", ∅⟩] (by
    intro id e he
    obtain rfl := List.mem_singleton.mp (lastEntry_eq_some he).1
    rfl)

/-- Once it is enabled it is loaded. -/
theorem loaded_memo : (⟨"memo", "Memo", .file, ⟨.synchronize, .notSet, false⟩⟩ : LoadedConduit) ∈
    (gpilotLoadConduits (.separated ' ') memoCatalogue (fun _ => .conduit .file)
      (run (.separated ' ') .empty [⟨memo, .enable .synchronize⟩])).all := by
  have hapart : Apart {memo} :=
    ⟨fun _ ha _ hb _ => hb.trans ha.symm, fun _ ha _ _ hb => hb.trans ha.symm⟩
  have hcalls : ∀ call ∈ ([⟨memo, .enable .synchronize⟩] : List Call),
      call.id ∈ ({memo} : Set ConduitId) := by
    intro call hcall
    obtain rfl := List.mem_singleton.mp hcall
    rfl
  have hloaded := loaded_iff (.separated ' ') memoCatalogue (fun _ => .conduit .file) hapart hcalls
  apply (hloaded.2.2 _).mpr
  exact ⟨memo, rfl, rfl, ⟨"memo", "libmemo.so", "Memo", ∅⟩, rfl, rfl, rfl, rfl, rfl⟩

end GnomePilot.Daemon.Loading
