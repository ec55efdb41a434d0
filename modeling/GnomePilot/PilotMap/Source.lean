import GnomePilot.Lib.History
import GnomePilot.PilotMap.Sessions
import Mathlib.Logic.Function.Basic

/-!
# The source of the pairs

A conduit drops its map when the source of the desktop data is not `cfg->last_uri`.  That
is saved apart from the map, by every session and by the capplet.  `alwaysOwn_iff` says in
which histories no session can come to use a pair made with another source.
-/

namespace GnomePilot.MapSession

/-- `newCfg` is `new_cfg->last_uri` of the conduit the capplet instantiated; `made` keeps the
source with which the entry of a uid was made. -/
structure System where
  disk : Disk
  newCfg : Option (Option String)
  made : String → Option String

inductive Event where
  | session (s : Session)
  | instantiateConduit
  | saveSettings

/-- The source of the entries after an operation. -/
def track (uri : String) (made : String → Option String) : MapOp → String → Option String
  | .insert _ u _ => Function.update made u (some uri)
  | _ => made

/-- `save_configuration` writes an empty text where there is none. -/
def savedUri (lastUri : Option String) : String := lastUri.getD ""

def System.step (x : System) : Event → System
  | .session s =>
      { x with
        disk := MapSession.session x.disk s
        made := match s.ending with
          | .written _ _ => s.ops.foldl (track s.uri) x.made
          | _ => x.made }
  | .instantiateConduit => { x with newCfg := some x.disk.lastUri }
  | .saveSettings =>
      match x.newCfg with
      | none => x
      | some last => { x with disk := { x.disk with lastUri := some (savedUri last) } }

def System.start : System := ⟨.first, none, fun _ => none⟩

/-- Whatever the next session, the pairs it finds were made with its own source. -/
def System.Own (x : System) : Prop :=
  ∀ s map, preSync x.disk s = some map → ∀ u, map.uidMap.lookup u ≠ none →
    x.made u = some s.uri

def HoldsNothing (file : MapFile) : Prop :=
  ∀ map, (ePilotMapRead file).2 = some map → ∀ u, map.uidMap.lookup u = none

/-- What keeps the name of the source true to the file: a name that is saved without the map
is the one there was, or there is no entry. -/
def System.Keeps (x : System) : Event → Prop
  | .session s => ∀ failure, s.ending = .notWritten failure →
      HoldsNothing x.disk.file ∨ x.disk.lastUri = some s.uri
  | .instantiateConduit => True
  | .saveSettings => ∀ last, x.newCfg = some last →
      HoldsNothing x.disk.file ∨ x.disk.lastUri = some (savedUri last)

/-! ## The entries of the file -/

section File

variable {file : MapFile} {entry : Entries}

theorem Stores.holdsNothing_iff (h : Stores file entry) :
    HoldsNothing file ↔ ∀ u, entry u = none := by
  obtain ⟨map, hread, hmap⟩ := h
  constructor
  · intro hnone u
    exact (hmap.entry u).symm.trans (hnone map (by rw [hread]) u)
  · intro hnone map' hread' u
    rw [hread] at hread'
    injection hread' with heq
    rw [← heq]
    exact (hmap.entry u).trans (hnone u)

theorem entry_preSync_ne_none (book : Book) (s : Session) (u : String) :
    (book.preSync s).entry u ≠ none ↔
      sourceChanged book.lastUri s.uri = false ∧ book.entry u ≠ none := by
  unfold Book.preSync
  cases sourceChanged book.lastUri s.uri with
  | true => simp
  | false => simp

/-- The pairs are those of the source that is saved. -/
theorem own_iff {x : System} (h : Stores x.disk.file entry) :
    x.Own ↔ ∀ u, entry u ≠ none → ∃ uri, x.disk.lastUri = some uri ∧ x.made u = some uri := by
  have hpre := fun s => h.agrees.preSync s
  constructor
  · intro hown u hu
    have hused : ∀ s : Session, sourceChanged x.disk.lastUri s.uri = false →
        x.made u = some s.uri := by
      intro s hsame
      obtain ⟨map, hmap, hmodels⟩ := hpre s
      exact hown s map hmap u fun hnone =>
        (entry_preSync_ne_none ⟨entry, _⟩ s u).mpr ⟨hsame, hu⟩ ((hmodels.entry u).symm.trans hnone)
    cases hlast : x.disk.lastUri with
    | some uri =>
        have hmade := hused ⟨uri, false, false, [], .noAppBlock⟩ (by simp [hlast, sourceChanged])
        exact ⟨uri, rfl, hmade⟩
    | none =>
        -- a session of any source would use the entry
        have h1 := hused ⟨"", false, false, [], .noAppBlock⟩ (by simp [hlast, sourceChanged])
        have h2 := hused ⟨"a", false, false, [], .noAppBlock⟩ (by simp [hlast, sourceChanged])
        exact absurd (h1.symm.trans h2) (by decide)
  · intro howner s map hmap u hu
    obtain ⟨map', hmap', hmodels⟩ := hpre s
    obtain rfl : map = map' := Option.some.inj (hmap.symm.trans hmap')
    obtain ⟨hsame, hsome⟩ := (entry_preSync_ne_none ⟨entry, _⟩ s u).mp fun hnone =>
      hu ((hmodels.entry u).trans hnone)
    obtain ⟨uri, hlast, hmade⟩ := howner u hsome
    have heq : uri = s.uri := by simpa [hlast, sourceChanged] using hsame
    rw [hmade, heq]

end File

/-! ## One event -/

/-- Entries of one source stay so: an operation adds none but those of its session. -/
theorem made_of_foldl {uri : String} (ops : List MapOp) {l : Ledger}
    {made : String → Option String} (h : ∀ u, l.entry u ≠ none → made u = some uri) :
    ∀ u, (ops.foldl Ledger.step l).entry u ≠ none → ops.foldl (track uri) made u = some uri := by
  induction ops generalizing l made with
  | nil => exact h
  | cons op ops ih =>
      refine ih fun u hu => ?_
      cases op with
      | insert p v archived =>
          by_cases huv : u = v
          · subst huv
            exact Function.update_self u _ made
          · refine (Function.update_of_ne huv _ made).trans (h u fun hnone => hu ?_)
            simp [Ledger.step, Entries.insert, huv, hnone]
      | removeByPid p => exact h u fun hnone => hu (by simp [Ledger.step, hnone])
      | removeByUid v => exact h u fun hnone => hu (by simp [Ledger.step, hnone])
      | lookupPid v touch => exact h u fun hnone => hu (by simp [Ledger.step, hnone])
      | lookupUid p touch => exact h u fun hnone => hu (by simp [Ledger.step, hnone])
      | clear => exact absurd rfl hu
      | setWriteTouchedOnly b => exact h u hu

/-- The file can be read, and its pairs are those of the source that is saved. -/
structure System.Inv (x : System) : Prop where
  stores : ∃ entry, Stores x.disk.file entry
  own : x.Own

theorem inv_start : System.start.Inv := by
  have hstores : Stores System.start.disk.file (fun _ => none) := agrees_first.stores
  exact ⟨⟨_, hstores⟩, (own_iff hstores).mpr fun u hu => absurd rfl hu⟩

variable {x : System}

/-- A name is saved without the map. -/
theorem own_lastUri_iff (h : x.Inv) (uri : String) :
    ({ x with disk := { x.disk with lastUri := some uri } } : System).Own ↔
      HoldsNothing x.disk.file ∨ x.disk.lastUri = some uri := by
  obtain ⟨entry, hstores⟩ := h.stores
  have hown := (own_iff hstores).mp h.own
  have hnew : Stores ({ x.disk with lastUri := some uri } : Disk).file entry := hstores
  rw [own_iff (x := { x with disk := { x.disk with lastUri := some uri } }) hnew,
    hstores.holdsNothing_iff]
  constructor
  · intro hnewOwn
    by_cases hnone : ∀ u, entry u = none
    · exact Or.inl hnone
    · obtain ⟨u, hu⟩ := not_forall.mp hnone
      obtain ⟨old, hlast, hmade⟩ := hown u hu
      obtain ⟨new, hnewLast, hnewMade⟩ := hnewOwn u hu
      exact Or.inr (hlast.trans (hmade.symm.trans (hnewMade.trans hnewLast.symm)))
  · rintro (hnone | hsame) u hu
    · exact absurd (hnone u) hu
    · obtain ⟨old, hlast, hmade⟩ := hown u hu
      exact ⟨uri, rfl, hmade.trans (hlast.symm.trans hsame)⟩

/-- A session that saves its map leaves pairs of its own source. -/
theorem inv_written (h : x.Inv) {s : Session} {now : Int64} {walk : (map : EPilotMap) → map.Walk}
    (hending : s.ending = .written now walk) : (x.step (.session s)).Inv := by
  obtain ⟨entry, hstores⟩ := h.stores
  obtain ⟨map, hpre, hmap⟩ := hstores.agrees.preSync s
  obtain ⟨hnewStores, hlast⟩ := hstores.agrees.session s
  rw [Book.session, hending] at hnewStores hlast
  refine ⟨⟨_, hnewStores⟩, (own_iff hnewStores).mpr fun u hu => ⟨s.uri, hlast, ?_⟩⟩
  have hmade := made_of_foldl s.ops
    (fun v hv => h.own s map hpre v fun hnone => hv ((hmap.entry v).symm.trans hnone)) u
    fun hnone => hu (by simp [Ledger.save, hnone])
  rw [System.step, hending]
  exact hmade

theorem step_noAppBlock (x : System) {s : Session} (hending : s.ending = .noAppBlock) :
    x.step (.session s) = x := by
  have hdisk : MapSession.session x.disk s = x.disk := by
    unfold MapSession.session postSync
    rw [hending]
    cases preSync x.disk s with
    | none => rfl
    | some map => rfl
  rw [System.step, hdisk, hending]

theorem step_notWritten (h : x.Inv) {s : Session} {failure : WriteFailure}
    (hending : s.ending = .notWritten failure) :
    x.step (.session s) = { x with disk := { x.disk with lastUri := some s.uri } } := by
  obtain ⟨entry, hstores⟩ := h.stores
  obtain ⟨map, hpre, -⟩ := hstores.agrees.preSync s
  have hdisk : MapSession.session x.disk s = { x.disk with lastUri := some s.uri } := by
    rw [MapSession.session, hpre]
    simp only [postSync, hending]
  rw [System.step, hdisk, hending]

theorem step_stores (h : x.Inv) (e : Event) : ∃ entry, Stores (x.step e).disk.file entry := by
  obtain ⟨entry, hstores⟩ := h.stores
  cases e with
  | session s =>
      exact ⟨_, (hstores.agrees.session s).stores⟩
  | instantiateConduit => exact ⟨entry, hstores⟩
  | saveSettings =>
      refine ⟨entry, ?_⟩
      rw [System.step]
      cases x.newCfg with
      | none => exact hstores
      | some last => exact hstores

theorem step_own_iff (h : x.Inv) (e : Event) : (x.step e).Own ↔ x.Keeps e := by
  cases e with
  | session s =>
      cases hending : s.ending with
      | noAppBlock =>
          rw [step_noAppBlock x hending]
          exact iff_of_true h.own fun failure hfailure =>
            Ending.noConfusion (hending.symm.trans hfailure)
      | notWritten failure =>
          rw [step_notWritten h hending, own_lastUri_iff h]
          exact ⟨fun hsaved _ _ => hsaved, fun hkeeps => hkeeps failure hending⟩
      | written now walk =>
          exact iff_of_true (inv_written h hending).own fun failure hfailure =>
            Ending.noConfusion (hending.symm.trans hfailure)
  | instantiateConduit => exact iff_of_true h.own trivial
  | saveSettings =>
      rw [System.step, System.Keeps]
      cases x.newCfg with
      | none => exact iff_of_true h.own fun last hlast => absurd hlast (by simp)
      | some last =>
          refine (own_lastUri_iff h _).trans ⟨fun hsaved other hother => ?_, fun hkeeps =>
            hkeeps last rfl⟩
          exact Option.some.inj hother ▸ hsaved

theorem inv_step (h : x.Inv) {e : Event} (hkeeps : x.Keeps e) : (x.step e).Inv :=
  ⟨step_stores h e, (step_own_iff h e).mpr hkeeps⟩

/-- From a new conduit on, no session can come to use a pair made with another source exactly
when the name of the source is never saved alone: no session of a new source saves its
configuration and fails to save its map, and the capplet saves no older name. -/
theorem alwaysOwn_iff (events : List Event) :
    History.Always System.step System.Own .start events ↔
      History.Allowed System.step System.Keeps .start events :=
  History.always_iff_allowed System.Inv (fun _ h => h.own) (fun _ _ h => inv_step h)
    (fun _ e h hbreaks hown => hbreaks ((step_own_iff h e).mp hown)) inv_start

end GnomePilot.MapSession
