import GnomePilot.Daemon.Admission
import GnomePilot.Daemon.Serving
import GnomePilot.Queue.Handle

/-!
# Files that are installed from the command line

`gpilot-install-file` asks for each of its files to be installed and then for the file
conduit.  When it is cancelled it takes back the files only, each of which counts the list
down: `load_cancelled` says that the request for the conduit is left behind where no load
of the list comes to it.
-/

namespace GnomePilot.Daemon.InstallClient

open Queue Admission

/-! ## The program -/

/-- The queue file and `handles`. -/
structure Client where
  kf : KeyFile
  handles : List UInt32

section Program

variable (ctx : Context) (pilotName : String)

/-- A turn of the loop over the names.  The client library copies each file under a
temporary name of its own, if it can. -/
def requestFile (x : Client) : String × Option String → Client
  | (_, none) => x
  | (infile, some filename) =>
      let reply := gpilotDaemonRequestInstall ctx x.kf pilotName filename infile 0 0
      ⟨reply.kf, reply.handle.toList ++ x.handles⟩

def requestFiles (kf : KeyFile) (files : List (String × Option String)) : Client :=
  files.foldl (requestFile ctx pilotName) ⟨kf, []⟩

/-- `gnome_pilot_client_conduit`, unless there is no file to install. -/
def requestConduit (x : Client) : KeyFile :=
  if x.handles = [] then x.kf
  else
    (Admission.gpilotDaemonRequestConduit ctx x.kf .custom pilotName "File"
      (operationCode .conduitDefault) 0 0).kf

/-- A run without `--later` that is cancelled, with no other call in between. -/
def cancelled (kf : KeyFile) (files : List (String × Option String)) : KeyFile :=
  let x := requestFiles ctx pilotName kf files
  x.handles.foldl gpilotDaemonRemoveRequest (requestConduit ctx pilotName x)

end Program

/-! ## Loads -/

theorem loadLoop_shared {s t : QueueState} (hs : Aged s) (ht : Kept t)
    (hsub : ∀ e ∈ s.pending, e ∈ t.pending) {id : UInt32} {type : RequestType}
    (hpilot : isSystemRelated type = false) (all : Bool) {n : Nat}
    (hn : n ≤ (counter s.kf id type).toNat) :
    loadLoop t.kf id type all n = loadLoop s.kf id type all n := by
  induction n with
  | zero => rfl
  | succ n ih =>
      obtain ⟨e, he, hlist, hnum⟩ := hs.dense id type (n + 1) (by omega) hn
      have hid := pilotId_of_list hpilot hlist
      have hsec : e.sec = sectionOf id type (.ofNat (n + 1)) := by
        rw [← hnum, UInt32.ofNat_toNat]
        exact sectionOf_inj.mpr ⟨hlist, rfl⟩
      have hfound := hs.found e he
      have hfound' := ht.found e (hsub e he)
      rw [hid, hsec] at hfound hfound'
      rw [loadLoop, loadLoop, loadRequest_eq, loadRequest_eq, hfound, hfound', ih (by omega)]

/-- Numbers that no request has are passed over. -/
theorem loadLoop_gap {t : QueueState} (ht : Kept t) {id : UInt32} {type : RequestType}
    {m n : Nat} (hmn : m ≤ n) (hn : n < 2 ^ 32)
    (hgap : ∀ e ∈ t.pending, e.list = setSection id type → e.num.toNat ≤ m ∨ n < e.num.toNat)
    (all : Bool) :
    loadLoop t.kf id type all n = loadLoop t.kf id type all m := by
  induction n, hmn using Nat.le_induction with
  | base => rfl
  | succ n hmn ih =>
      have hnone : ∀ e ∈ t.pending, e.sec ≠ sectionOf id type (.ofNat (n + 1)) := by
        intro e he hsec
        obtain ⟨hlist, hnum⟩ := sectionOf_inj.mp hsec
        have hnat : e.num.toNat = n + 1 := by
          rw [hnum, UInt32.toNat_ofNat', Nat.mod_eq_of_lt hn]
        rcases hgap e he hlist with h | h <;> omega
      rw [loadLoop, loadRequest_eq, loadFrom_eq_none (ht.free id type _ hnone)]
      refine ih (by omega) fun e he hlist => ?_
      rcases hgap e he hlist with h | h
      · exact Or.inl h
      · exact Or.inr (by omega)

theorem load_eq {s t : QueueState} (hs : Aged s) (ht : Kept t)
    (hsub : ∀ e ∈ s.pending, e ∈ t.pending) {id : UInt32} {type : RequestType}
    (hpilot : isSystemRelated type = false) (hread : (counter t.kf id type).toNat < 2 ^ 31)
    (hle : (counter s.kf id type).toNat ≤ (counter t.kf id type).toNat)
    (hgap : ∀ e ∈ t.pending, e.list = setSection id type →
      e.num.toNat ≤ (counter s.kf id type).toNat ∨ (counter t.kf id type).toNat < e.num.toNat)
    (all : Bool) :
    gpcQueueLoadRequests t.kf id type all = gpcQueueLoadRequests s.kf id type all := by
  unfold gpcQueueLoadRequests
  rw [toNat_toInt_counter hread, toNat_toInt_counter (hs.readable id type)]
  exact (loadLoop_gap ht hle (by omega) hgap all).trans
    (loadLoop_shared hs ht hsub hpilot all (Nat.le_refl _))

theorem foldl_remove {es : List Entry} {s : QueueState} (h : Kept s)
    (hsorted : s.pending.Pairwise fun e e' => e'.serial < e.serial)
    (hes : ∀ e ∈ es, e ∈ s.pending ∧ target e.handle = e.sec) (hnodup : es.Nodup) :
    (es.map Entry.handle).foldl gpilotDaemonRemoveRequest s.kf = (s.complete es).kf := by
  induction es generalizing s with
  | nil => rfl
  | cons e es ih =>
      obtain ⟨hnew, hrest⟩ := List.nodup_cons.mp hnodup
      obtain ⟨he, htarget⟩ := hes e List.mem_cons_self
      have hstep := removeRequest_of_target h he htarget
      have hpending := congrArg QueueState.pending (step_purge_serial hsorted he)
      have hkf := kf_removeRequest h hsorted e.handle
      rw [hstep] at hkf
      rw [List.map_cons, List.foldl_cons, ← hkf]
      refine ih (h.purge e.serial) ?_ (fun a ha => ?_) hrest
      · rw [hpending]
        exact hsorted.sublist List.erase_sublist
      · obtain ⟨hmem, hat⟩ := hes a (List.mem_cons_of_mem e ha)
        have hne : a ≠ e := by
          rintro rfl
          exact hnew ha
        refine ⟨?_, hat⟩
        rw [hpending]
        exact (List.mem_erase_of_ne hne).mpr hmem

/-! ## The requests -/

def listOf (pilotId : UInt32) : String := setSection pilotId .install

/-- A pilot's request is stored under the next number, and its handle leads back to it. -/
structure Stores (s : QueueState) (pilotId : UInt32) (t : QueueState) (es : List Entry) : Prop where
  aged : Aged t
  pending : t.pending = es ++ s.pending
  handles : ∀ e ∈ es, target e.handle = e.sec
  lists : ∀ e ∈ es, e.list = listOf pilotId
  counters : ∀ id type, (counter t.kf id type).toNat = (counter s.kf id type).toNat +
    if setSection id type = listOf pilotId then es.length else 0

theorem stores_nil {s : QueueState} (h : Aged s) (pilotId : UInt32) : Stores s pilotId s [] :=
  ⟨h, rfl, by simp, by simp, by simp⟩

/-- The handles of `n` more requests fit. -/
def Fits (s : QueueState) (pilotId : UInt32) (n : Nat) : Prop :=
  (counter s.kf pilotId .install).toNat + n < 65535 ∧
    pilotId.toNat * 65535 + ((counter s.kf pilotId .install).toNat + n) < 2 ^ 32

theorem list_eq {req : DaemonRequest} {pilotId : UInt32} (hpilot : req.pilotId = pilotId)
    (htype : isSystemRelated req.type = false) :
    setSection req.pilotId req.type = listOf pilotId := by
  rw [hpilot]
  exact setSection_inj.mpr ⟨htype, fun _ => rfl⟩

theorem Stores.num_newEntry {s t : QueueState} {pilotId : UInt32} {es : List Entry}
    (h : Stores s pilotId t es) {req : DaemonRequest} (hpilot : req.pilotId = pilotId)
    (htype : isSystemRelated req.type = false) (hfits : Fits s pilotId (es.length + 1)) :
    (t.newEntry req).num.toNat = (counter s.kf pilotId .install).toNat + (es.length + 1) := by
  have hlist := list_eq hpilot htype
  change (counter t.kf req.pilotId req.type + 1).toNat = _
  rw [UInt32.toNat_add, h.counters, if_pos hlist, counter_eq_of_list hlist]
  obtain ⟨hnum, -⟩ := hfits
  simp only [UInt32.reduceToNat]
  unfold listOf at *
  omega

theorem Stores.store {s t : QueueState} {pilotId : UInt32} {es : List Entry}
    (h : Stores s pilotId t es) (req : DaemonRequest) (hpilot : req.pilotId = pilotId)
    (htype : isSystemRelated req.type = false) (hfits : Fits s pilotId (es.length + 1)) :
    Stores s pilotId (t.step (.store req)) (t.newEntry req :: es) := by
  have hlist := list_eq hpilot htype
  have hnext := h.num_newEntry hpilot htype hfits
  have hcount : (counter t.kf req.pilotId req.type).toNat =
      (counter s.kf pilotId .install).toNat + es.length := by
    rw [h.counters, if_pos hlist, counter_eq_of_list hlist]
  obtain ⟨hnum, hpacks⟩ := hfits
  refine ⟨h.aged.store req (by omega), ?_, ?_, ?_, ?_⟩
  · change t.newEntry req :: t.pending = _
    rw [h.pending, List.cons_append]
  · intro e he
    rcases List.mem_cons.mp he with rfl | he
    · refine (target_handle_iff (t.newEntry req)).mpr ⟨by omega, ?_⟩
      rw [hnext, show (t.newEntry req).req.pilotId = pilotId from hpilot]
      exact hpacks
    · exact h.handles e he
  · intro e he
    rcases List.mem_cons.mp he with rfl | he
    · exact hlist
    · exact h.lists e he
  · intro id type
    have hcounter : counter (t.step (.store req)).kf id type =
        if setSection id type = setSection req.pilotId req.type then counter t.kf id type + 1
        else counter t.kf id type := counter_store t.kf req.toGPilotRequest id type
    rw [hcounter, hlist]
    by_cases hsame : setSection id type = listOf pilotId
    · have hbefore := h.counters id type
      have hown : counter s.kf id type = counter s.kf pilotId .install :=
        counter_eq_of_list hsame
      rw [if_pos hsame] at hbefore
      rw [if_pos hsame, if_pos hsame, UInt32.toNat_add, hbefore, hown, List.length_cons]
      simp only [UInt32.reduceToNat]
      unfold listOf at *
      omega
    · rw [if_neg hsame, if_neg hsame, h.counters, if_neg hsame]

def filled (pilotId : UInt32) (hpilot : pilotId ≠ 0) (parameters : Parameters)
    (htype : parameters.type = .install ∨ parameters.type = .conduit) : DaemonRequest where
  toGPilotRequest := fill pilotId 0 0 parameters
  wellFormed := by
    refine ⟨fun hsystem => ?_, fun _ => ⟨hpilot, rfl⟩, ?_⟩
    · rcases htype with htype | htype <;>
        simp [GPilotRequest.type, fill, htype, isSystemRelated] at hsystem
    · rintro p hp
      have hnew : parameters.type = .newUserinfo := congrArg Parameters.type hp
      rcases htype with htype | htype <;> rw [htype] at hnew <;> cases hnew

section Run

variable {ctx : Context} {pilotName : String} {s t : QueueState} {es : List Entry}

theorem requestFile_stores (h : Stores s (pilotIdFromName pilotName ctx.pilots) t es)
    {x : Client} (hkf : x.kf = t.kf) (hhandles : x.handles = es.map Entry.handle)
    (hfits : Fits s (pilotIdFromName pilotName ctx.pilots) (es.length + 1))
    (file : String × Option String) :
    ∃ t' es', Stores s (pilotIdFromName pilotName ctx.pilots) t' es' ∧
      (requestFile ctx pilotName x file).kf = t'.kf ∧
      (requestFile ctx pilotName x file).handles = es'.map Entry.handle ∧
      es'.length ≤ es.length + 1 := by
  have hsame : ∃ t' es', Stores s (pilotIdFromName pilotName ctx.pilots) t' es' ∧
      x.kf = t'.kf ∧ x.handles = es'.map Entry.handle ∧ es'.length ≤ es.length + 1 :=
    ⟨t, es, h, hkf, hhandles, by omega⟩
  obtain ⟨infile, filename⟩ := file
  unfold requestFile
  cases filename with
  | none => exact hsame
  | some filename =>
      unfold gpilotDaemonRequestInstall
      by_cases hpilot : pilotIdFromName pilotName ctx.pilots = 0
      · simp only [hpilot, if_true, refuse, Option.toList_none, List.nil_append]
        rw [← hpilot]
        exact hsame
      · by_cases hreadable : ctx.readable filename = false
        · simp only [hpilot, hreadable, if_true, if_false, refuse, Option.toList_none,
            List.nil_append]
          exact hsame
        · simp only [hpilot, hreadable, if_false]
          have hstored := h.store (filled _ hpilot
            (.install (some filename) (some infile)) (Or.inl rfl)) rfl rfl hfits
          refine ⟨_, _, hstored, ?_, ?_, Nat.le_refl _⟩
          · rw [hkf]
            rfl
          · rw [hkf, hhandles]
            rfl

theorem Fits.mono {pilotId : UInt32} {m n : Nat} (h : Fits s pilotId n) (hmn : m ≤ n) :
    Fits s pilotId m := by
  obtain ⟨hnum, hpacks⟩ := h
  exact ⟨by omega, by omega⟩

theorem requestFiles_stores {files : List (String × Option String)}
    (h : Stores s (pilotIdFromName pilotName ctx.pilots) t es) {x : Client}
    (hkf : x.kf = t.kf) (hhandles : x.handles = es.map Entry.handle)
    (hfits : Fits s (pilotIdFromName pilotName ctx.pilots) (es.length + files.length)) :
    ∃ t' es', Stores s (pilotIdFromName pilotName ctx.pilots) t' es' ∧
      (files.foldl (requestFile ctx pilotName) x).kf = t'.kf ∧
      (files.foldl (requestFile ctx pilotName) x).handles = es'.map Entry.handle ∧
      es'.length ≤ es.length + files.length := by
  induction files generalizing x t es with
  | nil => exact ⟨t, es, h, hkf, hhandles, Nat.le_refl _⟩
  | cons file files ih =>
      rw [List.length_cons] at hfits
      obtain ⟨t₁, es₁, h₁, hkf₁, hhandles₁, hlen₁⟩ :=
        @requestFile_stores ctx pilotName s t es h x hkf hhandles (hfits.mono (by omega))
          file
      obtain ⟨t₂, es₂, h₂, hkf₂, hhandles₂, hlen₂⟩ :=
        ih h₁ hkf₁ hhandles₁ (hfits.mono (by omega))
      exact ⟨t₂, es₂, h₂, hkf₂, hhandles₂, by rw [List.length_cons]; omega⟩

/-! ## The files are taken back -/

/-- What is left when the requests below the last one are taken back. -/
structure TakenBack (s v : QueueState) (pilotId : UInt32) (c : Entry) : Prop where
  kept : Kept v
  pending : ∀ e, e ∈ v.pending ↔ e = c ∨ e ∈ s.pending
  list : c.list = listOf pilotId
  above : (counter s.kf pilotId .install).toNat + 1 < c.num.toNat
  counters : ∀ id type, (counter v.kf id type).toNat = (counter s.kf id type).toNat +
    if setSection id type = listOf pilotId then 1 else 0

theorem Stores.counter_takenBack {pilotId : UInt32} {c : Entry}
    (h : Stores s pilotId t (c :: es)) (hmem : ∀ e ∈ es, e ∈ t.pending) (hes : es.Nodup)
    (id : UInt32) (type : RequestType) :
    (counter (t.complete es).kf id type).toNat = (counter s.kf id type).toNat +
      if setSection id type = listOf pilotId then 1 else 0 := by
  have hcount := counter_complete h.aged hmem hes id type
  have hlength := length_staying h.aged.toNumbered hmem hes id type
  rw [h.counters] at hlength
  by_cases hsame : setSection id type = listOf pilotId
  · have hall : (es.filter fun e => e.list = setSection id type) = es := by
      rw [List.filter_eq_self]
      intro e he
      simpa [hsame] using h.lists e (List.mem_cons_of_mem c he)
    rw [hall, if_pos hsame, List.length_cons] at hlength
    rw [if_pos hsame]
    omega
  · have hnone : (es.filter fun e => e.list = setSection id type) = [] := by
      rw [List.filter_eq_nil_iff]
      intro e he
      rw [h.lists e (List.mem_cons_of_mem c he)]
      simpa using fun heq => hsame heq.symm
    rw [hnone, if_neg hsame, List.length_nil] at hlength
    rw [if_neg hsame]
    omega

theorem Stores.takenBack {pilotId : UInt32} {c : Entry} (h : Stores s pilotId t (c :: es))
    (hsome : es ≠ [])
    (hnum : c.num.toNat = (counter s.kf pilotId .install).toNat + (es.length + 1)) :
    (es.map Entry.handle).foldl gpilotDaemonRemoveRequest t.kf = (t.complete es).kf ∧
      TakenBack s (t.complete es) pilotId c := by
  have hnodup : (c :: es ++ s.pending).Nodup := h.pending ▸ h.aged.nodup
  obtain ⟨hfront, -, hapart⟩ := List.nodup_append.mp hnodup
  obtain ⟨hc, hes⟩ := List.nodup_cons.mp hfront
  have hmem : ∀ e ∈ es, e ∈ t.pending := by
    intro e he
    rw [h.pending]
    exact List.mem_append_left _ (List.mem_cons_of_mem c he)
  obtain ⟨-, hpending⟩ := complete_eq h.aged.sorted hmem hes h.aged.nodup
  refine ⟨foldl_remove h.aged.toKept h.aged.sorted
    (fun e he => ⟨hmem e he, h.handles e (List.mem_cons_of_mem c he)⟩) hes, ?_⟩
  refine ⟨h.aged.toKept.complete es, fun e => ?_, h.lists c List.mem_cons_self, ?_,
    h.counter_takenBack hmem hes⟩
  · rw [hpending, h.pending]
    constructor
    · rintro ⟨he, hnot⟩
      rcases List.mem_append.mp he with he | he
      · rcases List.mem_cons.mp he with rfl | he
        · exact Or.inl rfl
        · exact absurd he hnot
      · exact Or.inr he
    · rintro (rfl | he)
      · exact ⟨by simp, hc⟩
      · exact ⟨List.mem_append_right _ he,
          fun hin => hapart e (List.mem_cons_of_mem c hin) e he rfl⟩
  · have hlen := List.length_pos_of_ne_nil hsome
    omega

theorem num_le_of_list (h : Aged s) {e : Entry} (he : e ∈ s.pending) {id : UInt32}
    {type : RequestType} (hlist : e.list = setSection id type) :
    e.num.toNat ≤ (counter s.kf id type).toNat := by
  have hle := (h.bounded e he).2
  rwa [@counter_eq_of_list s.kf e.req.pilotId id e.req.type type hlist] at hle

/-- Nothing that is left is loaded beside what was there. -/
theorem TakenBack.load_eq {v : QueueState} {pilotId : UInt32} {c : Entry}
    (h : TakenBack s v pilotId c) (hs : Aged s)
    (hroom : (counter s.kf pilotId .install).toNat + 1 < 65535) {id : UInt32}
    {type : RequestType} (hpilot : isSystemRelated type = false) (all : Bool) :
    gpcQueueLoadRequests v.kf id type all = gpcQueueLoadRequests s.kf id type all := by
  have hcounter := h.counters id type
  have hread := hs.readable id type
  have hown : setSection id type = listOf pilotId →
      counter s.kf id type = counter s.kf pilotId .install := fun hsame => counter_eq_of_list hsame
  apply InstallClient.load_eq hs h.kept (fun e he => (h.pending e).mpr (Or.inr he)) hpilot
  · split at hcounter
    · rename_i hsame
      rw [hown hsame] at hcounter
      omega
    · omega
  · omega
  · intro e he hlist
    rcases (h.pending e).mp he with rfl | he
    · right
      have hsame : setSection id type = listOf pilotId := hlist.symm.trans h.list
      have habove := h.above
      rw [if_pos hsame, hown hsame] at hcounter
      omega
    · exact Or.inl (num_le_of_list hs he hlist)

theorem TakenBack.left {v : QueueState} {pilotId : UInt32} {c : Entry}
    (h : TakenBack s v pilotId c) (hpilot : c.req.pilotId = pilotId)
    (htype : c.req.type = .conduit) :
    gpcQueueLoadRequest v.kf pilotId false c.num = some c.loaded ∧
      counter v.kf pilotId .conduit < c.num := by
  have hlist : setSection pilotId .conduit = listOf pilotId :=
    setSection_inj.mpr ⟨rfl, fun _ => rfl⟩
  constructor
  · change gpcQueueLoadRequest v.kf pilotId (isSystemRelated .conduit) c.num = _
    have hfound := h.kept.found c ((h.pending c).mpr (Or.inl rfl))
    rw [loadRequest_eq, ← hfound, Entry.sec, htype, hpilot]
  · have hcounter := h.counters pilotId .conduit
    have hown : counter s.kf pilotId .conduit = counter s.kf pilotId .install :=
      counter_eq_of_list hlist
    have habove := h.above
    rw [if_pos hlist, hown] at hcounter
    exact UInt32.lt_iff_toNat_lt.mpr (by rw [hcounter]; exact habove)

theorem Stores.load_eq_of_nil {pilotId : UInt32} (h : Stores s pilotId t []) (hs : Aged s)
    {id : UInt32} {type : RequestType} (hpilot : isSystemRelated type = false) (all : Bool) :
    gpcQueueLoadRequests t.kf id type all = gpcQueueLoadRequests s.kf id type all := by
  have hcounter := h.counters id type
  rw [List.length_nil, ite_self, Nat.add_zero] at hcounter
  apply load_eq hs h.aged.toKept (fun e he => by rw [h.pending]; exact he) hpilot
  · exact h.aged.readable id type
  · omega
  · intro e he hlist
    rw [h.pending] at he
    exact Or.inl (num_le_of_list hs he hlist)

/-- The file after a cancelled run: no file was taken, or the conduit is left. -/
theorem cancelled_eq (hs : Aged s) {files : List (String × Option String)}
    (hfits : Fits s (pilotIdFromName pilotName ctx.pilots) (files.length + 1)) :
    (∃ t, Stores s (pilotIdFromName pilotName ctx.pilots) t [] ∧
        (requestFiles ctx pilotName s.kf files).handles = [] ∧
        cancelled ctx pilotName s.kf files = t.kf) ∨
      ∃ v c, TakenBack s v (pilotIdFromName pilotName ctx.pilots) c ∧
        c.req.pilotId = pilotIdFromName pilotName ctx.pilots ∧ c.req.type = .conduit ∧
        cancelled ctx pilotName s.kf files = v.kf := by
  obtain ⟨t, es, ht, hkf, hhandles, hlen⟩ :=
    @requestFiles_stores ctx pilotName s s [] files (stores_nil hs _) ⟨s.kf, []⟩ rfl rfl
      (hfits.mono (by simp))
  rw [List.length_nil, Nat.zero_add] at hlen
  by_cases hempty : es = []
  · subst hempty
    refine Or.inl ⟨t, ht, hhandles, ?_⟩
    rw [cancelled, requestFiles, requestConduit, hhandles]
    exact hkf
  · obtain ⟨e, he⟩ := List.exists_mem_of_ne_nil es hempty
    have hpilot : pilotIdFromName pilotName ctx.pilots ≠ 0 := by
      have hlist := ht.lists e he
      rw [← pilotId_of_list rfl hlist]
      exact pilotId_ne_zero (setSection_inj.mp hlist).1
    have hroom := hfits.mono (Nat.succ_le_succ hlen)
    have hnum := @Stores.num_newEntry s t _ es ht
      (filled _ hpilot (.conduit (some "File") .custom) (Or.inr rfl)) rfl rfl hroom
    obtain ⟨hback, htaken⟩ := (ht.store (filled _ hpilot (.conduit (some "File") .custom)
      (Or.inr rfl)) rfl rfl hroom).takenBack hempty hnum
    refine Or.inr ⟨_, _, htaken, rfl, rfl, ?_⟩
    rw [← hback, cancelled, requestFiles, requestConduit, hhandles,
      if_neg (by simpa using hempty)]
    congr 1
    rw [hkf, Admission.gpilotDaemonRequestConduit]
    simp only [hpilot, if_false]
    rfl

end Run

/-- After any run of requests and sessions that forgets nothing, a cancelled installation
leaves every load of a pilot's list as it was; the request for the conduit stays in the
file, beyond the counter, if a file was taken. -/
theorem load_cancelled (ctx : Context) (pilotName : String)
    (events : List Serving.QueueEvent)
    (h : History.Allowed Serving.step Serving.Orderly .empty events)
    (files : List (String × Option String))
    (hfits : Fits (events.foldl Serving.step .empty) (pilotIdFromName pilotName ctx.pilots)
      (files.length + 1)) :
    let kf := (events.foldl Serving.step .empty).kf
    let kf' := cancelled ctx pilotName kf files
    let pilotId := pilotIdFromName pilotName ctx.pilots
    (∀ id type all, isSystemRelated type = false →
        gpcQueueLoadRequests kf' id type all = gpcQueueLoadRequests kf id type all) ∧
      ((requestFiles ctx pilotName kf files).handles ≠ [] →
        ∃ num req, gpcQueueLoadRequest kf' pilotId false num = some req ∧
          req.type = .conduit ∧ counter kf' pilotId .conduit < num) := by
  intro kf kf' pilotId
  have hs : Aged (events.foldl Serving.step .empty) := by
    have hkeep : ∀ s event, Aged s → Serving.Orderly s event → Aged (Serving.step s event) :=
      fun _ event h hevent => Serving.aged_step h event hevent
    exact (History.always_of_allowed hkeep aged_empty h).last
  rcases @cancelled_eq ctx pilotName _ hs files hfits with
    ⟨t, ht, hnone, hkf⟩ | ⟨v, c, hv, hpilot, htype, hkf⟩
  · have hkf : kf' = t.kf := hkf
    rw [hkf]
    exact ⟨fun id type all hsystem => ht.load_eq_of_nil hs hsystem all,
      fun hsome => absurd hnone hsome⟩
  · have hkf : kf' = v.kf := hkf
    rw [hkf]
    obtain ⟨hload, habove⟩ := hv.left hpilot htype
    refine ⟨fun id type all hsystem => ?_, fun _ => ⟨c.num, c.loaded, hload, htype, habove⟩⟩
    exact hv.load_eq hs (by have := hfits.1; omega) hsystem all

def palmOnly : Context where
  pilots := [⟨some "Palm", 5⟩]
  readable _ := true
  present _ := true
  isDirectory _ := false

def twoFiles : List (String × Option String) :=
  [("a.pdb", some "/home/.gpilotd/PDB1"), ("b.pdb", some "/home/.gpilotd/PDB2")]

/-- Two files are taken back while a restore is pending. -/
theorem load_cancelled_twoFiles :
    let kf := ([Serving.QueueEvent.request (Queue.restoreRequest "/a")].foldl
      Serving.step .empty).kf
    let kf' := cancelled palmOnly "Palm" kf twoFiles
    gpcQueueLoadRequests kf' 5 .conduit false = gpcQueueLoadRequests kf 5 .conduit false ∧
      ∃ num req, gpcQueueLoadRequest kf' 5 false num = some req ∧ req.type = .conduit := by
  intro kf kf'
  have hallowed : History.Allowed Serving.step Serving.Orderly .empty
      [.request (Queue.restoreRequest "/a")] := by
    refine ⟨?_, trivial⟩
    change (counter _ _ _).toNat + 1 < 2 ^ 31
    decide
  obtain ⟨hload, hleft⟩ := load_cancelled palmOnly "Palm"
    [.request (Queue.restoreRequest "/a")] hallowed twoFiles (by unfold Fits; decide)
  obtain ⟨num, req, hreq, htype, -⟩ := hleft (by decide)
  exact ⟨hload 5 .conduit false rfl, num, req, hreq, htype⟩

end GnomePilot.Daemon.InstallClient
