import GnomePilot.Conduits.FileInstall
import GnomePilot.Lib.History
import GnomePilot.Queue.Drain

/-!
# Installing what is queued

`install_foreach` of `manager.c`: the install requests of a pilot are loaded, each
is handed to the file conduit and then completed, and completing a request purges it
and unlinks its file.
-/

namespace GnomePilot.Daemon

open Queue FileConduit

/-- The files of the desktop: none of this name, one `pi_file_open` does not take, or
a database file. -/
def Disk := String → Option (Option PiFile)

def Disk.unlink (disk : Disk) (filename : Option String) : Disk :=
  fun f => if some f = filename then none else disk f

/-- `pi_file_open`; a null name opens nothing. -/
def Disk.piFileOpen (disk : Disk) (filename : Option String) : Option PiFile :=
  (filename.bind disk).join

/-- `req->parameters.install.filename` -/
def filename (req : GPilotRequest) : Option String :=
  match req.parameters with
  | .install name _ => name
  | _ => none

/-- The pilot, whether `dbus_notify_completion` has a connection, and which calls
fail while a request is installed. -/
structure InstallCarrier where
  userID : UInt32
  gdbusConnection : Bool
  link : GPilotRequest → Link

/-- The queue file and the desktop's files, with what the pass has done so far: the
installs that came back, the requests purged, and whether one never came back. -/
structure InstallState where
  kf : KeyFile
  disk : Disk
  reports : List (GPilotRequest × Outcome)
  purged : List GPilotRequest
  hung : Bool

namespace InstallState

def start (kf : KeyFile) (disk : Disk) : InstallState where
  kf := kf
  disk := disk
  reports := []
  purged := []
  hung := false

/-- `gpc_queue_purge_request` on an install request. -/
def gpcQueuePurgeRequest (st : InstallState) (req : GPilotRequest) : InstallState :=
  { st with
    kf := Queue.gpcQueuePurgeRequest st.kf req
    disk := st.disk.unlink (filename req)
    purged := req :: st.purged }

def dbusNotifyCompletion (carrier : InstallCarrier) (st : InstallState) (req : GPilotRequest) :
    InstallState :=
  if carrier.gdbusConnection then st.gpcQueuePurgeRequest req else st

/-- `gnome_pilot_conduit_file_install_db` on the file of a request. -/
def installDb (carrier : InstallCarrier) (st : InstallState) (req : GPilotRequest) :
    Option Outcome :=
  (fileInstallDb (carrier.link req) (st.disk.piFileOpen (filename req))).map Prod.fst

/-- `install_db_foreach`: `err` is not looked at. -/
def installDbForeach (carrier : InstallCarrier) (st : InstallState) (req : GPilotRequest) :
    InstallState :=
  if st.hung then st
  else
    match st.installDb carrier req with
    | none => { st with hung := true }
    | some outcome =>
      dbusNotifyCompletion carrier
        { st with
          disk := if unlinks true outcome then st.disk.unlink (filename req) else st.disk
          reports := (req, outcome) :: st.reports } req

end InstallState

/-- The requests `install_foreach` loads. -/
def InstallCarrier.requests (carrier : InstallCarrier) (kf : KeyFile) : List GPilotRequest :=
  gpcQueueLoadRequests kf carrier.userID .install false

def installForeach (carrier : InstallCarrier) (kf : KeyFile) (disk : Disk) : InstallState :=
  (carrier.requests kf).foldl (InstallState.installDbForeach carrier) (.start kf disk)

/-! ## What a pass must do -/

/-- A request whose install did not report success is still loaded from the queue and
its file is where it was; one whose install did was purged once. -/
structure InstallsSurvive (carrier : InstallCarrier) (kf : KeyFile) (disk : Disk)
    (st : InstallState) : Prop where
  queued : ∀ req ∈ carrier.requests kf, (req, .installed) ∉ st.reports →
    req ∈ carrier.requests st.kf
  onDisk : ∀ req ∈ carrier.requests kf, (req, .installed) ∉ st.reports →
    ∀ f, filename req = some f → st.disk f = disk f
  purged : ∀ req ∈ carrier.requests kf, (req, .installed) ∈ st.reports →
    st.purged.count req = 1 ∧ req ∉ carrier.requests st.kf

/-- An install that comes back succeeds and takes its file from no other request, when
there is a D-Bus connection; without one it fails. -/
def SettledByConnection (carrier : InstallCarrier) (kf : KeyFile) (st : InstallState)
    (req : GPilotRequest) : Prop :=
  st.hung = false → ∀ outcome, st.installDb carrier req = some outcome →
    if carrier.gdbusConnection then
      outcome = .installed ∧ ∀ other ∈ carrier.requests kf, filename other = filename req →
        other = req
    else outcome ≠ .installed

/-! ## A pass that hangs -/

section Hung

variable {carrier : InstallCarrier} {kf : KeyFile} {disk : Disk} {st : InstallState}

theorem installDbForeach_hung (h : st.hung = true) (req : GPilotRequest) :
    st.installDbForeach carrier req = st := by
  simp [InstallState.installDbForeach, h]

/-- What holds when an install does not come back holds for good. -/
theorem hung_iff (h : st.hung = true) (hsurvive : InstallsSurvive carrier kf disk st)
    (rest : List GPilotRequest) :
    History.Always (InstallState.installDbForeach carrier) (InstallsSurvive carrier kf disk) st
        rest ↔
      History.Allowed (InstallState.installDbForeach carrier) (SettledByConnection carrier kf) st
        rest := by
  have hallowed : History.Allowed (InstallState.installDbForeach carrier)
      (SettledByConnection carrier kf) st rest := by
    induction rest with
    | nil => trivial
    | cons req rest ih =>
        refine ⟨?_, ?_⟩
        · intro halive
          rw [h] at halive
          contradiction
        · rwa [installDbForeach_hung h]
  have halways : History.Always (InstallState.installDbForeach carrier)
      (InstallsSurvive carrier kf disk) st rest := by
    clear hallowed
    induction rest with
    | nil => exact hsurvive
    | cons req rest ih =>
        refine ⟨hsurvive, ?_⟩
        rwa [installDbForeach_hung h]
  exact iff_of_true halways hallowed

theorem installDbForeach_none (halive : st.hung = false) {req : GPilotRequest}
    (h : st.installDb carrier req = none) :
    st.installDbForeach carrier req = { st with hung := true } := by
  simp [InstallState.installDbForeach, halive, h]

theorem none_iff (halive : st.hung = false) {req : GPilotRequest}
    (hout : st.installDb carrier req = none) (hnow : InstallsSurvive carrier kf disk st)
    (rest : List GPilotRequest) :
    History.Always (InstallState.installDbForeach carrier) (InstallsSurvive carrier kf disk) st
        (req :: rest) ↔
      History.Allowed (InstallState.installDbForeach carrier) (SettledByConnection carrier kf) st
        (req :: rest) := by
  have hsettled : SettledByConnection carrier kf st req := by
    intro _ outcome hsome
    rw [hout] at hsome
    contradiction
  have hlater : InstallsSurvive carrier kf disk { st with hung := true } :=
    ⟨hnow.queued, hnow.onDisk, hnow.purged⟩
  refine and_congr (iff_of_true hnow hsettled) ?_
  rw [installDbForeach_none halive hout]
  exact hung_iff rfl hlater rest

theorem disk_ne_none_of_installed {req : GPilotRequest}
    (h : st.installDb carrier req = some .installed) :
    ∃ f, filename req = some f ∧ st.disk f ≠ none := by
  cases hname : filename req with
  | none =>
      have hopen : st.disk.piFileOpen (filename req) = none := by
        rw [hname]
        rfl
      rw [InstallState.installDb, hopen] at h
      by_cases hcancel : (carrier.link req).openConduit = true <;>
        simp [fileInstallDb, hcancel] at h
  | some f =>
      refine ⟨f, rfl, ?_⟩
      intro hnone
      have hopen : st.disk.piFileOpen (filename req) = none := by
        rw [hname]
        change (st.disk f).join = none
        rw [hnone]
        rfl
      rw [InstallState.installDb, hopen] at h
      by_cases hcancel : (carrier.link req).openConduit = true <;>
        simp [fileInstallDb, hcancel] at h

end Hung

/-! ## With a D-Bus connection -/

section Connected

variable {carrier : InstallCarrier} {kf : KeyFile} {disk : Disk}

structure PurgedAll (carrier : InstallCarrier) (kf : KeyFile) (disk : Disk)
    (done : List GPilotRequest) (st : InstallState) : Prop where
  reports : ∀ req, (req, .installed) ∈ st.reports ↔ req ∈ done
  queue : st.kf = done.foldl Queue.gpcQueuePurgeRequest kf
  purged : st.purged = done.reverse
  files : ∀ f, st.disk f = if ∃ r ∈ done, filename r = some f then none else disk f
  alone : ∀ r ∈ done, ∀ other ∈ carrier.requests kf, filename other = filename r → other = r

theorem PurgedAll.survive {done rest : List GPilotRequest} {st : InstallState}
    (h : PurgedAll carrier kf disk done st) (hsplit : carrier.requests kf = done ++ rest) :
    InstallsSurvive carrier kf disk st := by
  have hnodup : (done ++ rest).Nodup := by
    rw [← hsplit]
    exact nodup_loadRequests
  have hrest : ∀ req ∈ carrier.requests kf, (req, .installed) ∉ st.reports → req ∈ rest := by
    intro req hreq hnot
    rw [h.reports] at hnot
    rw [hsplit, List.mem_append] at hreq
    exact hreq.resolve_left hnot
  refine ⟨?_, ?_, ?_⟩
  · intro req hreq hnot
    rw [h.queue]
    exact mem_loadRequests_of_rest hsplit (hrest req hreq hnot)
  · intro req hreq hnot f hf
    rw [h.files, if_neg]
    rintro ⟨r, hr, hrf⟩
    have hsame := h.alone r hr req hreq (hf.trans hrf.symm)
    subst hsame
    exact (List.nodup_append.mp hnodup).2.2 req hr req (hrest req hreq hnot) rfl
  · intro req hreq hin
    have hdone := (h.reports req).mp hin
    refine ⟨?_, ?_⟩
    · rw [h.purged, List.count_reverse, (List.nodup_append.mp hnodup).1.count, if_pos hdone]
    · rw [h.queue]
      exact not_mem_loadRequests_of_done hsplit hdone

theorem installDbForeach_connected (hconn : carrier.gdbusConnection = true) {st : InstallState}
    (halive : st.hung = false) {req : GPilotRequest} {outcome : Outcome}
    (h : st.installDb carrier req = some outcome) :
    st.installDbForeach carrier req =
      { kf := Queue.gpcQueuePurgeRequest st.kf req
        disk := st.disk.unlink (filename req)
        reports := (req, outcome) :: st.reports
        purged := req :: st.purged
        hung := false } := by
  have htwice : (st.disk.unlink (filename req)).unlink (filename req) =
      st.disk.unlink (filename req) := by
    funext f
    simp only [Disk.unlink]
    split <;> rfl
  simp only [InstallState.installDbForeach, halive, h, Bool.false_eq_true, if_false,
    InstallState.dbusNotifyCompletion, hconn, if_true, InstallState.gpcQueuePurgeRequest]
  split
  · rw [htwice]
  · rfl

theorem PurgedAll.step {done : List GPilotRequest} {st : InstallState}
    (h : PurgedAll carrier kf disk done st) (hconn : carrier.gdbusConnection = true)
    (halive : st.hung = false) {req : GPilotRequest}
    (hinst : st.installDb carrier req = some .installed)
    (halone : ∀ other ∈ carrier.requests kf, filename other = filename req → other = req) :
    PurgedAll carrier kf disk (done ++ [req]) (st.installDbForeach carrier req) := by
  rw [installDbForeach_connected hconn halive hinst]
  refine ⟨?_, ?_, ?_, ?_, ?_⟩
  · intro r
    simp [h.reports r, or_comm]
  · simp [h.queue]
  · simp [h.purged]
  · intro f
    simp only [Disk.unlink, h.files]
    by_cases hf : filename req = some f
    · simp [hf]
    · have hf' : ¬ some f = filename req := fun heq => hf heq.symm
      simp [hf, hf', or_and_right, exists_or]
  · intro r hr
    rcases List.mem_append.mp hr with hr | hr
    · exact h.alone r hr
    · rw [List.mem_singleton.mp hr]
      exact halone

/-- A request that comes back otherwise is purged against the rule, or takes the file
of another. -/
theorem PurgedAll.not_survive {done rest : List GPilotRequest} {st : InstallState}
    (h : PurgedAll carrier kf disk done st) (hconn : carrier.gdbusConnection = true)
    (halive : st.hung = false) {req : GPilotRequest}
    (hsplit : carrier.requests kf = done ++ req :: rest)
    (hbad : ¬ SettledByConnection carrier kf st req) :
    ¬ InstallsSurvive carrier kf disk (st.installDbForeach carrier req) := by
  intro hsurvive
  simp only [SettledByConnection, hconn, if_true, halive, forall_const] at hbad
  push Not at hbad
  obtain ⟨outcome, hout, hbad⟩ := hbad
  have hstep := installDbForeach_connected hconn halive hout
  have hreq : req ∈ carrier.requests kf := by
    rw [hsplit]
    simp
  have hnodup : (done ++ req :: rest).Nodup := by
    rw [← hsplit]
    exact nodup_loadRequests
  have hnotdone : req ∉ done := fun hmem =>
    (List.nodup_append.mp hnodup).2.2 req hmem req List.mem_cons_self rfl
  rw [hstep] at hsurvive
  by_cases hinst : outcome = .installed
  · subst hinst
    obtain ⟨other, hother, hname, hne⟩ := hbad rfl
    obtain ⟨f, hf, hthere⟩ := disk_ne_none_of_installed hout
    have hnotother : other ∉ done := by
      intro hmem
      exact hnotdone (h.alone other hmem req hreq hname.symm ▸ hmem)
    have hkept := hsurvive.onDisk other hother (by simp [hne, h.reports, hnotother]) f
      (hname.trans hf)
    have hunlinked : st.disk.unlink (filename req) f = none := by simp [Disk.unlink, hf]
    have hsame := h.files f
    by_cases hgone : ∃ r ∈ done, filename r = some f
    · rw [if_pos hgone] at hsame
      exact hthere hsame
    · rw [if_neg hgone] at hsame
      rw [hsame] at hthere
      exact hthere (hkept.symm.trans hunlinked)
  · have hqueued := hsurvive.queued req hreq (by simp [Ne.symm hinst, h.reports, hnotdone])
    have hdone : req ∈ done ++ [req] := by simp
    have hsplit' : carrier.requests kf = (done ++ [req]) ++ rest := by simp [hsplit]
    have hgone := not_mem_loadRequests_of_done hsplit' hdone
    rw [List.foldl_append, ← h.queue] at hgone
    exact hgone hqueued

theorem connected_iff (hconn : carrier.gdbusConnection = true) (rest : List GPilotRequest)
    {done : List GPilotRequest} {st : InstallState} (h : PurgedAll carrier kf disk done st)
    (hsplit : carrier.requests kf = done ++ rest) :
    History.Always (InstallState.installDbForeach carrier) (InstallsSurvive carrier kf disk) st
        rest ↔
      History.Allowed (InstallState.installDbForeach carrier) (SettledByConnection carrier kf) st
        rest := by
  cases hung : st.hung with
  | true => exact hung_iff hung (h.survive hsplit) rest
  | false =>
      induction rest generalizing done st with
      | nil => exact iff_of_true (h.survive hsplit) trivial
      | cons req rest ih =>
          have hnow := h.survive hsplit
          cases hout : st.installDb carrier req with
          | none => exact none_iff hung hout hnow rest
          | some outcome =>
              by_cases hok : SettledByConnection carrier kf st req
              · have hcond := hok hung outcome hout
                rw [if_pos hconn] at hcond
                obtain ⟨rfl, halone⟩ := hcond
                have hstep := installDbForeach_connected hconn hung hout
                refine and_congr (iff_of_true hnow hok) ?_
                refine ih (h.step hconn hung hout halone) (by simp [hsplit]) ?_
                rw [hstep]
              · have hbroken := h.not_survive hconn hung hsplit hok
                exact iff_of_false (fun hall => hbroken hall.2.head) (fun hall => hok hall.1)

end Connected

/-! ## Without one -/

section Unconnected

variable {carrier : InstallCarrier} {kf : KeyFile} {disk : Disk} {st : InstallState}

structure NothingDone (kf : KeyFile) (disk : Disk) (st : InstallState) : Prop where
  reports : ∀ req, (req, .installed) ∉ st.reports
  queue : st.kf = kf
  files : st.disk = disk
  purged : st.purged = []

theorem NothingDone.survive (h : NothingDone kf disk st) :
    InstallsSurvive carrier kf disk st where
  queued req hreq _ := by rwa [h.queue]
  onDisk req _ _ f _ := by rw [h.files]
  purged req _ hin := absurd hin (h.reports req)

theorem installDbForeach_unconnected (hconn : carrier.gdbusConnection = false)
    (halive : st.hung = false) {req : GPilotRequest} {outcome : Outcome}
    (h : st.installDb carrier req = some outcome) :
    st.installDbForeach carrier req =
      { st with
        disk := if unlinks true outcome then st.disk.unlink (filename req) else st.disk
        reports := (req, outcome) :: st.reports } := by
  simp [InstallState.installDbForeach, halive, h, InstallState.dbusNotifyCompletion, hconn]

theorem NothingDone.step (h : NothingDone kf disk st) (hconn : carrier.gdbusConnection = false)
    (halive : st.hung = false) {req : GPilotRequest} {outcome : Outcome}
    (hout : st.installDb carrier req = some outcome) (hfailed : outcome ≠ .installed) :
    NothingDone kf disk (st.installDbForeach carrier req) := by
  rw [installDbForeach_unconnected hconn halive hout]
  have hkeeps : unlinks true outcome = false := by simp [unlinks, hfailed]
  refine ⟨?_, h.queue, ?_, h.purged⟩
  · intro r hr
    rcases List.mem_cons.mp hr with heq | hr
    · exact hfailed (Prod.mk.inj heq).2.symm
    · exact h.reports r hr
  · simp [hkeeps, h.files]

theorem unconnected_iff (hconn : carrier.gdbusConnection = false) (rest : List GPilotRequest)
    (hrest : ∀ req ∈ rest, req ∈ carrier.requests kf) (h : NothingDone kf disk st) :
    History.Always (InstallState.installDbForeach carrier) (InstallsSurvive carrier kf disk) st
        rest ↔
      History.Allowed (InstallState.installDbForeach carrier) (SettledByConnection carrier kf) st
        rest := by
  cases hung : st.hung with
  | true => exact hung_iff hung h.survive rest
  | false =>
      induction rest generalizing st with
      | nil => exact iff_of_true h.survive trivial
      | cons req rest ih =>
          have hnow : InstallsSurvive carrier kf disk st := h.survive
          have hlist := fun r hr => hrest r (List.mem_cons_of_mem req hr)
          cases hout : st.installDb carrier req with
          | none => exact none_iff hung hout hnow rest
          | some outcome =>
              have hstep := installDbForeach_unconnected hconn hung hout
              by_cases hinst : outcome = .installed
              · have hbroken : ¬ InstallsSurvive carrier kf disk
                    (st.installDbForeach carrier req) := by
                  intro hsurvive
                  have honce := (hsurvive.purged req (hrest req List.mem_cons_self)
                    (by simp [hstep, hinst])).1
                  rw [hstep] at honce
                  simp [h.purged] at honce
                have hunsettled : ¬ SettledByConnection carrier kf st req := by
                  intro hok
                  have hcond := hok hung outcome hout
                  rw [if_neg (by simp [hconn])] at hcond
                  exact hcond hinst
                exact iff_of_false (fun hall => hbroken hall.2.head) (fun hall => hunsettled hall.1)
              · have hok : SettledByConnection carrier kf st req := by
                  intro _ outcome' hsome
                  rw [hout, Option.some.injEq] at hsome
                  rw [if_neg (by simp [hconn]), ← hsome]
                  exact hinst
                refine and_congr (iff_of_true hnow hok) ?_
                refine ih hlist (h.step hconn hung hout hinst) ?_
                rw [hstep]
                exact hung

end Unconnected

/-- Queued installs survive a pass, at every point of it, exactly when every install
that comes back is settled by the connection. -/
theorem installs_survive_iff (carrier : InstallCarrier) (kf : KeyFile) (disk : Disk) :
    History.Always (InstallState.installDbForeach carrier) (InstallsSurvive carrier kf disk)
        (.start kf disk) (carrier.requests kf) ↔
      History.Allowed (InstallState.installDbForeach carrier) (SettledByConnection carrier kf)
        (.start kf disk) (carrier.requests kf) := by
  cases hconn : carrier.gdbusConnection with
  | true =>
      refine connected_iff hconn (carrier.requests kf) ?_ (List.nil_append _).symm
      exact ⟨by simp [InstallState.start], rfl, rfl, by simp [InstallState.start], by simp⟩
  | false =>
      refine unconnected_iff hconn (carrier.requests kf) (fun _ h => h) ?_
      exact ⟨by simp [InstallState.start], rfl, rfl, rfl⟩

/-- A database the pilot does not create. -/
def refusedCarrier : InstallCarrier where
  userID := 5
  gdbusConnection := true
  link _ :=
    { openConduit := false
      openFile := false
      createDB := fun _ => true
      readEntry := fun _ => false
      writeEntry := fun _ => false
      version := 0x0200
      unreadLen := 0 }

def emptyFile : PiFile :=
  ⟨⟨"Datebook", piMktag 'd' 'a' 't' 'e', piMktag 'D' 'A' 'T' 'A', 0, false, false, false⟩, [], []⟩

def datebookRequest : GPilotRequest :=
  ⟨5, 0, 0, none, some "", .install (some "/tmp/Datebook.pdb") (some "Datebook"), none⟩

def oneInstall : KeyFile := (gpcQueueStoreRequest .empty datebookRequest).2

def oneFile : Disk := fun f => if f = "/tmp/Datebook.pdb" then some (some emptyFile) else none

/-- The install fails and returns 0; the request is purged and the file is gone. -/
theorem refusedInstall_purged :
    (installForeach refusedCarrier oneInstall oneFile).reports.map Prod.snd = [.notCreated] ∧
      Outcome.notCreated.result = 0 ∧
      refusedCarrier.requests (installForeach refusedCarrier oneInstall oneFile).kf = [] ∧
      ((installForeach refusedCarrier oneInstall oneFile).disk "/tmp/Datebook.pdb").isNone ∧
      ¬ History.Always (InstallState.installDbForeach refusedCarrier)
        (InstallsSurvive refusedCarrier oneInstall oneFile) (.start oneInstall oneFile)
        (refusedCarrier.requests oneInstall) := by
  have hloaded : refusedCarrier.requests oneInstall = [datebookRequest.queued 1] := by decide
  refine ⟨by decide, rfl, by decide, by decide, ?_⟩
  rw [hloaded]
  intro h
  have hqueued := h.2.queued (datebookRequest.queued 1) (by decide) (by decide)
  revert hqueued
  decide

end GnomePilot.Daemon
