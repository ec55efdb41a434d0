import GnomePilot.Lib.History
import Mathlib.Logic.Function.Basic

/-!
# The lock file of a port

`gpilot_hdb_uucp_lock` and `gpilot_hdb_uucp_unlock` of processes that run as root and use
one port.  A step is one call to the system; the calls of different processes come in any
order, and processes end and start in between.  A file is known by a number of its own, so
that a process can have an open file that was removed.
-/

namespace GnomePilot.Daemon.Uucp

/-- The call a process makes next, for which of its devices and, once a file was opened, on
which file. -/
inductive Pc where
  | idle
  | create (device : Nat)
  | openExisting (device : Nat)
  | read (device file : Nat)
  | closeRead (device file : Nat) (pid : Option Int)
  | test (device file : Nat) (pid : Int)
  | unlink (device file : Nat)
  | write (device file : Nat)
  | closeWrite (device : Nat)
  deriving DecidableEq, Repr

/-- A process; `lockFile` says which of its devices have a `lock_file`.  The last two are
kept for the proofs: whether the lock was reported as taken since the last unlock, and the
lock file the process made. -/
structure Process where
  alive : Bool
  pc : Pc
  lockFile : Nat → Bool
  holds : Bool
  made : Option Nat

/-- A process that has not called anything. -/
def Process.fresh (alive : Bool) : Process := ⟨alive, .idle, fun _ => false, false, none⟩

/-- The processes by pid, the lock file if there is one, the pid that is read from a file
if it is not empty, and the number of the next file. -/
structure State where
  procs : Nat → Process
  file : Option Nat
  contents : Nat → Option Int
  next : Nat

def State.set (s : State) (p : Nat) (proc : Process) : State :=
  { s with procs := Function.update s.procs p proc }

def State.goto (s : State) (p : Nat) (pc : Pc) : State := s.set p { s.procs p with pc := pc }

/-- `device->lock_file = NULL; return 0;` -/
def State.refuse (s : State) (p device : Nat) : State :=
  s.set p { s.procs p with
    pc := .idle, lockFile := Function.update (s.procs p).lockFile device false }

/-- `kill (pid, 0) == -1 && errno == ESRCH`; for a process group `fails` tells. -/
def State.gone (s : State) (pid : Int) (fails : Bool) : Bool :=
  if 0 < pid then !(s.procs pid.toNat).alive else fails

/-- The next call of `gpilot_hdb_uucp_lock`; `fails` if the call fails for another reason
than the presence or the absence of the lock file. -/
def State.call (s : State) (p : Nat) (fails : Bool) : State :=
  match (s.procs p).pc with
  | .idle => s
  | .create device =>
      if fails then s.refuse p device
      else
        match s.file with
        | some _ => s.goto p (.openExisting device)
        | none =>
            { s.set p { s.procs p with pc := .write device s.next, made := some s.next } with
              file := some s.next
              contents := Function.update s.contents s.next none
              next := s.next + 1 }
  | .openExisting device =>
      if fails then s.refuse p device
      else
        match s.file with
        | some file => s.goto p (.read device file)
        | none => s.goto p (.create device)
  | .read device file =>
      s.goto p (.closeRead device file (if fails then none else s.contents file))
  | .closeRead device file pid =>
      match pid with
      | some pid => s.goto p (.test device file pid)
      | none => s.refuse p device
  | .test device file pid =>
      -- the process's own pid: the function returns 0 and leaves `lock_file` as it is
      if pid = p then s.goto p .idle
      else if pid = 0 || s.gone pid fails then s.goto p (.unlink device file)
      else s.refuse p device
  | .unlink device _ =>
      if fails || s.file.isNone then s.refuse p device
      else { s.goto p (.create device) with file := none }
  | .write device file =>
      -- a failed write is only warned about
      { s.goto p (.closeWrite device) with
        contents := if fails then s.contents else Function.update s.contents file (some p) }
  | .closeWrite _ => s.set p { s.procs p with pc := .idle, holds := true }

/-- The begin of `gpilot_hdb_uucp_lock`, up to its first call. -/
def State.lock (s : State) (p device : Nat) : State :=
  s.set p { s.procs p with
    pc := .create device, lockFile := Function.update (s.procs p).lockFile device true }

/-- `gpilot_hdb_uucp_unlock`, whose only call is `unlink`. -/
def State.unlock (s : State) (p device : Nat) (fails : Bool) : State :=
  if (s.procs p).lockFile device then
    { s.set p { s.procs p with
        lockFile := Function.update (s.procs p).lockFile device false
        holds := false
        made := none } with
      file := if fails then s.file else none }
  else s.set p { s.procs p with holds := false }

/-- What can happen next. -/
inductive Act where
  | lock (p device : Nat)
  | call (p : Nat) (fails : Bool)
  | unlock (p device : Nat) (fails : Bool)
  | die (p : Nat)
  | start (p : Nat)
  deriving DecidableEq, Repr

/-- An act of a process that cannot do it changes nothing. -/
def State.step (s : State) : Act → State
  | .lock p device =>
      if (s.procs p).alive ∧ (s.procs p).pc = .idle then s.lock p device else s
  | .call p fails => if (s.procs p).alive then s.call p fails else s
  | .unlock p device fails =>
      if (s.procs p).alive ∧ (s.procs p).pc = .idle then s.unlock p device fails else s
  | .die p => if (s.procs p).alive then s.set p (.fresh false) else s
  | .start p => if (s.procs p).alive ∨ p = 0 then s else s.set p (.fresh true)

/-! ## Exclusion -/

/-- At most one live process has the lock. -/
def Exclusive (s : State) : Prop :=
  ∀ p p', (s.procs p).alive = true → (s.procs p).holds = true →
    (s.procs p').alive = true → (s.procs p').holds = true → p = p'

/-- Nobody has called anything yet; the lock file may be there and have anything in it. -/
structure Initial (s : State) : Prop where
  procs : ∀ p, ∃ alive, s.procs p = .fresh alive
  pid : (s.procs 0).alive = false
  file : ∀ i, s.file = some i → i < s.next

/-- The lock file that is removed is the one that was read, or the process's own when it
unlocks; at least it is none that another live process has made. -/
def Careful (s : State) : Act → Prop
  | .call p fails => fails = false → ∀ device file, (s.procs p).pc = .unlink device file →
      ∀ i, s.file = some i → i ≠ file → ∀ p', (s.procs p').made ≠ some i
  | .unlock p device fails => fails = false → (s.procs p).lockFile device = true →
      ∀ i, s.file = some i → ∀ p', p' ≠ p → (s.procs p').made ≠ some i
  | _ => True

def PcOk (s : State) (proc : Process) : Prop :=
  match proc.pc with
  | .idle => True
  | .create _ => True
  | .openExisting _ => True
  | .read _ file => file < s.next
  | .closeRead _ file pid => file < s.next ∧
      ∀ q, pid = some q → ∀ p : Nat, (s.procs p).made = some file → q = p
  | .test _ file pid => file < s.next ∧ ∀ p : Nat, (s.procs p).made = some file → pid = p
  | .unlink _ file => file < s.next ∧ ∀ p, (s.procs p).made ≠ some file
  | .write _ file => proc.made = some file
  | .closeWrite _ => proc.made ≠ none

structure Inv (s : State) : Prop where
  pid : ∀ p, (s.procs p).alive = true → p ≠ 0
  alive : ∀ p, (s.procs p).made ≠ none → (s.procs p).alive = true
  file : ∀ p i, (s.procs p).made = some i → s.file = some i
  one : ∀ p p' i, (s.procs p).made = some i → (s.procs p').made = some i → p = p'
  written : ∀ (p i : Nat), (s.procs p).made = some i →
    s.contents i = none ∨ s.contents i = some (p : Int)
  holds : ∀ p, (s.procs p).holds = true → (s.procs p).made ≠ none
  below : ∀ i, s.file = some i → i < s.next
  pcs : ∀ p, PcOk s (s.procs p)

theorem Inv.exclusive {s : State} (h : Inv s) : Exclusive s := by
  intro p p' _ hp _ hp'
  obtain ⟨i, hi⟩ := Option.ne_none_iff_exists'.mp (h.holds p hp)
  obtain ⟨j, hj⟩ := Option.ne_none_iff_exists'.mp (h.holds p' hp')
  have hij : i = j := Option.some.inj ((h.file p i hi).symm.trans (h.file p' j hj))
  exact h.one p p' i hi (hij ▸ hj)

theorem Initial.inv {s : State} (h : Initial s) : Inv s := by
  have hmade : ∀ p, (s.procs p).made = none := fun p => by
    obtain ⟨alive, hp⟩ := h.procs p
    rw [hp]
    rfl
  refine ⟨?_, ?_, ?_, ?_, ?_, ?_, h.file, ?_⟩
  · rintro p halive rfl
    rw [h.pid] at halive
    contradiction
  · exact fun p hp => absurd (hmade p) hp
  · intro p i hp
    rw [hmade] at hp
    contradiction
  · intro p p' i hp
    rw [hmade] at hp
    contradiction
  · intro p i hp
    rw [hmade] at hp
    contradiction
  · intro p hp
    obtain ⟨alive, hfresh⟩ := h.procs p
    rw [hfresh] at hp
    contradiction
  · intro p
    obtain ⟨alive, hfresh⟩ := h.procs p
    rw [hfresh]
    trivial

/-! ## What the steps keep -/

section Steps

variable {s : State} {p : Nat}

theorem set_procs (s : State) (p : Nat) (proc : Process) (q : Nat) :
    (s.set p proc).procs q = if q = p then proc else s.procs q :=
  Function.update_apply _ _ _ _

/-- What holds of the new process and of all processes before holds of all afterwards. -/
theorem forall_set {motive : Nat → Process → Prop} {proc : Process} (hp : motive p proc)
    (hprocs : ∀ q, motive q (s.procs q)) (q : Nat) : motive q ((s.set p proc).procs q) := by
  rw [set_procs]
  by_cases hq : q = p
  · rw [if_pos hq, hq]
    exact hp
  · rw [if_neg hq]
    exact hprocs q

theorem made_goto (s : State) (p : Nat) (pc : Pc) (q : Nat) :
    ((s.goto p pc).procs q).made = (s.procs q).made := by
  unfold State.goto
  refine forall_set (motive := fun q proc => proc.made = (s.procs q).made) ?_ (fun _ => rfl) q
  rfl

theorem PcOk.mono {s' : State} (hnext : s.next ≤ s'.next)
    (hmade : ∀ p i, i < s.next → (s'.procs p).made = some i → (s.procs p).made = some i)
    {proc : Process} (h : PcOk s proc) : PcOk s' proc := by
  unfold PcOk at h ⊢
  split
  · trivial
  · trivial
  · trivial
  · next hpc =>
      rw [hpc] at h
      exact Nat.lt_of_lt_of_le h hnext
  · next hpc =>
      rw [hpc] at h
      exact ⟨Nat.lt_of_lt_of_le h.1 hnext, fun q hq p hp => h.2 q hq p (hmade p _ h.1 hp)⟩
  · next hpc =>
      rw [hpc] at h
      exact ⟨Nat.lt_of_lt_of_le h.1 hnext, fun p hp => h.2 p (hmade p _ h.1 hp)⟩
  · next hpc =>
      rw [hpc] at h
      exact ⟨Nat.lt_of_lt_of_le h.1 hnext, fun p hp => h.2 p (hmade p _ h.1 hp)⟩
  · next hpc =>
      rw [hpc] at h
      exact h
  · next hpc =>
      rw [hpc] at h
      exact h

theorem Inv.holds_set {proc : Process} (h : Inv s)
    (hholds : proc.holds = true → proc.made ≠ none) (q : Nat) :
    ((s.set p proc).procs q).holds = true → ((s.set p proc).procs q).made ≠ none :=
  forall_set (motive := fun _ proc => proc.holds = true → proc.made ≠ none) hholds h.holds q

theorem Inv.set {proc : Process} (h : Inv s) (hmade : proc.made = (s.procs p).made)
    (halive : proc.alive = (s.procs p).alive) (hholds : proc.holds = true → proc.made ≠ none)
    (hpc : PcOk s proc) : Inv (s.set p proc) := by
  have made_eq : ∀ q, ((s.set p proc).procs q).made = (s.procs q).made :=
    forall_set (motive := fun q proc => proc.made = (s.procs q).made) hmade fun _ => rfl
  have alive_eq : ∀ q, ((s.set p proc).procs q).alive = (s.procs q).alive :=
    forall_set (motive := fun q proc => proc.alive = (s.procs q).alive) halive fun _ => rfl
  refine ⟨fun q => ?_, fun q => ?_, fun q i => ?_, fun q q' i => ?_, fun q i => ?_,
    h.holds_set hholds, h.below, fun q => ?_⟩
  · rw [alive_eq]
    exact h.pid q
  · rw [made_eq, alive_eq]
    exact h.alive q
  · rw [made_eq]
    exact h.file q i
  · rw [made_eq, made_eq]
    exact h.one q q' i
  · rw [made_eq]
    exact h.written q i
  · have hok : PcOk s ((s.set p proc).procs q) := forall_set hpc h.pcs q
    exact @PcOk.mono s (s.set p proc) (Nat.le_refl _) (fun q' i _ hi => made_eq q' ▸ hi) _ hok

theorem Inv.goto {pc : Pc} (h : Inv s) (hpc : PcOk s { s.procs p with pc := pc }) :
    Inv (s.goto p pc) :=
  h.set rfl rfl (h.holds p) hpc

theorem Inv.refuse (h : Inv s) (device : Nat) : Inv (s.refuse p device) :=
  h.set rfl rfl (h.holds p) trivial

/-- A process that no longer counts as the maker of a file. -/
theorem Inv.forget {proc : Process} (h : Inv s) (hmade : proc.made = none)
    (hholds : proc.holds = false) (hpc : proc.pc = .idle) (hpid : proc.alive = true → p ≠ 0) :
    Inv (s.set p proc) := by
  have made_of : ∀ q i, ((s.set p proc).procs q).made = some i →
      q ≠ p ∧ (s.procs q).made = some i := by
    intro q i hq
    rw [set_procs] at hq
    by_cases hqp : q = p
    · rw [if_pos hqp, hmade] at hq
      contradiction
    · rw [if_neg hqp] at hq
      exact ⟨hqp, hq⟩
  refine ⟨forall_set (motive := fun q proc => proc.alive = true → q ≠ 0) hpid h.pid,
    fun q hq => ?_, fun q i hi => h.file q i (made_of q i hi).2,
    fun q q' i hi hi' => h.one q q' i (made_of q i hi).2 (made_of q' i hi').2,
    fun q i hi => h.written q i (made_of q i hi).2,
    h.holds_set fun hp => absurd (hholds.symm.trans hp) Bool.false_ne_true, h.below,
    fun q => ?_⟩
  · obtain ⟨i, hi⟩ := Option.ne_none_iff_exists'.mp hq
    obtain ⟨hqp, hi⟩ := made_of q i hi
    rw [set_procs, if_neg hqp]
    exact h.alive q (by rw [hi]; exact Option.some_ne_none i)
  · have hproc : PcOk s proc := by
      rw [PcOk, hpc]
      trivial
    have hok : PcOk s ((s.set p proc).procs q) := forall_set hproc h.pcs q
    exact @PcOk.mono s (s.set p proc) (Nat.le_refl _) (fun q' i _ hi => (made_of q' i hi).2) _ hok

theorem Inv.remove (h : Inv s) (hnone : ∀ q i, s.file = some i → (s.procs q).made ≠ some i) :
    Inv { s with file := none } where
  pid := h.pid
  alive := h.alive
  file q i hi := absurd hi (hnone q i (h.file q i hi))
  one := h.one
  written := h.written
  holds := h.holds
  below i hi := by contradiction
  pcs q := (h.pcs q).mono (Nat.le_refl _) fun _ _ _ hi => hi

/-- The maker of a file writes its pid into it. -/
theorem Inv.write {i : Nat} (h : Inv s) (hmade : (s.procs p).made = some i) :
    Inv { s with contents := Function.update s.contents i (some p) } where
  pid := h.pid
  alive := h.alive
  file := h.file
  one := h.one
  written q j hj := by
    dsimp only
    by_cases hji : j = i
    · have hqp : q = p := h.one q p i (hji ▸ hj) hmade
      rw [hji, Function.update_self, hqp]
      exact Or.inr rfl
    · rw [Function.update_of_ne hji]
      exact h.written q j hj
  holds := h.holds
  below := h.below
  pcs q := (h.pcs q).mono (Nat.le_refl _) fun _ _ _ hi => hi

theorem Inv.create (h : Inv s) (halive : (s.procs p).alive = true) (hnone : s.file = none)
    (device : Nat) :
    Inv { s.set p { s.procs p with pc := .write device s.next, made := some s.next } with
      file := some s.next
      contents := Function.update s.contents s.next none
      next := s.next + 1 } := by
  have nobody : ∀ q i, (s.procs q).made ≠ some i := fun q i hi => by
    have hfile := h.file q i hi
    rw [hnone] at hfile
    contradiction
  have made_of : ∀ q i, ((s.set p { s.procs p with
      pc := .write device s.next, made := some s.next }).procs q).made = some i →
        q = p ∧ i = s.next := by
    intro q i hq
    rw [set_procs] at hq
    by_cases hqp : q = p
    · rw [if_pos hqp] at hq
      exact ⟨hqp, (Option.some.inj hq).symm⟩
    · rw [if_neg hqp] at hq
      exact absurd hq (nobody q i)
  have alive_eq : ∀ q, ((s.set p { s.procs p with
      pc := .write device s.next, made := some s.next }).procs q).alive = (s.procs q).alive :=
    forall_set (motive := fun q proc => proc.alive = (s.procs q).alive) rfl fun _ => rfl
  refine ⟨fun q hq => ?_, fun q hq => ?_, fun q i hi => ?_, fun q q' i hi hi' => ?_,
    fun q i hi => ?_, h.holds_set fun _ => Option.some_ne_none _, fun i hi => ?_,
    fun q => ?_⟩
  · exact h.pid q (alive_eq q ▸ hq)
  · obtain ⟨i, hi⟩ := Option.ne_none_iff_exists'.mp hq
    exact (alive_eq q).trans ((made_of q i hi).1 ▸ halive)
  · exact congrArg some (made_of q i hi).2.symm
  · exact (made_of q i hi).1.trans (made_of q' i hi').1.symm
  · rw [(made_of q i hi).2]
    exact Or.inl (Function.update_self _ _ _)
  · rw [← Option.some.inj hi]
    exact Nat.lt_succ_self _
  · dsimp only
    rw [set_procs]
    by_cases hqp : q = p
    · rw [if_pos hqp]
      rfl
    · rw [if_neg hqp]
      refine (h.pcs q).mono (Nat.le_succ _) fun q' i hi hmade => ?_
      have hnew := (made_of q' i hmade).2
      omega

theorem Inv.pid_of_contents (h : Inv s) {file : Nat} {pid : Int}
    (hmade : (s.procs p).made = some file) (hread : s.contents file = some pid) : pid = p := by
  rcases h.written p file hmade with hempty | hown
  · rw [hempty] at hread
    contradiction
  · exact Option.some.inj (hread.symm.trans hown)

/-- A pid read from a file and found to be of no process is not that of a live maker. -/
theorem not_made_of_gone (h : Inv s) {file : Nat} {pid : Int} {fails : Bool}
    (hread : ∀ q : Nat, (s.procs q).made = some file → pid = q)
    (hgone : pid = 0 ∨ s.gone pid fails = true) (q : Nat) : (s.procs q).made ≠ some file := by
  intro hmade
  have hpid := hread q hmade
  have halive := h.alive q (by rw [hmade]; exact Option.some_ne_none file)
  have hzero := h.pid q halive
  rcases hgone with hgone | hgone
  · omega
  · rw [State.gone, if_pos (by omega), hpid, Int.toNat_natCast, halive] at hgone
    contradiction

/-- A call keeps the invariant if a file that it removes in place of another one is no
live process's. -/
theorem Inv.call (h : Inv s) (halive : (s.procs p).alive = true) (fails : Bool)
    (hcareful : Careful s (.call p fails)) : Inv (s.call p fails) := by
  have hpc := h.pcs p
  unfold PcOk at hpc
  unfold State.call
  cases hcase : (s.procs p).pc with
  | idle => exact h
  | create device =>
      dsimp only
      cases fails with
      | true => exact h.refuse device
      | false =>
          cases hfile : s.file with
          | some file => exact h.goto trivial
          | none => exact h.create halive hfile device
  | openExisting device =>
      dsimp only
      cases fails with
      | true => exact h.refuse device
      | false =>
          cases hfile : s.file with
          | some file => exact h.goto (h.below file hfile)
          | none => exact h.goto trivial
  | read device file =>
      rw [hcase] at hpc
      refine h.goto ⟨hpc, fun q hq q' hmade => ?_⟩
      cases fails with
      | true => contradiction
      | false => exact h.pid_of_contents hmade hq
  | closeRead device file pid =>
      rw [hcase] at hpc
      cases pid with
      | some pid => exact h.goto ⟨hpc.1, hpc.2 pid rfl⟩
      | none => exact h.refuse device
  | test device file pid =>
      rw [hcase] at hpc
      dsimp only
      split
      · exact h.goto trivial
      · split
        · next hgone =>
            rw [Bool.or_eq_true, decide_eq_true_iff] at hgone
            exact h.goto ⟨hpc.1, not_made_of_gone h hpc.2 hgone⟩
        · exact h.refuse device
  | unlink device file =>
      rw [hcase] at hpc
      dsimp only
      split
      · exact h.refuse device
      · next hremoved =>
          simp only [Bool.or_eq_true, not_or, Bool.not_eq_true] at hremoved
          refine Inv.remove (h.goto trivial) fun q i hi hmade => ?_
          have hmade : (s.procs q).made = some i := (made_goto s p _ q).symm.trans hmade
          by_cases hif : i = file
          · exact hpc.2 q (hif ▸ hmade)
          · exact hcareful hremoved.1 device file hcase i hi hif q hmade
  | write device file =>
      rw [hcase] at hpc
      have hmade : (s.procs p).made = some file := hpc
      have hgoto : Inv (s.goto p (.closeWrite device)) :=
        h.goto fun hnone => Option.some_ne_none file (hmade.symm.trans hnone)
      cases fails with
      | true => exact hgoto
      | false => exact hgoto.write ((made_goto s p _ p).trans hmade)
  | closeWrite device =>
      rw [hcase] at hpc
      exact h.set rfl rfl (fun _ => hpc) trivial

theorem Inv.unlock (h : Inv s) (hidle : (s.procs p).pc = .idle) (device : Nat) (fails : Bool)
    (hcareful : Careful s (.unlock p device fails)) : Inv (s.unlock p device fails) := by
  unfold State.unlock
  split
  · next hlocked =>
      have hforget : Inv (s.set p { s.procs p with
          lockFile := Function.update (s.procs p).lockFile device false
          holds := false
          made := none }) := h.forget rfl rfl hidle (h.pid p)
      cases fails with
      | true => exact hforget
      | false =>
          refine hforget.remove fun q i hi hmade => ?_
          rw [set_procs] at hmade
          by_cases hqp : q = p
          · rw [if_pos hqp] at hmade
            contradiction
          · rw [if_neg hqp] at hmade
            exact hcareful rfl hlocked i hi q hqp hmade
  · refine h.set rfl rfl (fun hholds => by contradiction) ?_
    unfold PcOk
    dsimp only
    rw [hidle]
    trivial

theorem Inv.step (h : Inv s) (act : Act) (hcareful : Careful s act) : Inv (s.step act) := by
  cases act with
  | lock p device =>
      unfold State.step
      dsimp only
      split
      · exact h.set rfl rfl (h.holds p) trivial
      · exact h
  | call p fails =>
      unfold State.step
      dsimp only
      split
      · next halive => exact h.call halive fails hcareful
      · exact h
  | unlock p device fails =>
      unfold State.step
      dsimp only
      split
      · next hidle => exact h.unlock hidle.2 device fails hcareful
      · exact h
  | die p =>
      unfold State.step
      dsimp only
      split
      · exact h.forget rfl rfl rfl (fun hdead => by contradiction)
      · exact h
  | start p =>
      unfold State.step
      dsimp only
      split
      · exact h
      · next hnew => exact h.forget rfl rfl rfl fun _ hzero => hnew (Or.inr hzero)

end Steps

/-- In every run in which no process removes a lock file that another one has made in the
meantime, at most one live process has the lock. -/
theorem exclusive_of_careful {s : State} (h : Initial s) {acts : List Act}
    (hcareful : History.Allowed State.step Careful s acts) :
    History.Always State.step Exclusive s acts :=
  (History.always_of_allowed (fun _ act hinv hok => hinv.step act hok) h.inv hcareful).mono
    fun _ hinv => hinv.exclusive

/-! ## Two processes and a stale file -/

/-- The lock file has the pid of a process that is no more. -/
def staleFile : State where
  procs p := .fresh (p = 1 ∨ p = 2)
  file := some 0
  contents _ := some 99
  next := 1

theorem staleFile_initial : Initial staleFile where
  procs p := ⟨_, rfl⟩
  pid := by decide
  file i hi := by
    rw [← Option.some.inj hi]
    decide

/-- Calls of one process that all succeed. -/
def calls (p n : Nat) : List Act := List.replicate n (.call p false)

/-- Both find the file stale; the first takes the lock, and the second removes its file and
takes the lock as well. -/
def bothTakeOver : List Act :=
  [.lock 1 0, .lock 2 0] ++ calls 1 5 ++ calls 2 5 ++ calls 1 4 ++ calls 2 4

/-- The first process has the lock, is refused it for a second device and unlocks.  The
second process takes the lock, the first one unlocks the second device, which removes the
file, and then the third process takes the lock. -/
def unlockAfterRefusal : List Act :=
  [.lock 1 0] ++ calls 1 9 ++ [.lock 1 1] ++ calls 1 5 ++ [.unlock 1 0 false] ++
    [.lock 2 0] ++ calls 2 3 ++ [.unlock 1 1 false] ++ [.start 3, .lock 3 0] ++ calls 3 3

/-- Either run ends with two processes that have the lock. -/
theorem twoHolders :
    ¬ Exclusive (bothTakeOver.foldl State.step staleFile) ∧
    ¬ Exclusive (unlockAfterRefusal.foldl State.step staleFile) := by
  constructor
  · intro h
    exact absurd (h 1 2 (by decide) (by decide) (by decide) (by decide)) (by decide)
  · intro h
    exact absurd (h 2 3 (by decide) (by decide) (by decide) (by decide)) (by decide)

def sameFile (s : State) (p : Nat) : Bool :=
  match (s.procs p).pc with
  | .unlink _ file => s.file = some file
  | _ => true

theorem careful_of_sameFile {s : State} {p : Nat} (h : sameFile s p = true) (fails : Bool) :
    Careful s (.call p fails) := by
  intro _ device file hpc i hi hne
  rw [sameFile, hpc] at h
  have hfile : s.file = some file := of_decide_eq_true h
  exact absurd (Option.some.inj (hi.symm.trans hfile)) hne

theorem allowed_calls {s : State} {p n : Nat}
    (h : ∀ k < n, sameFile ((calls p k).foldl State.step s) p = true) :
    History.Allowed State.step Careful s (calls p n) := by
  induction n generalizing s with
  | zero => trivial
  | succ n ih =>
      exact ⟨careful_of_sameFile (h 0 (Nat.zero_lt_succ n)) false,
        ih fun k hk => h (k + 1) (Nat.succ_lt_succ hk)⟩

/-- The first process alone takes the stale file over. -/
theorem oneTakesOver : History.Always State.step Exclusive staleFile (.lock 1 0 :: calls 1 9) :=
  exclusive_of_careful staleFile_initial ⟨trivial, allowed_calls (by decide)⟩

end GnomePilot.Daemon.Uucp
