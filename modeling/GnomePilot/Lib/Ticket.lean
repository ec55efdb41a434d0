import GnomePilot.Lib.History
import Mathlib.Data.List.Nodup

/-!
# Waiting for numbered requests

Requests are known by numbers, and a number may be given again once its request is done.
What is done is announced to everyone by its number, and the announcement is under way for
a while.  A client makes two requests, waits until it has heard of both, or takes them
back.  `Desk.sound_iff_clear` says in which runs it is never misled by its numbers.
-/

namespace GnomePilot.Ticket

variable {ν : Type*}

/-- Whose request it is: the first or the second of the client, or someone else's. -/
inductive Owner where
  | first
  | second
  | other
  deriving DecidableEq

inductive Phase where
  | idle
  | halfway
  | waiting
  deriving DecidableEq

/-- The pending requests, the announcements under way, what the client remembers, and the
numbers of other clients' requests that it took back. -/
structure Desk (ν : Type*) where
  pending : List (ν × Owner)
  wire : List ν
  handle1 : Option ν
  handle2 : Option ν
  phase : Phase
  lost : List ν

/-- `serve` is the work on a number of requests. -/
inductive Event (ν : Type*) where
  | first (n : ν)
  | second (n : ν)
  | secondFails
  | deliver
  | cancel
  | other (n : ν)
  | serve (ns : List ν)

variable [DecidableEq ν]

/-- The client hears of a number: it stands for its first request if that has it. -/
def hear (handles : Option ν × Option ν) (n : ν) : Option ν × Option ν :=
  if handles.1 = some n then (none, handles.2)
  else if handles.2 = some n then (handles.1, none)
  else handles

namespace Desk

/-- The client listens except between its two requests; it stops waiting when it has
heard of both. -/
def deliver (s : Desk ν) : Desk ν :=
  match s.wire with
  | [] => s
  | n :: wire =>
    let handles := hear (s.handle1, s.handle2) n
    { s with
      wire := wire
      handle1 := handles.1
      handle2 := handles.2
      phase :=
        if (s.handle1 = some n ∨ s.handle2 = some n) ∧ handles = (none, none) then .idle
        else s.phase }

def remembers (s : Desk ν) (n : ν) : Bool := s.handle1 = some n || s.handle2 = some n

/-- Whatever has the numbers that the client remembers is taken back. -/
def cancel (s : Desk ν) : Desk ν :=
  { s with
    pending := s.pending.filter fun p => !s.remembers p.1
    handle1 := none
    handle2 := none
    phase := .idle
    lost := ((s.pending.filter fun p => s.remembers p.1 && p.2 = .other).map Prod.fst) ++ s.lost }

def step (s : Desk ν) : Event ν → Desk ν
  | .first n =>
    if s.phase = .idle then
      { s with pending := (n, .first) :: s.pending, handle1 := some n, phase := .halfway }
    else s
  | .second n =>
    if s.phase = .halfway then
      { s with pending := (n, .second) :: s.pending, handle2 := some n, phase := .waiting }
    else s
  | .secondFails => if s.phase = .halfway then { s with phase := .idle } else s
  | .deliver => if s.phase = .halfway then s else s.deliver
  | .cancel => if s.phase = .waiting then s.cancel else s
  | .other n => { s with pending := (n, .other) :: s.pending }
  | .serve ns =>
    { s with pending := s.pending.filter fun p => p.1 ∉ ns, wire := s.wire ++ ns }

/-- What the client remembers when it has heard of everything under way. -/
def predict (s : Desk ν) : Option ν × Option ν := s.wire.foldl hear (s.handle1, s.handle2)

/-- The client will know of each of its requests whether it is done, none of them is left
behind when it does not wait, and it never takes back another's. -/
structure Sound (s : Desk ν) : Prop where
  first : s.phase ≠ .idle → (s.predict.1 = none ↔ ∀ n, (n, .first) ∉ s.pending)
  second : s.phase = .waiting → (s.predict.2 = none ↔ ∀ n, (n, .second) ∉ s.pending)
  idle : s.phase = .idle → ∀ p ∈ s.pending, p.2 = .other
  lost : s.lost = []

def Numbered (s : Desk ν) : Event ν → Prop
  | .first n => s.phase = .idle → n ∉ s.pending.map Prod.fst
  | .second n => s.phase = .halfway → n ∉ s.pending.map Prod.fst
  | .other n => n ∉ s.pending.map Prod.fst
  | .secondFails | .deliver | .cancel | .serve _ => True

/-- The announcements that are not taken for the first request's. -/
def unheard (handle1 : Option ν) (wire : List ν) : List ν :=
  match handle1 with
  | some n => wire.erase n
  | none => wire

/-- A number that is given to the client is not announced any more, its first request is
done when the second fails, and what it takes back is its own. -/
def Clear (s : Desk ν) : Event ν → Prop
  | .first n => s.phase = .idle → n ∉ s.wire
  | .second n => s.phase = .halfway → n ∉ unheard s.handle1 s.wire
  | .secondFails => s.phase = .halfway → ∀ n, (n, .first) ∉ s.pending
  | .cancel => s.phase = .waiting → ∀ n, s.remembers n = true → (n, .other) ∉ s.pending
  | .deliver | .other _ | .serve _ => True

end Desk

/-! ## What is heard -/

theorem hear_first {handle1 handle2 : Option ν} {n : ν} (h1 : handle1 = some n) :
    hear (handle1, handle2) n = (none, handle2) := if_pos h1

theorem hear_second {handle1 handle2 : Option ν} {n : ν} (h1 : handle1 ≠ some n)
    (h2 : handle2 = some n) : hear (handle1, handle2) n = (handle1, none) :=
  (if_neg h1).trans (if_pos h2)

theorem hear_other {handle1 handle2 : Option ν} {n : ν} (h1 : handle1 ≠ some n)
    (h2 : handle2 ≠ some n) : hear (handle1, handle2) n = (handle1, handle2) :=
  (if_neg h1).trans (if_neg h2)

theorem foldl_hear_fst (wire : List ν) (handle1 handle2 : Option ν) :
    (wire.foldl hear (handle1, handle2)).1 = none ↔ ∀ n, handle1 = some n → n ∈ wire := by
  induction wire generalizing handle1 handle2 with
  | nil => cases handle1 <;> simp
  | cons n wire ih =>
      rw [List.foldl_cons]
      by_cases h1 : handle1 = some n
      · rw [hear_first h1, ih]
        simp [h1]
      · have hmem : ∀ k, handle1 = some k → (k ∈ wire ↔ k ∈ n :: wire) := by
          intro k hk
          have hkn : k ≠ n := fun heq => h1 (heq ▸ hk)
          simp [hkn]
        by_cases h2 : handle2 = some n
        · rw [hear_second h1 h2, ih]
          exact forall₂_congr hmem
        · rw [hear_other h1 h2, ih]
          exact forall₂_congr hmem

namespace Desk

theorem unheard_cons_of_ne {handle1 : Option ν} {n : ν} (h : handle1 ≠ some n) (wire : List ν) :
    unheard handle1 (n :: wire) = n :: unheard handle1 wire := by
  cases handle1 with
  | none => rfl
  | some k =>
      have hnk : n ≠ k := fun heq => h (heq ▸ rfl)
      exact List.erase_cons_tail (by simpa using hnk)

end Desk

theorem foldl_hear_snd (wire : List ν) (handle1 handle2 : Option ν) :
    (wire.foldl hear (handle1, handle2)).2 = none ↔
      ∀ n, handle2 = some n → n ∈ Desk.unheard handle1 wire := by
  induction wire generalizing handle1 handle2 with
  | nil => cases handle1 <;> cases handle2 <;> simp [Desk.unheard]
  | cons n wire ih =>
      rw [List.foldl_cons]
      by_cases h1 : handle1 = some n
      · rw [hear_first h1, ih, h1]
        simp [Desk.unheard]
      · rw [Desk.unheard_cons_of_ne h1]
        by_cases h2 : handle2 = some n
        · rw [hear_second h1 h2, ih]
          simp [h2]
        · rw [hear_other h1 h2, ih]
          apply forall₂_congr
          intro k hk
          have hkn : k ≠ n := fun heq => h2 (heq ▸ hk)
          simp [hkn]

/-! ## What is announced -/

namespace Desk

theorem mem_unheard_of_append {handle1 : Option ν} {wire ns : List ν} {n : ν}
    (h : n ∈ unheard handle1 (wire ++ ns)) (hn : n ∉ ns) : n ∈ unheard handle1 wire := by
  cases handle1 with
  | none => exact (List.mem_append.mp h).resolve_right hn
  | some k =>
      change n ∈ (wire ++ ns).erase k at h
      change n ∈ wire.erase k
      by_cases hk : k ∈ wire
      · rw [List.erase_append_left _ hk] at h
        exact (List.mem_append.mp h).resolve_right hn
      · rw [List.erase_append_right _ hk] at h
        rw [List.erase_of_not_mem hk]
        exact (List.mem_append.mp h).resolve_right fun hmem => hn (List.mem_of_mem_erase hmem)

theorem mem_unheard_append_left {handle1 : Option ν} {wire : List ν} {n : ν}
    (h : n ∈ unheard handle1 wire) (ns : List ν) : n ∈ unheard handle1 (wire ++ ns) := by
  cases handle1 with
  | none => exact List.mem_append_left ns h
  | some k =>
      change n ∈ wire.erase k at h
      change n ∈ (wire ++ ns).erase k
      by_cases hk : k ∈ wire
      · rw [List.erase_append_left _ hk]
        exact List.mem_append_left ns h
      · rw [List.erase_append_right _ hk]
        exact List.mem_append_left _ (List.mem_of_mem_erase h)

/-- What is announced anew is heard of, unless the first request waits for that number. -/
theorem mem_unheard_append_right {handle1 : Option ν} {wire ns : List ν} {n : ν} (h : n ∈ ns)
    (hfirst : handle1 = some n → n ∈ wire) : n ∈ unheard handle1 (wire ++ ns) := by
  cases handle1 with
  | none => exact List.mem_append_right wire h
  | some k =>
      change n ∈ (wire ++ ns).erase k
      by_cases hk : k ∈ wire
      · rw [List.erase_append_left _ hk]
        exact List.mem_append_right _ h
      · rw [List.erase_append_right _ hk]
        have hkn : n ≠ k := by
          intro heq
          subst heq
          exact hk (hfirst rfl)
        exact List.mem_append_right wire ((List.mem_erase_of_ne hkn).mpr h)

variable {s : Desk ν}

theorem predict_fst : s.predict.1 = none ↔ ∀ n, s.handle1 = some n → n ∈ s.wire :=
  foldl_hear_fst s.wire s.handle1 s.handle2

theorem predict_snd :
    s.predict.2 = none ↔ ∀ n, s.handle2 = some n → n ∈ unheard s.handle1 s.wire :=
  foldl_hear_snd s.wire s.handle1 s.handle2

/-! ## The invariant -/

structure Inv (s : Desk ν) : Prop where
  apart : (s.pending.map Prod.fst).Nodup
  sound : s.Sound
  own1 : ∀ n, (n, .first) ∈ s.pending → s.handle1 = some n
  own2 : ∀ n, (n, .second) ∈ s.pending → s.handle2 = some n ∧ s.phase = .waiting
  rest : s.phase ≠ .waiting → s.handle2 = none

/-- No request and no announcement. -/
def start : Desk ν := ⟨[], [], none, none, .idle, []⟩

theorem inv_start : (start : Desk ν).Inv where
  apart := List.nodup_nil
  sound := ⟨fun h => absurd rfl h, Phase.noConfusion, fun _ _ hp => (List.not_mem_nil hp).elim, rfl⟩
  own1 _ hn := (List.not_mem_nil hn).elim
  own2 _ hn := (List.not_mem_nil hn).elim
  rest _ := rfl

/-- A client that is idle has no request. -/
theorem Inv.other_of_idle (h : s.Inv) (hidle : s.phase = .idle) {n : ν} {owner : Owner}
    (hown : owner ≠ .other) : (n, owner) ∉ s.pending :=
  fun hmem => hown (h.sound.idle hidle _ hmem)

/-! ## Making requests -/

theorem Inv.first (h : s.Inv) {n : ν} (hnew : n ∉ s.pending.map Prod.fst)
    (hidle : s.phase = .idle) (hclear : n ∉ s.wire) : (s.step (.first n)).Inv := by
  have hstep : s.step (.first n) =
      { s with pending := (n, .first) :: s.pending, handle1 := some n, phase := .halfway } :=
    if_pos hidle
  rw [hstep]
  refine ⟨?_, ⟨?_, Phase.noConfusion, Phase.noConfusion, h.sound.lost⟩, ?_, ?_, ?_⟩
  · exact List.nodup_cons.mpr ⟨hnew, h.apart⟩
  · intro _
    rw [predict_fst]
    apply iff_of_false
    · exact fun hheard => hclear (hheard n rfl)
    · exact fun hnone => hnone n List.mem_cons_self
  · intro k hk
    rcases List.mem_cons.mp hk with heq | hk
    · cases heq
      rfl
    · exact absurd hk (h.other_of_idle hidle Owner.noConfusion)
  · intro k hk
    rcases List.mem_cons.mp hk with heq | hk
    · cases heq
    · exact absurd hk (h.other_of_idle hidle Owner.noConfusion)
  · exact fun _ => h.rest fun hwaiting => Phase.noConfusion (hidle.symm.trans hwaiting)

theorem not_sound_first {n : ν} (hidle : s.phase = .idle) (hwire : n ∈ s.wire) :
    ¬ (s.step (.first n)).Sound := by
  have hstep : s.step (.first n) =
      { s with pending := (n, .first) :: s.pending, handle1 := some n, phase := .halfway } :=
    if_pos hidle
  rw [hstep]
  intro hsound
  have hheard := hsound.first Phase.noConfusion
  rw [predict_fst] at hheard
  exact hheard.mp (fun k hk => Option.some.inj hk ▸ hwire) n List.mem_cons_self

theorem Inv.second (h : s.Inv) {n : ν} (hnew : n ∉ s.pending.map Prod.fst)
    (hhalfway : s.phase = .halfway) (hclear : n ∉ unheard s.handle1 s.wire) :
    (s.step (.second n)).Inv := by
  have hstep : s.step (.second n) =
      { s with pending := (n, .second) :: s.pending, handle2 := some n, phase := .waiting } :=
    if_pos hhalfway
  have hnone : ∀ k, (k, .second) ∉ s.pending := fun k hk =>
    Phase.noConfusion (hhalfway.symm.trans (h.own2 k hk).2)
  have hfirst := h.sound.first fun hidle => Phase.noConfusion (hhalfway.symm.trans hidle)
  rw [hstep]
  refine ⟨?_, ⟨?_, ?_, Phase.noConfusion, h.sound.lost⟩, ?_, ?_, fun hno => absurd rfl hno⟩
  · exact List.nodup_cons.mpr ⟨hnew, h.apart⟩
  · intro _
    rw [predict_fst] at hfirst ⊢
    simpa using hfirst
  · intro _
    rw [predict_snd]
    apply iff_of_false
    · exact fun hheard => hclear (hheard n rfl)
    · exact fun hno => hno n List.mem_cons_self
  · intro k hk
    rcases List.mem_cons.mp hk with heq | hk
    · cases heq
    · exact h.own1 k hk
  · intro k hk
    rcases List.mem_cons.mp hk with heq | hk
    · cases heq
      exact ⟨rfl, rfl⟩
    · exact absurd hk (hnone k)

theorem not_sound_second {n : ν} (hhalfway : s.phase = .halfway)
    (hwire : n ∈ unheard s.handle1 s.wire) : ¬ (s.step (.second n)).Sound := by
  have hstep : s.step (.second n) =
      { s with pending := (n, .second) :: s.pending, handle2 := some n, phase := .waiting } :=
    if_pos hhalfway
  rw [hstep]
  intro hsound
  have hheard := hsound.second rfl
  rw [predict_snd] at hheard
  exact hheard.mp (fun k hk => Option.some.inj hk ▸ hwire) n List.mem_cons_self

theorem Inv.secondFails (h : s.Inv) (hhalfway : s.phase = .halfway)
    (hclear : ∀ n, (n, .first) ∉ s.pending) : (s.step .secondFails).Inv := by
  have hstep : s.step .secondFails = { s with phase := .idle } := if_pos hhalfway
  have hnone : ∀ k, (k, .second) ∉ s.pending := fun k hk =>
    Phase.noConfusion (hhalfway.symm.trans (h.own2 k hk).2)
  rw [hstep]
  refine ⟨h.apart, ⟨fun hno => absurd rfl hno, Phase.noConfusion, ?_, h.sound.lost⟩, ?_, ?_, ?_⟩
  · rintro _ ⟨n, owner⟩ hp
    cases owner with
    | first => exact absurd hp (hclear n)
    | second => exact absurd hp (hnone n)
    | other => rfl
  · exact fun k hk => absurd hk (hclear k)
  · exact fun k hk => absurd hk (hnone k)
  · exact fun _ => h.rest fun hwaiting => Phase.noConfusion (hhalfway.symm.trans hwaiting)

theorem not_sound_secondFails (hhalfway : s.phase = .halfway) {n : ν}
    (hn : (n, .first) ∈ s.pending) : ¬ (s.step .secondFails).Sound := by
  have hstep : s.step .secondFails = { s with phase := .idle } := if_pos hhalfway
  rw [hstep]
  exact fun hsound => Owner.noConfusion (hsound.idle rfl _ hn)

/-! ## Waiting -/

theorem deliver_nil (h : s.wire = []) : s.deliver = s := by
  unfold deliver
  rw [h]

theorem deliver_cons {n : ν} {wire : List ν} (h : s.wire = n :: wire) :
    s.deliver = { s with
      wire := wire
      handle1 := (hear (s.handle1, s.handle2) n).1
      handle2 := (hear (s.handle1, s.handle2) n).2
      phase :=
        if (s.handle1 = some n ∨ s.handle2 = some n) ∧
            hear (s.handle1, s.handle2) n = (none, none) then .idle
        else s.phase } := by
  unfold deliver
  rw [h]

/-- Hearing of an announcement changes nothing about what will have been heard. -/
theorem predict_deliver (s : Desk ν) : s.deliver.predict = s.predict := by
  cases hwire : s.wire with
  | nil => rw [deliver_nil hwire]
  | cons n wire =>
      rw [deliver_cons hwire]
      unfold predict
      rw [hwire]
      rfl

theorem pending_deliver (s : Desk ν) : s.deliver.pending = s.pending := by
  cases hwire : s.wire with
  | nil => rw [deliver_nil hwire]
  | cons n wire => rw [deliver_cons hwire]

theorem lost_deliver (s : Desk ν) : s.deliver.lost = s.lost := by
  cases hwire : s.wire with
  | nil => rw [deliver_nil hwire]
  | cons n wire => rw [deliver_cons hwire]

/-- Hearing leaves the phase alone or ends the wait with nothing remembered. -/
theorem phase_deliver (s : Desk ν) : s.deliver.phase = s.phase ∨
    s.deliver.phase = .idle ∧ s.deliver.handle1 = none ∧ s.deliver.handle2 = none := by
  cases hwire : s.wire with
  | nil =>
      left
      rw [deliver_nil hwire]
  | cons n wire =>
      rw [deliver_cons hwire]
      by_cases hdone : (s.handle1 = some n ∨ s.handle2 = some n) ∧
          hear (s.handle1, s.handle2) n = (none, none)
      · right
        exact ⟨if_pos hdone, congrArg Prod.fst hdone.2, congrArg Prod.snd hdone.2⟩
      · exact Or.inl (if_neg hdone)

/-- What is forgotten was announced. -/
theorem handles_deliver (s : Desk ν) :
    (s.deliver.handle1 = s.handle1 ∨ s.deliver.handle1 = none ∧ s.predict.1 = none) ∧
      (s.deliver.handle2 = s.handle2 ∨ s.deliver.handle2 = none ∧ s.predict.2 = none) := by
  have hfst : s.deliver.handle1 = none → s.predict.1 = none := by
    intro hnone
    rw [← predict_deliver, predict_fst]
    simp [hnone]
  have hsnd : s.deliver.handle2 = none → s.predict.2 = none := by
    intro hnone
    rw [← predict_deliver, predict_snd]
    simp [hnone]
  have hhandles : (s.deliver.handle1 = s.handle1 ∨ s.deliver.handle1 = none) ∧
      (s.deliver.handle2 = s.handle2 ∨ s.deliver.handle2 = none) := by
    cases hwire : s.wire with
    | nil =>
        rw [deliver_nil hwire]
        exact ⟨Or.inl rfl, Or.inl rfl⟩
    | cons n wire =>
        rw [deliver_cons hwire]
        by_cases h1 : s.handle1 = some n
        · simp [hear_first h1]
        · by_cases h2 : s.handle2 = some n
          · simp [hear_second h1 h2]
          · simp [hear_other h1 h2]
  exact ⟨hhandles.1.imp_right fun hnone => ⟨hnone, hfst hnone⟩,
    hhandles.2.imp_right fun hnone => ⟨hnone, hsnd hnone⟩⟩

/-- A client that listens knows of its requests, whether it waits for them or not. -/
theorem Inv.deliver (h : s.Inv) : s.deliver.Inv := by
  have hpending := pending_deliver s
  have hpredict := predict_deliver s
  obtain ⟨h1, h2⟩ := handles_deliver s
  have hnone1 : s.predict.1 = none → ∀ n, (n, .first) ∉ s.pending := by
    intro hnone n hn
    have hactive : s.phase ≠ .idle := fun hidle =>
      h.other_of_idle hidle Owner.noConfusion hn
    exact (h.sound.first hactive).mp hnone n hn
  have hnone2 : s.predict.2 = none → ∀ n, (n, .second) ∉ s.pending :=
    fun hnone n hn => (h.sound.second (h.own2 n hn).2).mp hnone n hn
  have hidle : s.deliver.phase = .idle → ∀ p ∈ s.pending, p.2 = .other := by
    intro hidle
    rcases phase_deliver s with hsame | ⟨_, hnil1, hnil2⟩
    · exact h.sound.idle (hsame.symm.trans hidle)
    · have hdone1 : s.predict.1 = none := by
        rw [← hpredict, predict_fst]
        simp [hnil1]
      have hdone2 : s.predict.2 = none := by
        rw [← hpredict, predict_snd]
        simp [hnil2]
      rintro ⟨n, owner⟩ hp
      cases owner with
      | first => exact absurd hp (hnone1 hdone1 n)
      | second => exact absurd hp (hnone2 hdone2 n)
      | other => rfl
  have hphases : s.deliver.phase ≠ .idle → s.deliver.phase = s.phase := fun hactive =>
    (phase_deliver s).resolve_right fun hdone => hactive hdone.1
  refine ⟨?_, ⟨?_, ?_, ?_, ?_⟩, ?_, ?_, ?_⟩
  · rw [hpending]
    exact h.apart
  · intro hactive
    rw [hpending, hpredict]
    exact h.sound.first fun hsame => hactive ((hphases hactive).trans hsame)
  · intro hwaiting
    rw [hpending, hpredict]
    have hactive : s.deliver.phase ≠ .idle := by
      rw [hwaiting]
      exact Phase.noConfusion
    exact h.sound.second ((hphases hactive).symm.trans hwaiting)
  · rw [hpending]
    exact hidle
  · rw [lost_deliver]
    exact h.sound.lost
  · intro n hn
    rw [hpending] at hn
    rcases h1 with hsame | ⟨_, hnone⟩
    · rw [hsame]
      exact h.own1 n hn
    · exact absurd hn (hnone1 hnone n)
  · intro n hn
    rw [hpending] at hn
    have hactive : s.deliver.phase ≠ .idle := fun hno => Owner.noConfusion (hidle hno _ hn)
    rcases h2 with hsame | ⟨_, hnone⟩
    · rw [hsame, hphases hactive]
      exact h.own2 n hn
    · exact absurd hn (hnone2 hnone n)
  · intro hwaiting
    rcases phase_deliver s with hsame | ⟨_, _, hnil2⟩
    · rcases h2 with hsame2 | ⟨hnone, _⟩
      · rw [hsame2]
        exact h.rest fun hno => hwaiting (hsame.trans hno)
      · exact hnone
    · exact hnil2

theorem Inv.cancel (h : s.Inv)
    (hclear : ∀ n, s.remembers n = true → (n, .other) ∉ s.pending) : s.cancel.Inv := by
  have hgone : ∀ p ∈ s.cancel.pending, p ∈ s.pending ∧ s.remembers p.1 = false := by
    intro p hp
    obtain ⟨hp, hnot⟩ := List.mem_filter.mp hp
    exact ⟨hp, by simpa using hnot⟩
  have hother : ∀ p ∈ s.cancel.pending, p.2 = .other := by
    rintro ⟨n, owner⟩ hp
    obtain ⟨hp, hnot⟩ := hgone _ hp
    cases owner with
    | first => simp [remembers, h.own1 n hp] at hnot
    | second => simp [remembers, (h.own2 n hp).1] at hnot
    | other => rfl
  have hlost : s.cancel.lost = [] := by
    have hnil : (s.pending.filter fun p => s.remembers p.1 && p.2 = .other) = [] := by
      rw [List.filter_eq_nil_iff]
      rintro ⟨n, owner⟩ hp hboth
      obtain ⟨hremembers, howner⟩ := Bool.and_eq_true_iff.mp hboth
      have heq : owner = .other := of_decide_eq_true howner
      exact hclear n hremembers (heq ▸ hp)
    simp [Desk.cancel, hnil, h.sound.lost]
  refine ⟨?_, ⟨fun hno => absurd rfl hno, Phase.noConfusion, fun _ => hother, hlost⟩, ?_, ?_,
    fun _ => rfl⟩
  · exact h.apart.sublist (List.filter_sublist.map Prod.fst)
  · exact fun n hn => Owner.noConfusion (hother _ hn)
  · exact fun n hn => Owner.noConfusion (hother _ hn)

theorem not_sound_cancel {n : ν} (hremembers : s.remembers n = true)
    (hn : (n, .other) ∈ s.pending) : ¬ s.cancel.Sound := by
  intro hsound
  have hmem : n ∈ s.cancel.lost := by
    apply List.mem_append_left
    exact List.mem_map_of_mem (List.mem_filter.mpr ⟨hn, by simp [hremembers]⟩)
  rw [hsound.lost] at hmem
  exact List.not_mem_nil hmem

/-! ## Others -/

theorem Inv.other (h : s.Inv) {n : ν} (hnew : n ∉ s.pending.map Prod.fst) :
    (s.step (.other n)).Inv := by
  have hmem : ∀ k owner, owner ≠ .other → (k, owner) ∈ (n, Owner.other) :: s.pending →
      (k, owner) ∈ s.pending := by
    intro k owner howner hk
    rcases List.mem_cons.mp hk with heq | hk
    · exact absurd (congrArg Prod.snd heq) howner
    · exact hk
  have hiff : ∀ owner, owner ≠ .other →
      ((∀ k, (k, owner) ∉ (n, Owner.other) :: s.pending) ↔ ∀ k, (k, owner) ∉ s.pending) := by
    intro owner howner
    exact forall_congr' fun k =>
      not_congr ⟨hmem k owner howner, List.mem_cons_of_mem _⟩
  refine ⟨List.nodup_cons.mpr ⟨hnew, h.apart⟩, ⟨?_, ?_, ?_, h.sound.lost⟩, ?_, ?_, h.rest⟩
  · exact fun hactive => (h.sound.first hactive).trans (hiff _ Owner.noConfusion).symm
  · exact fun hwaiting => (h.sound.second hwaiting).trans (hiff _ Owner.noConfusion).symm
  · intro hidle p hp
    rcases List.mem_cons.mp hp with rfl | hp
    · rfl
    · exact h.sound.idle hidle p hp
  · exact fun k hk => h.own1 k (hmem k _ Owner.noConfusion hk)
  · exact fun k hk => h.own2 k (hmem k _ Owner.noConfusion hk)

/-- Work on requests that are pending is announced under their numbers. -/
theorem Inv.serve (h : s.Inv) (ns : List ν) : (s.step (.serve ns)).Inv := by
  have hmem : ∀ p, p ∈ (s.step (.serve ns)).pending ↔ p ∈ s.pending ∧ p.1 ∉ ns := by
    intro p
    simp [Desk.step]
  refine ⟨?_, ⟨?_, ?_, ?_, h.sound.lost⟩, ?_, ?_, h.rest⟩
  · exact h.apart.sublist (List.filter_sublist.map Prod.fst)
  · intro hactive
    have hfirst := h.sound.first hactive
    rw [predict_fst] at hfirst ⊢
    constructor
    · intro hheard n hn
      obtain ⟨hn, hns⟩ := (hmem _).mp hn
      refine hfirst.mp (fun k hk => ?_) n hn
      obtain rfl : n = k := Option.some.inj ((h.own1 n hn).symm.trans hk)
      exact (List.mem_append.mp (hheard n hk)).resolve_right hns
    · intro hdone n hn
      apply List.mem_append.mpr
      by_cases hwire : n ∈ s.wire
      · exact Or.inl hwire
      · right
        have hpending : ¬ ∀ k, (k, .first) ∉ s.pending := fun hnone =>
          hwire (hfirst.mpr hnone n hn)
        push Not at hpending
        obtain ⟨k, hk⟩ := hpending
        obtain rfl : k = n := Option.some.inj ((h.own1 k hk).symm.trans hn)
        by_contra hns
        exact hdone k ((hmem _).mpr ⟨hk, hns⟩)
  · intro hwaiting
    have hactive : s.phase ≠ .idle := fun hidle =>
      Phase.noConfusion (hidle.symm.trans hwaiting)
    have hfirst := h.sound.first hactive
    have hsecond := h.sound.second hwaiting
    rw [predict_fst] at hfirst
    rw [predict_snd] at hsecond ⊢
    constructor
    · intro hheard n hn
      obtain ⟨hn, hns⟩ := (hmem _).mp hn
      refine hsecond.mp (fun k hk => ?_) n hn
      obtain rfl : n = k := Option.some.inj ((h.own2 n hn).1.symm.trans hk)
      exact mem_unheard_of_append (hheard n hk) hns
    · intro hdone n hn
      by_cases hwire : n ∈ unheard s.handle1 s.wire
      · exact mem_unheard_append_left hwire ns
      · have hpending : ¬ ∀ k, (k, .second) ∉ s.pending := by
          intro hnone
          exact hwire (hsecond.mpr hnone n hn)
        push Not at hpending
        obtain ⟨k, hk⟩ := hpending
        obtain rfl : k = n := Option.some.inj ((h.own2 k hk).1.symm.trans hn)
        have hns : k ∈ ns := by
          by_contra hns
          exact hdone k ((hmem _).mpr ⟨hk, hns⟩)
        apply mem_unheard_append_right hns
        intro hhandle1
        by_contra hnot
        -- otherwise both requests would be pending under one number
        have hfirstPending : ¬ ∀ j, (j, .first) ∉ s.pending := by
          intro hnone
          exact hnot (hfirst.mpr hnone k hhandle1)
        push Not at hfirstPending
        obtain ⟨j, hj⟩ := hfirstPending
        obtain rfl : j = k := Option.some.inj ((h.own1 j hj).symm.trans hhandle1)
        exact Owner.noConfusion (congrArg Prod.snd
          (List.inj_on_of_nodup_map h.apart hj hk rfl))
  · intro hidle p hp
    exact h.sound.idle hidle p ((hmem p).mp hp).1
  · exact fun n hn => h.own1 n ((hmem _).mp hn).1
  · exact fun n hn => h.own2 n ((hmem _).mp hn).1

/-! ## Runs -/

theorem Inv.step (h : s.Inv) {event : Event ν} (hnumbered : s.Numbered event)
    (hclear : s.Clear event) : (s.step event).Inv := by
  cases event with
  | first n =>
      by_cases hidle : s.phase = .idle
      · exact h.first (hnumbered hidle) hidle (hclear hidle)
      · rwa [Desk.step, if_neg hidle]
  | second n =>
      by_cases hhalfway : s.phase = .halfway
      · exact h.second (hnumbered hhalfway) hhalfway (hclear hhalfway)
      · rwa [Desk.step, if_neg hhalfway]
  | secondFails =>
      by_cases hhalfway : s.phase = .halfway
      · exact h.secondFails hhalfway (hclear hhalfway)
      · rwa [Desk.step, if_neg hhalfway]
  | deliver =>
      by_cases hhalfway : s.phase = .halfway
      · rwa [Desk.step, if_pos hhalfway]
      · rw [Desk.step, if_neg hhalfway]
        exact h.deliver
  | cancel =>
      by_cases hwaiting : s.phase = .waiting
      · rw [Desk.step, if_pos hwaiting]
        exact h.cancel (hclear hwaiting)
      · rwa [Desk.step, if_neg hwaiting]
  | other n => exact h.other hnumbered
  | serve ns => exact h.serve ns

theorem not_sound_step {event : Event ν} (hnot : ¬ s.Clear event) : ¬ (s.step event).Sound := by
  cases event with
  | first n =>
      obtain ⟨hidle, hwire⟩ := Classical.not_imp.mp hnot
      exact not_sound_first hidle (not_not.mp hwire)
  | second n =>
      obtain ⟨hhalfway, hwire⟩ := Classical.not_imp.mp hnot
      exact not_sound_second hhalfway (not_not.mp hwire)
  | secondFails =>
      obtain ⟨hhalfway, hpending⟩ := Classical.not_imp.mp hnot
      push Not at hpending
      obtain ⟨n, hn⟩ := hpending
      exact not_sound_secondFails hhalfway hn
  | cancel =>
      obtain ⟨hwaiting, hremembers⟩ := Classical.not_imp.mp hnot
      push Not at hremembers
      obtain ⟨n, hremembers, hn⟩ := hremembers
      rw [Desk.step, if_pos hwaiting]
      exact not_sound_cancel hremembers hn
  | deliver => exact absurd trivial hnot
  | other n => exact absurd trivial hnot
  | serve ns => exact absurd trivial hnot

/-- In a run in which no number is given that is pending, the client is never misled
exactly when it is given no number that is still announced, it makes both requests or the
first is done by then, and it takes back no number that has come to another. -/
theorem sound_iff_clear (events : List (Event ν))
    (hnumbered : History.Allowed step Numbered start events) :
    History.Always step Sound start events ↔ History.Allowed step Clear start events :=
  History.always_iff_allowed_of_legal Inv (fun _ h => h.sound)
    (fun _ _ h hnumbered hclear => h.step hnumbered hclear)
    (fun _ _ _ _ hnot => not_sound_step hnot) inv_start hnumbered

end Desk

end GnomePilot.Ticket
