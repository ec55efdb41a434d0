import GnomePilot.Conduits.FileInstall

/-!
# The turns of the entry loop

What a turn of the entry loop does, by what becomes of the entry it comes to, and what
the loop makes of a file: its entries are installed one after the other up to the first
that is not.  The loop stands still at an entry of length zero; `loopEnds_iff` says when
it comes to one.
-/

namespace GnomePilot.FileConduit

/-! ## One turn -/

/-- The entry is read, it is neither empty nor too long, and the pilot takes it. -/
def Installs (fl : Link) (i : Nat) (e : Entry) : Prop :=
  fl.readEntry i = false ∧ 0 < e.data.length ∧ e.data.length ≤ 65535 ∧ fl.writeEntry i = false

instance (fl : Link) (i : Nat) (e : Entry) : Decidable (Installs fl i e) :=
  inferInstanceAs (Decidable (_ ∧ _ ∧ _ ∧ _))

def LoopState.wroteEntry (info : DBInfo) (st : LoopState) (e : Entry) : LoopState :=
  { st with
    index := st.index + 1
    keepReading := true
    wrote := st.wrote + 1
    len := e.data.length
    type := e.type
    reset := st.reset || resets info e.type
    calls := st.calls ++ [writeCall info e true] }

section Turn

variable {fl : Link} {info : DBInfo} {entries : List Entry} {st : LoopState} {e : Entry}

theorem installTurn_of_installs (hget : entries[st.index]? = some e)
    (h : Installs fl st.index e) : installTurn fl info entries st = st.wroteEntry info e := by
  obtain ⟨hread, hpos, hlong, hwrite⟩ := h
  have hzero : e.data.length ≠ 0 := by omega
  have hfits : ¬ 65535 < e.data.length := by omega
  unfold installTurn
  simp only [hread, Bool.false_eq_true, if_false, hget, hzero, hfits, hwrite]
  rfl

/-- `continue` skips the `index++` at the end of the body. -/
theorem installTurn_of_empty (hget : entries[st.index]? = some e)
    (hread : fl.readEntry st.index = false) (hlen : e.data.length = 0) :
    installTurn fl info entries st =
      { st with keepReading := true, len := e.data.length, type := e.type } := by
  unfold installTurn
  simp only [hread, Bool.false_eq_true, if_false, hget, hlen, if_true]

theorem installTurn_of_tooLong (hget : entries[st.index]? = some e)
    (hread : fl.readEntry st.index = false) (hlen : 65535 < e.data.length) :
    installTurn fl info entries st =
      { st with
        keepReading := true
        len := e.data.length
        type := e.type
        result := -1
        index := st.index + 1 } := by
  have hzero : e.data.length ≠ 0 := by omega
  unfold installTurn
  simp only [hread, Bool.false_eq_true, if_false, hget, hzero, hlen, if_true]

theorem installTurn_of_refused (hget : entries[st.index]? = some e)
    (hread : fl.readEntry st.index = false) (hpos : 0 < e.data.length)
    (hlong : e.data.length ≤ 65535) (hwrite : fl.writeEntry st.index = true) :
    installTurn fl info entries st =
      { st with
        keepReading := true
        len := e.data.length
        type := e.type
        reset := st.reset || resets info e.type
        result := -1
        index := st.index + 1
        calls := st.calls ++ [writeCall info e false] } := by
  have hzero : e.data.length ≠ 0 := by omega
  have hfits : ¬ 65535 < e.data.length := by omega
  unfold installTurn
  simp only [hread, Bool.false_eq_true, if_false, hget, hzero, hfits, hwrite, if_true]

/-- Nothing is read: the length last read decides. -/
theorem installTurn_of_unread
    (hread : fl.readEntry st.index = true ∨ entries[st.index]? = none) :
    (installTurn fl info entries st).keepReading = false ∧
      (installTurn fl info entries st).calls = st.calls ∧
      (installTurn fl info entries st).result = if 65535 < st.len then -1 else st.result := by
  have hfound : (if fl.readEntry st.index then none else entries[st.index]?) = none := by
    rcases hread with h | h
    · rw [h]
      rfl
    · rw [h, ite_self]
  unfold installTurn
  rw [hfound]
  dsimp only
  by_cases hzero : st.len = 0
  · simp [hzero]
  · by_cases hlong : 65535 < st.len
    · simp [hzero, hlong]
    · simp [hzero, hlong]

theorem cases_of_goesOn (h : (installTurn fl info entries st).goesOn entries = true) :
    ∃ e, entries[st.index]? = some e ∧ fl.readEntry st.index = false ∧
      (Installs fl st.index e ∨ e.data.length = 0) := by
  simp only [LoopState.goesOn, Bool.and_eq_true, decide_eq_true_eq] at h
  have hfailed : ¬ (-1 : Int) = 0 := by decide
  by_cases hread : fl.readEntry st.index = true ∨ entries[st.index]? = none
  · rw [(installTurn_of_unread hread).1] at h
    exact absurd h.1.1 Bool.false_ne_true
  · obtain ⟨hread, hsome⟩ := not_or.mp hread
    obtain ⟨e, hget⟩ := Option.ne_none_iff_exists'.mp hsome
    rw [Bool.not_eq_true] at hread
    refine ⟨e, hget, hread, ?_⟩
    by_cases hzero : e.data.length = 0
    · exact Or.inr hzero
    · by_cases hlong : 65535 < e.data.length
      · rw [installTurn_of_tooLong hget hread hlong] at h
        exact absurd h.1.2 hfailed
      · cases hwrite : fl.writeEntry st.index with
        | true =>
            rw [installTurn_of_refused hget hread (by omega) (by omega) hwrite] at h
            exact absurd h.1.2 hfailed
        | false => exact Or.inl ⟨hread, by omega, by omega, hwrite⟩

end Turn

/-! ## A run of entries -/

def InstallsAll (fl : Link) (i : Nat) (es : List Entry) : Prop :=
  ∀ j e, es[j]? = some e → Installs fl (i + j) e

theorem installsAll_nil (fl : Link) (i : Nat) : InstallsAll fl i [] := by
  intro j e h
  simp at h

theorem installsAll_cons {fl : Link} {i : Nat} {e : Entry} {es : List Entry} :
    InstallsAll fl i (e :: es) ↔ Installs fl i e ∧ InstallsAll fl (i + 1) es := by
  constructor
  · intro h
    refine ⟨h 0 e rfl, fun j e' hget => ?_⟩
    have hnext := h (j + 1) e' hget
    rwa [← Nat.add_assoc, Nat.add_right_comm] at hnext
  · rintro ⟨hhead, htail⟩ j e' hget
    cases j with
    | zero =>
        obtain rfl := Option.some.inj hget
        exact hhead
    | succ j =>
        have hnext := htail j e' hget
        rwa [Nat.add_right_comm, Nat.add_assoc] at hnext

theorem installsAll_append {fl : Link} {i : Nat} {es es' : List Entry} :
    InstallsAll fl i (es ++ es') ↔ InstallsAll fl i es ∧ InstallsAll fl (i + es.length) es' := by
  induction es generalizing i with
  | nil => simp [installsAll_nil]
  | cons e es ih =>
      rw [List.cons_append, installsAll_cons, installsAll_cons, ih, List.length_cons, and_assoc,
        Nat.add_assoc, Nat.add_comm 1]

def LoopState.wroteEntries (info : DBInfo) (st : LoopState) (es : List Entry) : LoopState :=
  es.foldl (LoopState.wroteEntry info) st

theorem wroteEntries_fields (info : DBInfo) (st : LoopState) (es : List Entry) :
    (st.wroteEntries info es).index = st.index + es.length ∧
      (st.wroteEntries info es).result = st.result ∧
      (st.wroteEntries info es).calls =
        st.calls ++ es.map (fun e => writeCall info e true) ∧
      (st.wroteEntries info es).len =
        ((es.getLast?).map (fun e => e.data.length)).getD st.len := by
  induction es generalizing st with
  | nil => simp [LoopState.wroteEntries]
  | cons e es ih =>
      obtain ⟨hindex, hresult, hcalls, hlen⟩ := ih (st.wroteEntry info e)
      have hstep : st.wroteEntries info (e :: es) = (st.wroteEntry info e).wroteEntries info es :=
        rfl
      rw [hstep, hindex, hresult, hcalls, hlen, List.getLast?_cons]
      refine ⟨?_, rfl, by simp [LoopState.wroteEntry], ?_⟩
      · simp only [LoopState.wroteEntry, List.length_cons]
        omega
      · cases es.getLast? with
        | none => rfl
        | some e' => rfl

section Run

variable {fl : Link} {info : DBInfo} {entries : List Entry}

/-- More turns do no harm. -/
theorem installLoop_add {n : Nat} {st st' : LoopState}
    (h : installLoop fl info entries n st = some st') (k : Nat) :
    installLoop fl info entries (n + k) st = some st' := by
  induction n generalizing st with
  | zero => contradiction
  | succ n ih =>
      rw [Nat.add_right_comm]
      simp only [installLoop] at h ⊢
      split at h
      next hgo => rw [if_pos hgo, ih h]
      next hgo => rw [if_neg hgo, h]

theorem installLoop_installsAll {before mid rest : List Entry} {st : LoopState}
    (hindex : st.index = before.length) (hresult : st.result = 0)
    (h : InstallsAll fl st.index mid) (fuel : Nat) :
    installLoop fl info (before ++ mid ++ rest) (mid.length + fuel) st =
      if mid ≠ [] ∧ rest = [] then some (st.wroteEntries info mid)
      else installLoop fl info (before ++ mid ++ rest) fuel (st.wroteEntries info mid) := by
  induction mid generalizing before st with
  | nil => simp [LoopState.wroteEntries]
  | cons e mid ih =>
      obtain ⟨hhead, htail⟩ := installsAll_cons.mp h
      have hlist : before ++ e :: mid ++ rest = (before ++ [e]) ++ mid ++ rest := by simp
      have hget : (before ++ e :: mid ++ rest)[st.index]? = some e := by
        rw [hindex, List.append_assoc, List.getElem?_append_right (Nat.le_refl _), Nat.sub_self]
        rfl
      have hturn : installTurn fl info (before ++ e :: mid ++ rest) st = st.wroteEntry info e :=
        installTurn_of_installs hget hhead
      have hnext : (st.wroteEntry info e).index = (before ++ [e]).length := by
        rw [List.length_append, ← hindex]
        rfl
      have hgo : (st.wroteEntry info e).goesOn (before ++ e :: mid ++ rest) =
          decide (mid ++ rest ≠ []) := by
        cases hrest : mid ++ rest with
        | nil => simp [LoopState.goesOn, LoopState.wroteEntry, hindex, hresult, hrest]
        | cons e' es => simp [LoopState.goesOn, LoopState.wroteEntry, hindex, hresult, hrest]
      rw [List.length_cons, Nat.add_right_comm]
      simp only [installLoop]
      rw [hturn, hgo]
      by_cases hlast : mid ++ rest = []
      · obtain ⟨rfl, rfl⟩ := List.append_eq_nil_iff.mp hlast
        simp [LoopState.wroteEntries]
      · rw [if_pos (by simp [hlast]), hlist, ih hnext hresult htail]
        by_cases hrest : rest = []
        · have hmid : mid ≠ [] := by
            rintro rfl
            exact hlast hrest
          rw [if_pos ⟨hmid, hrest⟩, if_pos ⟨List.cons_ne_nil e mid, hrest⟩]
          rfl
        · rw [if_neg (fun h => hrest h.2), if_neg (fun h => hrest h.2)]
          rfl

end Run

/-! ## When the loop ends -/

/-- The loop comes to its body with these variables. -/
inductive Turns (fl : Link) (info : DBInfo) (entries : List Entry) (start : LoopState) :
    LoopState → Prop
  | start : Turns fl info entries start start
  | next {st : LoopState} : Turns fl info entries start st →
      (installTurn fl info entries st).goesOn entries = true →
      Turns fl info entries start (installTurn fl info entries st)

/-- The loop ends, and every turn leaves it or moves on to a later entry. -/
def LoopEnds (fl : Link) (info : DBInfo) (entries : List Entry) (start : LoopState) : Prop :=
  (∃ n st, installLoop fl info entries n start = some st) ∧
    ∀ st, Turns fl info entries start st →
      (installTurn fl info entries st).goesOn entries = false ∨
        st.index < (installTurn fl info entries st).index

def NoEmptyReached (fl : Link) (entries : List Entry) : Prop :=
  ∀ i e, entries[i]? = some e → e.data.length = 0 →
    fl.readEntry i = true ∨ ¬ InstallsAll fl 0 (entries.take i)

section Ends

variable {fl : Link} {info : DBInfo} {entries : List Entry} {start : LoopState}

/-- Every turn up to the end has installed an entry. -/
theorem Turns.installsAll (hclear : NoEmptyReached fl entries) (hindex : start.index = 0)
    {st : LoopState} (h : Turns fl info entries start st) :
    InstallsAll fl 0 (entries.take st.index) ∧ st.index ≤ entries.length := by
  induction h with
  | start =>
      rw [hindex]
      exact ⟨installsAll_nil fl 0, Nat.zero_le _⟩
  | @next st _ hgo ih =>
      obtain ⟨e, hget, hread, hcase⟩ := cases_of_goesOn hgo
      have hlt : st.index < entries.length := (List.getElem?_eq_some_iff.mp hget).choose
      rcases hcase with hinstalls | hempty
      · rw [installTurn_of_installs hget hinstalls]
        refine ⟨?_, hlt⟩
        change InstallsAll fl 0 (entries.take (st.index + 1))
        rw [List.take_add_one, hget, installsAll_append]
        refine ⟨ih.1, ?_⟩
        rw [List.length_take, Nat.min_eq_left ih.2, Nat.zero_add]
        exact installsAll_cons.mpr ⟨hinstalls, installsAll_nil fl _⟩
      · rcases hclear st.index e hget hempty with hfails | hnot
        · rw [hread] at hfails
          contradiction
        · exact absurd ih.1 hnot

theorem advances_of_noEmptyReached (hclear : NoEmptyReached fl entries)
    (hindex : start.index = 0) {st : LoopState} (h : Turns fl info entries start st)
    (hgo : (installTurn fl info entries st).goesOn entries = true) :
    (installTurn fl info entries st).index = st.index + 1 := by
  obtain ⟨e, hget, hread, hcase⟩ := cases_of_goesOn hgo
  rcases hcase with hinstalls | hempty
  · rw [installTurn_of_installs hget hinstalls]
    rfl
  · rcases hclear st.index e hget hempty with hfails | hnot
    · rw [hread] at hfails
      contradiction
    · exact absurd (h.installsAll hclear hindex).1 hnot

/-- A turn for every entry left, and one, is enough. -/
theorem installLoop_ends (hclear : NoEmptyReached fl entries) (hindex : start.index = 0)
    (fuel : Nat) {st : LoopState} (h : Turns fl info entries start st)
    (hfuel : entries.length < fuel + st.index) :
    ∃ st', installLoop fl info entries fuel st = some st' := by
  induction fuel generalizing st with
  | zero =>
      have hle := (h.installsAll hclear hindex).2
      omega
  | succ fuel ih =>
      simp only [installLoop]
      cases hgo : (installTurn fl info entries st).goesOn entries with
      | false => exact ⟨_, rfl⟩
      | true =>
          have hnext := advances_of_noEmptyReached hclear hindex h hgo
          exact ih (h.next hgo) (by omega)

theorem installLoop_eq_none_of_empty (hindex : start.index = 0) (hresult : start.result = 0)
    {i : Nat} {e : Entry} (hget : entries[i]? = some e) (hempty : e.data.length = 0)
    (hread : fl.readEntry i = false) (hall : InstallsAll fl 0 (entries.take i)) (fuel : Nat) :
    installLoop fl info entries fuel start = none := by
  have hlt : i < entries.length := (List.getElem?_eq_some_iff.mp hget).choose
  have hlength : (entries.take i).length = i := by
    rw [List.length_take]
    omega
  have hsplit : entries = [] ++ entries.take i ++ entries.drop i := by simp
  have hrest : entries.drop i ≠ [] := by
    rw [ne_eq, List.drop_eq_nil_iff]
    omega
  obtain ⟨hat, hok, -, -⟩ := wroteEntries_fields info start (entries.take i)
  rw [hindex, hlength, Nat.zero_add] at hat
  have hstuck : ∀ n, installLoop fl info entries n
      (start.wroteEntries info (entries.take i)) = none := by
    intro n
    cases n with
    | zero => rfl
    | succ n =>
        generalize hst : start.wroteEntries info (entries.take i) = st at hat hok ⊢
        have hturn := @installTurn_of_empty fl info entries st e (by rw [hat, hget])
          (by rw [hat, hread]) hempty
        have hgo : (installTurn fl info entries st).goesOn entries = true := by
          rw [hturn]
          simp [LoopState.goesOn, hok, hresult, hat, hlt]
        simp only [installLoop]
        rw [if_pos hgo]
        refine installLoop_stuck hgo ?_ n
        have hsame := @installTurn_of_empty fl info entries (installTurn fl info entries st) e
        rw [hturn] at hsame ⊢
        exact hsame (by rw [hat, hget]) (by rw [hat, hread]) hempty
  cases hrun : installLoop fl info entries fuel start with
  | none => rfl
  | some st' =>
      have hmore := installLoop_add hrun i
      have hgoes := @installLoop_installsAll fl info [] (entries.take i) (entries.drop i) start
        hindex hresult (by rw [hindex]; exact hall) fuel
      rw [if_neg (fun h => hrest h.2), ← hsplit, hlength, Nat.add_comm, hmore, hstuck] at hgoes
      contradiction

end Ends

/-- The loop over a file ends exactly when it comes to no entry of length zero. -/
theorem loopEnds_iff (fl : Link) (info : DBInfo) (entries : List Entry) (app : List UInt8)
    (reset : Bool) :
    LoopEnds fl info entries (loopStart fl info app reset) ↔ NoEmptyReached fl entries := by
  constructor
  · rintro ⟨⟨n, st, hends⟩, -⟩ i e hget hempty
    cases hread : fl.readEntry i with
    | true => exact Or.inl rfl
    | false =>
        refine Or.inr fun hall => ?_
        rw [installLoop_eq_none_of_empty rfl rfl hget hempty hread hall] at hends
        contradiction
  · intro hclear
    constructor
    · have hstart : Turns fl info entries (loopStart fl info app reset)
          (loopStart fl info app reset) := Turns.start
      obtain ⟨st, hends⟩ := installLoop_ends hclear rfl (entries.length + 1) hstart
        (by simp [loopStart])
      exact ⟨_, st, hends⟩
    · intro st hst
      cases hgo : (installTurn fl info entries st).goesOn entries with
      | false => exact Or.inl rfl
      | true =>
          have hnext := advances_of_noEmptyReached hclear rfl hst hgo
          exact Or.inr (by omega)

/-! ## A file that hangs -/

/-- Nothing fails. -/
def soundLink : Link :=
  ⟨false, false, fun _ => false, fun _ => false, fun _ => false, 0x300, 0⟩

def memoInfo : DBInfo := ⟨"Memos", 1, 2, 1, false, false, false⟩

/-- A record of length zero. -/
def emptyRecord : Entry := ⟨0, 1, 0, 0, []⟩

/-- The loop never leaves the record of length zero. -/
theorem emptyRecord_hangs :
    (∀ n, installLoop soundLink memoInfo [emptyRecord] n
      (loopStart soundLink memoInfo [] false) = none) ∧
      ¬ LoopEnds soundLink memoInfo [emptyRecord] (loopStart soundLink memoInfo [] false) := by
  have hnone : ∀ n, installLoop soundLink memoInfo [emptyRecord] n
      (loopStart soundLink memoInfo [] false) = none :=
    @installLoop_eq_none_of_empty soundLink memoInfo [emptyRecord] _ rfl rfl 0 emptyRecord
      rfl rfl rfl (installsAll_nil _ _)
  refine ⟨hnone, fun h => ?_⟩
  obtain ⟨⟨n, st, hends⟩, -⟩ := h
  rw [hnone n] at hends
  contradiction

end GnomePilot.FileConduit
