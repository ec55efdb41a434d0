import GnomePilot.Conduits.BackupRestore
import Mathlib.Data.Finset.Max

/-!
# The order of a restore

`compare` sorts the types of `appl` after the other types of their creator, and all
other pairs by size.  The two rules do not make an order, and the exchange sort can
leave a database behind its creator's `appl`.  Which sets of files it can happen to
is told by the files alone: some files are `Tangled`.
-/

namespace GnomePilot.BackupConduit

open FileConduit

def FileDB.IsAppl (d : FileDB) : Prop := d.type = piMktag 'a' 'p' 'p' 'l'

instance (d : FileDB) : Decidable d.IsAppl :=
  inferInstanceAs (Decidable (d.type = piMktag 'a' 'p' 'p' 'l'))

/-- No database of type `appl` comes before one of another type of its creator. -/
def ApplLast (dbs : List FileDB) : Prop :=
  dbs.Pairwise (fun d d' => d.creator = d'.creator → d.IsAppl → d'.IsAppl)

instance (dbs : List FileDB) : Decidable (ApplLast dbs) :=
  inferInstanceAs (Decidable (dbs.Pairwise _))

/-! ## Tangled files -/

/-- An `appl` and another type of its creator. -/
structure Bound (dbs : List FileDB) (a b : FileDB) : Prop where
  appl_mem : a ∈ dbs
  mem : b ∈ dbs
  creator : a.creator = b.creator
  appl : a.IsAppl
  not_appl : ¬ b.IsAppl

/-- A file of another creator is smaller than the `appl`, and no smaller than the
database that should come before it. -/
structure Between (dbs : List FileDB) (a b x : FileDB) : Prop where
  bound : Bound dbs a b
  mem : x ∈ dbs
  other : x.creator ≠ a.creator
  le : b.maxblock ≤ x.maxblock
  lt : x.maxblock < a.maxblock

/-- The `appl` and its database are as large as the `appl` of another creator, whose
own database is smaller. -/
structure Level (dbs : List FileDB) (a b a' b' : FileDB) : Prop where
  bound : Bound dbs a b
  bound' : Bound dbs a' b'
  other : a'.creator ≠ a.creator
  eq : b.maxblock = a.maxblock
  eq' : a'.maxblock = a.maxblock
  lt : b'.maxblock < a.maxblock

def Tangled (dbs : List FileDB) : Prop :=
  (∃ a b x, Between dbs a b x) ∨ ∃ a b a' b', Level dbs a b a' b'

theorem Bound.of_mem {dbs dbs' : List FileDB} {a b : FileDB} (h : Bound dbs a b)
    (ha : a ∈ dbs') (hb : b ∈ dbs') : Bound dbs' a b :=
  { h with appl_mem := ha, mem := hb }

theorem Tangled.subset {dbs dbs' : List FileDB} (h : Tangled dbs) (hsub : dbs ⊆ dbs') :
    Tangled dbs' := by
  rcases h with ⟨a, b, x, h⟩ | ⟨a, b, a', b', h⟩
  · exact Or.inl ⟨a, b, x, { h with
      bound := h.bound.of_mem (hsub h.bound.appl_mem) (hsub h.bound.mem), mem := hsub h.mem }⟩
  · exact Or.inr ⟨a, b, a', b', { h with
      bound := h.bound.of_mem (hsub h.bound.appl_mem) (hsub h.bound.mem)
      bound' := h.bound'.of_mem (hsub h.bound'.appl_mem) (hsub h.bound'.mem) }⟩

/-! ## Comparing and exchanging -/

theorem compare_pos_iff (d d' : FileDB) : 0 < compare d d' ↔
    (d.creator = d'.creator ∧ d.IsAppl ∧ ¬ d'.IsAppl) ∨
      ((d.creator = d'.creator → (d.IsAppl ↔ d'.IsAppl)) ∧ d.maxblock < d'.maxblock) := by
  unfold compare FileDB.IsAppl
  split
  · grind
  · split
    · grind
    · grind

theorem not_compare_pos {d d' : FileDB} (hle : d'.maxblock ≤ d.maxblock)
    (happl : d.creator = d'.creator → d.IsAppl → d'.IsAppl) : ¬ 0 < compare d d' := by
  rw [compare_pos_iff]
  rintro (⟨hcreator, hd, hd'⟩ | ⟨_, hlt⟩)
  · exact hd' (happl hcreator hd)
  · omega

/-- What the slot holds after the inner loop. -/
theorem exchange_fst (d : FileDB) (dbs : List FileDB) :
    (exchange d dbs).1 = dbs.foldl (fun k d' => if 0 < compare k d' then d' else k) d := by
  induction dbs generalizing d with
  | nil => rfl
  | cons d' rest ih =>
      unfold exchange
      rw [List.foldl_cons]
      split
      · exact ih d'
      · exact ih d

theorem length_exchange_snd (d : FileDB) (dbs : List FileDB) :
    (exchange d dbs).2.length = dbs.length := by
  have h := (exchange_perm d dbs).length_eq
  rw [List.length_cons, List.length_cons] at h
  omega

theorem sortDbs_cons (d : FileDB) (dbs : List FileDB) :
    sortDbs (d :: dbs) = (exchange d dbs).1 :: sortDbs (exchange d dbs).2 := by
  unfold sortDbs
  rw [length_exchange_snd]
  rfl

/-! ## Files that are not tangled -/

/-- The database `b` may stay behind the file `k` of a slot: `k` is not the `appl` of
its creator, and is no smaller or else belongs to an `appl` of the size of `b`. -/
structure Fine (dbs : List FileDB) (b k : FileDB) : Prop where
  not_appl : k.creator = b.creator → ¬ k.IsAppl
  size : b.maxblock ≤ k.maxblock ∨
    k.creator ≠ b.creator ∧ ∃ a, Bound dbs a k ∧ a.maxblock = b.maxblock

theorem fine_self (dbs : List FileDB) {b : FileDB} (hb : ¬ b.IsAppl) : Fine dbs b b where
  not_appl := fun _ => hb
  size := Or.inl (Nat.le_refl _)

theorem fine_of_not_compare_pos (dbs : List FileDB) {b k : FileDB} (hb : ¬ b.IsAppl)
    (h : ¬ 0 < compare k b) : Fine dbs b k := by
  rw [compare_pos_iff, not_or] at h
  have happl : k.creator = b.creator → ¬ k.IsAppl := fun hcreator hk => h.1 ⟨hcreator, hk, hb⟩
  refine ⟨happl, Or.inl (Nat.le_of_not_lt fun hlt => h.2 ⟨fun hcreator => ?_, hlt⟩)⟩
  exact iff_of_false (happl hcreator) hb

/-- An exchange within one creator: the `appl` gives way to the database `k'`. -/
theorem Fine.of_appl {dbs : List FileDB} {b k k' : FileDB} (h : Fine dbs b k)
    (hnot : ¬ Tangled dbs) (hb : b ∈ dbs) (hbound : Bound dbs k k') : Fine dbs b k' := by
  have hother : b.creator ≠ k.creator := fun hcreator =>
    h.not_appl hcreator.symm hbound.appl
  have hle : b.maxblock ≤ k.maxblock := by
    rcases h.size with hle | ⟨_, a, ha, _⟩
    · exact hle
    · exact absurd hbound.appl ha.not_appl
  refine ⟨fun _ => hbound.not_appl, ?_⟩
  by_cases hsize : b.maxblock ≤ k'.maxblock
  · exact Or.inl hsize
  · -- A smaller `b` would lie between the two.
    have heq : k.maxblock = b.maxblock := by
      by_contra hne
      exact hnot (Or.inl ⟨k, k', b, hbound, hb, hother, by omega, by omega⟩)
    exact Or.inr ⟨fun hcreator => hother (hbound.creator.trans hcreator).symm, k, hbound, heq⟩

/-- An exchange by size. -/
theorem Fine.of_lt {dbs : List FileDB} {b k k' : FileDB} (h : Fine dbs b k)
    (hnot : ¬ Tangled dbs) (hb : b ∈ dbs) (hk : k ∈ dbs) (hk' : k' ∈ dbs) (hbappl : ¬ b.IsAppl)
    (happl : k.creator = k'.creator → (k.IsAppl ↔ k'.IsAppl))
    (hlt : k.maxblock < k'.maxblock) : Fine dbs b k' := by
  rcases h.size with hle | ⟨hother, a, ha, heq⟩
  · refine ⟨fun hcreator hk'appl => ?_, Or.inl (by omega)⟩
    have hbound : Bound dbs k' b := ⟨hk', hb, hcreator, hk'appl, hbappl⟩
    by_cases hsame : k.creator = k'.creator
    · exact h.not_appl (hsame.trans hcreator) ((happl hsame).mpr hk'appl)
    · exact hnot (Or.inl ⟨k', b, k, hbound, hk, hsame, hle, hlt⟩)
  · -- `k` belongs to the `appl` `a`, which is as large as `b`.
    have hbetween : k'.maxblock < b.maxblock → k'.creator = k.creator := fun hlt' => by
      by_contra hne
      exact hnot (Or.inl ⟨a, k, k', ha, hk', fun h => hne (h.trans ha.creator), by omega, by omega⟩)
    constructor
    · intro hcreator hk'appl
      have hbound : Bound dbs k' b := ⟨hk', hb, hcreator, hk'appl, hbappl⟩
      have hother' : a.creator ≠ k'.creator := fun h =>
        hother (ha.creator.symm.trans (h.trans hcreator))
      rcases Nat.lt_trichotomy k'.maxblock b.maxblock with hlt' | heq' | hlt'
      · exact hother' (ha.creator.trans (hbetween hlt').symm)
      · exact hnot (Or.inr ⟨k', b, a, k, hbound, ha, hother', by omega, by omega, by omega⟩)
      · exact hnot (Or.inl ⟨k', b, a, hbound, ha.appl_mem, hother', by omega, by omega⟩)
    · by_cases hsize : b.maxblock ≤ k'.maxblock
      · exact Or.inl hsize
      · have hsame : k'.creator = k.creator := hbetween (by omega)
        have hk'appl : ¬ k'.IsAppl := fun h => ha.not_appl ((happl hsame.symm).mpr h)
        exact Or.inr ⟨fun hcreator => hother (hsame.symm.trans hcreator), a,
          ⟨ha.appl_mem, hk', ha.creator.trans hsame.symm, ha.appl, hk'appl⟩, heq⟩

theorem Fine.step {dbs : List FileDB} {b k k' : FileDB} (h : Fine dbs b k)
    (hnot : ¬ Tangled dbs) (hb : b ∈ dbs) (hk : k ∈ dbs) (hk' : k' ∈ dbs) (hbappl : ¬ b.IsAppl)
    (hpos : 0 < compare k k') : Fine dbs b k' := by
  rcases (compare_pos_iff k k').mp hpos with ⟨hcreator, hkappl, hk'appl⟩ | ⟨happl, hlt⟩
  · exact h.of_appl hnot hb ⟨hk, hk', hcreator, hkappl, hk'appl⟩
  · exact h.of_lt hnot hb hk hk' hbappl happl hlt

/-- What was fine with the slot's first file is fine with its last one. -/
theorem Fine.exchange {dbs : List FileDB} {b d : FileDB} {rest : List FileDB} (h : Fine dbs b d)
    (hnot : ¬ Tangled dbs) (hb : b ∈ dbs) (hbappl : ¬ b.IsAppl) (hsub : d :: rest ⊆ dbs) :
    Fine dbs b (exchange d rest).1 := by
  induction rest generalizing d with
  | nil => exact h
  | cons d' rest ih =>
      obtain ⟨hd, hsub'⟩ := List.cons_subset.mp hsub
      obtain ⟨hd', hrest⟩ := List.cons_subset.mp hsub'
      unfold BackupConduit.exchange
      split
      case isTrue hpos => exact ih (h.step hnot hb hd hd' hbappl hpos) hsub'
      case isFalse => exact ih h (List.cons_subset.mpr ⟨hd, hrest⟩)

/-- Every database behind the slot is fine with what the slot holds. -/
theorem fine_exchange {dbs : List FileDB} {b d : FileDB} {rest : List FileDB}
    (hnot : ¬ Tangled dbs) (hbappl : ¬ b.IsAppl) (hsub : d :: rest ⊆ dbs)
    (hb : b ∈ (exchange d rest).2) : Fine dbs b (exchange d rest).1 := by
  induction rest generalizing d with
  | nil => contradiction
  | cons d' rest ih =>
      obtain ⟨hd, hsub'⟩ := List.cons_subset.mp hsub
      obtain ⟨hd', hrest⟩ := List.cons_subset.mp hsub'
      have hsubd : d :: rest ⊆ dbs := List.cons_subset.mpr ⟨hd, hrest⟩
      unfold exchange at hb ⊢
      split at hb
      case isTrue hpos =>
        rw [if_pos hpos]
        rcases List.mem_cons.mp hb with rfl | hb
        · have hfine := (fine_self dbs hbappl).step hnot hd hd hd' hbappl hpos
          exact hfine.exchange hnot hd hbappl hsub'
        · exact ih hsub' hb
      case isFalse hpos =>
        rw [if_neg hpos]
        rcases List.mem_cons.mp hb with rfl | hb
        · exact (fine_of_not_compare_pos dbs hbappl hpos).exchange hnot hd' hbappl hsubd
        · exact ih hsubd hb

theorem applLast_of_not_tangled {dbs : List FileDB} (hnot : ¬ Tangled dbs) :
    ApplLast (sortDbs dbs) := by
  induction hlength : dbs.length generalizing dbs with
  | zero =>
      rw [List.length_eq_zero_iff.mp hlength]
      exact List.Pairwise.nil
  | succ n ih =>
      obtain ⟨d, rest, rfl⟩ := List.exists_cons_of_length_eq_add_one hlength
      rw [sortDbs_cons]
      have hsub : (exchange d rest).2 ⊆ d :: rest := fun x hx =>
        (exchange_perm d rest).subset (List.mem_cons_of_mem _ hx)
      have hlength' : (exchange d rest).2.length = n := by
        rw [length_exchange_snd]
        exact Nat.succ.inj hlength
      have hlast := ih (fun h => hnot (h.subset hsub)) hlength'
      refine List.Pairwise.cons (fun b hb hcreator happl => ?_) hlast
      by_contra hbappl
      have hfine := fine_exchange hnot hbappl (List.Subset.refl _)
        ((sortDbs_perm _).mem_iff.mp hb)
      exact hfine.not_appl hcreator happl

/-! ## Files that are tangled -/

/-- Some order of the directory leaves a database behind its `appl`. -/
def Breakable (dbs : List FileDB) : Prop := ∃ dbs', dbs'.Perm dbs ∧ ¬ ApplLast (sortDbs dbs')

theorem Breakable.of_perm {dbs dbs' : List FileDB} (h : Breakable dbs) (hperm : dbs.Perm dbs') :
    Breakable dbs' := by
  obtain ⟨order, horder, hbreaks⟩ := h
  exact ⟨order, horder.trans hperm, hbreaks⟩

theorem exchange_fst_of_forall {d : FileDB} {dbs : List FileDB}
    (h : ∀ d' ∈ dbs, ¬ 0 < compare d d') (rest : List FileDB) :
    (exchange d (dbs ++ rest)).1 = (exchange d rest).1 := by
  induction dbs with
  | nil => rfl
  | cons d' dbs ih =>
      rw [List.cons_append, exchange_fst, List.foldl_cons, if_neg (h d' List.mem_cons_self),
        ← exchange_fst]
      exact ih fun d' hd' => h d' (List.mem_cons_of_mem _ hd')

theorem exchange_fst_of_pos {d d' : FileDB} (h : 0 < compare d d') (rest : List FileDB) :
    (exchange d (d' :: rest)).1 = (exchange d' rest).1 := by
  rw [exchange_fst, List.foldl_cons, if_pos h, ← exchange_fst]

theorem exchange_of_forall {d : FileDB} {dbs : List FileDB}
    (h : ∀ d' ∈ dbs, ¬ 0 < compare d d') : exchange d dbs = (d, dbs) := by
  induction dbs with
  | nil => rfl
  | cons d' dbs ih =>
      unfold exchange
      rw [if_neg (h d' List.mem_cons_self), ih fun d' hd' => h d' (List.mem_cons_of_mem _ hd')]

/-- A file that no other is exchanged with may come first. -/
theorem Breakable.cons {d : FileDB} {dbs : List FileDB} (h : Breakable dbs)
    (hfirst : ∀ d' ∈ dbs, ¬ 0 < compare d d') : Breakable (d :: dbs) := by
  obtain ⟨order, horder, hbreaks⟩ := h
  refine ⟨d :: order, horder.cons d, fun happlLast => hbreaks ?_⟩
  rw [sortDbs_cons, exchange_of_forall fun d' hd' => hfirst d' (horder.mem_iff.mp hd')]
    at happlLast
  exact happlLast.of_cons

/-- An `appl` that comes first leaves its databases behind. -/
theorem not_applLast_of_first {d a b : FileDB} {dbs rest : List FileDB}
    (hfirst : (exchange d rest).1 = a) (hperm : (d :: rest).Perm dbs) (hbound : Bound dbs a b) :
    ¬ ApplLast (sortDbs (d :: rest)) := by
  intro happlLast
  rw [sortDbs_cons, hfirst] at happlLast
  have hmem : b ∈ a :: (exchange d rest).2 := by
    rw [← hfirst]
    exact (exchange_perm d rest).mem_iff.mpr (hperm.mem_iff.mpr hbound.mem)
  have hne : b ≠ a := fun h => hbound.not_appl (h ▸ hbound.appl)
  have hbehind : b ∈ sortDbs (exchange d rest).2 :=
    (sortDbs_perm _).mem_iff.mpr ((List.mem_cons.mp hmem).resolve_left hne)
  exact hbound.not_appl (List.rel_of_pairwise_cons happlLast hbehind hbound.creator hbound.appl)

/-- The databases of the creator of `a`. -/
def ownData (a d : FileDB) : Bool := d.creator = a.creator ∧ ¬ d.IsAppl

/-- The databases of a creator are put before the other files. -/
theorem filter_append_cons_perm (a d : FileDB) (dbs : List FileDB) :
    (dbs.filter (ownData a) ++ d :: dbs.filter (fun d' => !ownData a d')).Perm (d :: dbs) :=
  List.perm_middle.trans ((List.filter_append_perm _ _).cons d)

/-- The largest files. -/
def Top (dbs : List FileDB) (d : FileDB) : Prop := ∀ d' ∈ dbs, d'.maxblock ≤ d.maxblock

/-- A largest `appl` is not exchanged with the files that are not its databases. -/
theorem Top.not_compare_pos {dbs : List FileDB} {a d : FileDB} (h : Top dbs a) (hd : d ∈ dbs)
    (hown : ownData a d = false) : ¬ 0 < compare a d := by
  refine BackupConduit.not_compare_pos (h d hd) fun hcreator _ => ?_
  unfold ownData at hown
  by_contra hdappl
  exact of_decide_eq_false hown ⟨hcreator.symm, hdappl⟩

theorem exists_largest {dbs : List FileDB} {p : FileDB → Prop} (h : ∃ d ∈ dbs, p d) :
    ∃ d ∈ dbs, p d ∧ ∀ d' ∈ dbs, p d' → d'.maxblock ≤ d.maxblock := by
  classical
  obtain ⟨d, hd, hp⟩ := h
  have hne : (dbs.toFinset.filter p).Nonempty :=
    ⟨d, Finset.mem_filter.mpr ⟨List.mem_toFinset.mpr hd, hp⟩⟩
  obtain ⟨m, hm, hmax⟩ := Finset.exists_max_image _ FileDB.maxblock hne
  obtain ⟨hmem, hpm⟩ := Finset.mem_filter.mp hm
  refine ⟨m, List.mem_toFinset.mp hmem, hpm, fun d' hd' hpd' => ?_⟩
  exact hmax d' (Finset.mem_filter.mpr ⟨List.mem_toFinset.mpr hd', hpd'⟩)

/-- A file of another creator stays in the slot past databases that are no larger. -/
theorem exchange_fst_ownData {a d : FileDB} {dbs : List FileDB} (hother : d.creator ≠ a.creator)
    (hle : ∀ d' ∈ dbs, ownData a d' = true → d'.maxblock ≤ d.maxblock) (rest : List FileDB) :
    (exchange d (dbs.filter (ownData a) ++ rest)).1 = (exchange d rest).1 := by
  refine exchange_fst_of_forall (fun d' hd' => ?_) rest
  obtain ⟨hmem, hown⟩ := List.mem_filter.mp hd'
  refine not_compare_pos (hle d' hmem hown) fun hcreator _ => absurd ?_ hother
  exact hcreator.trans (of_decide_eq_true hown).1

/-- A largest `appl` stays in the slot past what are not its databases. -/
theorem Top.exchange_fst {dbs rest : List FileDB} {a : FileDB} (h : Top dbs a)
    (hrest : rest ⊆ dbs) : (exchange a (rest.filter fun d => !ownData a d)).1 = a := by
  rw [exchange_of_forall]
  intro d hd
  obtain ⟨hmem, hown⟩ := List.mem_filter.mp hd
  exact h.not_compare_pos (hrest hmem) (by simpa using hown)

/-- The largest of another creator's files stays in the slot until the `appl` comes,
past databases that are no larger. -/
theorem breakable_of_small {dbs : List FileDB} {a b x : FileDB} (hbound : Bound dbs a b)
    (htop : Top dbs a) (hx : x ∈ dbs) (hother : x.creator ≠ a.creator)
    (hlt : x.maxblock < a.maxblock)
    (hsmall : ∀ d ∈ dbs, ownData a d = true → d.maxblock ≤ x.maxblock) : Breakable dbs := by
  let rest := (dbs.erase x).erase a
  have hne : a ≠ x := fun h => hother (congrArg FileDB.creator h.symm)
  have hperm : (x :: (rest.filter (ownData a) ++ a :: rest.filter (fun d => !ownData a d))).Perm
      dbs := by
    refine ((filter_append_cons_perm a a rest).cons x).trans (List.Perm.symm ?_)
    exact (List.perm_cons_erase hx).trans
      ((List.perm_cons_erase ((List.mem_erase_of_ne hne).mpr hbound.appl_mem)).cons x)
  have hrest : rest ⊆ dbs := fun d hd => List.mem_of_mem_erase (List.mem_of_mem_erase hd)
  refine ⟨_, hperm, not_applLast_of_first ?_ hperm hbound⟩
  have hpos : 0 < compare x a :=
    (compare_pos_iff x a).mpr (Or.inr ⟨fun h => absurd h hother, hlt⟩)
  rw [exchange_fst_ownData hother fun d hd => hsmall d (hrest hd), exchange_fst_of_pos hpos]
  exact htop.exchange_fst hrest

/-- The `appl` of one creator stays in the slot past the databases of the other one,
gives way to its own database, and this one to the other `appl`. -/
theorem breakable_of_two {dbs : List FileDB} {a b a' b' : FileDB} (hbound : Bound dbs a b)
    (hbound' : Bound dbs a' b') (htop : Top dbs a) (htop' : Top dbs a')
    (hother : a'.creator ≠ a.creator) (hlt : b'.maxblock < a'.maxblock) : Breakable dbs := by
  let rest := ((dbs.erase a').erase b').erase a
  have hother' : b'.creator ≠ a.creator := fun h => hother (hbound'.creator.trans h)
  have hperm : (a' :: (rest.filter (ownData a) ++
      b' :: a :: rest.filter (fun d => !ownData a d))).Perm dbs := by
    have hne : b' ≠ a' := fun h => hbound'.not_appl (h ▸ hbound'.appl)
    have hb' : b' ∈ dbs.erase a' := (List.mem_erase_of_ne hne).mpr hbound'.mem
    have ha : a ∈ (dbs.erase a').erase b' := by
      rw [List.mem_erase_of_ne fun h => hother' (congrArg FileDB.creator h.symm),
        List.mem_erase_of_ne fun h => hother (congrArg FileDB.creator h.symm)]
      exact hbound.appl_mem
    have hfilter : (a' :: (rest.filter (ownData a) ++
        b' :: a :: rest.filter (fun d => !ownData a d))).Perm (a' :: b' :: a :: rest) :=
      (List.perm_middle.trans ((filter_append_cons_perm a a rest).cons b')).cons a'
    have herase : (b' :: a :: rest).Perm (dbs.erase a') :=
      ((List.perm_cons_erase ha).symm.cons b').trans (List.perm_cons_erase hb').symm
    exact (hfilter.trans (herase.cons a')).trans (List.perm_cons_erase hbound'.appl_mem).symm
  have hrest : rest ⊆ dbs := fun d hd =>
    List.mem_of_mem_erase (List.mem_of_mem_erase (List.mem_of_mem_erase hd))
  refine ⟨_, hperm, not_applLast_of_first ?_ hperm hbound⟩
  have hpos' : 0 < compare a' b' :=
    (compare_pos_iff a' b').mpr (Or.inl ⟨hbound'.creator, hbound'.appl, hbound'.not_appl⟩)
  have hpos : 0 < compare b' a := by
    refine (compare_pos_iff b' a).mpr (Or.inr ⟨fun h => absurd h hother', ?_⟩)
    exact Nat.lt_of_lt_of_le hlt (htop a' hbound'.appl_mem)
  rw [exchange_fst_ownData hother fun d hd _ => htop' d (hrest hd), exchange_fst_of_pos hpos',
    exchange_fst_of_pos hpos]
  exact htop.exchange_fst hrest

theorem Top.of_le {dbs : List FileDB} {d d' : FileDB} (h : Top dbs d)
    (hle : d.maxblock ≤ d'.maxblock) : Top dbs d' := fun x hx => (h x hx).trans hle

theorem Level.breakable {dbs : List FileDB} {a b a' b' : FileDB} (h : Level dbs a b a' b')
    (htop : Top dbs a) : Breakable dbs :=
  breakable_of_two h.bound h.bound' htop (htop.of_le h.eq'.ge) h.other (h.eq' ▸ h.lt)

/-! ## Leaving a file out -/

/-- A largest file that is the `appl` of no database is in no tangle, except one that
breaks. -/
theorem Tangled.erase_free {dbs : List FileDB} {d : FileDB} (h : Tangled dbs)
    (htop : Top dbs d) (hfree : ∀ b, ¬ Bound dbs d b) :
    Tangled (dbs.erase d) ∨ Breakable dbs := by
  have hmem : ∀ {y}, y ∈ dbs → y ≠ d → y ∈ dbs.erase d := fun hy hne =>
    (List.mem_erase_of_ne hne).mpr hy
  have happl : ∀ {a b}, Bound dbs a b → a ∈ dbs.erase d := fun hbound =>
    hmem hbound.appl_mem fun h => hfree _ (h ▸ hbound)
  have hsmall : ∀ {y z}, y ∈ dbs → z ∈ dbs → y.maxblock < z.maxblock → y ∈ dbs.erase d :=
    fun hy hz hlt => hmem hy fun h => Nat.not_le.mpr hlt (h ▸ htop _ hz)
  rcases h with ⟨a, b, x, h⟩ | ⟨a, b, a', b', h⟩
  · have ha := h.bound.appl_mem
    have hb := hsmall h.bound.mem ha (Nat.lt_of_le_of_lt h.le h.lt)
    exact Or.inl (Or.inl ⟨a, b, x, { h with
      bound := h.bound.of_mem (happl h.bound) hb, mem := hsmall h.mem ha h.lt }⟩)
  · by_cases hb : b = d
    · exact Or.inr (h.breakable (htop.of_le (hb ▸ h.eq.le)))
    · have hb' := hsmall h.bound'.mem h.bound.appl_mem h.lt
      exact Or.inl (Or.inr ⟨a, b, a', b', { h with
        bound := h.bound.of_mem (happl h.bound) (hmem h.bound.mem hb)
        bound' := h.bound'.of_mem (happl h.bound') hb' }⟩)

/-- A database larger than all files of other creators is in no tangle. -/
theorem Tangled.erase_data {dbs : List FileDB} {d : FileDB} (h : Tangled dbs) (hd : ¬ d.IsAppl)
    (hlarge : ∀ x ∈ dbs, x.creator ≠ d.creator → x.maxblock < d.maxblock) :
    Tangled (dbs.erase d) := by
  have hmem : ∀ {y}, y ∈ dbs → y ≠ d → y ∈ dbs.erase d := fun hy hne =>
    (List.mem_erase_of_ne hne).mpr hy
  have happl : ∀ {a b}, Bound dbs a b → a ∈ dbs.erase d := fun hbound =>
    hmem hbound.appl_mem fun h => hd (h ▸ hbound.appl)
  have hsmall : ∀ {y z}, y ∈ dbs → z ∈ dbs → z.creator ≠ y.creator →
      y.maxblock ≤ z.maxblock → y ∈ dbs.erase d := fun hy hz hcreator hle =>
    hmem hy fun h => Nat.not_lt.mpr hle (h ▸ hlarge _ hz (h ▸ hcreator))
  rcases h with ⟨a, b, x, h⟩ | ⟨a, b, a', b', h⟩
  · have ha := h.bound.appl_mem
    have hb := hsmall h.bound.mem h.mem (fun hc => h.other (hc.trans h.bound.creator.symm)) h.le
    have hx := hsmall h.mem ha h.other.symm h.lt.le
    exact Or.inl ⟨a, b, x, { h with bound := h.bound.of_mem (happl h.bound) hb, mem := hx }⟩
  · have hb := hsmall h.bound.mem h.bound'.appl_mem
      (fun hc => h.other (hc.trans h.bound.creator.symm)) (h.eq.trans h.eq'.symm).le
    have hb' := hsmall h.bound'.mem h.bound.appl_mem
      (fun hc => h.other (hc.trans h.bound'.creator.symm).symm) h.lt.le
    exact Or.inr ⟨a, b, a', b', { h with
      bound := h.bound.of_mem (happl h.bound) hb
      bound' := h.bound'.of_mem (happl h.bound') hb' }⟩

theorem Tangled.exists_other {dbs : List FileDB} (h : Tangled dbs) (creator : Nat) :
    ∃ x ∈ dbs, x.creator ≠ creator := by
  obtain ⟨y, z, hy, hz, hother⟩ : ∃ y z, y ∈ dbs ∧ z ∈ dbs ∧ y.creator ≠ z.creator := by
    rcases h with ⟨a, b, x, h⟩ | ⟨a, b, a', b', h⟩
    · exact ⟨x, a, h.mem, h.bound.appl_mem, h.other⟩
    · exact ⟨a', a, h.bound'.appl_mem, h.bound.appl_mem, h.other⟩
  by_cases heq : y.creator = creator
  · exact ⟨z, hz, fun h => hother (heq.trans h.symm)⟩
  · exact ⟨y, hy, heq⟩

/-- With the largest files all of one creator, and each the `appl` of a database: the
file a tangle does without, or an order that breaks. -/
theorem Tangled.of_bound {dbs : List FileDB} {a : FileDB} (h : Tangled dbs) (ha : a ∈ dbs)
    (htop : Top dbs a) (hbounds : ∀ t ∈ dbs, Top dbs t → ∃ b, Bound dbs t b) :
    Breakable dbs ∨
      ∃ d ∈ dbs, (∀ d' ∈ dbs, ¬ 0 < compare d d') ∧ Tangled (dbs.erase d) := by
  have hdata : ∀ {t b}, Top dbs t → Bound dbs t b → b.maxblock < t.maxblock := by
    intro t b ht hbound
    refine Nat.lt_of_not_le fun hle => ?_
    obtain ⟨_, hbound'⟩ := hbounds b hbound.mem (ht.of_le hle)
    exact hbound.not_appl hbound'.appl
  obtain ⟨b, hbound⟩ := hbounds a ha htop
  obtain ⟨x, hx, hother, hlargest⟩ := exists_largest (h.exists_other a.creator)
  by_cases hxtop : Top dbs x
  · obtain ⟨b', hbound'⟩ := hbounds x hx hxtop
    exact Or.inl (breakable_of_two hbound hbound' htop hxtop hother (hdata hxtop hbound'))
  · have hlt : x.maxblock < a.maxblock := Nat.lt_of_not_le fun hle => hxtop (htop.of_le hle)
    by_cases hsmall : ∀ d ∈ dbs, ownData a d = true → d.maxblock ≤ x.maxblock
    · exact Or.inl (breakable_of_small hbound htop hx hother hlt hsmall)
    · push Not at hsmall
      obtain ⟨d₀, hd₀, hown₀, hlt₀⟩ := hsmall
      obtain ⟨d, hd, hown, hmax⟩ :=
        exists_largest (p := fun d => ownData a d = true) ⟨d₀, hd₀, hown₀⟩
      obtain ⟨hcreator, hnot⟩ : d.creator = a.creator ∧ ¬ d.IsAppl := of_decide_eq_true hown
      have hlarge : ∀ y ∈ dbs, y.creator ≠ d.creator → y.maxblock < d.maxblock := by
        intro y hy hne
        have hle := hlargest y hy (hcreator ▸ hne)
        have hle₀ := hmax d₀ hd₀ hown₀
        omega
      refine Or.inr ⟨d, hd, fun d' hd' => ?_, h.erase_data hnot hlarge⟩
      rw [compare_pos_iff]
      rintro (⟨_, happl, _⟩ | ⟨happl, hlt'⟩)
      · exact hnot happl
      · by_cases hsame : d.creator = d'.creator
        · have hown' : ownData a d' = true :=
            decide_eq_true ⟨hsame.symm.trans hcreator, fun h' => hnot ((happl hsame).mpr h')⟩
          exact Nat.not_lt.mpr (hmax d' hd' hown') hlt'
        · exact Nat.lt_asymm hlt' (hlarge d' hd' (Ne.symm hsame))

theorem breakable_of_tangled {dbs : List FileDB} (h : Tangled dbs) : Breakable dbs := by
  induction hlength : dbs.length using Nat.strong_induction_on generalizing dbs with
  | h n ih =>
    -- Without a file no other is exchanged with, by induction; then that file first.
    have hleave : ∀ d ∈ dbs, (∀ d' ∈ dbs, ¬ 0 < compare d d') → Tangled (dbs.erase d) →
        Breakable dbs := by
      intro d hd hfirst htangled
      have hlt : (dbs.erase d).length < n := by
        have hpos := List.length_pos_of_mem hd
        rw [List.length_erase_of_mem hd]
        omega
      have hbreaks := (ih _ hlt htangled rfl).cons fun d' hd' =>
        hfirst d' (List.mem_of_mem_erase hd')
      exact hbreaks.of_perm (List.perm_cons_erase hd).symm
    by_cases hbounds : ∀ t ∈ dbs, Top dbs t → ∃ b, Bound dbs t b
    · obtain ⟨x, hx, _⟩ := h.exists_other 0
      obtain ⟨a, ha, _, hmax⟩ := exists_largest (p := fun _ => True) ⟨x, hx, trivial⟩
      rcases h.of_bound ha (fun d' hd' => hmax d' hd' trivial) hbounds with
        hbreaks | ⟨d, hd, hfirst, htangled⟩
      · exact hbreaks
      · exact hleave d hd hfirst htangled
    · push Not at hbounds
      obtain ⟨d, hd, htop, hfree⟩ := hbounds
      rcases h.erase_free htop hfree with htangled | hbreaks
      · refine hleave d hd (fun d' hd' => ?_) htangled
        refine not_compare_pos (htop d' hd') fun hcreator happl => ?_
        by_contra hd'appl
        exact hfree d' ⟨hd, hd', hcreator, happl, hd'appl⟩
      · exact hbreaks

/-! ## The order of a directory -/

/-- Whatever order the directory has, every `appl` comes after its databases, unless
the files are tangled. -/
theorem applLast_iff (dbs : List FileDB) :
    (∀ dbs' : List FileDB, dbs'.Perm dbs → ApplLast (sortDbs dbs')) ↔ ¬ Tangled dbs := by
  constructor
  · intro h htangled
    obtain ⟨dbs', hperm, hbreaks⟩ := breakable_of_tangled htangled
    exact hbreaks (h dbs' hperm)
  · intro hnot dbs' hperm
    exact applLast_of_not_tangled fun h => hnot (h.subset hperm.subset)

/-- An application, its small database, and a database of another creator whose largest
block lies between theirs. -/
def memoPrc : FileDB := ⟨[97], piMktag 'm' 'e' 'm' 'o', piMktag 'a' 'p' 'p' 'l', 4000⟩
def memoPdb : FileDB := ⟨[98], piMktag 'm' 'e' 'm' 'o', piMktag 'D' 'A' 'T' 'A', 20⟩
def datePdb : FileDB := ⟨[99], piMktag 'd' 'a' 't' 'e', piMktag 'D' 'A' 'T' 'A', 300⟩

theorem memoPdb_after_appl :
    sortDbs [datePdb, memoPdb, memoPrc] = [memoPrc, datePdb, memoPdb] ∧
      ¬ ApplLast (sortDbs [datePdb, memoPdb, memoPrc]) := by
  decide

end GnomePilot.BackupConduit
