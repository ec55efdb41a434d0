import GnomePilot.Desktop.Changes
import GnomePilot.Lib.Walk

/-!
# Clearing the status between the calls of `for_each_modified`

The sync engine goes through the changed records and clears the status of some of them in
between.  `set_status_cleared` takes the uid out of `changed_hash`; the change list, in
which `for_each_modified` keeps its place, is left as it is.
-/

namespace GnomePilot

variable {α : Type}

def setStatusCleared (ctxt : DesktopContext α) (local' : DesktopLocal α) : DesktopContext α :=
  { ctxt with changedHash := ctxt.changedHash.erase local'.comp.uid }

/-- The calls from the `k`th on until one reports no record, with the records whose status
is cleared before each. -/
def clearedLoop (clears : Nat → List (DesktopLocal α)) :
    Nat → Nat → DesktopContext α → Bool → List (DesktopLocal α)
  | 0, _, _, _ => []
  | fuel + 1, k, ctxt, started =>
      match forEachModified ((clears k).foldl setStatusCleared ctxt) started with
      | (none, _) => []
      | (some record, ctxt) => record :: clearedLoop clears fuel (k + 1) ctxt true

/-- The status of the uid is cleared before one of the first `n` calls. -/
def clearedBefore (clears : Nat → List (DesktopLocal α)) (n : Nat) (u : String) : Bool :=
  (List.range n).any fun j => (clears j).any fun r => r.comp.uid = u

/-- The change is reported if the iteration comes to it with the `k`th call. -/
def DesktopContext.reportsAt (ctxt : DesktopContext α) (clears : Nat → List (DesktopLocal α))
    (k : Nat) (ccc : Change α) : Bool :=
  ctxt.reports ccc && !clearedBefore clears (k + 1) ccc.comp.uid

theorem clearedBefore_succ (clears : Nat → List (DesktopLocal α)) (n : Nat) (u : String) :
    clearedBefore clears (n + 1) u =
      (clearedBefore clears n u || (clears n).any fun r => r.comp.uid = u) := by
  simp [clearedBefore, List.range_succ]

theorem foldl_setStatusCleared (records : List (DesktopLocal α)) (ctxt : DesktopContext α) :
    (records.foldl setStatusCleared ctxt).changed = ctxt.changed ∧
    (records.foldl setStatusCleared ctxt).iterator = ctxt.iterator ∧
    (records.foldl setStatusCleared ctxt).map = ctxt.map ∧
    ∀ u, (records.foldl setStatusCleared ctxt).changedHash.lookup u =
      if records.any (fun r => r.comp.uid = u) then none else ctxt.changedHash.lookup u := by
  induction records generalizing ctxt with
  | nil => simp
  | cons r records ih =>
      obtain ⟨hchanged, hiterator, hmap, hhash⟩ := ih (setStatusCleared ctxt r)
      refine ⟨hchanged, hiterator, hmap, fun u => ?_⟩
      rw [List.foldl_cons, hhash, setStatusCleared, HashTable.lookup_erase_ite, List.any_cons]
      by_cases hu : r.comp.uid = u
      · simp [hu]
      · simp [hu, Ne.symm hu]

/-- What the iteration has left before the `k`th call of the context it began with. -/
structure ClearedUpTo (clears : Nat → List (DesktopLocal α)) (ctxt₀ : DesktopContext α)
    (k : Nat) (ctxt : DesktopContext α) : Prop where
  pids : ∀ u, ctxt.map.pidOf u = ctxt₀.map.pidOf u
  hash : ∀ u, ctxt.changedHash.lookup u =
    if clearedBefore clears k u then none else ctxt₀.changedHash.lookup u

theorem ClearedUpTo.refl (clears : Nat → List (DesktopLocal α)) (ctxt : DesktopContext α) :
    ClearedUpTo clears ctxt 0 ctxt where
  pids _ := rfl
  hash _ := rfl

/-- The hash right before the `k`th call, after the clearing. -/
theorem ClearedUpTo.lookup_clears {clears : Nat → List (DesktopLocal α)}
    {ctxt₀ ctxt : DesktopContext α} {k : Nat} (h : ClearedUpTo clears ctxt₀ k ctxt) (u : String) :
    ((clears k).foldl setStatusCleared ctxt).changedHash.lookup u =
      if clearedBefore clears (k + 1) u then none else ctxt₀.changedHash.lookup u := by
  obtain ⟨-, -, -, hhash⟩ := foldl_setStatusCleared (clears k) ctxt
  rw [hhash, h.hash, clearedBefore_succ]
  cases (clears k).any fun r => r.comp.uid = u <;> cases clearedBefore clears k u <;> rfl

theorem clearedLoop_eq (clears : Nat → List (DesktopLocal α)) (ctxt₀ : DesktopContext α)
    (fuel k : Nat) (ctxt : DesktopContext α) (started : Bool) {changes : List (Change α)}
    (hchanges : (if started then ctxt.iterator.tail else ctxt.changed) = changes)
    (hfuel : changes.length < fuel) (hinv : ClearedUpTo clears ctxt₀ k ctxt) :
    clearedLoop clears fuel k ctxt started =
      (Walk.walk (ctxt₀.reportsAt clears) k changes).map fun e => ctxt₀.recordOf e.1 := by
  induction fuel generalizing k ctxt started changes with
  | zero => omega
  | succ fuel ih =>
      obtain ⟨hchanged, hiterator, hmap, -⟩ := foldl_setStatusCleared (clears k) ctxt
      have hlookup := hinv.lookup_clears
      rw [clearedLoop]
      generalize (clears k).foldl setStatusCleared ctxt = cleared
        at hchanged hiterator hmap hlookup ⊢
      have hnext : nextChangedItem cleared changes =
          changes.dropWhile fun ccc => !ctxt₀.reportsAt clears k ccc := by
        unfold nextChangedItem
        congr 1
        funext ccc
        rw [hlookup, DesktopContext.reportsAt, DesktopContext.reports]
        cases clearedBefore clears (k + 1) ccc.comp.uid <;>
          cases ctxt₀.changedHash.lookup ccc.comp.uid <;> rfl
      have hlength := length_nextChangedItem_le cleared changes
      rw [forEachModified, hchanged, hiterator, hchanges, Walk.walk_eq_dropWhile, ← hnext]
      cases hitem : nextChangedItem cleared changes with
      | nil => rfl
      | cons ccc rest =>
          rw [hitem, List.length_cons] at hlength
          have hlive : ctxt₀.reportsAt clears k ccc = true := by
            have hhead := List.head?_dropWhile_not (fun c => !ctxt₀.reportsAt clears k c) changes
            rw [← hnext, hitem] at hhead
            simpa using hhead
          have hfresh : clearedBefore clears (k + 1) ccc.comp.uid = false := by
            simp only [DesktopContext.reportsAt, Bool.and_eq_true, Bool.not_eq_true'] at hlive
            exact hlive.2
          simp only [List.map_cons, localRecordFromComp]
          congr 1
          · simp [DesktopContext.recordOf, EPilotMap.lookupPid_fst, computeStatus, hlookup, hfresh,
              hmap, hinv.pids]
          · refine ih (k + 1) _ true rfl (by simpa using by omega) ⟨fun u => ?_, fun u => ?_⟩
            · rw [EPilotMap.pidOf_lookupPid, hmap, hinv.pids]
            · exact hlookup u

/-- The records reported as locally changed while the status of others is cleared. -/
def clearedRecords (ctxt : DesktopContext α) (clears : Nat → List (DesktopLocal α)) :
    List (DesktopLocal α) :=
  clearedLoop clears (ctxt.changed.length + 1) 0 ctxt false

theorem clearedLoop_walk (ctxt : DesktopContext α) (clears : Nat → List (DesktopLocal α))
    (more : Nat) :
    clearedLoop clears (ctxt.changed.length + 1 + more) 0 ctxt false =
      (Walk.walk (ctxt.reportsAt clears) 0 ctxt.changed).map fun e => ctxt.recordOf e.1 :=
  clearedLoop_eq clears ctxt _ 0 ctxt false rfl (by omega) (ClearedUpTo.refl clears ctxt)

theorem clearedRecords_nil (ctxt : DesktopContext α) :
    clearedRecords ctxt (fun _ => []) = modifiedRecords ctxt := by
  unfold clearedRecords modifiedRecords
  generalize ctxt.changed.length + 1 = fuel
  suffices h : ∀ k started, clearedLoop (fun _ => []) fuel k ctxt started =
      forEachModifiedLoop fuel ctxt started from h 0 false
  induction fuel generalizing ctxt with
  | zero => exact fun _ _ => rfl
  | succ fuel ih =>
      intro k started
      rw [clearedLoop, forEachModifiedLoop, List.foldl_nil]
      cases forEachModified ctxt started with
      | mk record rest =>
          cases record with
          | none => rfl
          | some record => exact congrArg _ (ih rest (k + 1) true)

/-- The changes in the hash whose status is not cleared up to their turn are reported, each
once and in the order of the list, with the call whose turn it is; the calls come to an
end. -/
theorem clearedRecords_turns (ctxt : DesktopContext α) (clears : Nat → List (DesktopLocal α)) :
    ∃ turns : List Nat, turns.length = ctxt.changed.length ∧ turns.Pairwise (· ≤ ·) ∧
      (∀ t ∈ turns, t ≤ (clearedRecords ctxt clears).length) ∧
      (clearedRecords ctxt clears =
        ((ctxt.changed.zip turns).filter fun e => ctxt.reportsAt clears e.2 e.1).map
          fun e => ctxt.recordOf e.1) ∧
      (((ctxt.changed.zip turns).filter fun e => ctxt.reportsAt clears e.2 e.1).map Prod.snd =
        List.range (clearedRecords ctxt clears).length) ∧
      ∀ more, clearedLoop clears (ctxt.changed.length + 1 + more) 0 ctxt false =
        clearedRecords ctxt clears := by
  have hrecords : clearedRecords ctxt clears = _ := clearedLoop_walk ctxt clears 0
  obtain ⟨turns, hlength, hle, hbound, hdue⟩ :=
    Walk.walk_turns (ctxt.reportsAt clears) 0 ctxt.changed
  have hcount : (clearedRecords ctxt clears).length =
      (Walk.walk (ctxt.reportsAt clears) 0 ctxt.changed).length := by
    rw [hrecords, List.length_map]
  refine ⟨turns, hlength, hle, fun t ht => ?_, ?_, ?_, fun more => ?_⟩
  · have ht := (hbound t ht).2
    omega
  · rw [hdue, hrecords]
  · rw [hdue, Walk.map_snd_walk, hcount, List.range_eq_range']
  · rw [clearedLoop_walk, hrecords]

end GnomePilot
