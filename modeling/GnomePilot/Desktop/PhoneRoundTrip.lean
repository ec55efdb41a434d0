import GnomePilot.Desktop.Phones
import Mathlib.Data.Fin.VecNotation
import Mathlib.Data.Fintype.Fin
import Mathlib.Data.Finset.Max
import Mathlib.Data.List.Dedup
import Mathlib.Order.Interval.Finset.Fin

/-!
# Phones written to a contact and read again

On the way to the contact every entry takes the next field of its label, also an empty one;
but libebook keeps the numbers of a kind without gaps.  A record in priority order is judged,
and read again, by the entries that have a number.
-/

namespace GnomePilot.Card

open EContactField

variable {κ : Type} [EVCard κ]

/-! ## The fields that the entries take -/

def fieldsOf (label : Nat) : List EContactField :=
  if label = labelEmail then mailFields
  else if label = labelHome then homeFields
  else if label = labelWork then workFields
  else if label = labelFax then faxFields
  else if label = labelOther then [phoneOther]
  else if label = labelMain then [phonePrimary]
  else if label = labelPager then [phonePager]
  else if label = labelMobile then [phoneMobile]
  else []

theorem getNextOf_eq (label : Nat) : getNextOf label = getNext (fieldsOf label) := by
  have hnone : getNext [] = fun _ => fieldLast := by
    funext field
    cases field <;> rfl
  unfold getNextOf fieldsOf
  split_ifs
  all_goals first | rfl | exact hnone.symm

/-- The two tables and the functions agree on the label of a field. -/
theorem mem_fieldsOf {field : EContactField} {label : Nat} :
    field ∈ fieldsOf label ↔ (field, label) ∈ priorityTable := by
  unfold fieldsOf
  split_ifs with h h h h h h h h
  case neg =>
    simp [priorityTable, priority, priorityLabel, *]
  all_goals
    rw [h]
    cases field <;> decide

theorem label_unique {field : EContactField} {label label' : Nat}
    (h : (field, label) ∈ priorityTable) (h' : (field, label') ∈ priorityTable) :
    label = label' :=
  congrArg Prod.snd (List.inj_on_of_nodup_map nodup_fields h h' rfl)

theorem fieldLast_not_mem (label : Nat) : fieldLast ∉ fieldsOf label := by
  rw [mem_fieldsOf]
  simp [priorityTable, priority, priorityLabel]

theorem distinct_fieldsOf : Stock.Distinct fieldsOf where
  nodup label := by
    unfold fieldsOf
    split_ifs
    all_goals decide
  apart _ _ _ h h' := label_unique (mem_fieldsOf.mp h) (mem_fieldsOf.mp h')

/-- The label whose fields are kept in an attribute. -/
def Attribute.label : Attribute → Nat
  | .work => labelWork
  | .home => labelHome
  | .email => labelEmail
  | .workFax | .homeFax | .otherFax => labelFax
  | .pager => labelPager
  | .cell => labelMobile
  | .other => labelOther
  | .main => labelMain

theorem exists_element {field : EContactField} {label : Nat} (h : field ∈ fieldsOf label) :
    ∃ a n, field.element = some (a, n) ∧ a.label = label := by
  have hall : ∀ p ∈ priorityTable,
      p.1.element.map (fun e => e.1.label) = some p.2 := by decide
  obtain ⟨e, he, hlabel⟩ := Option.map_eq_some_iff.mp (hall _ (mem_fieldsOf.mp h))
  exact ⟨e.1, e.2, he, hlabel⟩

theorem element_inj {field field' : EContactField} {e : Attribute × Nat}
    (h : field.element = some e) (h' : field'.element = some e) : field = field' := by
  have hall : ∀ a b : EContactField, a.element.isSome = true → a.element = b.element → a = b := by
    intro a b
    cases a <;> cases b <;> decide
  exact hall field field' (by rw [h]; rfl) (h.trans h'.symm)

theorem pairwise_fieldsOf (label : Nat) : (fieldsOf label).Pairwise fun f g =>
    ∀ e ∈ f.element, ∀ e' ∈ g.element, e.1 = e'.1 → e.2 < e'.2 := by
  unfold fieldsOf
  split_ifs
  all_goals decide

theorem countP_fieldsOf {label m : Nat} {field : EContactField} {a : Attribute} {n : Nat}
    (hfield : (fieldsOf label)[m]? = some field) (he : field.element = some (a, n)) :
    ((fieldsOf label).take m).countP (fun f => f.element.map Prod.fst = some a) = n := by
  have hall : ∀ p ∈ (fieldsOf label).zipIdx, ∀ e ∈ p.1.element,
      ((fieldsOf label).take p.2).countP (fun f => f.element.map Prod.fst = some e.1) = e.2 := by
    unfold fieldsOf
    split_ifs
    all_goals decide
  exact hall (field, m) (List.mem_zipIdx_iff_getElem?.mpr hfield) (a, n) he

theorem exists_field_of_le {label : Nat} {field : EContactField} {a : Attribute} {n m : Nat}
    (h : field ∈ fieldsOf label) (he : field.element = some (a, n)) (hm : m ≤ n) :
    ∃ field' ∈ fieldsOf label, field'.element = some (a, m) := by
  have hall : ∀ f ∈ fieldsOf label, ∀ e ∈ f.element, ∀ m < e.2 + 1,
      ∃ f' ∈ fieldsOf label, f'.element = some (e.1, m) := by
    unfold fieldsOf
    split_ifs
    all_goals decide
  exact hall field h (a, n) he m (Nat.lt_succ_of_le hm)

theorem getNext_of_suffix {fields rest : List EContactField} {field : EContactField}
    (hnodup : fields.Nodup) (h : field :: rest <:+ fields) :
    getNext fields (some field) = rest.headD fieldLast := by
  obtain ⟨before, rfl⟩ := h
  have hbefore : ∀ x ∈ before, (decide (x ≠ field)) = true := by
    intro x hx
    have hne := (List.disjoint_of_nodup_append hnodup) hx
    simpa using fun h : x = field => hne (h ▸ List.mem_cons_self)
  simp only [getNext, List.dropWhile_append_of_pos hbefore]
  simp

/-- The variables stand at the first of the fields that are left. -/
structure Next.At (next : Next) (stock : Nat → List EContactField) : Prop where
  head : ∀ label, next label = (stock label).headD fieldLast
  suffix : ∀ label, stock label <:+ fieldsOf label

theorem getNextInit_at : getNextInit.At fieldsOf where
  head label := by rw [getNextInit, getNextOf_eq, getNext]
  suffix _ := List.suffix_rfl

section Step

variable {next : Next} {stock : Nat → List EContactField} {label : Nat}

theorem Next.At.done (h : next.At stock) (hnil : stock label = []) :
    isNextDone (next label) = true := by
  simp [isNextDone, h.head label, hnil]

theorem Next.At.not_done (h : next.At stock) {field : EContactField}
    {rest : List EContactField} (hcons : stock label = field :: rest) :
    next label = field ∧ isNextDone (next label) = false := by
  have hhead : next label = field := by rw [h.head label, hcons, List.headD_cons]
  have hmem : field ∈ fieldsOf label := by
    refine (h.suffix label).subset ?_
    rw [hcons]
    exact List.mem_cons_self
  have hne : field ≠ fieldLast := fun hlast => fieldLast_not_mem label (hlast ▸ hmem)
  exact ⟨hhead, by rw [hhead]; exact decide_eq_false hne⟩

theorem Next.At.advance (h : next.At stock) {field : EContactField}
    {rest : List EContactField} (hcons : stock label = field :: rest) :
    (next.advance label).At (Stock.draw stock label) where
  head label' := by
    by_cases hlabel : label' = label
    · have hsuffix := h.suffix label
      rw [hcons] at hsuffix
      rw [hlabel, Next.advance, Function.update_self, (h.not_done hcons).1, getNextOf_eq,
        getNext_of_suffix (distinct_fieldsOf.nodup label) hsuffix, Stock.draw_self, hcons,
        List.tail_cons]
    · rw [Next.advance, Function.update_of_ne hlabel, Stock.draw_of_ne stock hlabel]
      exact h.head label'
  suffix label' := (Stock.draw_suffix stock label label').trans (h.suffix label')

theorem Next.At.distinct (h : next.At stock) : Stock.Distinct stock where
  nodup label := (distinct_fieldsOf.nodup label).sublist (h.suffix label).sublist
  apart label label' field hfield hfield' :=
    distinct_fieldsOf.apart label label' field ((h.suffix label).subset hfield)
      ((h.suffix label').subset hfield')

end Step

/-! ## The three loops -/

section Loops

variable {charset : Charset} {addr : Address} {next : Next} {stock : Nat → List EContactField}

def taken (stock : Nat → List EContactField) (addr : Address) (entries : List (Fin 5)) :
    List (Option EContactField × Fin 5) :=
  (Stock.serve stock (entries.map addr.phoneLabel)).zip entries

theorem setElement_of_le {texts : List CString} {n : Nat} (h : texts.length ≤ n)
    (text : Option CString) : setElement texts n text = texts ++ (filled text).toList := by
  unfold setElement
  cases filled text with
  | none => simp [List.eraseIdx_of_length_le h]
  | some s => simp [Nat.not_lt.mpr h]

/-- What an attribute gets from an entry. -/
def stored (charset : Charset) (addr : Address) (a : Attribute)
    (p : Option EContactField × Fin 5) : Option CString :=
  if (p.1.bind EContactField.element).map Prod.fst = some a then
    filled ((addr.phone p.2).map charset.utf8FromPchar)
  else none

/-- The fields that are left have no elements yet. -/
def Room (texts : Attribute → List CString) (stock : Nat → List EContactField) : Prop :=
  ∀ label, ∀ field ∈ stock label, ∀ e ∈ field.element, (texts e.1).length ≤ e.2

/-- They have none either once the next field of a label was written. -/
theorem Room.draw {texts texts' : Attribute → List CString} (hroom : Room texts stock)
    (hstock : ∀ label, stock label <:+ fieldsOf label) {label : Nat} {field : EContactField}
    {rest : List EContactField} (hcons : stock label = field :: rest) {a : Attribute} {n : Nat}
    (he : field.element = some (a, n)) (hself : (texts' a).length ≤ n + 1)
    (hother : ∀ b ≠ a, texts' b = texts b) : Room texts' (Stock.draw stock label) := by
  intro label' field' hfield' e he'
  have hfield'' := (Stock.draw_suffix stock label label').subset hfield'
  by_cases hattr : e.1 = a
  · -- only the label itself has fields of the attribute
    obtain ⟨b, m, hb, hlabel'⟩ := exists_element ((hstock label').subset hfield'')
    obtain ⟨c, k, hc, hlabel⟩ := exists_element ((hstock label).subset (by
      rw [hcons]
      exact List.mem_cons_self))
    obtain rfl := Option.some.inj (hb.symm.trans he')
    obtain ⟨rfl, rfl⟩ := Prod.mk.inj (Option.some.inj (he.symm.trans hc))
    have heq : label' = label := by
      rw [← hlabel', ← hlabel]
      exact congrArg Attribute.label hattr
    rw [heq, Stock.draw_self, hcons, List.tail_cons] at hfield'
    have hpairwise := (pairwise_fieldsOf label).sublist (hstock label).sublist
    rw [hcons] at hpairwise
    have hlt := (List.pairwise_cons.mp hpairwise).1 field' hfield' (a, n) he (b, m) hb hattr.symm
    rw [hattr]
    exact hself.trans hlt
  · rw [hother e.1 hattr]
    exact hroom label' field' hfield'' e he'

/-- The numbers are put after those of the attributes that the entries are written to. -/
theorem foldl_ecardStep {elements : κ → Attribute → List CString}
    (hbook : EVCard.Lawful elements) (h : next.At stock) {contact : EContact κ}
    (hroom : Room (elements contact.vcard) stock) (entries : List (Fin 5)) (a : Attribute) :
    elements (entries.foldl (ecardStep charset addr) (next, contact)).2.vcard a =
      elements contact.vcard a ++ (taken stock addr entries).filterMap (stored charset addr a) := by
  induction entries generalizing next stock contact with
  | nil => simp [taken, Stock.serve]
  | cons i entries ih =>
      cases hstock : stock (addr.phoneLabel i) with
      | nil =>
          have hstep : ecardStep charset addr (next, contact) i = (next, contact) := by
            simp [ecardStep, h.done hstock]
          rw [List.foldl_cons, hstep, ih h hroom]
          simp [taken, Stock.serve, stored, hstock, Stock.draw_of_nil hstock]
      | cons field rest =>
          obtain ⟨hfield, hdone⟩ := h.not_done hstock
          have hmem : field ∈ stock (addr.phoneLabel i) := by
            rw [hstock]
            exact List.mem_cons_self
          obtain ⟨b, n, he, -⟩ := exists_element ((h.suffix _).subset hmem)
          let text := (addr.phone i).map charset.utf8FromPchar
          have hstep : ecardStep charset addr (next, contact) i =
              (next.advance (addr.phoneLabel i), { contact with
                vcard := EVCard.eContactSet contact.vcard field text }) := by
            rw [hfield] at hdone
            simp [ecardStep, hfield, hdone, text]
          have hself := hbook.set_self contact.vcard field b n text he
          rw [setElement_of_le (hroom _ field hmem (b, n) he)] at hself
          have hother : ∀ c ≠ b, elements (EVCard.eContactSet contact.vcard field text) c =
              elements contact.vcard c :=
            fun c hc => hbook.set_of_ne contact.vcard field b n text c he hc
          have hlength : (elements (EVCard.eContactSet contact.vcard field text) b).length ≤
              n + 1 := by
            have hle := hroom _ field hmem (b, n) he
            rw [hself, List.length_append]
            cases filled text <;> simp at hle ⊢ <;> omega
          have hroom' : Room (elements (EVCard.eContactSet contact.vcard field text))
              (Stock.draw stock (addr.phoneLabel i)) :=
            hroom.draw h.suffix hstock he hlength hother
          rw [List.foldl_cons, hstep, ih (h.advance hstock) hroom']
          have htaken : taken stock addr (i :: entries) =
              (some field, i) :: taken (Stock.draw stock (addr.phoneLabel i)) addr entries := by
            simp [taken, Stock.serve, hstock]
          rw [htaken, List.filterMap_cons]
          by_cases ha : a = b
          · have hstored : stored charset addr a (some field, i) = filled text := by
              simp [stored, he, ha, text]
            rw [hstored, ha, hself]
            cases filled text <;> simp
          · have hstored : stored charset addr a (some field, i) = none := by
              simp [stored, he, Ne.symm ha]
            rw [hstored, hother a ha]

/-- An entry has the number of its field afterwards, if that has one, and else is as it was. -/
theorem foldl_entryStep (h : next.At stock) {contact : EContact κ} {entries : List (Fin 5)}
    (hnodup : entries.Nodup) :
    let result := (entries.foldl (entryStep charset contact) (next, addr)).2
    result.phoneLabel = addr.phoneLabel ∧ (∀ i ∉ entries, result.phone i = addr.phone i) ∧
      ∀ p ∈ taken stock addr entries, result.phone p.2 =
        (p.1.bind fun field => filled (contact.number field)).elim (addr.phone p.2)
          fun s => some (charset.utf8ToPchar s) := by
  induction entries generalizing next stock addr with
  | nil => exact ⟨rfl, fun _ _ => rfl, fun p hp => absurd hp (by simp [taken, Stock.serve])⟩
  | cons i entries ih =>
      obtain ⟨hnot, hrest⟩ := List.nodup_cons.mp hnodup
      dsimp only
      rw [List.foldl_cons]
      obtain ⟨next', addr', hstep, hat, hlabel, hself, hothers⟩ : ∃ next' addr',
          entryStep charset contact (next, addr) i = (next', addr') ∧
            next'.At (Stock.draw stock (addr.phoneLabel i)) ∧ addr'.phoneLabel = addr.phoneLabel ∧
            (addr'.phone i = ((stock (addr.phoneLabel i)).head?.bind fun field =>
              filled (contact.number field)).elim (addr.phone i)
                fun s => some (charset.utf8ToPchar s)) ∧
            ∀ j ≠ i, addr'.phone j = addr.phone j := by
        cases hstock : stock (addr.phoneLabel i) with
        | nil =>
            refine ⟨next, addr, by simp [entryStep, h.done hstock], ?_, rfl, rfl, fun _ _ => rfl⟩
            rwa [Stock.draw_of_nil hstock]
        | cons field rest =>
            obtain ⟨hfield, hdone⟩ := h.not_done hstock
            rw [hfield] at hdone
            cases hnumber : filled (contact.number field) with
            | none =>
                exact ⟨next.advance (addr.phoneLabel i), addr,
                  by simp [entryStep, hfield, hdone, hnumber], h.advance hstock, rfl,
                  by simp [hnumber], fun _ _ => rfl⟩
            | some s =>
                exact ⟨next.advance (addr.phoneLabel i), { addr with
                    phone := Function.update addr.phone i (some (charset.utf8ToPchar s)) },
                  by simp [entryStep, hfield, hdone, hnumber], h.advance hstock, rfl,
                  by simp [hnumber], fun j hj => Function.update_of_ne hj _ _⟩
      rw [hstep]
      obtain ⟨hlabels, hbefore, htaken⟩ := ih hat hrest
      refine ⟨hlabels.trans hlabel, fun j hj => ?_, fun p hp => ?_⟩
      · obtain ⟨hji, hj⟩ := not_or.mp (fun h => hj (List.mem_cons.mpr h))
        exact (hbefore j hj).trans (hothers j hji)
      · have hsame : taken (Stock.draw stock (addr.phoneLabel i)) addr' entries =
            taken (Stock.draw stock (addr.phoneLabel i)) addr entries := by
          unfold taken
          rw [hlabel]
        rw [hsame] at htaken
        rcases List.mem_cons.mp hp with rfl | hp
        · exact (hbefore i hnot).trans hself
        · have hmem : p.2 ∈ entries := (List.of_mem_zip hp).2
          rw [htaken p hp, hothers p.2 fun heq => hnot (heq ▸ hmem)]

/-- An entry is passed over if it is empty; else its label's next field is found in the rest of
the table. -/
theorem syncableStep_cases (h : next.At stock) {rest : List (EContactField × Nat)} {i : Fin 5}
    {s : Search} (hstep : syncableStep addr ⟨next, rest⟩ i = some s) :
    ((filled (addr.phone i)).isSome = false ∧ s = ⟨next, rest⟩) ∨
    ∃ p fields rest', (filled (addr.phone i)).isSome = true ∧ (p :: rest').Sublist rest ∧
      stock (addr.phoneLabel i) = p.1 :: fields ∧
      s = ⟨next.advance (addr.phoneLabel i), p :: rest'⟩ := by
  unfold syncableStep at hstep
  cases hnumber : filled (addr.phone i) with
  | none =>
      simp only [hnumber, Option.isNone_none, if_true, Option.some.injEq] at hstep
      exact Or.inl ⟨rfl, hstep.symm⟩
  | some number =>
      simp only [hnumber, Option.isNone_some, Bool.false_eq_true, if_false] at hstep
      have hsuffix := List.dropWhile_suffix (l := rest)
        (fun p => decide (p.2 ≠ addr.phoneLabel i))
      cases hfound : rest.dropWhile (fun p => decide (p.2 ≠ addr.phoneLabel i)) with
      | nil =>
          rw [hfound] at hstep
          exact absurd hstep (Option.some_ne_none s).symm
      | cons p rest' =>
          rw [hfound] at hstep hsuffix
          cases hstock : stock (addr.phoneLabel i) with
          | nil => simp [h.done hstock] at hstep
          | cons field fields =>
              obtain ⟨hfield, hdone⟩ := h.not_done hstock
              by_cases hp : p.1 = field
              · simp only [hfield ▸ hdone, hfield, hp, ne_eq, not_true, decide_false,
                  Bool.or_self, Bool.false_eq_true, if_false, Option.some.injEq] at hstep
                exact Or.inr ⟨p, fields, rest', rfl, hsuffix.sublist, by rw [hp], hstep.symm⟩
              · rw [hfield] at hdone
                simp [hdone, hfield, Ne.symm hp] at hstep

/-- In a record that is in priority order, the entries with a number would take fields of
the table one after the other, had the others no part in it. -/
theorem foldlM_syncableStep (h : next.At stock) {rest : List (EContactField × Nat)}
    {entries : List (Fin 5)} {s : Search}
    (hsome : entries.foldlM (syncableStep addr) ⟨next, rest⟩ = some s) :
    ∃ fields : List (EContactField × Nat), fields.Sublist rest ∧
      Stock.serve stock ((entries.filter fun i => (filled (addr.phone i)).isSome).map
        addr.phoneLabel) = fields.map (fun p => some p.1) := by
  induction entries generalizing next stock rest with
  | nil => exact ⟨[], List.nil_sublist rest, rfl⟩
  | cons i entries ih =>
      rw [List.foldlM_cons] at hsome
      obtain ⟨s', hstep, htail⟩ := Option.bind_eq_some_iff.mp hsome
      obtain ⟨hempty, rfl⟩ | ⟨p, fields, rest', hnumber, hfound, hstock, rfl⟩ :=
        syncableStep_cases h hstep
      · rw [List.filter_cons_of_neg (by simp [hempty])]
        exact ih h htail
      · rw [List.filter_cons_of_pos (by simp [hnumber])]
        obtain ⟨found, hsub, hserve⟩ := ih (h.advance hstock) htail
        refine ⟨p :: found, ?_, by simp [Stock.serve, hstock, hserve]⟩
        refine List.Sublist.trans (List.cons_sublist_cons.mpr ?_) hfound
        rcases List.sublist_cons_iff.mp hsub with hsub | ⟨found', hcons, -⟩
        · exact hsub
        · -- `p` is not found again: its field was taken.
          have hmem : some p.1 ∈ Stock.serve (Stock.draw stock (addr.phoneLabel i))
              ((entries.filter fun j => (filled (addr.phone j)).isSome).map
                addr.phoneLabel) := by
            rw [hserve, hcons]
            exact List.mem_cons_self
          obtain ⟨label, hlabel⟩ := Stock.exists_stock_of_mem_serve hmem
          have hhead : (stock (addr.phoneLabel i)).head? = some p.1 := by
            rw [hstock, List.head?_cons]
          exact absurd hlabel (h.distinct.not_mem_draw hhead)

end Loops

/-! ## The fields of a whole record -/

/-- How many entries before an entry have its label. -/
def Address.earlier (addr : Address) (i : Fin 5) : Nat :=
  (((List.finRange 5).take i).map addr.phoneLabel).count (addr.phoneLabel i)

/-- The field that an entry takes, if there is one left for its label. -/
def Address.field (addr : Address) (i : Fin 5) : Option EContactField :=
  (fieldsOf (addr.phoneLabel i))[addr.earlier i]?

/-- The attribute that an entry is written to. -/
def Address.attribute (addr : Address) (i : Fin 5) : Option Attribute :=
  ((addr.field i).bind EContactField.element).map Prod.fst

/-- The entry has a number. -/
def Address.hasNumber (addr : Address) (i : Fin 5) : Prop := (filled (addr.phone i)).isSome = true

instance (addr : Address) (i : Fin 5) : Decidable (addr.hasNumber i) :=
  inferInstanceAs (Decidable (_ = true))

section Record

variable {addr : Address} {i j : Fin 5} {field : EContactField}

theorem getElem?_served (addr : Address) (i : Fin 5) :
    (Stock.serve fieldsOf ((List.finRange 5).map addr.phoneLabel))[(i : Nat)]? =
      some (addr.field i) := by
  rw [Stock.getElem?_serve, ← List.map_take, List.getElem?_map,
    List.getElem?_eq_getElem (by simp)]
  simp [Address.field, Address.earlier]

theorem serve_phoneLabel (addr : Address) :
    Stock.serve fieldsOf ((List.finRange 5).map addr.phoneLabel) =
      (List.finRange 5).map addr.field := by
  refine List.ext_getElem (by rw [Stock.length_serve, List.length_map, List.length_map])
    fun k hk _ => ?_
  rw [Stock.length_serve, List.length_map, List.length_finRange] at hk
  have hget := getElem?_served addr ⟨k, hk⟩
  simpa using (List.getElem?_eq_some_iff.mp hget).2

theorem taken_eq (addr : Address) : taken fieldsOf addr (List.finRange 5) =
    (List.finRange 5).map fun i => (addr.field i, i) := by
  rw [taken, serve_phoneLabel, ← List.map_prod_right_eq_zip]

/-- No two entries take the same field. -/
theorem field_injective (hi : addr.field i = some field) (hj : addr.field j = some field) :
    i = j := by
  have hpairwise := distinct_fieldsOf.pairwise_serve ((List.finRange 5).map addr.phoneLabel)
  have hlt : ∀ {i j : Fin 5}, addr.field i = some field → addr.field j = some field → ¬ i < j := by
    intro i j hi hj hij
    obtain ⟨hilt, higet⟩ := List.getElem?_eq_some_iff.mp (getElem?_served addr i)
    obtain ⟨hjlt, hjget⟩ := List.getElem?_eq_some_iff.mp (getElem?_served addr j)
    exact List.pairwise_iff_getElem.mp hpairwise i j hilt hjlt hij field (higet.trans hi)
      (hjget.trans hj)
  exact le_antisymm (not_lt.mp (hlt hj hi)) (not_lt.mp (hlt hi hj))

theorem attribute_of_field {a : Attribute} {n : Nat} (hfield : addr.field i = some field)
    (he : field.element = some (a, n)) : addr.attribute i = some a := by
  simp [Address.attribute, hfield, he]

theorem exists_field {a : Attribute} (h : addr.attribute i = some a) :
    ∃ field n, addr.field i = some field ∧ field.element = some (a, n) := by
  obtain ⟨e, he, rfl⟩ := Option.map_eq_some_iff.mp h
  obtain ⟨field, hfield, he⟩ := Option.bind_eq_some_iff.mp he
  exact ⟨field, e.2, hfield, he⟩

theorem label_attribute {a : Attribute} (h : addr.attribute i = some a) :
    a.label = addr.phoneLabel i := by
  obtain ⟨field, n, hfield, he⟩ := exists_field h
  obtain ⟨b, m, hb, hlabel⟩ := exists_element (List.mem_of_getElem? hfield)
  obtain ⟨rfl, -⟩ := Prod.mk.inj (Option.some.inj (he.symm.trans hb))
  exact hlabel

theorem attribute_isSome : (addr.attribute i).isSome = (addr.field i).isSome := by
  unfold Address.attribute
  cases hfield : addr.field i with
  | none => rfl
  | some field =>
      obtain ⟨a, n, he, -⟩ := exists_element (List.mem_of_getElem? hfield)
      simp [he]

/-- As many entries before an entry are for its attribute as there are elements before its
own. -/
theorem countP_attribute {a : Attribute} {n : Nat} (hfield : addr.field i = some field)
    (he : field.element = some (a, n)) :
    ((List.finRange 5).take i).countP (fun k => addr.attribute k = some a) = n := by
  have hserved : ((List.finRange 5).take i).filterMap (fun k =>
      if addr.phoneLabel k = addr.phoneLabel i then addr.field k else none) =
        (fieldsOf (addr.phoneLabel i)).take (addr.earlier i) := by
    rw [Address.earlier, ← Stock.filterMap_serve, List.map_take, Stock.serve_take,
      serve_phoneLabel, ← List.map_take, ← List.map_take, List.zip_map', List.filterMap_map]
    rfl
  rw [← countP_fieldsOf hfield he, ← hserved, List.countP_filterMap]
  refine List.countP_congr fun k _ => ?_
  have hlabel : addr.attribute k = some a → addr.phoneLabel k = addr.phoneLabel i := fun hk =>
    (label_attribute hk).symm.trans (label_attribute (attribute_of_field hfield he))
  by_cases hk : addr.phoneLabel k = addr.phoneLabel i
  · rw [if_pos hk]
    unfold Address.attribute
    cases addr.field k <;> simp
  · simpa [if_neg hk] using fun h => hk (hlabel h)

theorem finRange_split (i : Fin 5) : List.finRange 5 =
    (List.finRange 5).take i ++ i :: (List.finRange 5).drop (i + 1) := by
  revert i
  decide

theorem mem_take_finRange {k : Fin 5} : k ∈ (List.finRange 5).take i ↔ k < i := by
  revert i k
  decide

theorem take_sublist {k : Fin 5} (h : k < i) :
    ((List.finRange 5).take k ++ [k]).Sublist ((List.finRange 5).take i) := by
  revert i k
  decide

/-- In a record in priority order the entries before the first empty one take fields. -/
theorem field_isSome_of_syncable (h : isSyncable addr = true)
    (hfront : ∀ j ≤ i, addr.hasNumber j) : (addr.field i).isSome = true := by
  obtain ⟨s, hs⟩ := Option.isSome_iff_exists.mp h
  obtain ⟨found, -, hserve⟩ := foldlM_syncableStep getNextInit_at hs
  have hall : ((List.finRange 5).take (i + 1)).filter (fun j => (filled (addr.phone j)).isSome) =
      (List.finRange 5).take (i + 1) := by
    refine List.filter_eq_self.mpr fun j hj => hfront j ?_
    obtain ⟨k, hk, hget⟩ := List.mem_take_iff_getElem.mp hj
    have hval : k = (j : Nat) := by simpa using congrArg Fin.val hget
    omega
  have hsplit : (List.finRange 5).filter (fun j => (filled (addr.phone j)).isSome) =
      (List.finRange 5).take (i + 1) ++ ((List.finRange 5).drop (i + 1)).filter
        (fun j => (filled (addr.phone j)).isSome) := by
    conv_lhs => rw [← List.take_append_drop (i + 1) (List.finRange 5), List.filter_append, hall]
  have hlength : (i : Nat) < ((List.finRange 5).take (i + 1)).length := by simp
  have hserved := Stock.getElem?_serve fieldsOf (((List.finRange 5).filter fun j =>
    (filled (addr.phone j)).isSome).map addr.phoneLabel) i
  rw [hserve, hsplit, ← List.map_take, List.take_append_of_le_length (Nat.le_of_lt hlength),
    List.take_take, Nat.min_eq_left (Nat.le_succ _), List.getElem?_map, List.getElem?_map,
    List.getElem?_append_left hlength, List.getElem?_eq_getElem hlength] at hserved
  have hfield : (found[(i : Nat)]?).map (fun p => some p.1) = some (addr.field i) := by
    rw [hserved]
    simp [Address.field, Address.earlier]
  obtain ⟨p, -, hp⟩ := Option.map_eq_some_iff.mp hfield
  rw [← hp]
  rfl

end Record

/-! ## There and back -/

def Address.entry (addr : Address) (i : Fin 5) : Nat × CString :=
  (addr.phoneLabel i, (addr.phone i).getD CString.empty)

/-- The numbers of a record with their labels. -/
def phones (addr : Address) : Multiset (Nat × CString) :=
  (Finset.univ.filter addr.hasNumber).val.map addr.entry

/-- The charset gives the numbers of a record back. -/
structure GivesBack (charset : Charset) (addr : Address) : Prop where
  empty : charset.utf8FromPchar CString.empty = CString.empty
  filled : ∀ i s, Card.filled (addr.phone i) = some s →
    charset.utf8FromPchar s ≠ CString.empty ∧ charset.utf8ToPchar (charset.utf8FromPchar s) = s

section Rank

variable {addr : Address} {i k : Fin 5}

/-- How many entries with a number come before an entry in its attribute. -/
def Address.rank (addr : Address) (i : Fin 5) : Nat :=
  ((List.finRange 5).take i).countP fun k =>
    addr.attribute k = addr.attribute i ∧ addr.hasNumber k

/-- The element that an entry with a number gets. -/
def Address.slot (addr : Address) (i : Fin 5) : EContactField :=
  ((fieldsOf (addr.phoneLabel i)).find? fun field =>
    field.element = (addr.attribute i).map fun a => (a, addr.rank i)).getD fieldLast

theorem rank_le {field : EContactField} {a : Attribute} {n : Nat}
    (hfield : addr.field i = some field) (he : field.element = some (a, n)) :
    addr.rank i ≤ n := by
  have hattr := attribute_of_field hfield he
  rw [← countP_attribute hfield he, Address.rank, hattr]
  refine List.countP_mono_left fun k _ hk => ?_
  simp only [decide_eq_true_eq] at hk ⊢
  exact hk.1

/-- Without an empty entry before it an entry gets the element of its field. -/
theorem rank_eq {field : EContactField} {a : Attribute} {n : Nat}
    (hfield : addr.field i = some field) (he : field.element = some (a, n))
    (hbefore : ∀ k < i, addr.attribute k = some a → addr.hasNumber k) : addr.rank i = n := by
  have hattr := attribute_of_field hfield he
  rw [← countP_attribute hfield he, Address.rank, hattr]
  refine List.countP_congr fun k hk => ?_
  simp only [decide_eq_true_eq, and_iff_left_iff_imp]
  exact hbefore k (mem_take_finRange.mp hk)

theorem rank_lt (hlt : k < i) (hattr : addr.attribute k = addr.attribute i)
    (hk : addr.hasNumber k) : addr.rank k < addr.rank i := by
  have hle := (take_sublist hlt).countP_le (p := fun j =>
    decide (addr.attribute j = addr.attribute i ∧ addr.hasNumber j))
  rw [List.countP_append, List.countP_singleton, if_pos (by simp [hattr, hk])] at hle
  unfold Address.rank
  rw [hattr]
  exact hle

theorem rank_mono (hlt : k < i) (hattr : addr.attribute k = addr.attribute i) :
    addr.rank k ≤ addr.rank i := by
  have hle := ((List.sublist_append_left _ _).trans (take_sublist hlt)).countP_le (p := fun j =>
    decide (addr.attribute j = addr.attribute i ∧ addr.hasNumber j))
  unfold Address.rank
  rwa [hattr]

theorem slot_spec {a : Attribute} (hattr : addr.attribute i = some a) :
    addr.slot i ∈ fieldsOf (addr.phoneLabel i) ∧
      (addr.slot i).element = some (a, addr.rank i) := by
  obtain ⟨field, n, hfield, he⟩ := exists_field hattr
  obtain ⟨field', hmem, he'⟩ := exists_field_of_le (List.mem_of_getElem? hfield) he
    (rank_le hfield he)
  unfold Address.slot
  rw [hattr]
  cases hfind : (fieldsOf (addr.phoneLabel i)).find? fun field =>
      field.element = (some a).map fun a => (a, addr.rank i) with
  | none =>
      have hnone := List.find?_eq_none.mp hfind field' hmem
      simp [he'] at hnone
  | some found =>
      exact ⟨List.mem_of_find?_eq_some hfind, by simpa using List.find?_some hfind⟩

end Rank

section RoundTrip

variable {charset : Charset} {defaultAddress : Fin 3} {addr : Address}
  {nameToString : Option CString → Option CString → Option CString}
  {elements : κ → Attribute → List CString}

def contactOf (κ : Type) [EVCard κ] (charset : Charset)
    (nameToString : Option CString → Option CString → Option CString)
    (defaultAddress : Fin 3) (addr : Address) : EContact κ :=
  ecardFromRemoteRecord charset nameToString defaultAddress addr none

/-- What an attribute gets from a record. -/
def Address.kept (charset : Charset) (addr : Address) (a : Attribute) : List CString :=
  (List.finRange 5).filterMap fun i => stored charset addr a (addr.field i, i)

theorem elements_contactOf (hbook : EVCard.Lawful elements) (a : Attribute) :
    elements (contactOf κ charset nameToString defaultAddress addr).vcard a =
      addr.kept charset a := by
  have hroom : Room (elements EVCard.new) fieldsOf := by
    intro label field _ e _
    rw [hbook.new]
    exact Nat.zero_le _
  have hnumbers := @foldl_ecardStep κ _ charset addr getNextInit fieldsOf elements hbook
    getNextInit_at (readTexts charset nameToString defaultAddress addr EContact.new) hroom
    (List.finRange 5) a
  rw [taken_eq, List.filterMap_map] at hnumbers
  refine hnumbers.trans ?_
  change elements EVCard.new a ++ _ = _
  rw [hbook.new, List.nil_append]
  rfl

theorem number_contactOf (hbook : EVCard.Lawful elements) {field : EContactField} {a : Attribute}
    {n : Nat} (he : field.element = some (a, n)) :
    (contactOf κ charset nameToString defaultAddress addr).number field =
      (addr.kept charset a)[n]? := by
  rw [EContact.number, hbook.get _ field a n he, elements_contactOf hbook]

theorem filled_map (hback : GivesBack charset addr) (i : Fin 5) :
    Card.filled ((addr.phone i).map charset.utf8FromPchar) =
      (Card.filled (addr.phone i)).map charset.utf8FromPchar := by
  cases hphone : addr.phone i with
  | none => rfl
  | some t =>
      by_cases ht : t = CString.empty
      · simp [Card.filled, Option.filter_some, ht, hback.empty]
      · have hne := (hback.filled i t (filled_eq_some.mpr ⟨hphone, ht⟩)).1
        simp [Card.filled, Option.filter_some, ht, hne]

theorem stored_eq (hback : GivesBack charset addr) (a : Attribute) (i : Fin 5) :
    stored charset addr a (addr.field i, i) =
      if addr.attribute i = some a then
        (filled (addr.phone i)).map charset.utf8FromPchar
      else none := by
  rw [← filled_map hback i]
  rfl

theorem length_before (hback : GivesBack charset addr) {i : Fin 5} {a : Attribute}
    (hattr : addr.attribute i = some a) :
    (((List.finRange 5).take i).filterMap fun k =>
      stored charset addr a (addr.field k, k)).length = addr.rank i := by
  rw [List.length_filterMap_eq_countP, Address.rank, hattr]
  refine List.countP_congr fun k _ => ?_
  rw [stored_eq hback]
  by_cases hk : addr.attribute k = some a <;> simp [hk, Address.hasNumber]

/-- A number comes after those of the entries before it. -/
theorem kept_rank (hback : GivesBack charset addr) {i : Fin 5} {a : Attribute} {t : CString}
    (hattr : addr.attribute i = some a) (ht : filled (addr.phone i) = some t) :
    (addr.kept charset a)[addr.rank i]? = some (charset.utf8FromPchar t) := by
  have hstored : stored charset addr a (addr.field i, i) = some (charset.utf8FromPchar t) := by
    rw [stored_eq hback, if_pos hattr, ht, Option.map_some]
  rw [Address.kept, finRange_split i, List.filterMap_append, List.filterMap_cons, hstored,
    ← length_before hback hattr]
  simp

theorem exists_split {α β : Type} {f : α → Option β} {l : List α} {m : Nat} {y : β}
    (h : (l.filterMap f)[m]? = some y) :
    ∃ before x after, l = before ++ x :: after ∧ f x = some y ∧
      (before.filterMap f).length = m := by
  induction l generalizing m with
  | nil => simp at h
  | cons x l ih =>
      cases hx : f x with
      | none =>
          rw [List.filterMap_cons_none hx] at h
          obtain ⟨before, x', after, rfl, hx', hlength⟩ := ih h
          exact ⟨x :: before, x', after, rfl, hx', by rwa [List.filterMap_cons_none hx]⟩
      | some y' =>
          rw [List.filterMap_cons_some hx] at h
          cases m with
          | zero => exact ⟨[], x, l, rfl, by rwa [List.getElem?_cons_zero, ← hx] at h, rfl⟩
          | succ m =>
              obtain ⟨before, x', after, rfl, hx', hlength⟩ := ih h
              exact ⟨x :: before, x', after, rfl, hx',
                by rw [List.filterMap_cons_some hx, List.length_cons, hlength]⟩

/-- Every element is the number of an entry. -/
theorem exists_of_kept (hback : GivesBack charset addr) {a : Attribute} {m : Nat} {s : CString}
    (h : (addr.kept charset a)[m]? = some s) :
    ∃ i t, addr.attribute i = some a ∧ filled (addr.phone i) = some t ∧
      s = charset.utf8FromPchar t ∧ addr.rank i = m := by
  obtain ⟨before, i, after, hsplit, hi, hlength⟩ := exists_split h
  have hbefore : before = (List.finRange 5).take i := by
    have hget : (List.finRange 5)[before.length]? = some i := by
      rw [hsplit]
      simp
    have hval : before.length = i := by
      obtain ⟨hlt, hget⟩ := List.getElem?_eq_some_iff.mp hget
      simpa using congrArg Fin.val hget
    rw [hsplit, ← hval, List.take_left']
    rfl
  rw [stored_eq hback] at hi
  split at hi
  · rename_i hattr
    obtain ⟨t, ht, rfl⟩ := Option.map_eq_some_iff.mp hi
    refine ⟨i, t, hattr, ht, rfl, ?_⟩
    rw [← length_before hback hattr, ← hbefore, hlength]
  · cases hi

theorem filled_number (hbook : EVCard.Lawful elements) (hback : GivesBack charset addr)
    {field : EContactField} {a : Attribute} {n : Nat} (he : field.element = some (a, n)) :
    filled ((contactOf κ charset nameToString defaultAddress addr).number field) =
      (addr.kept charset a)[n]? := by
  rw [number_contactOf hbook he]
  cases hget : (addr.kept charset a)[n]? with
  | none => rfl
  | some s =>
      obtain ⟨i, t, -, ht, rfl, -⟩ := exists_of_kept hback hget
      exact filled_eq_some.mpr ⟨rfl, (hback.filled i t ht).1⟩

/-! ## A record that is not in priority order -/

/-- No number that takes a field stands after an empty entry of the same attribute. -/
def Address.InOrder (addr : Address) : Prop :=
  ∀ i, addr.hasNumber i → ∀ j < i, (addr.attribute i).isSome = true →
    addr.attribute j = addr.attribute i → addr.hasNumber j

instance (addr : Address) : Decidable addr.InOrder :=
  inferInstanceAs (Decidable (∀ i, addr.hasNumber i → ∀ j < i, _ → _ → _))

def readBack (charset : Charset) (addr : Address) (i : Fin 5) : Option CString :=
  ((addr.field i).bind EContactField.element).bind fun e => (addr.kept charset e.1)[e.2]?

theorem bind_number (hbook : EVCard.Lawful elements) (hback : GivesBack charset addr)
    (i : Fin 5) :
    ((addr.field i).bind fun field =>
      filled ((contactOf κ charset nameToString defaultAddress addr).number field)) =
        readBack charset addr i := by
  unfold readBack
  cases hfield : addr.field i with
  | none => rfl
  | some field =>
      obtain ⟨a, n, he, -⟩ := exists_element (List.mem_of_getElem? hfield)
      simp only [Option.bind_some, he]
      exact filled_number hbook hback he

theorem syncByLabel_spec (hbook : EVCard.Lawful elements) (hback : GivesBack charset addr)
    {b : Address} (hphone : b.phone = addr.phone) (hlabel : b.phoneLabel = addr.phoneLabel) :
    let result := syncByLabel charset (contactOf κ charset nameToString defaultAddress addr) b
    result.phoneLabel = addr.phoneLabel ∧ ∀ i, result.phone i =
      (readBack charset addr i).elim (addr.phone i) fun s => some (charset.utf8ToPchar s) := by
  obtain ⟨hlabels, -, htaken⟩ := @foldl_entryStep κ _ charset b getNextInit fieldsOf
    getNextInit_at (contactOf κ charset nameToString defaultAddress addr) _
    (List.nodup_finRange 5)
  refine ⟨hlabels.trans hlabel, fun i => ?_⟩
  have hfield : b.field = addr.field := by
    funext i
    simp only [Address.field, Address.earlier, hlabel]
  rw [taken_eq, hfield] at htaken
  have hi := htaken (addr.field i, i) (List.mem_map_of_mem (List.mem_finRange i))
  rw [bind_number hbook hback, hphone] at hi
  exact hi

/-- In such a record every entry is read back as it was. -/
theorem readBack_of_inOrder (hback : GivesBack charset addr) (h : addr.InOrder) {i : Fin 5}
    {s : CString} (hs : readBack charset addr i = some s) :
    addr.phone i = some (charset.utf8ToPchar s) := by
  obtain ⟨⟨a, n⟩, he, hget⟩ := Option.bind_eq_some_iff.mp hs
  obtain ⟨field, hfield, he⟩ := Option.bind_eq_some_iff.mp he
  have hattr := attribute_of_field hfield he
  obtain ⟨k, t, hk, ht, rfl, hrank⟩ := exists_of_kept hback hget
  have hnumber : addr.hasNumber k := by simp [Address.hasNumber, ht]
  have hsame : addr.attribute k = addr.attribute i := hk.trans hattr.symm
  rcases lt_trichotomy k i with hlt | rfl | hlt
  · have := rank_lt hlt hsame hnumber
    have := rank_le hfield he
    omega
  · rw [(hback.filled k t ht).2]
    exact (filled_eq_some.mp ht).1
  · have hi : addr.hasNumber i := h k hnumber i hlt (by simp [hk]) hsame.symm
    have := rank_eq hfield he fun j hj hja =>
      h i hi j hj (by simp [hattr]) (hja.trans hattr.symm)
    have := rank_lt hlt hsame.symm hi
    omega

/-- Else an empty entry gets the number of a later one. -/
theorem exists_readBack (hback : GivesBack charset addr) (h : ¬ addr.InOrder) :
    ∃ j, ¬ addr.hasNumber j ∧ (readBack charset addr j).isSome = true := by
  unfold Address.InOrder at h
  push Not at h
  obtain ⟨i, hi, j, hji, hsome, hattr, hj⟩ := h
  obtain ⟨a, ha⟩ := Option.isSome_iff_exists.mp hsome
  obtain ⟨first, hmem, hmin⟩ := Finset.exists_min_image
    (Finset.univ.filter fun k => addr.attribute k = some a ∧ ¬ addr.hasNumber k) id
    ⟨j, by simp [hattr.trans ha, hj]⟩
  obtain ⟨-, hfirst, hempty⟩ := Finset.mem_filter.mp hmem
  have hmin : ∀ k, addr.attribute k = some a → ¬ addr.hasNumber k → first ≤ k :=
    fun k hk hnot => hmin k (Finset.mem_filter.mpr ⟨Finset.mem_univ k, hk, hnot⟩)
  obtain ⟨field, n, hfield, he⟩ := exists_field hfirst
  have hrank := rank_eq hfield he fun k hk hka => by
    by_contra hnot
    exact absurd hk (not_lt_of_ge (hmin k hka hnot))
  have hle : first ≤ j := hmin j (hattr.trans ha) hj
  have hmono := rank_mono (lt_of_le_of_lt hle hji) (hfirst.trans ha.symm)
  obtain ⟨t, ht⟩ := Option.isSome_iff_exists.mp hi
  have hlength := (List.getElem?_eq_some_iff.mp (kept_rank hback ha ht)).1
  refine ⟨first, hempty, ?_⟩
  unfold readBack
  rw [hfield, Option.bind_some, he, Option.bind_some]
  dsimp only
  rw [List.getElem?_eq_getElem (by omega)]
  rfl

theorem filled_readBack (hback : GivesBack charset addr) {i : Fin 5} {s : CString}
    (hs : readBack charset addr i = some s) :
    filled (some (charset.utf8ToPchar s)) = some (charset.utf8ToPchar s) := by
  obtain ⟨e, -, hget⟩ := Option.bind_eq_some_iff.mp hs
  obtain ⟨k, t, -, ht, rfl, -⟩ := exists_of_kept hback hget
  rw [(hback.filled k t ht).2]
  exact filled_eq_some.mpr ⟨rfl, (filled_eq_some.mp ht).2⟩

/-! ## The numbers of the contact -/

/-- The entries with a number that take a field. -/
def Address.reached (addr : Address) : Finset (Fin 5) :=
  Finset.univ.filter fun i => addr.hasNumber i ∧ (addr.field i).isSome = true

def Address.unreached (addr : Address) : Finset (Fin 5) :=
  Finset.univ.filter fun i => addr.hasNumber i ∧ addr.field i = none

def Address.leftOver (addr : Address) : Finset (Fin 5) :=
  Finset.univ.filter fun i => addr.hasNumber i ∧ addr.reached.card ≤ i

theorem mem_reached {i : Fin 5} :
    i ∈ addr.reached ↔ addr.hasNumber i ∧ (addr.field i).isSome = true := by
  simp [Address.reached]

theorem mem_unreached {i : Fin 5} :
    i ∈ addr.unreached ↔ addr.hasNumber i ∧ addr.field i = none := by
  simp [Address.unreached]

theorem mem_leftOver {i : Fin 5} :
    i ∈ addr.leftOver ↔ addr.hasNumber i ∧ addr.reached.card ≤ i := by
  simp [Address.leftOver]

theorem attribute_of_reached {i : Fin 5} (hi : i ∈ addr.reached) :
    ∃ a t, addr.attribute i = some a ∧ filled (addr.phone i) = some t := by
  obtain ⟨hnumber, hfield⟩ := mem_reached.mp hi
  rw [← attribute_isSome] at hfield
  obtain ⟨a, ha⟩ := Option.isSome_iff_exists.mp hfield
  obtain ⟨t, ht⟩ := Option.isSome_iff_exists.mp hnumber
  exact ⟨a, t, ha, ht⟩

theorem slot_injOn {i j : Fin 5} (hi : i ∈ addr.reached) (hj : j ∈ addr.reached)
    (h : addr.slot i = addr.slot j) : i = j := by
  obtain ⟨a, -, ha, -⟩ := attribute_of_reached hi
  obtain ⟨b, -, hb, -⟩ := attribute_of_reached hj
  have heq := (slot_spec ha).2.symm.trans ((congrArg EContactField.element h).trans
    (slot_spec hb).2)
  obtain ⟨rfl, hrank⟩ := Prod.mk.inj (Option.some.inj heq)
  rcases lt_trichotomy i j with hlt | hij | hlt
  · have := rank_lt hlt (ha.trans hb.symm) (mem_reached.mp hi).1
    omega
  · exact hij
  · have := rank_lt hlt (hb.trans ha.symm) (mem_reached.mp hj).1
    omega

theorem numbers_contactOf (hbook : EVCard.Lawful elements) (hback : GivesBack charset addr) :
    (numbers (contactOf κ charset nameToString defaultAddress addr) :
        Multiset (EContactField × Nat)) =
      addr.reached.val.map fun i => (addr.slot i, addr.phoneLabel i) := by
  refine (Multiset.Nodup.ext ?_ ?_).mpr fun p => ?_
  · exact Multiset.coe_nodup.mpr (List.Nodup.of_map Prod.fst (nodup_numbers _))
  · exact Multiset.Nodup.map_on (fun i hi j hj h => slot_injOn hi hj (Prod.mk.inj h).1)
      addr.reached.nodup
  · rw [Multiset.mem_coe, mem_numbers, Multiset.mem_map]
    constructor
    · rintro ⟨htable, s, hs⟩
      obtain ⟨a, n, he, hlabel⟩ := exists_element (mem_fieldsOf.mpr htable)
      rw [filled_number hbook hback he] at hs
      obtain ⟨i, t, hattr, ht, -, hrank⟩ := exists_of_kept hback hs
      refine ⟨i, mem_reached.mpr ⟨by simp [Address.hasNumber, ht], ?_⟩, Prod.ext ?_ ?_⟩
      · rw [← attribute_isSome, hattr, Option.isSome_some]
      · exact element_inj (hrank ▸ (slot_spec hattr).2) he
      · exact (label_attribute hattr).symm.trans hlabel
    · rintro ⟨i, hi, rfl⟩
      obtain ⟨a, t, ha, ht⟩ := attribute_of_reached hi
      obtain ⟨hmem, he⟩ := slot_spec ha
      exact ⟨mem_fieldsOf.mp hmem, _, (filled_number hbook hback he).trans
        (kept_rank hback ha ht)⟩

theorem map_val_split {ι β : Type} (s : Finset ι) (q : ι → Prop) [DecidablePred q] (f : ι → β) :
    s.val.map f = (s.filter q).val.map f + (s.filter fun i => ¬ q i).val.map f := by
  rw [← Multiset.map_add, Finset.filter_val, Finset.filter_val, Multiset.filter_add_not]

theorem map_getElem? {α β : Type} (l : List α) (h : l.length ≤ 5) (f : α → β) (d : β) :
    (Finset.univ.filter fun i : Fin 5 => (i : Nat) < l.length).val.map
      (fun i : Fin 5 => (l[(i : Nat)]?).elim d f) = (l.map f : Multiset β) := by
  rcases l with _ | ⟨a, _ | ⟨b, _ | ⟨c, _ | ⟨e, _ | ⟨g, _ | ⟨x, l⟩⟩⟩⟩⟩⟩
  case cons.cons.cons.cons.cons.cons =>
    simp only [List.length_cons] at h
    omega
  all_goals rfl

def Address.leftEntry (addr : Address) (i : Fin 5) : Nat × CString :=
  ((i : Nat), (addr.phone i).getD CString.empty)

def written (charset : Charset) (contact : EContact κ) (p : EContactField × Nat) :
    Nat × CString :=
  (p.2, ((contact.number p.1).map charset.utf8ToPchar).getD CString.empty)

/-- The number of an entry that takes a field is read as it was. -/
theorem written_of_reached (hbook : EVCard.Lawful elements) (hback : GivesBack charset addr)
    {i : Fin 5} (hi : i ∈ addr.reached) :
    ∃ t, filled (addr.phone i) = some t ∧
      ((contactOf κ charset nameToString defaultAddress addr).number (addr.slot i)).map
        charset.utf8ToPchar = some t := by
  obtain ⟨a, t, ha, ht⟩ := attribute_of_reached hi
  refine ⟨t, ht, ?_⟩
  rw [number_contactOf hbook (slot_spec ha).2, kept_rank hback ha ht, Option.map_some,
    (hback.filled i t ht).2]

theorem length_numbers (hbook : EVCard.Lawful elements) (hback : GivesBack charset addr) :
    (numbers (contactOf κ charset nameToString defaultAddress addr)).length =
      addr.reached.card := by
  have hcard := congrArg Multiset.card
    (@numbers_contactOf κ _ charset defaultAddress addr nameToString elements hbook hback)
  simpa using hcard

theorem map_written (hbook : EVCard.Lawful elements) (hback : GivesBack charset addr) :
    (numbers (contactOf κ charset nameToString defaultAddress addr) : Multiset _).map
        (written charset (contactOf κ charset nameToString defaultAddress addr)) =
      addr.reached.val.map addr.entry := by
  rw [numbers_contactOf hbook hback, Multiset.map_map]
  refine Multiset.map_congr rfl fun i hi => ?_
  obtain ⟨t, ht, ht'⟩ := @written_of_reached κ _ charset defaultAddress addr nameToString elements hbook hback i hi
  simp [written, Address.entry, ht', (filled_eq_some.mp ht).1]

/-- The entries of a record that was in priority order: first the numbers of the contact. -/
theorem entry_of_lt (hbook : EVCard.Lawful elements) (hback : GivesBack charset addr) (h : isSyncable addr = true) {i : Fin 5}
    (hi : (i : Nat) < addr.reached.card) :
    let contact := contactOf κ charset nameToString defaultAddress addr
    let result := localRecordFromEcard charset defaultAddress contact (some addr)
    result.hasNumber i ∧ result.entry i =
      ((numbers contact)[(i : Nat)]?).elim (0, CString.empty) (written charset contact) := by
  intro contact result
  have hnumbers := @numbers_contactOf κ _ charset defaultAddress addr nameToString elements hbook hback
  rw [← @length_numbers κ _ charset defaultAddress addr nameToString elements hbook hback] at hi
  obtain ⟨hphone, hlabel⟩ := @localRecordFromEcard_syncable κ _ charset defaultAddress contact
    (some addr) h i
  have hmem : (numbers contact)[(i : Nat)] ∈ (numbers contact : Multiset _) := List.getElem_mem hi
  rw [hnumbers, Multiset.mem_map] at hmem
  obtain ⟨k, hk, hp⟩ := hmem
  obtain ⟨t, ht, ht'⟩ := @written_of_reached κ _ charset defaultAddress addr nameToString elements hbook hback k hk
  rw [List.getElem?_eq_getElem hi, Option.elim_some, ← hp] at hphone hlabel ⊢
  rw [ht'] at hphone
  refine ⟨?_, ?_⟩
  · have hfilled : filled (some t) = some t :=
      filled_eq_some.mpr ⟨rfl, (filled_eq_some.mp ht).2⟩
    rw [Address.hasNumber, hphone, hfilled]
    rfl
  · rw [Address.entry, hphone, hlabel, written, ht']

/-- The entries after them are left over. -/
theorem entry_of_ge (hbook : EVCard.Lawful elements) (hback : GivesBack charset addr) (h : isSyncable addr = true) {i : Fin 5}
    (hi : addr.reached.card ≤ i) :
    let result := localRecordFromEcard charset defaultAddress
      (contactOf κ charset nameToString defaultAddress addr) (some addr)
    (result.hasNumber i ↔ addr.hasNumber i) ∧ result.entry i = addr.leftEntry i := by
  intro result
  rw [← @length_numbers κ _ charset defaultAddress addr nameToString elements hbook hback] at hi
  obtain ⟨hphone, hlabel⟩ := @localRecordFromEcard_syncable κ _ charset defaultAddress
    (contactOf κ charset nameToString defaultAddress addr) (some addr) h i
  rw [List.getElem?_eq_none hi, Option.elim_none] at hphone hlabel
  refine ⟨?_, ?_⟩
  · rw [Address.hasNumber, hphone]
    exact Iff.rfl
  · rw [Address.entry, hphone, hlabel]
    rfl

/-- A record in priority order has the numbers that took a field, and those left over. -/
theorem phones_syncable (hbook : EVCard.Lawful elements) (hback : GivesBack charset addr) (h : isSyncable addr = true) :
    phones (localRecordFromEcard charset defaultAddress
        (contactOf κ charset nameToString defaultAddress addr) (some addr)) =
      addr.reached.val.map addr.entry + addr.leftOver.val.map addr.leftEntry := by
  have hfirst := fun {i : Fin 5} => @entry_of_lt κ _ charset defaultAddress addr nameToString elements hbook hback h i
  have hrest := fun {i : Fin 5} => @entry_of_ge κ _ charset defaultAddress addr nameToString elements hbook hback h i
  have hlength := @length_numbers κ _ charset defaultAddress addr nameToString elements hbook hback
  have hwritten := @map_written κ _ charset defaultAddress addr nameToString elements hbook hback
  generalize contactOf κ charset nameToString defaultAddress addr = contact at *
  dsimp only at hfirst hrest
  generalize localRecordFromEcard charset defaultAddress contact (some addr) = result at *
  have hfive : (numbers contact).length ≤ 5 := hlength ▸ Finset.card_le_univ addr.reached
  rw [phones, map_val_split _ fun i : Fin 5 => (i : Nat) < addr.reached.card]
  refine congrArg₂ (· + ·) ?_ ?_
  · have hset : (Finset.univ.filter result.hasNumber).filter
        (fun i : Fin 5 => (i : Nat) < addr.reached.card) =
          Finset.univ.filter fun i : Fin 5 => (i : Nat) < (numbers contact).length := by
      ext i
      simp only [Finset.mem_filter, Finset.mem_univ, true_and, hlength, and_iff_right_iff_imp]
      exact fun hi => (hfirst hi).1
    rw [hset, ← hwritten, Multiset.map_coe,
      ← map_getElem? (numbers contact) hfive (written charset contact) (0, CString.empty)]
    refine Multiset.map_congr rfl fun i hi => (hfirst ?_).2
    simpa [hlength] using hi
  · have hset : (Finset.univ.filter result.hasNumber).filter
        (fun i : Fin 5 => ¬ (i : Nat) < addr.reached.card) = addr.leftOver := by
      ext i
      simp only [Address.leftOver, Finset.mem_filter, Finset.mem_univ, true_and, not_lt]
      exact and_congr_left fun hi => (hrest hi).1
    rw [hset]
    exact Multiset.map_congr rfl fun i hi => (hrest (mem_leftOver.mp hi).2).2

theorem phones_eq (addr : Address) :
    phones addr = addr.reached.val.map addr.entry + addr.unreached.val.map addr.entry := by
  rw [phones, map_val_split _ fun i => (addr.field i).isSome = true, Finset.filter_filter,
    Finset.filter_filter]
  simp [Address.reached, Address.unreached]

end RoundTrip

/-! ## Which numbers are left over -/

section LeftOver

variable {addr : Address}

theorem card_reached_add (addr : Address) :
    addr.reached.card + addr.unreached.card = (Finset.univ.filter addr.hasNumber).card := by
  have hcard := congrArg Multiset.card (phones_eq addr)
  rw [phones, Multiset.card_add, Multiset.card_map, Multiset.card_map, Multiset.card_map] at hcard
  exact hcard.symm

/-- If no entry after an empty one takes a field, those are left over that take none. -/
theorem leftOver_eq_of_front (h : isSyncable addr = true)
    (hfront : ∀ i, addr.hasNumber i → (∃ j < i, ¬ addr.hasNumber j) → addr.field i = none) :
    addr.leftOver = addr.unreached := by
  ext i
  rw [mem_leftOver, mem_unreached]
  refine and_congr_right fun hi => ?_
  by_cases hall : ∀ j ≤ i, addr.hasNumber j
  · -- All entries up to this one take a field.
    have hsub : Finset.Iic i ⊆ addr.reached := by
      intro j hj
      have hj := Finset.mem_Iic.mp hj
      exact mem_reached.mpr ⟨hall j hj,
        field_isSome_of_syncable h fun k hk => hall k (hk.trans hj)⟩
    have hcard := Finset.card_le_card hsub
    rw [Fin.card_Iic] at hcard
    have hsome := (mem_reached.mp (hsub (Finset.mem_Iic.mpr le_rfl))).2
    exact iff_of_false (by omega) fun hnone => by simp [hnone] at hsome
  · obtain ⟨j, hji, hj⟩ : ∃ j ≤ i, ¬ addr.hasNumber j := by simpa using hall
    have hlt : j < i := lt_of_le_of_ne hji fun heq => hj (heq ▸ hi)
    have hsub : addr.reached ⊆ Finset.Iio j := by
      intro k hk
      obtain ⟨hk, hsome⟩ := mem_reached.mp hk
      refine Finset.mem_Iio.mpr (lt_of_not_ge fun hjk => ?_)
      have hne : j ≠ k := fun heq => hj (heq ▸ hk)
      simp [hfront k hk ⟨j, lt_of_le_of_ne hjk hne, hj⟩] at hsome
    have hcard := Finset.card_le_card hsub
    rw [Fin.card_Iio] at hcard
    have hlt : (j : Nat) < i := hlt
    exact iff_of_true (by omega) (hfront i hi ⟨j, hlt, hj⟩)

theorem card_below_reached (addr : Address) :
    (Finset.univ.filter fun i : Fin 5 => (i : Nat) < addr.reached.card).card =
      addr.reached.card := by
  have hfive : addr.reached.card ≤ 5 := Finset.card_le_univ addr.reached
  rw [Fin.card_filter_val_lt, Nat.min_eq_right hfive]

/-- If as many are left over as take no field, as many entries below the count have a number
as there are entries below it: all of them. -/
theorem hasNumber_of_lt_card (hcard : addr.leftOver.card = addr.unreached.card) {i : Fin 5}
    (hi : (i : Nat) < addr.reached.card) : addr.hasNumber i := by
  have hbelow := card_below_reached addr
  have hsplit := @Finset.card_filter_add_card_filter_not _ (Finset.univ.filter addr.hasNumber)
    (fun i : Fin 5 => addr.reached.card ≤ i) _ _
  rw [Finset.filter_filter, Finset.filter_filter, ← Address.leftOver, hcard,
    ← card_reached_add] at hsplit
  have hsub : (Finset.univ.filter fun i : Fin 5 =>
      addr.hasNumber i ∧ ¬ addr.reached.card ≤ i) ⊆
        Finset.univ.filter fun i : Fin 5 => (i : Nat) < addr.reached.card :=
    Finset.monotone_filter_right _ fun i _ hi => not_le.mp hi.2
  have heq := Finset.eq_of_subset_of_card_le hsub (by omega)
  have hmem : i ∈ Finset.univ.filter fun i : Fin 5 => (i : Nat) < addr.reached.card := by
    simpa using hi
  rw [← heq] at hmem
  exact (Finset.mem_filter.mp hmem).2.1

/-- Then the fields are taken from the first entry on, without a gap. -/
theorem leftOver_eq_of_card (h : isSyncable addr = true)
    (hcard : addr.leftOver.card = addr.unreached.card) :
    addr.leftOver = addr.unreached ∧
      ∀ i, addr.hasNumber i → (∃ j < i, ¬ addr.hasNumber j) → addr.field i = none := by
  have hbelow := card_below_reached addr
  have hnumber : ∀ i : Fin 5, (i : Nat) < addr.reached.card → addr.hasNumber i :=
    fun _ hi => hasNumber_of_lt_card hcard hi
  have hreached : (Finset.univ.filter fun i : Fin 5 => (i : Nat) < addr.reached.card) =
      addr.reached := by
    refine Finset.eq_of_subset_of_card_le (fun i hi => ?_) (by omega)
    have hi : (i : Nat) < addr.reached.card := (Finset.mem_filter.mp hi).2
    refine mem_reached.mpr ⟨hnumber i hi, field_isSome_of_syncable h fun j hj => hnumber j ?_⟩
    exact lt_of_le_of_lt (Fin.val_le_of_le hj) hi
  have hnone : ∀ i, addr.hasNumber i → (addr.reached.card ≤ i ↔ addr.field i = none) := by
    intro i hi
    have hmem : i ∈ addr.reached ↔ (i : Nat) < addr.reached.card := by
      conv_lhs => rw [← hreached]
      simp
    rw [mem_reached, and_iff_right hi, ← not_le, Option.isSome_iff_ne_none] at hmem
    exact (not_iff_not.mp hmem).symm
  refine ⟨?_, fun i hi ⟨j, hji, hj⟩ => (hnone i hi).mp ?_⟩
  · ext i
    rw [mem_leftOver, mem_unreached]
    exact and_congr_right (hnone i)
  · refine le_of_not_gt fun hlt => hj (hnumber j ?_)
    exact lt_trans (Fin.lt_def.mp hji) hlt

theorem count_add_count_le {α : Type} [DecidableEq α] {a b : α} (h : a ≠ b) (l : List α) :
    l.count a + l.count b ≤ l.length := by
  induction l with
  | nil => simp
  | cons x l ih =>
      rw [List.count_cons, List.count_cons, List.length_cons]
      by_cases hx : x = a
      · subst hx
        simp [h]
        omega
      by_cases hx' : x = b
      · subst hx'
        simp [hx]
        omega
      · simp [hx, hx']
        omega

/-- Two entries of different labels that take no field have the fields of both labels before
them, and one of them the other. -/
theorem length_add_length_lt {i j : Fin 5} (hij : i < j) (hi : addr.field i = none)
    (hj : addr.field j = none) (hne : addr.phoneLabel i ≠ addr.phoneLabel j) :
    (fieldsOf (addr.phoneLabel i)).length + (fieldsOf (addr.phoneLabel j)).length < j := by
  have hi := List.getElem?_eq_none_iff.mp hi
  have hj := List.getElem?_eq_none_iff.mp hj
  have hcount := count_add_count_le hne (((List.finRange 5).take j).map addr.phoneLabel)
  have hlater : addr.earlier i + 1 ≤
      (((List.finRange 5).take j).map addr.phoneLabel).count (addr.phoneLabel i) := by
    have htake : (List.finRange 5).take (i + 1) = (List.finRange 5).take i ++ [i] := by
      rw [List.take_add_one, List.getElem?_eq_getElem (by simp)]
      simp
    have hsub : (((List.finRange 5).take (i + 1)).map addr.phoneLabel).Sublist
        (((List.finRange 5).take j).map addr.phoneLabel) :=
      (List.take_sublist_take_left (Nat.succ_le_of_lt hij)).map _
    have hle := hsub.count_le (addr.phoneLabel i)
    rwa [htake, List.map_append, List.count_append, List.map_singleton,
      List.count_singleton_self] at hle
  have hlength : (((List.finRange 5).take j).map addr.phoneLabel).length = j := by simp
  unfold Address.earlier at hi hj hlater
  omega

theorem length_fieldsOf (k : Fin 5) :
    1 ≤ (fieldsOf k).length ∧ ((k : Nat) ≠ 3 → 2 ≤ (fieldsOf k).length) := by
  revert k
  decide

section Indices

/-! Here the labels of the entries that take no field are their indices in some order. -/

variable (hmap : addr.unreached.val.map addr.phoneLabel = addr.unreached.val.map Fin.val)
  {j k : Fin 5}

include hmap

theorem phoneLabel_injOn (hj : j ∈ addr.unreached) (hk : k ∈ addr.unreached)
    (heq : addr.phoneLabel j = addr.phoneLabel k) : j = k := by
  have hnodup : (addr.unreached.val.map addr.phoneLabel).Nodup := by
    rw [hmap]
    exact addr.unreached.nodup.map Fin.val_injective
  exact Multiset.inj_on_of_nodup_map hnodup j hj k hk heq

theorem exists_index (hj : j ∈ addr.unreached) :
    ∃ k ∈ addr.unreached, (k : Nat) = addr.phoneLabel j := by
  have hmem := Multiset.mem_map_of_mem addr.phoneLabel (Finset.mem_val.mpr hj)
  rw [hmap] at hmem
  exact Multiset.mem_map.mp hmem

theorem exists_phoneLabel (hj : j ∈ addr.unreached) :
    ∃ k ∈ addr.unreached, addr.phoneLabel k = j := by
  have hmem := Multiset.mem_map_of_mem Fin.val (Finset.mem_val.mpr hj)
  rw [← hmap] at hmem
  exact Multiset.mem_map.mp hmem

theorem length_fieldsOf_label (hj : j ∈ addr.unreached) :
    1 ≤ (fieldsOf (addr.phoneLabel j)).length ∧
      (addr.phoneLabel j ≠ 3 → 2 ≤ (fieldsOf (addr.phoneLabel j)).length) := by
  obtain ⟨k, -, hk⟩ := exists_index hmap hj
  rw [← hk]
  exact length_fieldsOf k

theorem length_add_length_label_lt (hj : j ∈ addr.unreached) (hk : k ∈ addr.unreached)
    (hjk : j < k) :
    (fieldsOf (addr.phoneLabel j)).length + (fieldsOf (addr.phoneLabel k)).length < k :=
  length_add_length_lt hjk (mem_unreached.mp hj).2 (mem_unreached.mp hk).2
    fun heq => absurd (phoneLabel_injOn hmap hj hk heq) (ne_of_lt hjk)

/-- Of two such entries the second would be the last one, and then label 4 has no room. -/
theorem not_lt_of_unreached (hj : j ∈ addr.unreached) (hk : k ∈ addr.unreached) : ¬ j < k := by
  intro hjk
  have hne : addr.phoneLabel j ≠ addr.phoneLabel k :=
    fun heq => absurd (phoneLabel_injOn hmap hj hk heq) (ne_of_lt hjk)
  have hsum := length_add_length_label_lt hmap hj hk hjk
  obtain ⟨hj1, hj2⟩ := length_fieldsOf_label hmap hj
  obtain ⟨hk1, hk2⟩ := length_fieldsOf_label hmap hk
  have hk4 : (k : Nat) = 4 := by
    by_cases h3 : addr.phoneLabel j = 3
    · have := hk2 fun h => hne (h3.trans h.symm)
      omega
    · have := hj2 h3
      omega
  obtain ⟨m, hm, hlabelm⟩ := exists_phoneLabel hmap hk
  have hfour : (fieldsOf (addr.phoneLabel m)).length = 3 := by
    rw [hlabelm, hk4]
    rfl
  by_cases hmk : m = k
  · rw [hmk] at hfour
    omega
  · have hmk : m < k := by
      have := m.isLt
      exact Fin.lt_def.mpr (by have := Fin.val_ne_of_ne hmk; omega)
    have hsum := length_add_length_label_lt hmap hm hk hmk
    omega

/-- Then they are so one by one. -/
theorem label_eq_index (hj : j ∈ addr.unreached) : addr.phoneLabel j = j := by
  obtain ⟨k, hk, hjk⟩ := exists_index hmap hj
  have heq : k = j := le_antisymm (not_lt.mp (not_lt_of_unreached hmap hj hk))
    (not_lt.mp (not_lt_of_unreached hmap hk hj))
  rw [← hjk, heq]

end Indices

end LeftOver

section Main

variable {charset : Charset} {defaultAddress : Fin 3} {addr : Address}
  {nameToString : Option CString → Option CString → Option CString}
  {elements : κ → Attribute → List CString}

theorem phones_congr {a b : Address} (hphone : a.phone = b.phone)
    (hlabel : a.phoneLabel = b.phoneLabel) : phones a = phones b := by
  have hset : Finset.univ.filter a.hasNumber = Finset.univ.filter b.hasNumber := by
    ext i
    simp [Address.hasNumber, hphone]
  have hentry : a.entry = b.entry := by
    funext i
    rw [Address.entry, Address.entry, hphone, hlabel]
  rw [phones, phones, hset, hentry]

/-- Every entry of a record that is not in priority order is as it is read back. -/
theorem entries_not_syncable (hbook : EVCard.Lawful elements) (hback : GivesBack charset addr)
    (h : isSyncable addr = false) :
    let result := localRecordFromEcard charset defaultAddress
      (contactOf κ charset nameToString defaultAddress addr) (some addr)
    result.phoneLabel = addr.phoneLabel ∧ ∀ i, result.phone i =
      (readBack charset addr i).elim (addr.phone i) fun s => some (charset.utf8ToPchar s) := by
  have hold : (unsynced (some addr)).phone = addr.phone ∧
      (unsynced (some addr)).phoneLabel = addr.phoneLabel := ⟨rfl, rfl⟩
  obtain ⟨hphone, hlabel⟩ := setTexts_phones charset defaultAddress
    (contactOf κ charset nameToString defaultAddress addr) (unsynced (some addr))
  rw [hold.1] at hphone
  rw [hold.2] at hlabel
  dsimp only [localRecordFromEcard]
  rw [isSyncable_congr hphone hlabel, h, if_neg Bool.false_ne_true]
  exact syncByLabel_spec hbook hback hphone hlabel

/-- Such a record comes back as it was if the desktop keeps its numbers in their places. -/
theorem phones_not_syncable (hbook : EVCard.Lawful elements) (hback : GivesBack charset addr)
    (h : isSyncable addr = false) :
    phones (localRecordFromEcard charset defaultAddress
      (contactOf κ charset nameToString defaultAddress addr) (some addr)) = phones addr ↔
      addr.InOrder := by
  obtain ⟨hlabel, hphone⟩ := @entries_not_syncable κ _ charset defaultAddress addr nameToString
    elements hbook hback h
  generalize localRecordFromEcard charset defaultAddress
    (contactOf κ charset nameToString defaultAddress addr) (some addr) = result at *
  constructor
  · intro hsame
    by_contra hnot
    obtain ⟨j, hj, hread⟩ := exists_readBack hback hnot
    have hfilled : ∀ i, addr.hasNumber i ∨ (readBack charset addr i).isSome = true →
        result.hasNumber i := by
      intro i hi
      rw [Address.hasNumber, hphone i]
      cases hs : readBack charset addr i with
      | none => exact hi.resolve_right (by simp [hs])
      | some s => rw [Option.elim_some, filled_readBack hback hs, Option.isSome_some]
    -- one more entry has a number
    have hless : Finset.univ.filter addr.hasNumber ⊂ Finset.univ.filter result.hasNumber :=
      Finset.ssubset_iff_subset_ne.mpr
        ⟨fun i hi => by simpa using hfilled i (Or.inl (Finset.mem_filter.mp hi).2), fun heq => hj
          (by simpa using (heq ▸ Finset.mem_filter.mpr ⟨Finset.mem_univ j, hfilled j (Or.inr hread)⟩ :
            j ∈ Finset.univ.filter addr.hasNumber))⟩
    have hcard := congrArg Multiset.card hsame
    rw [phones, phones, Multiset.card_map, Multiset.card_map] at hcard
    exact absurd hcard (ne_of_gt (Finset.card_lt_card hless))
  · intro horder
    refine phones_congr (funext fun i => ?_) hlabel
    rw [hphone i]
    cases hs : readBack charset addr i with
    | none => rfl
    | some s => exact (readBack_of_inOrder hback horder hs).symm

/-- The numbers of a record in priority order come back if each that stands after an empty
entry is one that takes no field and has the index of its own entry for its label. -/
theorem phones_syncable_iff (hbook : EVCard.Lawful elements) (hback : GivesBack charset addr)
    (h : isSyncable addr = true) :
    phones (localRecordFromEcard charset defaultAddress
      (contactOf κ charset nameToString defaultAddress addr) (some addr)) = phones addr ↔
      ∀ i, addr.hasNumber i → (∃ j < i, ¬ addr.hasNumber j) →
        addr.field i = none ∧ addr.phoneLabel i = i := by
  rw [phones_syncable hbook hback h, phones_eq addr, add_right_inj]
  constructor
  · intro hsame i hi hempty
    have hcard := congrArg Multiset.card hsame
    rw [Multiset.card_map, Multiset.card_map] at hcard
    obtain ⟨hset, hnone⟩ := leftOver_eq_of_card h hcard
    have hmap := congrArg (Multiset.map Prod.fst) hsame
    rw [hset, Multiset.map_map, Multiset.map_map] at hmap
    have hfield := hnone i hi hempty
    exact ⟨hfield, label_eq_index hmap.symm (mem_unreached.mpr ⟨hi, hfield⟩)⟩
  · intro hlast
    rw [leftOver_eq_of_front h fun i hi hempty => (hlast i hi hempty).1]
    refine Multiset.map_congr rfl fun i hi => ?_
    obtain ⟨hi, hnone⟩ := mem_unreached.mp (Finset.mem_val.mp hi)
    have hempty : ∃ j < i, ¬ addr.hasNumber j := by
      by_contra hall
      have hsome := field_isSome_of_syncable h (i := i) fun j hj => ?_
      · simp [hnone] at hsome
      · rcases lt_or_eq_of_le hj with hlt | heq
        · exact not_not.mp fun hj => hall ⟨j, hlt, hj⟩
        · exact heq ▸ hi
    rw [Address.leftEntry, Address.entry, (hlast i hi hempty).2]

/-- The numbers and their labels come back if each number that stands after an empty entry is
one that takes no field and has the index of its own entry for its label; or, in a record
that is not in priority order, if none that takes a field stands after an empty entry of its
attribute. -/
theorem phonesKept_iff (hbook : EVCard.Lawful elements) (hback : GivesBack charset addr) :
    phones (localRecordFromEcard charset defaultAddress
        (ecardFromRemoteRecord charset nameToString defaultAddress addr
          (none : Option (EContact κ))) (some addr)) =
      phones addr ↔
    if isSyncable addr then
      ∀ i, addr.hasNumber i → (∃ j < i, ¬ addr.hasNumber j) →
        addr.field i = none ∧ addr.phoneLabel i = i
    else addr.InOrder := by
  cases hsyncable : isSyncable addr with
  | false =>
      rw [if_neg Bool.false_ne_true]
      exact phones_not_syncable hbook hback hsyncable
  | true =>
      rw [if_pos rfl]
      exact phones_syncable_iff hbook hback hsyncable

end Main

/-! ## A number after an empty entry -/

/-- A record whose first two entries are for work; the first one is empty. -/
def secondWork : Address :=
  { Address.zero with phone := ![none, some one, none, none, none] }

def plainName (_given _family : Option CString) : Option CString := none

/-- The number moves to the first entry, and is left in the second one as a number at home. -/
theorem secondWork_twice :
    phones (localRecordFromEcard Category.plainCharset 0
      (ecardFromRemoteRecord Category.plainCharset plainName 0 secondWork
        (none : Option (EContact VCard)))
      (some secondWork)) ≠ phones secondWork ∧
    phones (localRecordFromEcard Category.plainCharset 0
      (ecardFromRemoteRecord Category.plainCharset plainName 0 secondWork
        (none : Option (EContact VCard)))
      (some secondWork)) = {(0, one), (1, one)} := by
  decide

theorem plainCharset_givesBack (addr : Address) : GivesBack Category.plainCharset addr where
  empty := rfl
  filled _ _ h := ⟨(filled_eq_some.mp h).2, rfl⟩

theorem workRecord_kept :
    phones (localRecordFromEcard Category.plainCharset 0
      (ecardFromRemoteRecord Category.plainCharset plainName 0 workRecord
        (none : Option (EContact VCard)))
      (some workRecord)) = phones workRecord :=
  (phonesKept_iff VCard.lawful (plainCharset_givesBack workRecord)).mpr (by decide)

end GnomePilot.Card
