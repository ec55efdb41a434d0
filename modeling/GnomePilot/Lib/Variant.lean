import Mathlib.Data.List.Basic
import Mathlib.Data.List.Forall2

/-!
# Tuples behind format strings

A format string names the types of a tuple, one letter a component.  Packing reads
the arguments of a variadic call by one format, unpacking fills the locations of
another; `&` asks for a string to be lent and not copied.
-/

namespace Variant

/-! ## Components -/

inductive BasicType where
  | string | uint32 | int32 | boolean
  deriving DecidableEq, Repr

def BasicType.code : BasicType → Char
  | .string => 's'
  | .uint32 => 'u'
  | .int32 => 'i'
  | .boolean => 'b'

def BasicType.ofCode? (c : Char) : Option BasicType :=
  if c = 's' then some .string
  else if c = 'u' then some .uint32
  else if c = 'i' then some .int32
  else if c = 'b' then some .boolean
  else none

@[simp] theorem BasicType.ofCode?_code (t : BasicType) : ofCode? t.code = some t := by
  cases t <;> decide

theorem BasicType.code_of_ofCode? {c : Char} {t : BasicType} (h : ofCode? c = some t) :
    t.code = c := by
  unfold ofCode? at h
  split_ifs at h with hs hu hi hb <;> cases h <;> simp [code, *]

/-- A component of a tuple; strings are UTF-8. -/
inductive Basic where
  | string (s : String)
  | uint32 (w : UInt32)
  | int32 (w : Int32)
  | boolean (b : Bool)
  deriving DecidableEq

def Basic.type : Basic → BasicType
  | .string _ => .string
  | .uint32 _ => .uint32
  | .int32 _ => .int32
  | .boolean _ => .boolean

/-- An argument of a variadic call: a pointer to bytes, maybe null, or a 32-bit word. -/
inductive Slot where
  | pointer (text : Option ByteArray)
  | word (w : UInt32)

/-- A pointer that may be packed as a string. -/
def IsText : Option ByteArray → Prop
  | some bytes => bytes.IsValidUTF8
  | none => False

/-- The argument is one that a component of type `t` holds without loss. -/
def BasicType.Carries : BasicType → Slot → Prop
  | .string, .pointer text => IsText text
  | .uint32, .word _ => True
  | .int32, .word _ => True
  | .boolean, .word w => w = 0 ∨ w = 1
  | _, _ => False

/-- Packing one argument.  A string has to be UTF-8; `repair` says what is stored for a
pointer that is not to any, which callers are told not to pass. -/
def BasicType.pack (repair : Option ByteArray → Option String) :
    BasicType → Slot → Option Basic
  | .string, .pointer text => ((text.bind String.fromUTF8?).or (repair text)).map .string
  | .uint32, .word w => some (.uint32 w)
  | .int32, .word w => some (.int32 w.toInt32)
  | .boolean, .word w => some (.boolean (decide (w ≠ 0)))
  | _, _ => none

def Basic.unpack : Basic → Slot
  | .string s => .pointer (some s.toByteArray)
  | .uint32 w => .word w
  | .int32 w => .word w.toUInt32
  | .boolean b => .word (if b then 1 else 0)

theorem fromUTF8?_eq_some_iff {bytes : ByteArray} {s : String} :
    String.fromUTF8? bytes = some s ↔ s.toByteArray = bytes := by
  unfold String.fromUTF8?
  split_ifs with h
  · constructor
    · rintro ⟨⟩
      rfl
    · rintro rfl
      rfl
  · constructor
    · rintro ⟨⟩
    · rintro rfl
      exact absurd s.isValidUTF8 h

theorem BasicType.type_of_pack {repair : Option ByteArray → Option String} {t : BasicType}
    {a : Slot} {v : Basic} (h : t.pack repair a = some v) : v.type = t := by
  cases t <;> cases a <;> simp [pack] at h
  · obtain ⟨s, -, rfl⟩ := h
    rfl
  all_goals
    subst h
    rfl

/-- An argument comes back from its component exactly when the component carries it. -/
theorem BasicType.unpack_pack_iff {repair : Option ByteArray → Option String} {t : BasicType}
    {a : Slot} : (t.pack repair a).map Basic.unpack = some a ↔ t.Carries a := by
  cases t <;> cases a <;> simp only [pack, Carries, Option.map_some, Option.map_none,
    Basic.unpack, UInt32.toUInt32_toInt32, reduceCtorEq]
  · rename_i text
    cases text with
    | none =>
      cases repair none <;> simp [IsText, Basic.unpack]
    | some bytes =>
      cases hb : String.fromUTF8? bytes with
      | some s =>
        have hs := fromUTF8?_eq_some_iff.mp hb
        subst hs
        simp [hb, IsText, Basic.unpack, s.isValidUTF8]
      | none =>
        -- whatever is stored instead is UTF-8, the argument is not
        have hn : ¬bytes.IsValidUTF8 := fun hv => by
          simp [String.fromUTF8?, hv] at hb
        have hr : ∀ s : String, s.toByteArray ≠ bytes := fun s hs =>
          hn (hs ▸ s.isValidUTF8)
        cases repair (some bytes) <;> simp [hb, IsText, hn, hr, Basic.unpack]
  · rename_i w
    by_cases h0 : w = 0
    · simp [h0]
    · simp [h0, eq_comm]

/-! ## Formats -/

/-- The components of a format after its opening bracket. -/
def parseItems : List Char → Option (List BasicType)
  | [] => none
  | c :: rest =>
    if c = ')' then if rest = [] then some [] else none
    else if c = '&' then if rest.head? = some 's' then parseItems rest else none
    else (BasicType.ofCode? c).bind fun t => (parseItems rest).map (t :: ·)

def parseFormat (format : String) : Option (List BasicType) :=
  if format.toList.head? = some '(' then parseItems format.toList.tail else none

def typeString (ts : List BasicType) : String :=
  String.ofList ('(' :: ts.map BasicType.code ++ [')'])

theorem BasicType.code_ne_delimiter (t : BasicType) : t.code ≠ ')' ∧ t.code ≠ '&' := by
  cases t <;> decide

theorem parseItems_codes (ts : List BasicType) :
    parseItems (ts.map BasicType.code ++ [')']) = some ts := by
  induction ts with
  | nil => rfl
  | cons t ts ih =>
    obtain ⟨hclose, hlend⟩ := t.code_ne_delimiter
    rw [List.map_cons, List.cons_append, parseItems, if_neg hclose, if_neg hlend,
      BasicType.ofCode?_code, ih]
    rfl

@[simp] theorem parseFormat_typeString (ts : List BasicType) :
    parseFormat (typeString ts) = some ts := by
  simp [parseFormat, typeString, parseItems_codes]

theorem parseItems_eq_some {cs : List Char} {ts : List BasicType}
    (h : parseItems cs = some ts) :
    ts.map BasicType.code ++ [')'] = cs.filter (· ≠ '&') := by
  induction cs generalizing ts with
  | nil => cases h
  | cons c rest ih =>
    rw [parseItems] at h
    split_ifs at h with hclose hrest hlend hnext
    · cases h
      subst hclose hrest
      decide
    · subst hlend
      rw [ih h]
      exact (List.filter_cons_of_neg (by decide)).symm
    · obtain ⟨t, ht, h⟩ := Option.bind_eq_some_iff.mp h
      obtain ⟨us, hus, rfl⟩ := Option.map_eq_some_iff.mp h
      have hc := BasicType.code_of_ofCode? ht
      rw [List.filter_cons_of_pos (by simpa using hlend), ← ih hus, List.map_cons, hc]
      rfl

/-- What a format accepts is its type string with `&` written anywhere it is allowed. -/
theorem typeString_of_parseFormat {format : String} {ts : List BasicType}
    (h : parseFormat format = some ts) :
    (typeString ts).toList = format.toList.filter (· ≠ '&') := by
  unfold parseFormat at h
  split_ifs at h with hopen
  rw [typeString, String.toList_ofList, List.cons_append, parseItems_eq_some h]
  cases hf : format.toList with
  | nil => simp [hf] at hopen
  | cons c rest =>
    obtain rfl : c = '(' := by simpa [hf] using hopen
    exact (List.filter_cons_of_pos (by decide)).symm

/-! ## Tuples -/

/-- One argument for every component; a call with another number of them is no call. -/
def packAll (repair : Option ByteArray → Option String) :
    List BasicType → List Slot → Option (List Basic)
  | [], [] => some []
  | t :: ts, a :: args =>
    (t.pack repair a).bind fun v => (packAll repair ts args).map (v :: ·)
  | _, _ => none

def gVariantNew (repair : Option ByteArray → Option String) (format : String)
    (args : List Slot) : Option (List Basic) :=
  (parseFormat format).bind fun ts => packAll repair ts args

/-- `g_variant_get`: a tuple of other types than the format's is refused and no location
is written. -/
def gVariantGet (format : String) (parameters : List Basic) : Option (List Slot) :=
  (parseFormat format).bind fun ts =>
    if parameters.map Basic.type = ts then some (parameters.map Basic.unpack) else none

theorem types_of_packAll {repair : Option ByteArray → Option String} {ts : List BasicType}
    {args : List Slot} {vs : List Basic} (h : packAll repair ts args = some vs) :
    vs.map Basic.type = ts := by
  induction ts generalizing args vs with
  | nil =>
    cases args with
    | nil =>
      cases h
      rfl
    | cons a args => cases h
  | cons t ts ih =>
    cases args with
    | nil => cases h
    | cons a args =>
      obtain ⟨v, hv, h⟩ := Option.bind_eq_some_iff.mp h
      obtain ⟨us, hus, rfl⟩ := Option.map_eq_some_iff.mp h
      rw [List.map_cons, BasicType.type_of_pack hv, ih hus]

/-- The arguments come back from a packed tuple exactly when every component carries its
own. -/
theorem unpack_packAll_iff {repair : Option ByteArray → Option String}
    {ts : List BasicType} {args : List Slot} :
    (∃ vs, packAll repair ts args = some vs ∧ vs.map Basic.unpack = args) ↔
      List.Forall₂ BasicType.Carries ts args := by
  induction ts generalizing args with
  | nil => cases args <;> simp [packAll]
  | cons t ts ih =>
    cases args with
    | nil => simp [packAll]
    | cons a args =>
      rw [List.forall₂_cons, ← ih, ← @BasicType.unpack_pack_iff repair]
      constructor
      · rintro ⟨vs, hvs, hargs⟩
        obtain ⟨v, hv, hvs⟩ := Option.bind_eq_some_iff.mp hvs
        obtain ⟨us, hus, rfl⟩ := Option.map_eq_some_iff.mp hvs
        obtain ⟨hva, husargs⟩ := List.cons_eq_cons.mp hargs
        exact ⟨by rw [hv, Option.map_some, hva], us, hus, husargs⟩
      · rintro ⟨hva, us, hus, husargs⟩
        obtain ⟨v, hv, hva⟩ := Option.map_eq_some_iff.mp hva
        exact ⟨v :: us, by rw [packAll, hv, Option.bind_some, hus, Option.map_some],
          by rw [List.map_cons, hva, husargs]⟩

/-- Reading with one format what another has packed returns the arguments exactly when
the formats name the same types and these carry the arguments. -/
theorem gVariantGet_new_iff {repair : Option ByteArray → Option String}
    {written read : String} {ts us : List BasicType} (hwritten : parseFormat written = some ts)
    (hread : parseFormat read = some us) {args : List Slot} :
    (gVariantNew repair written args).bind (gVariantGet read) = some args ↔
      ts = us ∧ List.Forall₂ BasicType.Carries ts args := by
  rw [← @unpack_packAll_iff repair, Option.bind_eq_some_iff, gVariantNew, hwritten,
    Option.bind_some]
  constructor
  · rintro ⟨vs, hvs, hget⟩
    rw [gVariantGet, hread, Option.bind_some, types_of_packAll hvs] at hget
    split_ifs at hget with htypes
    exact ⟨htypes, vs, hvs, Option.some.inj hget⟩
  · rintro ⟨rfl, vs, hvs, hargs⟩
    refine ⟨vs, hvs, ?_⟩
    rw [gVariantGet, hread, Option.bind_some, if_pos (types_of_packAll hvs), hargs]

end Variant
