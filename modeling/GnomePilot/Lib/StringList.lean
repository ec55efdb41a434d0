import GnomePilot.Lib.KeyFile
import Mathlib.Data.List.Basic

/-!
# Lists of strings in a key file

A list is kept as one string value.  How the elements are joined is the format's
matter; what is relied on is that plain elements, which are not empty and hold no
separator, come back as they were.
-/

namespace GnomePilot

def Plain (separator : Char) (s : String) : Prop := s ≠ "" ∧ separator ∉ s.toList

instance Plain.decidable (separator : Char) (s : String) : Decidable (Plain separator s) :=
  inferInstanceAs (Decidable (s ≠ "" ∧ separator ∉ s.toList))

/-- How lists are written with a separator and read back. -/
structure ListFormat (separator : Char) where
  encode : List String → String
  decode : String → List String
  decode_encode : ∀ l, (∀ s ∈ l, Plain separator s) → decode (encode l) = l

namespace ListFormat

/-- The elements between the separators. -/
def split (separator : Char) (text : String) : List String :=
  if text = "" then [] else (text.toList.splitOn separator).map String.ofList

def join (separator : Char) (l : List String) : String :=
  String.ofList (List.intercalate [separator] (l.map String.toList))

theorem intercalate_ne_nil {separator : Char} {s : String} (hs : s ≠ "") (l : List String) :
    List.intercalate [separator] ((s :: l).map String.toList) ≠ [] := by
  cases l with
  | nil => simpa [List.intercalate] using hs
  | cons t l => simp [List.intercalate_cons_cons]

theorem split_join {separator : Char} {l : List String} (h : ∀ s ∈ l, Plain separator s) :
    split separator (join separator l) = l := by
  cases l with
  | nil => rfl
  | cons s l =>
      have hne : join separator (s :: l) ≠ "" := by
        rw [join, ← String.ofList_nil, Ne, String.ofList_inj]
        exact intercalate_ne_nil (h s List.mem_cons_self).1 l
      have hfree : ∀ cs ∈ (s :: l).map String.toList, separator ∉ cs := by
        intro cs hcs
        obtain ⟨t, ht, rfl⟩ := List.mem_map.mp hcs
        exact (h t ht).2
      rw [split, if_neg hne, join, String.toList_ofList, List.splitOn_intercalate _ hfree (by simp)]
      simp

/-- Elements between single separators, and nothing else. -/
def separated (separator : Char) : ListFormat separator where
  encode := join separator
  decode := split separator
  decode_encode _ h := split_join h

end ListFormat

namespace KeyFile

variable {separator : Char} (format : ListFormat separator)

def getStringList (kf : KeyFile) (group key : String) : List String :=
  (kf.getString group key).elim [] format.decode

def setStringList (kf : KeyFile) (group key : String) (l : List String) : KeyFile :=
  kf.setString group key (some (format.encode l))

theorem getStringList_setStringList (kf : KeyFile) (group key : String) {l : List String}
    (h : ∀ s ∈ l, Plain separator s) :
    (kf.setStringList format group key l).getStringList format group key = l := by
  simp [getStringList, setStringList, getString_setString, format.decode_encode l h]

theorem getStringList_congr {kf kf' : KeyFile} {group key : String}
    (h : kf.getString group key = kf'.getString group key) :
    kf.getStringList format group key = kf'.getStringList format group key := by
  simp [getStringList, h]

end KeyFile

end GnomePilot
