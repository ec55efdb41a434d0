import GnomePilot.Lib.Numeral
import Mathlib.Algebra.Order.Group.Nat
import Mathlib.Data.List.Induction
import Mathlib.Tactic.IntervalCases

/-!
# Hexadecimal numbers

A number printed in lower case digits, with zeros up to a width, and digits of either
case read as a number.  Texts of one width are equal but for their case exactly if they
have the same value.
-/

namespace GnomePilot.Hex

open Numeral

/-- `%0*x` -/
def printHex (width n : Nat) : List Char :=
  List.replicate (width - (Nat.toDigits 16 n).length) '0' ++ Nat.toDigits 16 n

def isHexDigit (c : Char) : Bool := (digitValue c).any fun d => decide (d < 16)

/-- The number that the digits stand for. -/
def value (cs : List Char) : Nat := readDigits 16 0 cs

/-- The lowest digits of a number, as many as the width has. -/
def fixed : Nat → Nat → List Char
  | 0, _ => []
  | width + 1, n => fixed width (n / 16) ++ [Nat.digitChar (n % 16)]

theorem length_fixed (width n : Nat) : (fixed width n).length = width := by
  induction width generalizing n with
  | zero => rfl
  | succ width ih => rw [fixed, List.length_append, ih, List.length_singleton]

theorem fixed_zero (width : Nat) : fixed width 0 = List.replicate width '0' := by
  induction width with
  | zero => rfl
  | succ width ih => rw [fixed, Nat.zero_div, ih, List.replicate_succ', Nat.zero_mod]; rfl

/-- A number that fits the width is printed in as many digits. -/
theorem printHex_eq {width n : Nat} (h : n < 16 ^ width) (hpos : 0 < width) :
    printHex width n = fixed width n := by
  induction width generalizing n with
  | zero => omega
  | succ width ih =>
      by_cases hlt : n < 16
      · have hdigits : Nat.toDigits 16 n = [Nat.digitChar n] := Nat.toDigits_of_lt_base hlt
        rw [printHex, hdigits, fixed, Nat.div_eq_of_lt hlt, fixed_zero, Nat.mod_eq_of_lt hlt]
        rfl
      · have hdiv : n / 16 < 16 ^ width := by
          rw [Nat.div_lt_iff_lt_mul (by omega), ← Nat.pow_succ]
          exact h
        have hwidth : 0 < width := by
          rcases Nat.eq_zero_or_pos width with rfl | hwidth
          · simp at hdiv
            omega
          · exact hwidth
        have hdigits : Nat.toDigits 16 n = Nat.toDigits 16 (n / 16) ++ [Nat.digitChar (n % 16)] :=
          Nat.toDigits_of_base_le (by decide) (by omega)
        rw [fixed, ← ih hdiv hwidth, printHex, printHex, hdigits, List.length_append,
          List.length_singleton, ← List.append_assoc]
        congr 3
        omega

/-! ## Reading -/

theorem exists_digitValue {c : Char} (h : isHexDigit c = true) :
    ∃ d, digitValue c = some d ∧ d < 16 := by
  unfold isHexDigit at h
  cases hd : digitValue c with
  | none => simp [hd] at h
  | some d => exact ⟨d, rfl, by simpa [hd] using h⟩

/-- A digit is no blank, no sign and not the letter of a prefix. -/
theorem isHexDigit_not_special {c : Char} (h : isHexDigit c = true) :
    isSpace c = false ∧ c ≠ '-' ∧ c ≠ '+' ∧ c ≠ 'x' ∧ c ≠ 'X' := by
  have hle : 48 ≤ c.toNat := by
    obtain ⟨d, hd, -⟩ := exists_digitValue h
    unfold digitValue at hd
    split at hd
    · rename_i hrange
      exact hrange.1
    · split at hd
      · rename_i hrange
        have hlow : 97 ≤ c.toNat := hrange.1
        omega
      · split at hd
        · rename_i hrange
          have hlow : 65 ≤ c.toNat := hrange.1
          omega
        · cases hd
  have hblank : c ≠ ' ' := by
    rintro rfl
    exact absurd h (by decide)
  have hcontrol : ¬ c ≤ '\r' := by
    intro hc
    have hr : c.toNat ≤ 13 := hc
    omega
  refine ⟨by simp [isSpace, hblank, hcontrol], ?_, ?_, ?_, ?_⟩ <;>
    rintro rfl <;> exact absurd h (by decide)

theorem readDigits_append {cs : List Char} (h : ∀ c ∈ cs, isHexDigit c = true)
    (acc : Nat) (ds : List Char) :
    readDigits 16 acc (cs ++ ds) = readDigits 16 (readDigits 16 acc cs) ds := by
  induction cs generalizing acc with
  | nil => rfl
  | cons c cs ih =>
      obtain ⟨d, hd, hlt⟩ := exists_digitValue (h c (by simp))
      simp only [List.cons_append, readDigits, hd, if_pos hlt]
      exact ih (fun c hc => h c (by simp [hc])) _

theorem value_concat {cs : List Char} (h : ∀ c ∈ cs, isHexDigit c = true) {c : Char} {d : Nat}
    (hd : digitValue c = some d) (hlt : d < 16) : value (cs ++ [c]) = 16 * value cs + d := by
  rw [value, readDigits_append h]
  simp [readDigits, hd, hlt, value]

theorem digitValue_digitChar {d : Nat} (h : d < 16) :
    digitValue (Nat.digitChar d) = some d := by
  interval_cases d <;> decide

theorem isHexDigit_fixed {width n : Nat} : ∀ c ∈ fixed width n, isHexDigit c = true := by
  induction width generalizing n with
  | zero => simp [fixed]
  | succ width ih =>
      intro c hc
      rcases List.mem_append.mp hc with hc | hc
      · exact ih c hc
      · have hlt : n % 16 < 16 := Nat.mod_lt _ (by omega)
        rw [List.mem_singleton.mp hc, isHexDigit, digitValue_digitChar hlt]
        simpa using hlt

theorem value_fixed {width n : Nat} (h : n < 16 ^ width) : value (fixed width n) = n := by
  induction width generalizing n with
  | zero => simp at h; subst h; rfl
  | succ width ih =>
      have hlt : n % 16 < 16 := Nat.mod_lt _ (by omega)
      have hdiv : n / 16 < 16 ^ width := by
        rw [Nat.div_lt_iff_lt_mul (by omega), ← Nat.pow_succ]
        exact h
      rw [fixed, value_concat isHexDigit_fixed (digitValue_digitChar hlt) hlt, ih hdiv]
      omega

/-- The lower case letter of a digit is the one that is printed. -/
theorem toLower_eq {c : Char} {d : Nat} (hd : digitValue c = some d) (hlt : d < 16) :
    c.toLower = Nat.digitChar d := by
  have hofNat : ∀ k, c.toNat = k → c = Char.ofNat k := by
    intro k hk
    rw [← hk, Char.ofNat_toNat]
  have hle : ∀ a : Char, a ≤ c → a.toNat ≤ c.toNat := fun a ha => ha
  have hge : ∀ a : Char, c ≤ a → c.toNat ≤ a.toNat := fun a ha => ha
  unfold digitValue at hd
  split at hd
  · rename_i hrange
    have hlow : 48 ≤ c.toNat := hle '0' hrange.1
    injection hd with hd
    have hd' : c.toNat - 48 = d := hd
    have hhigh : c.toNat ≤ 57 := hge '9' hrange.2
    rw [hofNat (48 + d) (by omega)]
    interval_cases d <;> first | rfl | omega
  · split at hd
    · rename_i hrange
      have hlow : 97 ≤ c.toNat := hle 'a' hrange.1
      injection hd with hd
      have hd' : c.toNat - 97 + 10 = d := hd
      rw [hofNat (87 + d) (by omega)]
      interval_cases d <;> first | rfl | omega
    · split at hd
      · rename_i hrange
        have hlow : 65 ≤ c.toNat := hle 'A' hrange.1
        injection hd with hd
        have hd' : c.toNat - 65 + 10 = d := hd
        rw [hofNat (55 + d) (by omega)]
        interval_cases d <;> first | rfl | omega
      · cases hd

theorem map_toLower {cs : List Char} (h : ∀ c ∈ cs, isHexDigit c = true) :
    cs.map Char.toLower = fixed cs.length (value cs) ∧ value cs < 16 ^ cs.length := by
  induction cs using List.reverseRecOn with
  | nil => exact ⟨rfl, by decide⟩
  | append_singleton cs c ih =>
      obtain ⟨hmap, hbound⟩ := ih fun c hc => h c (by simp [hc])
      obtain ⟨d, hd, hlt⟩ := exists_digitValue (h c (by simp))
      rw [value_concat (fun c hc => h c (by simp [hc])) hd hlt, List.map_append, hmap,
        List.length_append, List.length_singleton, fixed]
      have hdiv : (16 * value cs + d) / 16 = value cs := by omega
      have hmod : (16 * value cs + d) % 16 = d := by omega
      rw [hdiv, hmod, List.map_singleton, toLower_eq hd hlt, Nat.pow_succ]
      exact ⟨rfl, by omega⟩

/-- Digits in either case are those of a number that fits exactly if they have its value. -/
theorem map_toLower_eq_iff {cs : List Char} (h : ∀ c ∈ cs, isHexDigit c = true)
    (hpos : 0 < cs.length) {n : Nat} (hn : n < 16 ^ cs.length) :
    cs.map Char.toLower = (printHex cs.length n).map Char.toLower ↔ value cs = n := by
  have hprint := map_toLower (@isHexDigit_fixed cs.length n)
  rw [length_fixed, value_fixed hn] at hprint
  rw [printHex_eq hn hpos, hprint.1, (map_toLower h).1]
  constructor
  · intro heq
    rw [← value_fixed (map_toLower h).2, heq, value_fixed hn]
  · intro heq
    rw [heq]

end GnomePilot.Hex
