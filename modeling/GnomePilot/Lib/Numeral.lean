import Mathlib.Algebra.Group.Int.Defs
import Mathlib.Algebra.Group.Nat.Defs
import Mathlib.Data.Nat.Basic

/-!
# Numbers as text

The `strtoul` of the C library with base 0, for an `unsigned long` of 64 bits:
leading blanks, a sign, a prefix that chooses the base, then digits up to the
first character that is none.  A negative number wraps around, a number that is
too large becomes the largest.  What is printed in decimal is read back.
-/

namespace GnomePilot.Numeral

def digitValue (c : Char) : Option Nat :=
  if '0' ≤ c ∧ c ≤ '9' then some (c.toNat - '0'.toNat)
  else if 'a' ≤ c ∧ c ≤ 'z' then some (c.toNat - 'a'.toNat + 10)
  else if 'A' ≤ c ∧ c ≤ 'Z' then some (c.toNat - 'A'.toNat + 10)
  else none

def readDigits (base acc : Nat) : List Char → Nat
  | [] => acc
  | c :: cs =>
      match digitValue c with
      | none => acc
      | some d => if d < base then readDigits base (base * acc + d) cs else acc

/-- A first 0 means octal, 0x before a hexadecimal digit hexadecimal. -/
def readBased : List Char → Nat
  | '0' :: x :: cs =>
      if (x = 'x' ∨ x = 'X') ∧ ∃ d ∈ (cs.head?.bind digitValue), d < 16 then readDigits 16 0 cs
      else readDigits 8 0 (x :: cs)
  | cs => readDigits 10 0 cs

def isSpace (c : Char) : Bool :=
  c = ' ' || ('\t' ≤ c && c ≤ '\r')

def ulongMax : UInt64 := 0xffffffffffffffff

/-- The number read, negated after a minus sign, unless it is out of range. -/
def wrapSign (negative : Bool) (n : Nat) : UInt64 :=
  if n < 2 ^ 64 then (if negative then -UInt64.ofNat n else UInt64.ofNat n) else ulongMax

theorem wrapSign_of_lt (negative : Bool) {n : Nat} (h : n < 2 ^ 64) :
    wrapSign negative n = if negative then -UInt64.ofNat n else UInt64.ofNat n :=
  if_pos h

def strtoul (text : String) : UInt64 :=
  match text.toList.dropWhile isSpace with
  | '-' :: cs => wrapSign true (readBased cs)
  | '+' :: cs => wrapSign false (readBased cs)
  | cs => wrapSign false (readBased cs)

/-! ## Printed numbers -/

theorem digitValue_of_isDigit {c : Char} (h : c.isDigit = true) :
    digitValue c = some (c.toNat - '0'.toNat) ∧ c.toNat - '0'.toNat < 10 := by
  simp only [Char.isDigit, Bool.and_eq_true, decide_eq_true_eq] at h
  have hle : '0' ≤ c ∧ c ≤ '9' := ⟨h.1, h.2⟩
  have hnat : c.toNat ≤ '9'.toNat := h.2
  refine ⟨by simp [digitValue, hle], ?_⟩
  have h9 : '9'.toNat = 57 := rfl
  have h0 : '0'.toNat = 48 := rfl
  omega

theorem readDigits_eq_ofDigitChars {cs : List Char} (h : ∀ c ∈ cs, c.isDigit = true) (acc : Nat) :
    readDigits 10 acc cs = Nat.ofDigitChars 10 cs acc := by
  induction cs generalizing acc with
  | nil => simp [readDigits]
  | cons c cs ih =>
      obtain ⟨hval, hlt⟩ := digitValue_of_isDigit (h c (by simp))
      rw [Nat.ofDigitChars_cons, readDigits, hval]
      simp only [hlt, if_true]
      exact ih (fun d hd => h d (by simp [hd])) _

/-- No number but 0 is printed with a leading 0. -/
theorem toDigits_head_ne_zero {n : Nat} (h : 0 < n) (cs : List Char) :
    Nat.toDigits 10 n ≠ '0' :: cs := by
  induction n using Nat.strong_induction_on generalizing cs with
  | _ n ih =>
      by_cases hlt : n < 10
      · rw [Nat.toDigits_of_lt_base hlt]
        intro heq
        injection heq with hhead
        have := Nat.digitChar_eq_zero.mp hhead
        omega
      · rw [Nat.toDigits_of_base_le (by decide) (by omega)]
        intro heq
        cases hd : Nat.toDigits 10 (n / 10) with
        | nil => exact Nat.toDigits_ne_nil hd
        | cons c ds =>
            rw [hd] at heq
            injection heq with hc
            exact ih (n / 10) (by omega) (by omega) ds (by rw [hd, hc])

theorem readBased_toDigits (n : Nat) : readBased (Nat.toDigits 10 n) = n := by
  have hdigits : ∀ c ∈ Nat.toDigits 10 n, c.isDigit = true := fun c hc =>
    Nat.isDigit_of_mem_toDigits (by decide) (by decide) hc
  have hread : readDigits 10 0 (Nat.toDigits 10 n) = n := by
    rw [readDigits_eq_ofDigitChars hdigits, Nat.ofDigitChars_ten_toDigits]
  by_cases h0 : n = 0
  · subst h0
    decide
  · unfold readBased
    split
    · rename_i heq
      exact absurd heq (toDigits_head_ne_zero (by omega) _)
    · exact hread

theorem utf8ByteSize_repr (n : Nat) : n.repr.utf8ByteSize = n.repr.length := by
  induction n using Nat.strong_induction_on with
  | _ n ih =>
      have hdigit : ∀ d < 10, (Nat.digitChar d).utf8Size = 1 := by decide
      by_cases hlt : n < 10
      · rw [Nat.repr_of_lt hlt, String.utf8ByteSize_singleton, String.length_singleton,
          hdigit n hlt]
      · rw [Nat.repr_of_ge (by omega), String.utf8ByteSize_append, String.length_append,
          ih (n / 10) (by omega), String.utf8ByteSize_singleton, String.length_singleton,
          hdigit (n % 10) (by omega)]

/-- A digit is no blank and no sign. -/
theorem isDigit_not_special {c : Char} (h : c.isDigit = true) :
    isSpace c = false ∧ c ≠ '-' ∧ c ≠ '+' := by
  refine ⟨?_, ?_, ?_⟩
  · simp only [Char.isDigit, Bool.and_eq_true, decide_eq_true_eq] at h
    have h0 : '0'.toNat ≤ c.toNat := h.1
    have hr : '\r'.toNat = 13 := rfl
    have hz : '0'.toNat = 48 := rfl
    simp only [isSpace, Bool.or_eq_false_iff, decide_eq_false_iff_not, Bool.and_eq_false_iff]
    refine ⟨?_, Or.inr ?_⟩
    · rintro rfl
      exact absurd h0 (by decide)
    · intro hle
      have : c.toNat ≤ '\r'.toNat := hle
      omega
  · rintro rfl
    exact absurd h (by decide)
  · rintro rfl
    exact absurd h (by decide)

theorem strtoul_nat {n : Nat} (h : n < 2 ^ 64) : strtoul (toString n) = UInt64.ofNat n := by
  unfold strtoul
  rw [Nat.toString_eq_repr, Nat.toList_repr]
  cases hd : Nat.toDigits 10 n with
  | nil => exact absurd hd Nat.toDigits_ne_nil
  | cons c cs =>
      have hc : c.isDigit = true :=
        Nat.isDigit_of_mem_toDigits (b := 10) (n := n) (by decide) (by decide) (by simp [hd])
      obtain ⟨hspace, hminus, hplus⟩ := isDigit_not_special hc
      rw [List.dropWhile_cons_of_neg (by simp [hspace])]
      have hread := readBased_toDigits n
      rw [hd] at hread
      split
      · rename_i heq
        injection heq with heq
        exact absurd heq hminus
      · rename_i heq
        injection heq with heq
        exact absurd heq hplus
      · rw [hread]
        exact wrapSign_of_lt false h

theorem strtoul_neg {n : Nat} (h : n < 2 ^ 64) :
    strtoul ("-" ++ toString n) = -UInt64.ofNat n := by
  unfold strtoul
  rw [String.toList_append, Nat.toString_eq_repr, Nat.toList_repr]
  have hdrop : List.dropWhile isSpace ("-".toList ++ Nat.toDigits 10 n) =
      '-' :: Nat.toDigits 10 n := rfl
  rw [hdrop]
  simp only
  rw [readBased_toDigits]
  exact wrapSign_of_lt true h

/-- A number printed in decimal is read back modulo 2^64. -/
theorem strtoul_int {n : Int} (hlo : -2 ^ 64 < n) (hhi : n < 2 ^ 64) :
    strtoul (toString n) = UInt64.ofInt n := by
  cases n with
  | ofNat m =>
      have hm : m < 2 ^ 64 := by
        have : (m : Int) < 2 ^ 64 := hhi
        omega
      have hprint : toString (Int.ofNat m) = toString m := rfl
      rw [hprint, strtoul_nat hm]
      apply UInt64.toNat_inj.mp
      simp only [UInt64.ofInt, UInt64.toNat_ofNat', Int.ofNat_eq_natCast]
      omega
  | negSucc m =>
      have hm : m + 1 < 2 ^ 64 := by
        have : -2 ^ 64 < Int.negSucc m := hlo
        omega
      have hprint : toString (Int.negSucc m) = "-" ++ toString (m + 1) := rfl
      rw [hprint, strtoul_neg hm]
      apply UInt64.toNat_inj.mp
      simp only [UInt64.ofInt, UInt64.toNat_neg, UInt64.toNat_ofNat', UInt64.size]
      omega

theorem toString_nat_injective {m n : Nat} (h : toString m = toString n) : m = n := by
  have hdigits : Nat.toDigits 10 m = Nat.toDigits 10 n := by
    simpa only [Nat.toString_eq_repr, Nat.toList_repr] using congrArg String.toList h
  have hm : Nat.ofDigitChars 10 (Nat.toDigits 10 m) 0 = m :=
    Nat.ofDigitChars_toDigits (by decide) (by decide)
  rw [hdigits, Nat.ofDigitChars_toDigits (by decide) (by decide)] at hm
  exact hm.symm

end GnomePilot.Numeral
