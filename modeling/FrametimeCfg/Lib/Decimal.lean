import FrametimeCfg.Lib.Text
import Mathlib.Tactic.Common

/-!
# The spelling of decimal numbers

`str::parse` reads several texts as one number: it takes a leading plus sign and
any number of leading zeros.  A text is the one that `format!` writes for its
number exactly when it starts with neither (`decimal_iff`).
-/

namespace FrametimeCfg.Lib.Text

/-- A digit is the one of its value. -/
theorem digitChar_toNat {c : Char} (h : c.isDigit = true) :
    Nat.digitChar (c.toNat - 48) = c ∧ c.toNat - 48 < 10 := by
  have hbounds : 48 ≤ c.toNat ∧ c.toNat ≤ 57 := by
    simpa [Char.isDigit, UInt32.le_iff_toNat_le] using h
  have hvalue : c.toNat - 48 < 10 := by omega
  refine ⟨Char.toNat_inj.mp ?_, hvalue⟩
  rw [Nat.toNat_digitChar_of_lt_ten hvalue]
  omega

/-- Digits read after a positive number are written after it. -/
theorem toDigits_append {digits : List Char} (hdigits : ∀ c ∈ digits, c.isDigit = true) :
    ∀ {n : Nat}, 0 < n →
      Nat.toDigits 10 (Nat.ofDigitChars 10 digits n) = Nat.toDigits 10 n ++ digits := by
  induction digits with
  | nil =>
      intro n _
      rw [Nat.ofDigitChars_nil, List.append_nil]
  | cons c digits ih =>
      intro n hn
      obtain ⟨hchar, hvalue⟩ := digitChar_toNat (hdigits c (by simp))
      have hpos : 0 < 10 * n + (c.toNat - 48) := by omega
      have hstep : Nat.toDigits 10 (10 * n + (c.toNat - 48)) = Nat.toDigits 10 n ++ [c] := by
        rw [← Nat.toDigits_append_toDigits (by decide) hn hvalue,
          Nat.toDigits_of_lt_base hvalue, hchar]
      have hrest := ih (fun d hd => hdigits d (by simp [hd])) hpos
      rw [Nat.ofDigitChars_cons]
      show Nat.toDigits 10 (Nat.ofDigitChars 10 digits (10 * n + (c.toNat - 48))) = _
      rw [hrest, hstep, List.append_assoc]
      rfl

/-- Digits that start with none of the zeros are the ones of their value. -/
theorem toDigits_ofDigitChars {digits : List Char} (hne : digits ≠ [])
    (hdigits : ∀ c ∈ digits, c.isDigit = true) (hzero : digits.head? ≠ some '0') :
    Nat.toDigits 10 (Nat.ofDigitChars 10 digits 0) = digits := by
  cases digits with
  | nil => exact absurd rfl hne
  | cons c digits =>
      obtain ⟨hchar, hvalue⟩ := digitChar_toNat (hdigits c (by simp))
      have hpos : 0 < c.toNat - 48 := by
        by_contra h
        have hc : c.toNat - 48 = 0 := by omega
        rw [hc] at hchar
        exact hzero (congrArg some hchar.symm)
      have htail : ∀ d ∈ digits, d.isDigit = true := fun d hd => hdigits d (by simp [hd])
      have hrest := toDigits_append htail hpos
      rw [Nat.ofDigitChars_cons, Nat.mul_zero, Nat.zero_add]
      show Nat.toDigits 10 (Nat.ofDigitChars 10 digits (c.toNat - 48)) = _
      rw [hrest, Nat.toDigits_of_lt_base hvalue, hchar]
      rfl

/-- The text of a positive number does not start with a zero or a plus sign. -/
theorem head_toDigits {n : Nat} (hn : 0 < n) :
    (Nat.toDigits 10 n).head? ≠ some '0' ∧ (Nat.toDigits 10 n).head? ≠ some '+' := by
  induction n using Nat.strong_induction_on with
  | _ n ih =>
      by_cases hlt : n < 10
      · rw [Nat.toDigits_of_lt_base hlt, List.head?_cons]
        constructor
        · intro h
          have hzero : n = 0 := Nat.digitChar_eq_zero.mp (Option.some.inj h)
          omega
        · intro h
          have hdigit : (Nat.digitChar n).isDigit = true := by
            rw [Nat.isDigit_digitChar]
            exact decide_eq_true hlt
          rw [Option.some.inj h] at hdigit
          cases hdigit
      · have hle : 10 ≤ n := by omega
        rw [Nat.toDigits_of_base_le (by decide) hle,
          List.head?_append_of_ne_nil _ Nat.toDigits_ne_nil]
        exact ih (n / 10) (by omega) (by omega)

/-- **One spelling.**  A text that is read as a positive number is the text of that
number exactly when it starts with neither a plus sign nor a zero. -/
theorem decimal_iff {text : List Char} {n : Nat} (h : parseDecimalNat text = some n)
    (hn : 0 < n) :
    text = n.repr.toList ↔ text.head? ≠ some '+' ∧ text.head? ≠ some '0' := by
  rw [Nat.toList_repr]
  constructor
  · intro htext
    rw [htext]
    exact (head_toDigits hn).symm
  · intro hhead
    have hsigned : unsignedDigits text = text := by
      unfold unsignedDigits
      split
      · exact absurd rfl hhead.1
      · rfl
    unfold parseDecimalNat at h
    simp only [hsigned] at h
    split at h
    · cases h
    · rename_i hvalid
      have hdigits : text ≠ [] ∧ text.all Char.isDigit = true := by simpa using hvalid
      have hvalue : Nat.ofDigitChars 10 text 0 = n := Option.some.inj h
      rw [← hvalue, toDigits_ofDigitChars hdigits.1 (List.all_eq_true.mp hdigits.2) hhead.2]

end FrametimeCfg.Lib.Text
