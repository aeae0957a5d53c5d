import Mathlib.Algebra.Group.Nat.Defs
import Mathlib.Data.List.Lex
import Mathlib.Tactic.Common

/-!
# Numerals of a fixed width

A number below `10 ^ width` is written with `width` decimal digits, zeros in front.  Such
numerals are in the order of their numbers, and texts of equally long parts are in the order
of their first parts that differ.
-/

namespace FrametimeCfg.Lib.Numeral

/-- The decimal digits of a number, in ASCII. -/
def numeral : Nat → Nat → List UInt8
  | 0, _ => []
  | width + 1, n => numeral width (n / 10) ++ [UInt8.ofNat (48 + n % 10)]

@[simp] theorem length_numeral (width n : Nat) : (numeral width n).length = width := by
  induction width generalizing n with
  | zero => rfl
  | succ width ih => rw [numeral, List.length_append, ih, List.length_singleton]

/-- The first parts decide unless they are equal. -/
theorem append_lt_append_iff {a b c d : List UInt8} (h : a.length = b.length) :
    a ++ c < b ++ d ↔ a < b ∨ a = b ∧ c < d := by
  induction a generalizing b with
  | nil =>
      obtain rfl := List.eq_nil_of_length_eq_zero h.symm
      simp
  | cons x a ih =>
      cases b with
      | nil => cases h
      | cons y b =>
          rw [List.cons_append, List.cons_append, List.cons_lt_cons_iff,
            ih (Nat.succ.inj h), List.cons_lt_cons_iff, List.cons.injEq]
          tauto

/-- The same with one separator after the first parts. -/
theorem append_cons_lt_iff {a b c d : List UInt8} {x : UInt8} (h : a.length = b.length) :
    a ++ x :: c < b ++ x :: d ↔ a < b ∨ a = b ∧ c < d := by
  rw [append_lt_append_iff h, List.cons_lt_cons_iff]
  simp only [UInt8.lt_irrefl, false_or, true_and]

/-- The last digit of a numeral is that of the number. -/
theorem toNat_digit (n : Nat) : (UInt8.ofNat (48 + n % 10)).toNat = 48 + n % 10 := by
  rw [UInt8.toNat_ofNat']
  omega

/-- **Numerals are in the order of their numbers.** -/
theorem numeral_lt {width a b : Nat} (h : a < b) (hb : b < 10 ^ width) :
    numeral width a < numeral width b := by
  induction width generalizing a b with
  | zero =>
      rw [pow_zero] at hb
      omega
  | succ width ih =>
      rw [numeral, numeral, append_lt_append_iff (by simp)]
      rw [pow_succ] at hb
      rcases Nat.lt_or_ge (a / 10) (b / 10) with hlt | hge
      · exact .inl (ih hlt (by omega))
      · have hdigit : UInt8.ofNat (48 + a % 10) < UInt8.ofNat (48 + b % 10) := by
          rw [UInt8.lt_iff_toNat_lt, toNat_digit, toNat_digit]
          omega
        have hsame : a / 10 = b / 10 := by omega
        rw [hsame]
        exact .inr ⟨rfl, List.cons_lt_cons_iff.mpr (.inl hdigit)⟩

theorem numeral_lt_iff {width a b : Nat} (ha : a < 10 ^ width) (hb : b < 10 ^ width) :
    numeral width a < numeral width b ↔ a < b := by
  refine ⟨fun h => ?_, fun h => numeral_lt h hb⟩
  rcases Nat.lt_trichotomy a b with hlt | rfl | hgt
  · exact hlt
  · exact absurd h (List.lt_irrefl _)
  · exact absurd (List.lt_trans h (numeral_lt hgt ha)) (List.lt_irrefl _)

theorem numeral_inj_iff {width a b : Nat} (ha : a < 10 ^ width) (hb : b < 10 ^ width) :
    numeral width a = numeral width b ↔ a = b := by
  refine ⟨fun h => ?_, fun h => by rw [h]⟩
  rcases Nat.lt_trichotomy a b with hlt | heq | hgt
  · exact absurd (h ▸ numeral_lt hlt hb) (List.lt_irrefl _)
  · exact heq
  · exact absurd (h ▸ numeral_lt hgt ha) (List.lt_irrefl _)

/-- Numerals before a separator decide unless their numbers are equal. -/
theorem numeral_append_cons_lt_iff {width a b : Nat} {x : UInt8} {c d : List UInt8}
    (ha : a < 10 ^ width) (hb : b < 10 ^ width) :
    numeral width a ++ x :: c < numeral width b ++ x :: d ↔ a < b ∨ a = b ∧ c < d := by
  rw [append_cons_lt_iff (by rw [length_numeral, length_numeral]), numeral_lt_iff ha hb,
    numeral_inj_iff ha hb]

end FrametimeCfg.Lib.Numeral
