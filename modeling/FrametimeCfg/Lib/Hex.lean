import FrametimeCfg.Lib.Text

/-!
# Hexadecimal texts

The value of a text of hexadecimal digits is bounded by their number, and the parser that
takes an optional plus sign agrees with that value where there is no sign.
-/

namespace FrametimeCfg.Lib.Text

/-- The value of a text of hexadecimal digits. -/
def hexNat (digits : List Char) : Nat :=
  digits.foldl (fun acc c => 16 * acc + hexValue c) 0

theorem hexValue_lt {c : Char} (h : isHexDigit c = true) : hexValue c < 16 := by
  simp only [isHexDigit, Char.isDigit, Bool.or_eq_true, Bool.and_eq_true, decide_eq_true_eq,
    ge_iff_le, Char.le_def, UInt32.le_iff_toNat_le] at h
  unfold hexValue
  simp only [Char.isDigit, Bool.and_eq_true, decide_eq_true_eq, ge_iff_le, Char.le_def,
    UInt32.le_iff_toNat_le]
  have h0 : ('0' : Char).val.toNat = 48 := rfl
  have h9 : ('9' : Char).val.toNat = 57 := rfl
  have ha : ('a' : Char).val.toNat = 97 := rfl
  have hf : ('f' : Char).val.toNat = 102 := rfl
  have hA : ('A' : Char).val.toNat = 65 := rfl
  have hF : ('F' : Char).val.toNat = 70 := rfl
  have hc : c.toNat = c.val.toNat := rfl
  have hd : ('0' : Char).toNat = 48 := rfl
  have hl : ('a' : Char).toNat = 97 := rfl
  have hu : ('A' : Char).toNat = 65 := rfl
  split
  · omega
  · split <;> omega

theorem toNat_lt_of_isHexDigit {c : Char} (h : isHexDigit c = true) : c.toNat < 128 := by
  simp only [isHexDigit, Char.isDigit, Bool.or_eq_true, Bool.and_eq_true, decide_eq_true_eq,
    ge_iff_le, Char.le_def, UInt32.le_iff_toNat_le] at h
  have h9 : ('9' : Char).val.toNat = 57 := rfl
  have hf : ('f' : Char).val.toNat = 102 := rfl
  have hF : ('F' : Char).val.toNat = 70 := rfl
  have hc : c.toNat = c.val.toNat := rfl
  omega

/-- More digits after an accumulated value. -/
private theorem foldl_hex_lt {digits : List Char} (h : ∀ c ∈ digits, isHexDigit c = true)
    (acc : Nat) : digits.foldl (fun acc c => 16 * acc + hexValue c) acc <
      (acc + 1) * 16 ^ digits.length := by
  induction digits generalizing acc with
  | nil => simp
  | cons c digits ih =>
    have hc := hexValue_lt (h c (by simp))
    have hrest := ih (fun d hd => h d (by simp [hd])) (16 * acc + hexValue c)
    have hle : (16 * acc + hexValue c + 1) * 16 ^ digits.length ≤
        (16 * (acc + 1)) * 16 ^ digits.length := Nat.mul_le_mul_right _ (by omega)
    have hpow : (16 * (acc + 1)) * 16 ^ digits.length =
        (acc + 1) * 16 ^ (digits.length + 1) := by
      rw [Nat.pow_succ, Nat.mul_comm 16, Nat.mul_assoc, Nat.mul_comm 16]
    rw [List.foldl_cons, List.length_cons, ← hpow]
    exact Nat.lt_of_lt_of_le hrest hle

theorem hexNat_lt {digits : List Char} (h : ∀ c ∈ digits, isHexDigit c = true) :
    hexNat digits < 16 ^ digits.length := by
  have hbound := foldl_hex_lt h 0
  rwa [Nat.zero_add, Nat.one_mul] at hbound

theorem parseHexNat_eq_some {value : List Char} {n : Nat} :
    parseHexNat value = some n ↔ unsignedDigits value ≠ [] ∧
      (∀ c ∈ unsignedDigits value, isHexDigit c = true) ∧ n = hexNat (unsignedDigits value) := by
  unfold parseHexNat hexNat
  by_cases h : unsignedDigits value = [] ∨ ¬ (unsignedDigits value).all isHexDigit = true
  · rw [if_pos (by simpa using h)]
    simp only [List.all_eq_true] at h
    constructor
    · intro hnone
      cases hnone
    · rintro ⟨hne, hall, _⟩
      exact absurd h (by simp only [not_or, not_not]; exact ⟨hne, hall⟩)
  · rw [if_neg (by simpa using h)]
    simp only [not_or, not_not, List.all_eq_true] at h
    constructor
    · intro heq
      exact ⟨h.1, h.2, (Option.some.inj heq).symm⟩
    · rintro ⟨_, _, rfl⟩
      rfl

/-- The sign takes one character. -/
theorem unsignedDigits_cases (value : List Char) :
    unsignedDigits value = value ∧ (∀ rest, value ≠ '+' :: rest) ∨
      value = '+' :: unsignedDigits value := by
  unfold unsignedDigits
  split
  · exact .inr rfl
  · rename_i hplain
    exact .inl ⟨rfl, fun rest h => hplain rest h⟩

/-- A text that is parsed has no more digits than characters. -/
theorem parseHexNat_lt {value : List Char} {n : Nat} (h : parseHexNat value = some n) :
    n < 16 ^ value.length := by
  obtain ⟨_, hdigits, rfl⟩ := parseHexNat_eq_some.mp h
  refine Nat.lt_of_lt_of_le (hexNat_lt hdigits) (Nat.pow_le_pow_right (by omega) ?_)
  rcases unsignedDigits_cases value with ⟨hplain, _⟩ | hsign
  · rw [hplain]
  · rw [hsign]
    simp [unsignedDigits]

/-- A text that is parsed is ASCII. -/
theorem ascii_of_parseHexNat {value : List Char} {n : Nat} (h : parseHexNat value = some n) :
    ∀ c ∈ value, c.toNat < 128 := by
  obtain ⟨_, hdigits, _⟩ := parseHexNat_eq_some.mp h
  intro c hc
  rcases unsignedDigits_cases value with ⟨hplain, _⟩ | hsign
  · refine toNat_lt_of_isHexDigit (hdigits c ?_)
    rwa [hplain]
  · rw [hsign] at hc
    rcases List.mem_cons.mp hc with rfl | hc
    · decide
    · exact toNat_lt_of_isHexDigit (hdigits c hc)

/-- An ASCII text has as many bytes as characters. -/
theorem byteLen_ascii {text : List Char} (h : ∀ c ∈ text, c.toNat < 128) :
    byteLen (String.ofList text) = text.length := by
  have hbytes := congrArg List.length (toUTF8_ascii h)
  rw [List.length_map] at hbytes
  exact hbytes

end FrametimeCfg.Lib.Text
