import Mathlib.Algebra.Group.Nat.Defs
import Mathlib.Data.List.TakeWhile
import Mathlib.Data.Nat.Basic
import Mathlib.Tactic.Common

/-!
# Little-endian words and wide texts

A word of `k` bytes is stored with its lowest byte first.  A wide text is the
UTF-16 encoding of its characters, each unit a word of two bytes, with a zero
unit at its end: what a reader keeps of it is the units before the first zero.

Encoding and decoding are inverse to each other where the text has no zero
character, and a decoded text never has one.
-/

namespace FrametimeCfg.Lib.Wide

/-! ## Words -/

/-- The value of a word. -/
def leValue : List UInt8 → Nat
  | [] => 0
  | b :: bytes => b.toNat + 256 * leValue bytes

/-- The word of `count` bytes with a value. -/
def leBytes : Nat → Nat → List UInt8
  | 0, _ => []
  | count + 1, n => UInt8.ofNat n :: leBytes count (n / 256)

theorem leBytes_length (count n : Nat) : (leBytes count n).length = count := by
  induction count generalizing n with
  | zero => rfl
  | succ count ih => simp [leBytes, ih]

theorem leValue_lt (bytes : List UInt8) : leValue bytes < 256 ^ bytes.length := by
  induction bytes with
  | nil => simp [leValue]
  | cons b bytes ih =>
      have hb : b.toNat < 256 := b.toNat_lt
      show b.toNat + 256 * leValue bytes < 256 ^ (bytes.length + 1)
      rw [Nat.pow_succ]
      omega

theorem leValue_leBytes (count n : Nat) : leValue (leBytes count n) = n % 256 ^ count := by
  induction count generalizing n with
  | zero => simp [leBytes, leValue, Nat.mod_one]
  | succ count ih =>
      have hlow : (UInt8.ofNat n).toNat = n % 256 := rfl
      show (UInt8.ofNat n).toNat + 256 * leValue (leBytes count (n / 256)) = _
      rw [ih, hlow, Nat.pow_succ, Nat.mul_comm (256 ^ count) 256, Nat.mod_mul]

theorem leBytes_leValue (bytes : List UInt8) :
    leBytes bytes.length (leValue bytes) = bytes := by
  induction bytes with
  | nil => rfl
  | cons b bytes ih =>
      have hb : b.toNat < 256 := b.toNat_lt
      have hlow : UInt8.ofNat (b.toNat + 256 * leValue bytes) = b := by
        apply UInt8.toNat_inj.mp
        show (b.toNat + 256 * leValue bytes) % 256 = b.toNat
        omega
      have hhigh : (b.toNat + 256 * leValue bytes) / 256 = leValue bytes := by omega
      show UInt8.ofNat (b.toNat + 256 * leValue bytes) ::
        leBytes bytes.length ((b.toNat + 256 * leValue bytes) / 256) = _
      rw [hlow, hhigh, ih]

/-! ## UTF-16 -/

/-- The units of a character: one, or a surrogate pair. -/
def unitsOfChar (c : Char) : List UInt16 :=
  if c.toNat < 0x10000 then [UInt16.ofNat c.toNat]
  else [UInt16.ofNat (0xD800 + (c.toNat - 0x10000) / 0x400),
    UInt16.ofNat (0xDC00 + (c.toNat - 0x10000) % 0x400)]

/-- `str::encode_utf16`. -/
def encodeUtf16 (text : List Char) : List UInt16 := text.flatMap unitsOfChar

/-- `String::from_utf16`. -/
def decodeUtf16 : List UInt16 → Option (List Char)
  | [] => some []
  | unit :: units =>
      if unit.toNat < 0xD800 ∨ 0xDFFF < unit.toNat then
        (decodeUtf16 units).map (Char.ofNat unit.toNat :: ·)
      else if 0xDC00 ≤ unit.toNat then none
      else
        match units with
        | [] => none
        | low :: rest =>
            if 0xDC00 ≤ low.toNat ∧ low.toNat ≤ 0xDFFF then
              (decodeUtf16 rest).map (Char.ofNat
                (0x10000 + (unit.toNat - 0xD800) * 0x400 + (low.toNat - 0xDC00)) :: ·)
            else none

theorem toNat_valid (c : Char) :
    c.toNat < 0xD800 ∨ (0xDFFF < c.toNat ∧ c.toNat < 0x110000) := c.valid

theorem toNat_unit {n : Nat} (h : n < 0x10000) : (UInt16.ofNat n).toNat = n :=
  Nat.mod_eq_of_lt h

/-- Decoding the units of a character. -/
theorem decodeUtf16_unitsOfChar (c : Char) (units : List UInt16) :
    decodeUtf16 (unitsOfChar c ++ units) = (decodeUtf16 units).map (c :: ·) := by
  have hvalid := toNat_valid c
  unfold unitsOfChar
  by_cases hshort : c.toNat < 0x10000
  · have hunit := toNat_unit hshort
    rw [if_pos hshort]
    show decodeUtf16 (UInt16.ofNat c.toNat :: units) = _
    rw [decodeUtf16.eq_def]
    show (if (UInt16.ofNat c.toNat).toNat < 0xD800 ∨ _ then _ else _) = _
    rw [hunit, if_pos (by omega), Char.ofNat_toNat]
  · have hhigh : (UInt16.ofNat (0xD800 + (c.toNat - 0x10000) / 0x400)).toNat =
        0xD800 + (c.toNat - 0x10000) / 0x400 := toNat_unit (by omega)
    have hlow : (UInt16.ofNat (0xDC00 + (c.toNat - 0x10000) % 0x400)).toNat =
        0xDC00 + (c.toNat - 0x10000) % 0x400 := toNat_unit (by omega)
    rw [if_neg hshort]
    show decodeUtf16 (_ :: _ :: units) = _
    rw [decodeUtf16, hhigh, if_neg (by omega), if_neg (by omega)]
    show (if 0xDC00 ≤ (UInt16.ofNat (0xDC00 + (c.toNat - 0x10000) % 0x400)).toNat ∧ _
      then _ else _) = _
    rw [hlow, if_pos (by omega)]
    have hcode : 0x10000 + (0xD800 + (c.toNat - 0x10000) / 0x400 - 0xD800) * 0x400 +
        (0xDC00 + (c.toNat - 0x10000) % 0x400 - 0xDC00) = c.toNat := by omega
    rw [hcode, Char.ofNat_toNat]

theorem decodeUtf16_encodeUtf16 (text : List Char) :
    decodeUtf16 (encodeUtf16 text) = some text := by
  induction text with
  | nil => rfl
  | cons c text ih =>
      show decodeUtf16 (unitsOfChar c ++ encodeUtf16 text) = _
      rw [decodeUtf16_unitsOfChar, ih]
      rfl

/-- Only the zero character has a zero unit. -/
theorem zero_mem_unitsOfChar {c : Char} (h : 0 ∈ unitsOfChar c) : c = '\x00' := by
  have hvalid := toNat_valid c
  have hzero : (0 : UInt16).toNat = 0 := rfl
  unfold unitsOfChar at h
  by_cases hshort : c.toNat < 0x10000
  · rw [if_pos hshort, List.mem_singleton] at h
    have hcode := congrArg UInt16.toNat h
    rw [toNat_unit hshort, hzero] at hcode
    rw [← Char.ofNat_toNat c, ← hcode]
  · rw [if_neg hshort, List.mem_cons, List.mem_singleton] at h
    rcases h with h | h
    · have hcode := congrArg UInt16.toNat h
      rw [toNat_unit (by omega), hzero] at hcode
      omega
    · have hcode := congrArg UInt16.toNat h
      rw [toNat_unit (by omega), hzero] at hcode
      omega

theorem zero_not_mem_encodeUtf16 {text : List Char} (h : '\x00' ∉ text) :
    0 ∉ encodeUtf16 text := by
  intro hzero
  obtain ⟨c, hc, hunit⟩ := List.mem_flatMap.mp hzero
  rw [zero_mem_unitsOfChar hunit] at hc
  exact h hc

/-- A character that is read from a unit other than zero is not zero. -/
theorem ofNat_ne_zero {n : Nat} (hvalid : n.isValidChar) (h : n ≠ 0) :
    Char.ofNat n ≠ '\x00' := by
  intro hzero
  have hcode : n = 0 := by
    rw [Char.ofNat, dif_pos hvalid] at hzero
    have hval := congrArg Char.toNat hzero
    exact hval
  exact h hcode

/-- Units without a zero decode to a text without the zero character. -/
theorem decodeUtf16_ne_zero (units : List UInt16) (h : 0 ∉ units) {text : List Char}
    (hdecode : decodeUtf16 units = some text) : '\x00' ∉ text := by
  induction units using decodeUtf16.induct generalizing text with
  | case1 =>
      obtain rfl := Option.some.inj hdecode
      simp
  | case2 unit units hshort ih =>
      rw [decodeUtf16.eq_def] at hdecode
      simp only [if_pos hshort] at hdecode
      obtain ⟨tail, htail, rfl⟩ := Option.map_eq_some_iff.mp hdecode
      have hunit : unit.toNat ≠ 0 := by
        intro hzero
        have hzero' : unit = 0 := UInt16.toNat_inj.mp hzero
        exact h (hzero' ▸ List.mem_cons_self)
      have hlt : unit.toNat < 0x10000 := unit.toNat_lt
      have hvalid : unit.toNat.isValidChar := by
        unfold Nat.isValidChar
        omega
      have hhead := ofNat_ne_zero hvalid hunit
      have hrest := ih (fun hzero => h (List.mem_cons_of_mem _ hzero)) htail
      simp only [List.mem_cons, not_or]
      exact ⟨Ne.symm hhead, hrest⟩
  | case3 unit units hshort hlow =>
      rw [decodeUtf16.eq_def] at hdecode
      simp only [if_neg hshort, if_pos hlow] at hdecode
      exact absurd hdecode (by simp)
  | case4 unit hshort hlow =>
      rw [decodeUtf16.eq_def] at hdecode
      simp only [if_neg hshort, if_neg hlow] at hdecode
      cases hdecode
  | case5 unit hshort hhigh low rest hlow ih =>
      rw [decodeUtf16, if_neg hshort, if_neg hhigh] at hdecode
      rw [if_pos hlow] at hdecode
      obtain ⟨tail, htail, rfl⟩ := Option.map_eq_some_iff.mp hdecode
      have hvalid : (0x10000 + (unit.toNat - 0xD800) * 0x400 +
          (low.toNat - 0xDC00)).isValidChar := by
        unfold Nat.isValidChar
        omega
      have hhead := ofNat_ne_zero hvalid (by omega)
      have hrest := ih (fun hzero => h (by simp [hzero])) htail
      simp only [List.mem_cons, not_or]
      exact ⟨Ne.symm hhead, hrest⟩
  | case6 unit hshort hhigh low rest hlow =>
      rw [decodeUtf16, if_neg hshort, if_neg hhigh] at hdecode
      rw [if_neg hlow] at hdecode
      cases hdecode

/-! ## Wide texts -/

/-- The bytes of the units. -/
def bytesOfUnits (units : List UInt16) : List UInt8 :=
  units.flatMap fun unit => leBytes 2 unit.toNat

/-- The whole units of the bytes; a byte left over is dropped. -/
def unitsOfBytes : List UInt8 → List UInt16
  | low :: high :: bytes => UInt16.ofNat (leValue [low, high]) :: unitsOfBytes bytes
  | _ => []

/-- A text with its end. -/
def wide (text : List Char) : List UInt16 := encodeUtf16 text ++ [0]

/-- The stored form of a text. -/
def wideBytes (text : List Char) : List UInt8 := bytesOfUnits (wide text)

/-- What a reader keeps: the units before the first zero. -/
def readText (bytes : List UInt8) : Option (List Char) :=
  decodeUtf16 ((unitsOfBytes bytes).takeWhile (· ≠ 0))

theorem unitsOfBytes_bytesOfUnits (units : List UInt16) :
    unitsOfBytes (bytesOfUnits units) = units := by
  induction units with
  | nil => rfl
  | cons unit units ih =>
      have hlt : unit.toNat < 65536 := unit.toNat_lt
      have hvalue : leValue (leBytes 2 unit.toNat) = unit.toNat := by
        rw [leValue_leBytes]
        exact Nat.mod_eq_of_lt hlt
      have hunit : UInt16.ofNat (leValue (leBytes 2 unit.toNat)) = unit := by
        rw [hvalue, UInt16.ofNat_toNat]
      show UInt16.ofNat (leValue (leBytes 2 unit.toNat)) ::
        unitsOfBytes (bytesOfUnits units) = _
      rw [hunit, ih]

theorem bytesOfUnits_length (units : List UInt16) :
    (bytesOfUnits units).length = 2 * units.length := by
  induction units with
  | nil => rfl
  | cons unit units ih =>
      show (leBytes 2 unit.toNat ++ bytesOfUnits units).length = _
      rw [List.length_append, leBytes_length, ih, List.length_cons]
      omega

theorem takeWhile_wide {text : List Char} (h : '\x00' ∉ text) :
    (wide text).takeWhile (· ≠ 0) = encodeUtf16 text := by
  have hall : ∀ unit ∈ encodeUtf16 text, decide (unit ≠ 0) = true := by
    intro unit hunit
    rw [decide_eq_true_eq]
    rintro rfl
    exact zero_not_mem_encodeUtf16 h hunit
  rw [wide, List.takeWhile_append_of_pos hall]
  simp

/-- **A text survives**: what was stored is what is read. -/
theorem readText_wideBytes {text : List Char} (h : '\x00' ∉ text) :
    readText (wideBytes text) = some text := by
  rw [readText, wideBytes, unitsOfBytes_bytesOfUnits, takeWhile_wide h,
    decodeUtf16_encodeUtf16]

/-- What is read has no zero character. -/
theorem readText_ne_zero {bytes : List UInt8} {text : List Char}
    (h : readText bytes = some text) : '\x00' ∉ text := by
  refine decodeUtf16_ne_zero _ ?_ h
  intro hzero
  have hne := List.mem_takeWhile_imp hzero
  simp at hne

end FrametimeCfg.Lib.Wide
