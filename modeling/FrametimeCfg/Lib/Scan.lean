import FrametimeCfg.Lib.Buffer

/-!
# Scanning bytes

A scanner holds an offset into its bytes and passes over what it recognises.  What is left of
the bytes at an offset is `bytes.drop offset`, and the lemmas below say what is left after a
loop that passes over bytes one by one.
-/

namespace FrametimeCfg.Lib.Scan

variable {α : Type}

/-- `u8::is_ascii_whitespace`. -/
def isAsciiWhitespace (b : UInt8) : Bool :=
  b = 0x20 || b = 0x09 || b = 0x0a || b = 0x0c || b = 0x0d

/-- The loop `while offset < bytes.len() && p(bytes[offset]) { offset += 1 }`. -/
def skipWhile (p : UInt8 → Bool) (bytes : List UInt8) (offset : Nat) : Nat :=
  if h : offset < bytes.length then
    if p bytes[offset] then skipWhile p bytes (offset + 1) else offset
  else offset
termination_by bytes.length - offset

section Rest

variable {bytes : List UInt8} {offset : Nat}

/-- What is left after an element. -/
theorem drop_eq_cons {bytes rest : List α} {offset : Nat} {x : α}
    (h : bytes.drop offset = x :: rest) :
    bytes[offset]? = some x ∧ bytes.drop (offset + 1) = rest ∧ offset < bytes.length := by
  have hlt : offset < bytes.length := by
    by_contra hle
    rw [List.drop_eq_nil_of_le (by omega)] at h
    cases h
  rw [List.drop_eq_getElem_cons hlt] at h
  obtain ⟨hx, hrest⟩ := List.cons.inj h
  exact ⟨by rw [List.getElem?_eq_getElem hlt, hx], hrest, hlt⟩

theorem drop_of_getElem? {bytes : List α} {offset : Nat} {x : α}
    (h : bytes[offset]? = some x) : bytes.drop offset = x :: bytes.drop (offset + 1) := by
  obtain ⟨hlt, hx⟩ := List.getElem?_eq_some_iff.mp h
  rw [List.drop_eq_getElem_cons hlt, hx]

/-- What is left after a part of the rest. -/
theorem drop_append_eq {bytes part rest : List α} {offset : Nat}
    (h : bytes.drop offset = part ++ rest) : bytes.drop (offset + part.length) = rest := by
  rw [← List.drop_drop, h, List.drop_left]

/-- A part of the rest ends inside. -/
theorem le_of_drop_append {bytes part rest : List α} {offset : Nat}
    (h : bytes.drop offset = part ++ rest) (hle : offset ≤ bytes.length) :
    offset + part.length ≤ bytes.length := by
  have hlength := congrArg List.length h
  rw [List.length_drop, List.length_append] at hlength
  omega

end Rest

section SkipWhile

variable {p : UInt8 → Bool} {bytes : List UInt8} {offset : Nat}

theorem skipWhile_bounds :
    offset ≤ skipWhile p bytes offset ∧
      (offset ≤ bytes.length → skipWhile p bytes offset ≤ bytes.length) := by
  fun_induction skipWhile p bytes offset with
  | case1 offset h hp ih => exact ⟨by omega, fun _ => ih.2 (by omega)⟩
  | case2 offset h hp => exact ⟨Nat.le_refl _, id⟩
  | case3 offset h => exact ⟨Nat.le_refl _, id⟩

/-- **What a loop leaves** is what remains without the first bytes that it passes over. -/
theorem drop_skipWhile :
    bytes.drop (skipWhile p bytes offset) = (bytes.drop offset).dropWhile p := by
  fun_induction skipWhile p bytes offset with
  | case1 offset h hp ih =>
    rw [ih, List.drop_eq_getElem_cons h, List.dropWhile_cons_of_pos hp]
  | case2 offset h hp =>
    rw [List.drop_eq_getElem_cons h, List.dropWhile_cons_of_neg hp]
  | case3 offset h => rw [List.drop_eq_nil_of_le (by omega), List.dropWhile_nil]

/-- One round of the loop. -/
theorem skipWhile_of_pos {b : UInt8} (h : bytes[offset]? = some b) (hp : p b = true) :
    skipWhile p bytes offset = skipWhile p bytes (offset + 1) := by
  obtain ⟨hlt, rfl⟩ := List.getElem?_eq_some_iff.mp h
  rw [skipWhile, dif_pos hlt, if_pos hp]

theorem skipWhile_of_neg {b : UInt8} (h : bytes[offset]? = some b) (hp : p b = false) :
    skipWhile p bytes offset = offset := by
  obtain ⟨hlt, rfl⟩ := List.getElem?_eq_some_iff.mp h
  rw [skipWhile, dif_pos hlt, if_neg (by rw [hp]; exact Bool.false_ne_true)]

theorem skipWhile_end (h : bytes.length ≤ offset) : skipWhile p bytes offset = offset := by
  rw [skipWhile, dif_neg (by omega)]

/-- The loop passes over bytes up to one that it does not pass over, or to the end. -/
theorem skipWhile_append {part rest : List UInt8} (h : bytes.drop offset = part ++ rest)
    (hpart : ∀ b ∈ part, p b = true) (hrest : ∀ b, rest.head? = some b → p b = false) :
    skipWhile p bytes offset = offset + part.length := by
  induction part generalizing offset with
  | nil =>
    cases rest with
    | nil => exact skipWhile_end (List.drop_eq_nil_iff.mp h)
    | cons b rest => exact skipWhile_of_neg (drop_eq_cons h).1 (hrest b rfl)
  | cons b part ih =>
    obtain ⟨hb, htail, _⟩ := drop_eq_cons h
    rw [skipWhile_of_pos hb (hpart b (by simp)), ih htail fun c hc => hpart c (by simp [hc])]
    rw [List.length_cons]
    omega

end SkipWhile

end FrametimeCfg.Lib.Scan
