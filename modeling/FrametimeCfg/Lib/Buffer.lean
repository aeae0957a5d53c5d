import FrametimeCfg.Lib.Checks
import FrametimeCfg.Lib.Wide

/-!
# Readers of a buffer

A reader of a buffer takes elements at positions that it computes itself.  It stops with an
error of its own, or with a panic where it takes an element that is not there; `Stop` keeps
the two apart.  `Contained` says of a reader that it never panics, and has one rule for
each way to build a reader.

The last section reads a buffer that was put together from parts.
-/

namespace FrametimeCfg.Lib.Buffer

open FrametimeCfg.Lib.Checks
open FrametimeCfg.Lib.Wide

variable {ε α β : Type}

/-- How a reader stops early. -/
inductive Stop (ε : Type) where
  | error (e : ε)
  /-- An index outside the buffer. -/
  | outOfBounds
  deriving DecidableEq

/-- `buffer[i]`. -/
def index (buffer : List α) (i : Nat) : Except (Stop ε) α := okOr buffer[i]? .outOfBounds

/-- `buffer.get(start..stop)`. -/
def get (buffer : List α) (start stop : Nat) : Option (List α) :=
  if start ≤ stop ∧ stop ≤ buffer.length then some ((buffer.drop start).take (stop - start))
  else none

/-- `&buffer[start..stop]`. -/
def slice (buffer : List α) (start stop : Nat) : Except (Stop ε) (List α) :=
  okOr (get buffer start stop) .outOfBounds

/-- The number of values of a `usize`. -/
def usizeCount : Nat := 18446744073709551616

/-- `usize::checked_add`. -/
def checkedAdd (a b : Nat) : Option Nat := if a + b < usizeCount then some (a + b) else none

/-- `usize::checked_mul`. -/
def checkedMul (a b : Nat) : Option Nat := if a * b < usizeCount then some (a * b) else none

theorem checkedAdd_eq_some {a b c : Nat} :
    checkedAdd a b = some c ↔ a + b < usizeCount ∧ a + b = c := by
  unfold checkedAdd
  by_cases h : a + b < usizeCount <;> simp [h]

theorem checkedMul_eq_some {a b c : Nat} :
    checkedMul a b = some c ↔ a * b < usizeCount ∧ a * b = c := by
  unfold checkedMul
  by_cases h : a * b < usizeCount <;> simp [h]

theorem get_eq_some {buffer : List α} {start stop : Nat} {part : List α} :
    get buffer start stop = some part ↔ (start ≤ stop ∧ stop ≤ buffer.length) ∧
      (buffer.drop start).take (stop - start) = part := by
  unfold get
  by_cases h : start ≤ stop ∧ stop ≤ buffer.length
  · rw [if_pos h, Option.some.injEq]
    exact (and_iff_right h).symm
  · rw [if_neg h]
    exact ⟨fun hnone => (nomatch hnone), fun hsome => absurd hsome.1 h⟩

theorem index_eq_ok {buffer : List α} {i : Nat} {x : α} :
    (index buffer i : Except (Stop ε) α) = .ok x ↔ buffer[i]? = some x :=
  okOr_eq_ok

/-- An element of a slice. -/
theorem getElem_slice (buffer : List α) (start : Nat) {n k : Nat} (hk : k < n) :
    ((buffer.drop start).take n)[k]? = buffer[start + k]? := by
  rw [List.getElem?_take_of_lt hk, List.getElem?_drop]

/-- The byte at a position; zero outside. -/
def byteAt (bytes : List UInt8) (i : Nat) : UInt8 := bytes[i]?.getD 0

theorem getElem_eq_some {bytes : List UInt8} {i : Nat} {b : UInt8} :
    bytes[i]? = some b ↔ i < bytes.length ∧ byteAt bytes i = b := by
  rw [byteAt]
  by_cases h : i < bytes.length
  · simp [h]
  · simp [h]

/-! ## Readers that stay inside -/

/-- **No panic.**  The reader never takes an element outside its buffer. -/
def Contained (m : Except (Stop ε) α) : Prop := m ≠ .error .outOfBounds

namespace Contained

theorem ok (a : α) : Contained (Except.ok a : Except (Stop ε) α) := by simp [Contained]

theorem error (e : ε) : Contained (Except.error (.error e) : Except (Stop ε) α) := by
  simp [Contained]

theorem reject (c : Bool) (e : ε) : Contained (reject c (.error e : Stop ε)) :=
  reject_ne_error (by simp)

theorem okOr (o : Option α) (e : ε) : Contained (okOr o (.error e : Stop ε)) :=
  okOr_ne_error (by simp)

/-- The rest of a reader may use what its first part found. -/
theorem bind {m : Except (Stop ε) α} {k : α → Except (Stop ε) β} (hm : Contained m)
    (hk : ∀ a, m = .ok a → Contained (k a)) : Contained (m >>= k) := by
  cases m with
  | ok a => exact hk a rfl
  | error e =>
      intro h
      exact hm (by simpa using h)

theorem index {buffer : List α} {i : Nat} (h : i < buffer.length) :
    Contained (index buffer i : Except (Stop ε) α) := by
  simp [Contained, Buffer.index, h]

theorem slice {buffer : List α} {start stop : Nat} (hle : start ≤ stop)
    (h : stop ≤ buffer.length) : Contained (slice buffer start stop : Except (Stop ε) _) := by
  simp [Contained, Buffer.slice, get, hle, h]

theorem ite {c : Prop} [Decidable c] {m m' : Except (Stop ε) α} (h : c → Contained m)
    (h' : ¬ c → Contained m') : Contained (if c then m else m') := by
  by_cases hc : c
  · rw [if_pos hc]
    exact h hc
  · rw [if_neg hc]
    exact h' hc

end Contained

/-! ## Buffers put together from parts -/

/-- An element of the part in the middle. -/
theorem getElem_middle {before middle after : List α} {i k : Nat}
    (hi : i = before.length + k) (hk : k < middle.length) :
    (before ++ middle ++ after)[i]? = middle[k]? := by
  subst hi
  rw [List.append_assoc, List.getElem?_append_right (by omega),
    List.getElem?_append_left (by omega)]
  congr 1
  omega

theorem byteAt_middle {before middle after : List UInt8} {i k : Nat}
    (hi : i = before.length + k) (hk : k < middle.length) :
    byteAt (before ++ middle ++ after) i = byteAt middle k := by
  rw [byteAt, getElem_middle hi hk, byteAt]

/-- A slice of the part in the middle. -/
theorem get_middle {before middle after : List α} {start stop k n : Nat}
    (hstart : start = before.length + k) (hstop : stop = start + n)
    (hn : k + n ≤ middle.length) :
    get (before ++ middle ++ after) start stop = some ((middle.drop k).take n) := by
  have hlength : (before ++ middle ++ after).length =
      before.length + middle.length + after.length := by simp [Nat.add_assoc]
  have hcount : stop - start = n := by omega
  rw [get, if_pos (by omega), hcount, hstart, List.append_assoc,
    List.drop_append, List.drop_eq_nil_of_le (by omega), List.nil_append,
    Nat.add_sub_cancel_left, List.drop_append_of_le_length (by omega),
    List.take_append_of_le_length (by rw [List.length_drop]; omega)]

end FrametimeCfg.Lib.Buffer
