import Mathlib.Data.List.Basic

/-!
# The newest element that passes a test

In a list that grows at its end the newest element is the last one.  Updating the newest
element that passes a test leaves the elements before and after it as they are.
-/

namespace FrametimeCfg.Lib.Newest

variable {α : Type}

/-- The first element that passes, changed. -/
def updateFirst (p : α → Bool) (f : α → α) : List α → Option (List α)
  | [] => none
  | x :: rest => if p x then some (f x :: rest) else (updateFirst p f rest).map (x :: ·)

/-- `iter_mut().rev().find(..)`, with what is done to the element. -/
def updateLast (p : α → Bool) (f : α → α) (l : List α) : Option (List α) :=
  (updateFirst p f l.reverse).map List.reverse

variable {p : α → Bool} {f : α → α} {l : List α}

theorem updateFirst_eq_none : updateFirst p f l = none ↔ ∀ x ∈ l, p x = false := by
  induction l with
  | nil => simp [updateFirst]
  | cons x rest ih =>
      rw [updateFirst]
      by_cases hx : p x = true
      · simp [hx]
      · simp [hx, ih]

theorem updateFirst_eq_some {l' : List α} (h : updateFirst p f l = some l') :
    ∃ before x after, l = before ++ x :: after ∧ l' = before ++ f x :: after ∧
      l.find? p = some x := by
  induction l generalizing l' with
  | nil => cases h
  | cons x rest ih =>
      rw [updateFirst] at h
      by_cases hx : p x = true
      · rw [if_pos hx] at h
        cases h
        exact ⟨[], x, rest, rfl, rfl, List.find?_cons_of_pos hx⟩
      · rw [if_neg hx] at h
        obtain ⟨rest', hrest, rfl⟩ := Option.map_eq_some_iff.mp h
        obtain ⟨before, y, after, rfl, rfl, hy⟩ := ih hrest
        exact ⟨x :: before, y, after, rfl, rfl, by rw [List.find?_cons_of_neg hx, hy]⟩

theorem updateLast_eq_none : updateLast p f l = none ↔ ∀ x ∈ l, p x = false := by
  rw [updateLast, Option.map_eq_none_iff, updateFirst_eq_none]
  simp only [List.mem_reverse]

/-- **One element is changed**: the newest that passes. -/
theorem updateLast_eq_some {l' : List α} (h : updateLast p f l = some l') :
    ∃ before x after, l = before ++ x :: after ∧ l' = before ++ f x :: after ∧
      l.reverse.find? p = some x := by
  obtain ⟨reversed, hreversed, rfl⟩ := Option.map_eq_some_iff.mp h
  obtain ⟨before, x, after, hl, rfl, hx⟩ := updateFirst_eq_some hreversed
  refine ⟨after.reverse, x, before.reverse, ?_, by simp, hx⟩
  rw [← List.reverse_reverse l, hl]
  simp

end FrametimeCfg.Lib.Newest
