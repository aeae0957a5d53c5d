import Mathlib.Data.List.Basic

/-!
# Logs that keep their newest entries

A bounded log drops its oldest entries when a new one makes it too long.  A
push splits the old log in two: the entries that are evicted and the entries
that are kept, and the new entry comes last.

Nothing here mentions what an entry is.
-/

namespace FrametimeCfg.Lib.Window

variable {α : Type}

/-- The newest `n` entries. -/
def keepNewest (n : Nat) (l : List α) : List α := l.drop (l.length - n)

/-- Append an entry and drop the oldest ones beyond `n`. -/
def pushNewest (n : Nat) (l : List α) (x : α) : List α := keepNewest n (l ++ [x])

/-- The entries that a push drops. -/
def evicted (n : Nat) (l : List α) : List α := l.take (l.length + 1 - n)

/-- The old entries that survive a push. -/
def kept (n : Nat) (l : List α) : List α := l.drop (l.length + 1 - n)

theorem evicted_append_kept (n : Nat) (l : List α) : evicted n l ++ kept n l = l :=
  List.take_append_drop _ l

theorem length_kept (n : Nat) (l : List α) : (kept n l).length ≤ n - 1 := by
  rw [kept, List.length_drop]
  omega

theorem kept_subset (n : Nat) (l : List α) : kept n l ⊆ l :=
  List.drop_subset _ l

/-- **What a push leaves**: the survivors, then the new entry. -/
theorem pushNewest_eq {n : Nat} (hn : 0 < n) (l : List α) (x : α) :
    pushNewest n l x = kept n l ++ [x] := by
  have hle : l.length + 1 - n ≤ l.length := by omega
  rw [pushNewest, keepNewest, List.length_append, List.length_singleton,
    List.drop_append_of_le_length hle, kept]

theorem length_pushNewest {n : Nat} (hn : 0 < n) (l : List α) (x : α) :
    (pushNewest n l x).length ≤ n := by
  have hkept := length_kept n l
  rw [pushNewest_eq hn, List.length_append, List.length_singleton]
  omega

/-- Nothing is evicted from a log with room. -/
theorem kept_eq_self {n : Nat} {l : List α} (h : l.length < n) : kept n l = l := by
  have hzero : l.length + 1 - n = 0 := by omega
  rw [kept, hzero, List.drop_zero]

/-- The survivors have room for one more entry. -/
theorem kept_kept {n : Nat} (hn : 0 < n) (l : List α) : kept n (kept n l) = kept n l := by
  have hlength := length_kept n l
  exact kept_eq_self (by omega)

/-- A push onto the survivors gives the same log. -/
theorem pushNewest_kept {n : Nat} (hn : 0 < n) (l : List α) (x : α) :
    pushNewest n (kept n l) x = pushNewest n l x := by
  rw [pushNewest_eq hn, pushNewest_eq hn, kept_kept hn]

/-- An entry of the new log is the new one or an old one. -/
theorem mem_pushNewest {n : Nat} (hn : 0 < n) {l : List α} {x y : α}
    (h : y ∈ pushNewest n l x) : y ∈ l ∨ y = x := by
  rw [pushNewest_eq hn, List.mem_append, List.mem_singleton] at h
  rcases h with hkept | hnew
  · exact Or.inl (kept_subset n l hkept)
  · exact Or.inr hnew

/-- Entries of one kind survive a push of another kind as long as none of them
is evicted. -/
theorem filter_pushNewest {n : Nat} (hn : 0 < n) {l : List α} {x : α} {p : α → Bool}
    (hx : p x = false) (hevicted : (evicted n l).filter p = []) :
    (pushNewest n l x).filter p = l.filter p := by
  have hsplit : l.filter p = (evicted n l).filter p ++ (kept n l).filter p := by
    rw [← List.filter_append, evicted_append_kept]
  have hnew : [x].filter p = [] := by rw [List.filter_singleton, hx]; rfl
  rw [pushNewest_eq hn, List.filter_append, hnew, List.append_nil, hsplit, hevicted,
    List.nil_append]

/-- The new entry is the only one of its kind where the old log had none. -/
theorem filter_pushNewest_new {n : Nat} (hn : 0 < n) {l : List α} {x : α}
    {p : α → Bool} (hx : p x = true) (hl : l.any p = false) :
    (pushNewest n l x).filter p = [x] := by
  have hnone : (kept n l).filter p = [] := by
    rw [List.filter_eq_nil_iff]
    intro y hy hpy
    have hall := List.any_eq_false.mp hl y (kept_subset n l hy)
    exact hall hpy
  rw [pushNewest_eq hn, List.filter_append, hnone, List.nil_append,
    List.filter_singleton, hx]
  rfl

end FrametimeCfg.Lib.Window
