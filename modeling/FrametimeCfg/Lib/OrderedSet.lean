import Mathlib.Data.Set.Basic
import Mathlib.Data.String.Basic
import Std.Data.ExtTreeSet

/-!
# Ordered sets of strings

`BTreeSet` is the extensional ordered set of `Std` at strings, and its look-up
equations are stated with `=` on elements instead of `compare`.  The list of a set is in
strictly ascending order.
-/

namespace FrametimeCfg.Lib.OrderedSet

/-- A set of strings, ordered. -/
abbrev BTreeSet : Type := Std.ExtTreeSet String

namespace BTreeSet

theorem mem_insert {s : BTreeSet} {k j : String} : j ∈ s.insert k ↔ j = k ∨ j ∈ s := by
  rw [Std.ExtTreeSet.mem_insert, Std.LawfulEqCmp.compare_eq_iff_eq]
  exact or_congr_left eq_comm

theorem mem_erase {s : BTreeSet} {k j : String} : j ∈ s.erase k ↔ j ≠ k ∧ j ∈ s := by
  rw [Std.ExtTreeSet.mem_erase, ne_eq, Std.LawfulEqCmp.compare_eq_iff_eq]
  exact and_congr_left fun _ => not_congr eq_comm

/-- Two sets with the same elements are equal. -/
theorem ext {s t : BTreeSet} (h : ∀ k, k ∈ s ↔ k ∈ t) : s = t :=
  Std.ExtTreeSet.ext_mem h

/-- An element that was not there is inserted and erased again. -/
theorem erase_insert {s : BTreeSet} {k : String} (h : k ∉ s) : (s.insert k).erase k = s := by
  refine ext fun j => ?_
  rw [mem_erase, mem_insert]
  constructor
  · rintro ⟨hne, hj | hj⟩
    · exact absurd hj hne
    · exact hj
  · intro hj
    have hne : j ≠ k := fun hjk => h (hjk ▸ hj)
    exact ⟨hne, .inr hj⟩

/-- `extend`. -/
def extend (s : BTreeSet) (keys : List String) : BTreeSet := keys.foldl (·.insert ·) s

theorem mem_extend {s : BTreeSet} {keys : List String} {k : String} :
    k ∈ extend s keys ↔ k ∈ s ∨ k ∈ keys := by
  induction keys generalizing s with
  | nil => simp [extend]
  | cons j keys ih =>
      have hcons : extend s (j :: keys) = extend (s.insert j) keys := rfl
      rw [hcons, ih, mem_insert, List.mem_cons, or_comm (a := k = j), or_assoc]

/-- `collect`. -/
def ofList (keys : List String) : BTreeSet := extend ∅ keys

@[simp] theorem mem_ofList {keys : List String} {k : String} : k ∈ ofList keys ↔ k ∈ keys := by
  simp [ofList, mem_extend]

/-- The elements as a set of mathematics. -/
def members (s : BTreeSet) : Set String := {k | k ∈ s}

@[simp] theorem mem_members {s : BTreeSet} {k : String} : k ∈ members s ↔ k ∈ s := Iff.rfl

/-- The elements are listed in strictly ascending order. -/
theorem pairwise_toList (s : BTreeSet) : s.toList.Pairwise (· < ·) := by
  have hordered := Std.ExtTreeSet.ordered_toList (t := s)
  exact hordered.imp fun h => compare_lt_iff_lt.mp h

end BTreeSet

end FrametimeCfg.Lib.OrderedSet
