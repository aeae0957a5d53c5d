import Mathlib.Data.Finset.Card
import Mathlib.Data.Set.Basic
import Mathlib.Logic.Relation
import Mathlib.Order.Bounds.Basic

/-!
# Dependency closures

A relation says what an element depends on directly.  What is reached from a set is the
least set above it that is closed under the relation.  A search that starts with some
elements already marked as done, and stops at marked ones, reaches less: it does not step
from the elements it found marked.  `stopped` is what such a search ends with, and it is
the closure exactly when the dependencies of the marked elements are found in another
way.

A relation without cycles on finitely many elements has a rank that falls along it.
-/

namespace FrametimeCfg.Lib.Dependency

open Relation

variable {α : Type*} (r : α → α → Prop)

/-! ## Closures -/

/-- What is reached from a set. -/
def Reach (S : Set α) : Set α := {y | ∃ x ∈ S, ReflTransGen r x y}

/-- The set has the dependencies of its elements. -/
def Closed (C : Set α) : Prop := ∀ x ∈ C, ∀ y, r x y → y ∈ C

variable {r}

theorem subset_reach {S : Set α} : S ⊆ Reach r S :=
  fun x hx => ⟨x, hx, .refl⟩

theorem reach_mono {S S' : Set α} (h : S ⊆ S') : Reach r S ⊆ Reach r S' := by
  rintro y ⟨x, hx, hxy⟩
  exact ⟨x, h hx, hxy⟩

theorem closed_reach {S : Set α} : Closed r (Reach r S) := by
  rintro y ⟨x, hx, hxy⟩ z hyz
  exact ⟨x, hx, hxy.tail hyz⟩

/-- A closed set has everything that its elements reach. -/
theorem Closed.mem_of_reflTransGen {C : Set α} (h : Closed r C) {x y : α} (hx : x ∈ C)
    (hxy : ReflTransGen r x y) : y ∈ C := by
  induction hxy with
  | refl => exact hx
  | tail _ hyz ih => exact h _ ih _ hyz

theorem Closed.reach_subset {C S : Set α} (h : Closed r C) (hS : S ⊆ C) :
    Reach r S ⊆ C := by
  rintro y ⟨x, hx, hxy⟩
  exact h.mem_of_reflTransGen (hS hx) hxy

/-- **The closure is the least closed set above the start.** -/
theorem isLeast_reach (S : Set α) : IsLeast {C | S ⊆ C ∧ Closed r C} (Reach r S) :=
  ⟨⟨subset_reach, closed_reach⟩, fun _ hC => hC.2.reach_subset hC.1⟩

/-! ## A search that stops at marked elements -/

variable (r)

/-- A step from an element that is not marked. -/
def Passing (T : Set α) (x y : α) : Prop := x ∉ T ∧ r x y

/-- What a search from `S` ends with when `T` was marked before it began. -/
def stopped (T S : Set α) : Set α := T ∪ Reach (Passing r T) S

variable {r}

theorem stopped_subset_reach {T S : Set α} : stopped r T S ⊆ Reach r (T ∪ S) := by
  rintro y (hy | ⟨x, hx, hxy⟩)
  · exact subset_reach (.inl hy)
  · exact ⟨x, .inr hx, hxy.lift id fun _ _ h => h.2⟩

/-- The stopped search misses nothing but dependencies of marked elements. -/
theorem closed_stopped_iff {T S : Set α} :
    Closed r (stopped r T S) ↔ ∀ t ∈ T, ∀ y, r t y → y ∈ stopped r T S := by
  constructor
  · intro h t ht
    exact h t (.inl ht)
  · intro h x hx y hxy
    by_cases hmarked : x ∈ T
    · exact h x hmarked y hxy
    · obtain ⟨s, hs, hsx⟩ := hx.resolve_left hmarked
      exact .inr ⟨s, hs, hsx.tail ⟨hmarked, hxy⟩⟩

theorem stopped_eq_reach {T S : Set α} (h : Closed r (stopped r T S)) :
    stopped r T S = Reach r (T ∪ S) := by
  have hstart : T ∪ S ⊆ stopped r T S :=
    Set.union_subset_union_right T subset_reach
  exact Set.Subset.antisymm stopped_subset_reach (h.reach_subset hstart)

/-- **When the stopped search gives the closure.**  It does exactly when it has the direct
dependencies of every marked element. -/
theorem isLeast_stopped_iff {T S : Set α} :
    IsLeast {C | T ∪ S ⊆ C ∧ Closed r C} (stopped r T S) ↔
      ∀ t ∈ T, ∀ y, r t y → y ∈ stopped r T S := by
  rw [← closed_stopped_iff]
  constructor
  · intro h
    exact h.1.2
  · intro h
    rw [stopped_eq_reach h]
    exact isLeast_reach (T ∪ S)

/-! ## Relations without cycles -/

variable (r)

/-- No element depends on itself. -/
def Acyclic : Prop := ∀ x, ¬ TransGen r x x

variable {r}

/-- An element all of whose descending paths end is on no cycle. -/
theorem not_transGen_self_of_acc {x : α} (h : Acc (flip r) x) : ¬ TransGen r x x := by
  induction h with
  | intro x _ ih =>
      intro hcycle
      obtain ⟨y, hxy, hyx⟩ := TransGen.head'_iff.mp hcycle
      exact ih y hxy (TransGen.trans_right hyx (.single hxy))

section

variable {nodes : Finset α}

open Classical in
/-- The number of elements below `x`. -/
noncomputable def rank (r : α → α → Prop) (nodes : Finset α) (x : α) : Nat :=
  (nodes.filter fun y => TransGen r x y).card

theorem rank_le (x : α) : rank r nodes x ≤ nodes.card := by
  classical
  exact Finset.card_filter_le _ _

/-- The rank falls along a relation without cycles. -/
theorem rank_lt (hacyclic : Acyclic r) {x y : α} (hy : y ∈ nodes) (h : r x y) :
    rank r nodes y < rank r nodes x := by
  classical
  unfold rank
  apply Finset.card_lt_card
  refine (Finset.ssubset_iff_of_subset ?_).mpr ?_
  · intro z hz
    rw [Finset.mem_filter] at hz ⊢
    exact ⟨hz.1, .head h hz.2⟩
  · refine ⟨y, Finset.mem_filter.mpr ⟨hy, .single h⟩, ?_⟩
    intro hmem
    exact hacyclic y (Finset.mem_filter.mp hmem).2

end

end FrametimeCfg.Lib.Dependency
