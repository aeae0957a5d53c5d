import FrametimeCfg.Lib.OrderedMap
import Mathlib.Data.List.Pairwise

/-!
# Collecting records by their identity

Records that are observed more than once are collected in a map under their
identity.  A record that repeats an equal one is dropped; a record that
disagrees with the one of its identity is a conflict.  The values of such a map
have distinct identities, so an identity selects at most one of them.

Nothing here mentions a particular program.
-/

namespace FrametimeCfg.Lib.Distinct

open FrametimeCfg.Lib.OrderedMap

variable {α β ε : Type}

/-- Insert a value under its key, unless the key has a value already. -/
def insertDistinct [DecidableEq β] (conflict : String → ε) (m : BTreeMap β)
    (key : String) (value : β) : Except ε (BTreeMap β) :=
  match m[key]? with
  | some existing => if existing = value then .ok m else .error (conflict key)
  | none => .ok (m.insert key value)

/-- The values of a map, in the order of their keys. -/
def values (m : BTreeMap β) : List β := m.toList.map Prod.snd

theorem mem_values {m : BTreeMap β} {v : β} :
    v ∈ values m ↔ ∃ k : String, m[k]? = some v := by
  unfold values
  rw [List.mem_map]
  constructor
  · intro h
    obtain ⟨⟨k, w⟩, hmem, rfl⟩ := h
    exact ⟨k, Std.ExtTreeMap.mem_toList_iff_getElem?_eq_some.mp hmem⟩
  · intro h
    obtain ⟨k, hk⟩ := h
    exact ⟨(k, v), Std.ExtTreeMap.mem_toList_iff_getElem?_eq_some.mpr hk, rfl⟩

/-- Every value of the map stands under its own identity and satisfies `P`. -/
def Keyed (identity : β → String) (P : β → Prop) (m : BTreeMap β) : Prop :=
  ∀ (k : String) (v : β), m[k]? = some v → identity v = k ∧ P v

theorem Keyed.empty (identity : β → String) (P : β → Prop) :
    Keyed identity P (∅ : BTreeMap β) := by
  intro k v h
  simp at h

theorem Keyed.insertDistinct [DecidableEq β] {identity : β → String} {P : β → Prop}
    {conflict : String → ε} {m m' : BTreeMap β} {value : β} (h : Keyed identity P m)
    (hvalue : P value)
    (hins : insertDistinct conflict m (identity value) value = .ok m') :
    Keyed identity P m' := by
  unfold Distinct.insertDistinct at hins
  cases hget : m[identity value]? with
  | some existing =>
      rw [hget] at hins
      by_cases heq : existing = value
      · simp only [heq, if_true, Except.ok.injEq] at hins
        rwa [← hins]
      · simp [heq] at hins
  | none =>
      simp only [hget, Except.ok.injEq] at hins
      intro k v hk
      rw [← hins, BTreeMap.get_insert] at hk
      by_cases hkey : k = identity value
      · simp only [hkey, if_true, Option.some.injEq] at hk
        rw [← hk]
        exact ⟨hkey.symm, hvalue⟩
      · simp only [hkey, if_false] at hk
        exact h k v hk

theorem Keyed.of_mem {identity : β → String} {P : β → Prop} {m : BTreeMap β}
    (h : Keyed identity P m) {v : β} (hv : v ∈ values m) : P v := by
  obtain ⟨k, hk⟩ := mem_values.mp hv
  exact (h k v hk).2

/-- The values of the map have distinct identities. -/
theorem Keyed.pairwise {identity : β → String} {P : β → Prop} {m : BTreeMap β}
    (h : Keyed identity P m) :
    (values m).Pairwise fun v w => identity v ≠ identity w := by
  have hkeys := m.distinct_keys_toList
  unfold values
  rw [List.pairwise_map]
  refine hkeys.imp_of_mem ?_
  intro a b ha hb hne heq
  have hka := (h a.1 a.2 (Std.ExtTreeMap.mem_toList_iff_getElem?_eq_some.mp ha)).1
  have hkb := (h b.1 b.2 (Std.ExtTreeMap.mem_toList_iff_getElem?_eq_some.mp hb)).1
  rw [hka, hkb] at heq
  simp [heq] at hne

/-- A test that only one identity passes selects at most the value of that
identity. -/
theorem filter_eq_singleton {identity : β → String} {l : List β} {v : β}
    (hl : l.Pairwise fun v w => identity v ≠ identity w) (hv : v ∈ l) {p : β → Bool}
    (hp : p v = true) (honly : ∀ w, p w = true → identity w = identity v) :
    l.filter p = [v] := by
  induction l with
  | nil => simp at hv
  | cons x l ih =>
      rw [List.pairwise_cons] at hl
      by_cases hx : p x = true
      · have hid := honly x hx
        have hrest : ∀ w ∈ l, ¬ p w = true := by
          intro w hw hpw
          exact hl.1 w hw (hid.trans (honly w hpw).symm)
        have heq : v = x := by
          rcases List.mem_cons.mp hv with h | h
          · exact h
          · exact absurd hp (hrest v h)
        rw [List.filter_cons_of_pos hx, List.filter_eq_nil_iff.mpr hrest, heq]
      · have hvl : v ∈ l := by
          rcases List.mem_cons.mp hv with h | h
          · rw [h] at hp
            exact absurd hp hx
          · exact h
        rw [List.filter_cons_of_neg hx]
        exact ih hl.2 hvl

/-- What every step of a fold keeps, the fold keeps. -/
theorem foldlM_keeps {I : α → Prop} {step : α → β → Except ε α} {l : List β} {a a' : α}
    (hstep : ∀ b ∈ l, ∀ a a', I a → step a b = .ok a' → I a') (ha : I a)
    (h : l.foldlM step a = .ok a') : I a' := by
  induction l generalizing a with
  | nil =>
      cases h
      exact ha
  | cons b l ih =>
      rw [List.foldlM_cons] at h
      cases hb : step a b with
      | error e => rw [hb] at h; cases h
      | ok c =>
          rw [hb] at h
          exact ih (fun b' hb' => hstep b' (by simp [hb'])) (hstep b (by simp) a c ha hb) h

end FrametimeCfg.Lib.Distinct
