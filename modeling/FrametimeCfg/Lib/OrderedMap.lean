import Mathlib.Data.String.Basic
import Std.Data.ExtTreeMap

/-!
# Ordered maps with string keys

`BTreeMap β` is the extensional ordered map of `Std` at string keys: two maps
are equal when they look up the same values, whatever insertions built them.
This file collects the look-up equations in the form the rest of the
development rewrites with (`=` on keys instead of `compare`), and the fact
that a map is rebuilt exactly by inserting its own entries in order, which is
what makes an encode/decode pair of a document the identity.
-/

namespace FrametimeCfg.Lib.OrderedMap

/-- A map from strings, ordered by key. -/
abbrev BTreeMap (β : Type) : Type := Std.ExtTreeMap String β

variable {β : Type}

namespace BTreeMap

theorem get_insert (m : BTreeMap β) (k j : String) (v : β) :
    (m.insert k v)[j]? = if j = k then some v else m[j]? := by
  rw [Std.ExtTreeMap.getElem?_insert]
  by_cases h : j = k
  · subst h; simp
  · simp [h, Ne.symm h]

theorem get_erase (m : BTreeMap β) (k j : String) :
    (m.erase k)[j]? = if j = k then none else m[j]? := by
  rw [Std.ExtTreeMap.getElem?_erase]
  by_cases h : j = k
  · subst h; simp
  · simp [h, Ne.symm h]

/-- Two maps that agree at every key are equal. -/
theorem ext {m n : BTreeMap β} (h : ∀ k : String, m[k]? = n[k]?) : m = n :=
  Std.ExtTreeMap.ext_getElem? h

/-- A key without a value is not among the keys. -/
private theorem not_mem_keys {m : BTreeMap β} {k : String} (h : m[k]? = none) :
    (m.toList.map Prod.fst).contains k = false := by
  rw [Std.ExtTreeMap.map_fst_toList_eq_keys, Bool.eq_false_iff, ne_eq,
    List.contains_iff_mem]
  intro hk
  rw [Std.ExtTreeMap.mem_keys, Std.ExtTreeMap.mem_iff_isSome_getElem?, h] at hk
  cases hk

/-- **Read back.**  The entries of a map, inserted again, give the map. -/
theorem ofList_toList (m : BTreeMap β) :
    Std.ExtTreeMap.ofList m.toList = m := by
  refine ext fun k => ?_
  cases h : m[k]? with
  | none =>
      refine Std.ExtTreeMap.getElem?_ofList_of_contains_eq_false ?_
      exact not_mem_keys h
  | some v =>
      refine Std.ExtTreeMap.getElem?_ofList_of_mem (k := k) (by simp)
        m.distinct_keys_toList ?_
      exact Std.ExtTreeMap.mem_toList_iff_getElem?_eq_some.mpr h

/-- Later entries win: a document that lists `l` first and then the entries
of `m` reads as `m` where `m` is defined and as `l` elsewhere. -/
theorem get_ofList_append_toList (l : List (String × β)) (m : BTreeMap β)
    (k : String) :
    (Std.ExtTreeMap.ofList (l ++ m.toList) : BTreeMap β)[k]? =
      (m[k]?).or (Std.ExtTreeMap.ofList l : BTreeMap β)[k]? := by
  have hsplit : (Std.ExtTreeMap.ofList (l ++ m.toList) : BTreeMap β) =
      (Std.ExtTreeMap.ofList l : BTreeMap β).insertMany m.toList := by
    simp only [Std.ExtTreeMap.ofList_eq_insertMany_empty,
      Std.ExtTreeMap.insertMany_append]
  rw [hsplit]
  cases h : m[k]? with
  | none =>
      rw [Option.none_or]
      refine Std.ExtTreeMap.getElem?_insertMany_list_of_contains_eq_false ?_
      exact not_mem_keys h
  | some v =>
      rw [Option.some_or]
      refine Std.ExtTreeMap.getElem?_insertMany_list_of_mem (k := k) (by simp)
        m.distinct_keys_toList ?_
      exact Std.ExtTreeMap.mem_toList_iff_getElem?_eq_some.mpr h

/-- The map without the given keys. -/
def without (m : BTreeMap β) (keys : List String) : BTreeMap β :=
  keys.foldl (fun m k => m.erase k) m

theorem get_without (keys : List String) : ∀ (m : BTreeMap β) (k : String),
    (without m keys)[k]? = if k ∈ keys then none else m[k]? := by
  induction keys with
  | nil => intro m k; simp [without]
  | cons j keys ih =>
      intro m k
      have hstep : without m (j :: keys) = without (m.erase j) keys := rfl
      rw [hstep, ih, get_erase]
      by_cases hj : k = j
      · simp [hj]
      · simp [hj]

/-- Removing keys that are absent changes nothing. -/
theorem without_eq_self {m : BTreeMap β} {keys : List String}
    (h : ∀ k ∈ keys, m[k]? = none) : without m keys = m := by
  refine ext fun k => ?_
  rw [get_without]
  by_cases hk : k ∈ keys
  · simp [hk, h k hk]
  · simp [hk]

/-! ### Entries with distinct keys -/

theorem nodup_toList (m : BTreeMap β) : m.toList.Nodup :=
  m.distinct_keys_toList.imp fun hne heq => hne (by simp [heq])

/-- A new entry joins the others. -/
theorem toList_insert_perm {m : BTreeMap β} {k : String} (h : k ∉ m) (v : β) :
    (m.insert k v).toList.Perm ((k, v) :: m.toList) := by
  have hnone : m[k]? = none := Std.ExtTreeMap.getElem?_eq_none h
  have hfresh : (k, v) ∉ m.toList := by
    rw [Std.ExtTreeMap.mem_toList_iff_getElem?_eq_some, hnone]
    exact Option.some_ne_none _ ∘ Eq.symm
  refine (List.perm_ext_iff_of_nodup (nodup_toList _)
    (List.nodup_cons.mpr ⟨hfresh, nodup_toList m⟩)).mpr ?_
  rintro ⟨j, w⟩
  rw [List.mem_cons, Std.ExtTreeMap.mem_toList_iff_getElem?_eq_some,
    Std.ExtTreeMap.mem_toList_iff_getElem?_eq_some, get_insert, Prod.mk.injEq]
  by_cases hj : j = k
  · subst hj
    simp [hnone, eq_comm]
  · simp [hj]

section Distinct

variable {fields : List (String × β)}

private theorem pairwise_compare (h : (fields.map Prod.fst).Nodup) :
    fields.Pairwise fun a b => ¬compare a.1 b.1 = .eq :=
  (List.pairwise_map.mp h).imp fun hne heq => hne (by simpa using heq)

theorem size_ofList (h : (fields.map Prod.fst).Nodup) :
    (Std.ExtTreeMap.ofList fields : BTreeMap β).size = fields.length :=
  Std.ExtTreeMap.size_ofList (pairwise_compare h)

theorem mem_ofList {k : String} :
    k ∈ (Std.ExtTreeMap.ofList fields : BTreeMap β) ↔ k ∈ fields.map Prod.fst := by
  rw [Std.ExtTreeMap.mem_ofList, List.contains_iff_mem]

/-- Entries with distinct keys are all read back. -/
theorem get_ofList (h : (fields.map Prod.fst).Nodup) {k : String} {v : β} :
    (Std.ExtTreeMap.ofList fields : BTreeMap β)[k]? = some v ↔ (k, v) ∈ fields := by
  have hread : ∀ p ∈ fields, (Std.ExtTreeMap.ofList fields : BTreeMap β)[p.1]? = some p.2 :=
    fun p hp => Std.ExtTreeMap.getElem?_ofList_of_mem (k := p.1) (by simp)
      (pairwise_compare h) hp
  constructor
  · intro hget
    have hmem : k ∈ (Std.ExtTreeMap.ofList fields : BTreeMap β) :=
      Std.ExtTreeMap.mem_iff_isSome_getElem?.mpr (by rw [hget]; rfl)
    obtain ⟨p, hp, rfl⟩ := List.mem_map.mp (mem_ofList.mp hmem)
    rw [hread p hp, Option.some.injEq] at hget
    exact hget ▸ hp
  · intro hmem
    exact hread (k, v) hmem

end Distinct

end BTreeMap

end FrametimeCfg.Lib.OrderedMap
