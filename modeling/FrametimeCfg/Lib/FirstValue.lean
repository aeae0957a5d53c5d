import FrametimeCfg.Lib.Runs
import Mathlib.Logic.Function.Basic

/-!
# Journals of first values

A host is a map from cells to values.  Before an operation changes cells it
captures them: each record holds a cell and the value that was in it.  A
journal keeps a record unless it already has one of the same key, and undoing
the journal writes the records back, the newest first, so that the oldest record
of a cell decides.

Storing a record of the present value never matters to the undoing.  Changing a
cell does not either, once the journal has a record of it.  A record is stored,
or a record of its key is there already: where equal keys mean equal cells, every
captured cell is covered, and undoing gives the values of the start.

Nothing here mentions a particular host or key.
-/

namespace FrametimeCfg.Lib.FirstValue

variable {α κ ι ν : Type}

/-- How records are read: the key, and the cell with its value. -/
structure Reading (α κ ι ν : Type) where
  key : α → Option κ
  captured : α → Option (ι × ν)

/-- The cell of a record. -/
def Reading.cell (R : Reading α κ ι ν) (a : α) : Option ι := (R.captured a).map Prod.fst

section

variable (R : Reading α κ ι ν) [DecidableEq ι]

/-- Write one record back. -/
def put (a : α) (host : ι → ν) : ι → ν :=
  match R.captured a with
  | some (i, v) => Function.update host i v
  | none => host

/-- Write the records back, the last of the list first. -/
def undo (records : List α) (host : ι → ν) : ι → ν := records.foldr (put R) host

variable {R} {a : α} {records as : List α} {host host' : ι → ν} {i : ι} {v : ν}

theorem put_of_ne (h : R.cell a ≠ some i) : put R a host i = host i := by
  unfold put
  cases hc : R.captured a with
  | none => rfl
  | some p =>
      have hne : i ≠ p.1 := by
        intro heq
        rw [Reading.cell, hc, heq] at h
        exact h rfl
      exact Function.update_of_ne hne p.2 host

theorem put_of_eq (h : R.cell a = some i) : put R a host i = put R a host' i := by
  unfold put
  cases hc : R.captured a with
  | none =>
      rw [Reading.cell, hc] at h
      cases h
  | some p =>
      rw [Reading.cell, hc] at h
      obtain rfl := Option.some.inj h
      simp

/-- A record of the present value changes nothing. -/
theorem put_self (h : R.captured a = some (i, host i)) : put R a host = host := by
  unfold put
  rw [h]
  exact Function.update_eq_self i host

theorem undo_cons : undo R (a :: records) host = put R a (undo R records host) := rfl

theorem undo_concat : undo R (records ++ [a]) host = undo R records (put R a host) := by
  rw [undo, List.foldr_append]
  rfl

/-- Undoing does not depend on the cells that the records cover. -/
theorem undo_congr_at (h : (∃ a ∈ records, R.cell a = some i) ∨ host i = host' i) :
    undo R records host i = undo R records host' i := by
  induction records with
  | nil =>
      rcases h with ⟨a, ha, -⟩ | h
      · cases ha
      · exact h
  | cons b rest ih =>
      rw [undo_cons, undo_cons]
      by_cases hb : R.cell b = some i
      · exact put_of_eq hb
      · rw [put_of_ne hb, put_of_ne hb]
        apply ih
        rcases h with ⟨a, ha, hcell⟩ | h
        · rcases List.mem_cons.mp ha with rfl | ha
          · exact absurd hcell hb
          · exact .inl ⟨a, ha, hcell⟩
        · exact .inr h

end

section

variable (R : Reading α κ ι ν) [DecidableEq κ]

/-- Store a record, unless there is one of its key. -/
def store (records : List α) (a : α) : List α :=
  if R.key a = none ∨ ¬ records.any (fun b => R.key b = R.key a) then records ++ [a]
  else records

/-- Store several records. -/
def storeAll (records : List α) (as : List α) : List α := as.foldl (store R) records

variable {R} {a b : α} {records as : List α}

theorem subset_store : records ⊆ store R records a := by
  unfold store
  split
  · exact List.subset_append_left _ _
  · exact List.Subset.refl _

/-- After storing, there is the record or an older one of its key. -/
theorem exists_of_store : a ∈ store R records a ∨ ∃ b ∈ records, R.key b = R.key a := by
  unfold store
  split
  next => exact .inl (List.mem_append_right _ List.mem_cons_self)
  next h =>
    right
    rw [not_or, not_not, List.any_eq_true] at h
    obtain ⟨b, hb, hkey⟩ := h.2
    exact ⟨b, hb, of_decide_eq_true hkey⟩

theorem mem_of_mem_store (h : b ∈ store R records a) : b ∈ records ∨ b = a := by
  unfold store at h
  split at h
  · simpa using h
  · exact .inl h

theorem subset_storeAll : records ⊆ storeAll R records as := by
  induction as generalizing records with
  | nil => exact List.Subset.refl _
  | cons a as ih => exact List.Subset.trans subset_store ih

/-- Records of one key are records of one cell, among the stored ones and those
to be stored. -/
def Apart (R : Reading α κ ι ν) (records as : List α) : Prop :=
  ∀ a ∈ as, ∀ b ∈ records ++ as, R.key b = R.key a → R.cell b = R.cell a

/-- **Every captured cell is covered.** -/
theorem covered_storeAll (h : Apart R records as) :
    ∀ a ∈ as, ∃ b ∈ storeAll R records as, R.cell b = R.cell a := by
  induction as generalizing records with
  | nil => simp
  | cons x as ih =>
      have hx : ∃ b ∈ store R records x, R.cell b = R.cell x := by
        have hstored : x ∈ store R records x ∨ ∃ b ∈ records, R.key b = R.key x :=
          exists_of_store
        rcases hstored with hmem | ⟨b, hb, hkey⟩
        · exact ⟨x, hmem, rfl⟩
        · exact ⟨b, subset_store hb,
            h x List.mem_cons_self b (List.mem_append_left _ hb) hkey⟩
      have hrest : Apart R (store R records x) as := by
        intro a ha b hb hkey
        apply h a (List.mem_cons_of_mem _ ha) b _ hkey
        rcases List.mem_append.mp hb with hb | hb
        · rcases mem_of_mem_store hb with hb | rfl
          · exact List.mem_append_left _ hb
          · exact List.mem_append_right _ List.mem_cons_self
        · exact List.mem_append_right _ (List.mem_cons_of_mem _ hb)
      intro a ha
      rcases List.mem_cons.mp ha with rfl | ha
      · obtain ⟨b, hb, hcell⟩ := hx
        have hkept : b ∈ storeAll R (store R records a) as := subset_storeAll hb
        exact ⟨b, hkept, hcell⟩
      · exact ih hrest a ha

end

/-! ## Operations -/

section

variable {R : Reading α κ ι ν} [DecidableEq κ] [DecidableEq ι] {records as : List α}
  {host host' : ι → ν}

/-- The records hold present values. -/
def Captures (R : Reading α κ ι ν) (host : ι → ν) (as : List α) : Prop :=
  ∀ a ∈ as, ∃ i, R.captured a = some (i, host i)

/-- Only captured cells change. -/
def ChangesOnly (R : Reading α κ ι ν) (as : List α) (host host' : ι → ν) : Prop :=
  ∀ i, (∃ a ∈ as, R.cell a = some i) ∨ host i = host' i

/-- Storing present values does not matter to the undoing. -/
theorem undo_storeAll (h : Captures R host as) :
    undo R (storeAll R records as) host = undo R records host := by
  induction as generalizing records with
  | nil => rfl
  | cons a as ih =>
      obtain ⟨i, ha⟩ := h a List.mem_cons_self
      have hstore : undo R (store R records a) host = undo R records host := by
        unfold store
        split
        · rw [undo_concat, put_self ha]
        · rfl
      rw [← hstore]
      exact ih fun b hb => h b (List.mem_cons_of_mem _ hb)

/-- **One operation.**  Capturing, storing and changing leave what the undoing
gives. -/
theorem undo_step (hcaptures : Captures R host as) (hapart : Apart R records as)
    (hchanges : ChangesOnly R as host host') :
    undo R (storeAll R records as) host' = undo R records host := by
  have hstored : undo R (storeAll R records as) host = undo R records host :=
    undo_storeAll hcaptures
  rw [← hstored]
  funext i
  apply undo_congr_at
  rcases hchanges i with ⟨a, ha, hcell⟩ | hsame
  · obtain ⟨b, hb, hcell'⟩ := covered_storeAll hapart a ha
    exact .inl ⟨b, hb, hcell'.trans hcell⟩
  · exact .inr hsame.symm

end

end FrametimeCfg.Lib.FirstValue
