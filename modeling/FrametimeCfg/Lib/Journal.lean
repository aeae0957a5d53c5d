import Mathlib.Data.List.Basic
import Mathlib.Tactic.Common

/-!
# Procedures that write a store

A procedure that keeps a store on disk reads it, decides, and makes a few
writes, each of them atomic.  `Procedure δ ω ε α` is such a procedure: from a
store it yields its end, a value or an error, and the writes it made on the
way, oldest first.  The store it leaves is the store it found with these
writes applied (`after`), so nothing but a write changes the store.

A process that stops early leaves the store that a prefix of its writes
produces (`crash`).  A statement about every crash point of a procedure is a
statement about every prefix of its writes.

Nothing here mentions a particular store.
-/

namespace FrametimeCfg.Lib.Journal

/-- A store and its atomic writes. -/
class Store (δ : Type) (ω : outParam Type) where
  apply : δ → ω → δ

/-- From a store, the end of the procedure and the writes it made. -/
def Procedure (δ ω ε α : Type) : Type := δ → Except ε α × List ω

variable {δ ω ε ε' α β : Type}

section Stores

variable [Store δ ω]

/-- The store after a list of writes. -/
def after (d : δ) (ws : List ω) : δ := ws.foldl Store.apply d

/-- The store that a process leaves which stops after `k` of its writes. -/
def crash (d : δ) (ws : List ω) (k : Nat) : δ := after d (ws.take k)

@[simp] theorem after_nil (d : δ) : after d ([] : List ω) = d := rfl

@[simp] theorem after_cons (d : δ) (w : ω) (ws : List ω) :
    after d (w :: ws) = after (Store.apply d w) ws := rfl

theorem after_append (d : δ) (ws ws' : List ω) :
    after d (ws ++ ws') = after (after d ws) ws' := List.foldl_append

/-! ### Crash points -/

@[simp] theorem crash_zero (d : δ) (ws : List ω) : crash d ws 0 = d := rfl

@[simp] theorem crash_nil (d : δ) (k : Nat) : crash d ([] : List ω) k = d := by
  rw [crash, List.take_nil, after_nil]

@[simp] theorem crash_cons_succ (d : δ) (w : ω) (ws : List ω) (k : Nat) :
    crash d (w :: ws) (k + 1) = crash (Store.apply d w) ws k := rfl

/-- A crash in the first part of two parts. -/
theorem crash_append_le (d : δ) {ws : List ω} (ws' : List ω) {k : Nat}
    (h : k ≤ ws.length) : crash d (ws ++ ws') k = crash d ws k := by
  rw [crash, List.take_append_of_le_length h, crash]

/-- A crash in the second part of two parts. -/
theorem crash_append_add (d : δ) (ws ws' : List ω) (k : Nat) :
    crash d (ws ++ ws') (ws.length + k) = crash (after d ws) ws' k := by
  rw [crash, List.take_length_add_append, after_append, crash]

end Stores

/-! ## Constructs -/

/-- Return a value and write nothing. -/
def Procedure.ret (a : α) : Procedure δ ω ε α := fun _ => (.ok a, [])

/-- Run `m`, then `k` on its value over the store that `m` left. -/
def Procedure.andThen [Store δ ω] (m : Procedure δ ω ε α)
    (k : α → Procedure δ ω ε β) : Procedure δ ω ε β := fun d =>
  match m d with
  | (.ok a, ws) => ((k a (after d ws)).1, ws ++ (k a (after d ws)).2)
  | (.error e, ws) => (.error e, ws)

instance [Store δ ω] : Monad (Procedure δ ω ε) where
  pure := Procedure.ret
  bind := Procedure.andThen

/-- Read the store. -/
def read (f : δ → α) : Procedure δ ω ε α := fun d => (.ok (f d), [])

/-- Make one write. -/
def write (w : ω) : Procedure δ ω ε Unit := fun _ => (.ok (), [w])

/-- Turn a computed outcome into a procedure. -/
def check (r : Except ε α) : Procedure δ ω ε α := fun _ => (r, [])

/-- Run `m` where the condition holds. -/
def onlyIf [Store δ ω] (c : Bool) (m : Procedure δ ω ε Unit) : Procedure δ ω ε Unit :=
  if c then m else pure ()

/-- Run `m` and hand its outcome back as a value. -/
def attempt (m : Procedure δ ω ε α) : Procedure δ ω ε' (Except ε α) := fun d =>
  (.ok (m d).1, (m d).2)

/-- Relabel the error of `m`. -/
def relabel (f : ε → ε') (m : Procedure δ ω ε α) : Procedure δ ω ε' α := fun d =>
  ((m d).1.mapError f, (m d).2)

/-! ## Running a sequence -/

theorem read_bind_apply [Store δ ω] (f : δ → α) (k : α → Procedure δ ω ε β) (d : δ) :
    (read f >>= k) d = k (f d) d := rfl

theorem check_bind_apply [Store δ ω] (r : Except ε α) (k : α → Procedure δ ω ε β)
    (d : δ) :
    (check r >>= k) d = match r with
      | .ok a => k a d
      | .error e => (.error e, []) := by
  cases r <;> rfl

/-! ## What a procedure does -/

/-- From the store `d`, the procedure returns `a` after the writes `ws`. -/
def Returns (m : Procedure δ ω ε α) (d : δ) (ws : List ω) (a : α) : Prop :=
  m d = (.ok a, ws)

/-- The writes of a procedure. -/
def writesOf (m : Procedure δ ω ε α) (d : δ) : List ω := (m d).2

/-- The end of a procedure. -/
def outcomeOf (m : Procedure δ ω ε α) (d : δ) : Except ε α := (m d).1

section

variable {d : δ} {ws : List ω} {a : α}

theorem Returns.writesOf_eq {m : Procedure δ ω ε α} (h : Returns m d ws a) :
    writesOf m d = ws := by
  rw [writesOf, h]

theorem Returns.outcomeOf_eq {m : Procedure δ ω ε α} (h : Returns m d ws a) :
    outcomeOf m d = .ok a := by
  rw [outcomeOf, h]

/-- A procedure that returned made its writes. -/
theorem returns_of_outcome {m : Procedure δ ω ε α} (h : outcomeOf m d = .ok a) :
    Returns m d (writesOf m d) a :=
  Prod.ext h rfl

theorem Returns.unique {m : Procedure δ ω ε α} {ws' : List ω} {a' : α}
    (h : Returns m d ws a) (h' : Returns m d ws' a') : ws = ws' ∧ a = a' := by
  have heq := h.symm.trans h'
  simp only [Prod.mk.injEq, Except.ok.injEq] at heq
  exact ⟨heq.2, heq.1⟩

/-- **Sequencing.**  A sequence returns when its parts do, one after the
other. -/
theorem returns_bind [Store δ ω] {m : Procedure δ ω ε α}
    {k : α → Procedure δ ω ε β} {b : β} :
    Returns (m >>= k) d ws b ↔
      ∃ ws₁ a ws₂, Returns m d ws₁ a ∧ Returns (k a) (after d ws₁) ws₂ b ∧
        ws = ws₁ ++ ws₂ := by
  have hbind : (m >>= k) d = Procedure.andThen m k d := rfl
  unfold Returns
  rw [hbind, Procedure.andThen]
  rcases hm : m d with ⟨r, ws₁⟩
  cases r with
  | error e => simp
  | ok a =>
      constructor
      · intro h
        simp only [Prod.mk.injEq] at h
        exact ⟨ws₁, a, _, rfl, Prod.ext h.1 rfl, h.2.symm⟩
      · rintro ⟨ws₁', a', ws₂, heq, hk, rfl⟩
        simp only [Prod.mk.injEq, Except.ok.injEq] at heq
        obtain ⟨rfl, rfl⟩ := heq
        simp only [hk]

@[simp] theorem returns_pure [Store δ ω] {a' : α} :
    Returns (pure a' : Procedure δ ω ε α) d ws a ↔ a = a' ∧ ws = [] := by
  show ((.ok a', []) : Except ε α × List ω) = (.ok a, ws) ↔ _
  simp only [Prod.mk.injEq, Except.ok.injEq]
  exact ⟨fun h => ⟨h.1.symm, h.2.symm⟩, fun h => ⟨h.1.symm, h.2.symm⟩⟩

@[simp] theorem returns_read {f : δ → α} :
    Returns (read f : Procedure δ ω ε α) d ws a ↔ a = f d ∧ ws = [] := by
  simp only [Returns, read, Prod.mk.injEq, Except.ok.injEq]
  exact ⟨fun h => ⟨h.1.symm, h.2.symm⟩, fun h => ⟨h.1.symm, h.2.symm⟩⟩

@[simp] theorem returns_write {w : ω} {u : Unit} :
    Returns (write w : Procedure δ ω ε Unit) d ws u ↔ ws = [w] := by
  simp only [Returns, write, Prod.mk.injEq, true_and]
  exact ⟨Eq.symm, Eq.symm⟩

@[simp] theorem returns_check {r : Except ε α} :
    Returns (check r : Procedure δ ω ε α) d ws a ↔ r = .ok a ∧ ws = [] := by
  simp only [Returns, check, Prod.mk.injEq]
  exact ⟨fun h => ⟨h.1, h.2.symm⟩, fun h => ⟨h.1, h.2.symm⟩⟩

/-- A sequence that starts with a check. -/
theorem returns_check_bind [Store δ ω] {r : Except ε α}
    {k : α → Procedure δ ω ε β} {b : β} :
    Returns (check r >>= k) d ws b ↔ ∃ a, r = .ok a ∧ Returns (k a) d ws b := by
  rw [returns_bind]
  constructor
  · rintro ⟨ws₁, a, ws₂, h, hk, rfl⟩
    obtain ⟨hr, rfl⟩ := returns_check.mp h
    exact ⟨a, hr, hk⟩
  · rintro ⟨a, hr, hk⟩
    exact ⟨[], a, ws, returns_check.mpr ⟨hr, rfl⟩, hk, rfl⟩

/-- A sequence that starts with a look at the store. -/
theorem returns_read_bind [Store δ ω] {f : δ → α} {k : α → Procedure δ ω ε β}
    {b : β} : Returns (read f >>= k) d ws b ↔ Returns (k (f d)) d ws b := by
  rw [returns_bind]
  constructor
  · rintro ⟨ws₁, a, ws₂, h, hk, rfl⟩
    obtain ⟨rfl, rfl⟩ := returns_read.mp h
    exact hk
  · intro hk
    exact ⟨[], f d, ws, returns_read.mpr ⟨rfl, rfl⟩, hk, rfl⟩

/-- A sequence that starts with a write. -/
theorem returns_write_bind [Store δ ω] {w : ω} {k : Unit → Procedure δ ω ε β}
    {b : β} :
    Returns (write w >>= k) d ws b ↔
      ∃ ws', Returns (k ()) (Store.apply d w) ws' b ∧ ws = w :: ws' := by
  rw [returns_bind]
  constructor
  · rintro ⟨ws₁, a, ws₂, h, hk, rfl⟩
    obtain rfl := returns_write.mp h
    exact ⟨ws₂, hk, rfl⟩
  · rintro ⟨ws', hk, rfl⟩
    exact ⟨[w], (), ws', returns_write.mpr rfl, hk, rfl⟩

/-- A part that runs under a condition. -/
theorem returns_onlyIf [Store δ ω] {c : Bool} {m : Procedure δ ω ε Unit} {u : Unit} :
    Returns (onlyIf c m) d ws u ↔
      (c = true ∧ Returns m d ws u) ∨ (c = false ∧ ws = []) := by
  cases c with
  | true => simp [onlyIf]
  | false => simp [onlyIf, returns_pure]

/-- Catching an error: what was written stays written. -/
theorem returns_attempt {m : Procedure δ ω ε α} {r : Except ε α} :
    Returns (attempt m : Procedure δ ω ε' (Except ε α)) d ws r ↔
      outcomeOf m d = r ∧ writesOf m d = ws := by
  simp only [Returns, attempt, Prod.mk.injEq, Except.ok.injEq, outcomeOf, writesOf]

/-- Relabelling an error changes no return. -/
theorem returns_relabel {m : Procedure δ ω ε α} {f : ε → ε'} :
    Returns (relabel f m) d ws a ↔ Returns m d ws a := by
  unfold Returns relabel
  rcases m d with ⟨_ | _, _⟩ <;> simp [Except.mapError]

end

/-! ## Procedures that check first

A procedure whose checks all come before its first write leaves the store
alone or makes all of its writes. -/

/-- The procedure stops before its first write, or it returns. -/
def ChecksFirst (m : Procedure δ ω ε α) (d : δ) : Prop :=
  writesOf m d = [] ∨ ∃ ws a, Returns m d ws a

section

variable {d : δ}

theorem ChecksFirst.of_returns {m : Procedure δ ω ε α} {ws : List ω} {a : α}
    (h : Returns m d ws a) : ChecksFirst m d :=
  Or.inr ⟨ws, a, h⟩

theorem checksFirst_check (r : Except ε α) :
    ChecksFirst (check r : Procedure δ ω ε α) d :=
  Or.inl rfl

/-- **Sequencing.**  The rest may check as well as long as nothing was
written; after a write it has to return. -/
theorem checksFirst_bind [Store δ ω] {m : Procedure δ ω ε α}
    {k : α → Procedure δ ω ε β} (hm : ChecksFirst m d)
    (hk : ∀ ws a, Returns m d ws a →
      (ws = [] ∧ ChecksFirst (k a) d) ∨ ∃ ws' b, Returns (k a) (after d ws) ws' b) :
    ChecksFirst (m >>= k) d := by
  rcases hr : m d with ⟨r, ws⟩
  cases r with
  | error e =>
      -- An error ends the sequence with the writes of its first part.
      have hstop : writesOf (m >>= k) d = ws := by
        show (Procedure.andThen m k d).2 = ws
        rw [Procedure.andThen, hr]
      rcases hm with hnone | ⟨ws', a, hreturns⟩
      · have hws : ws = [] := by rw [← hnone, writesOf, hr]
        exact Or.inl (hstop.trans hws)
      · rw [Returns, hr] at hreturns
        cases hreturns
  | ok a =>
      rcases hk ws a hr with ⟨rfl, hrest⟩ | ⟨ws', b, hrest⟩
      · rcases hrest with hnone | ⟨ws', b, hrest⟩
        · have hwrites : writesOf (m >>= k) d = [] ++ writesOf (k a) (after d []) := by
            show (Procedure.andThen m k d).2 = _
            rw [Procedure.andThen, hr]
            rfl
          rw [after_nil, hnone] at hwrites
          exact Or.inl hwrites
        · exact Or.inr ⟨_, b, returns_bind.mpr ⟨[], a, ws', hr, hrest, rfl⟩⟩
      · exact Or.inr ⟨_, b, returns_bind.mpr ⟨ws, a, ws', hr, hrest, rfl⟩⟩

theorem checksFirst_check_bind [Store δ ω] {r : Except ε α}
    {k : α → Procedure δ ω ε β} (h : ∀ a, r = .ok a → ChecksFirst (k a) d) :
    ChecksFirst (check r >>= k) d := by
  refine checksFirst_bind (checksFirst_check r) ?_
  intro ws a hreturns
  obtain ⟨hr, hws⟩ := returns_check.mp hreturns
  exact Or.inl ⟨hws, h a hr⟩

theorem checksFirst_read_bind [Store δ ω] {f : δ → α} {k : α → Procedure δ ω ε β}
    (h : ChecksFirst (k (f d)) d) : ChecksFirst (read f >>= k) d := by
  refine checksFirst_bind (Or.inl rfl) ?_
  intro ws a hreturns
  obtain ⟨rfl, hws⟩ := returns_read.mp hreturns
  exact Or.inl ⟨hws, h⟩

/-- **Where it can stop.**  Wherever a procedure that checks first is stopped,
it has left the store alone, or it was on its way to return. -/
theorem ChecksFirst.crash_cases [Store δ ω] {m : Procedure δ ω ε α}
    (h : ChecksFirst m d) (k : Nat) :
    crash d (writesOf m d) k = d ∨
      ∃ ws a, Returns m d ws a ∧ crash d (writesOf m d) k = crash d ws k := by
  rcases h with hnone | ⟨ws, a, hreturns⟩
  · rw [hnone, crash_nil]
    exact Or.inl rfl
  · exact Or.inr ⟨ws, a, hreturns, by rw [hreturns.writesOf_eq]⟩

end

end FrametimeCfg.Lib.Journal
