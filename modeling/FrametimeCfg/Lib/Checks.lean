import Mathlib.Tactic.Common

/-!
# Validation in the `Except` monad

A validator is a sequence of checks, each of which may stop it with an error.
The lemmas here read such a sequence from its outcome: a sequence that
returned passed every check, and each check that is passed drops out of a
sequence that is being evaluated.
-/

namespace FrametimeCfg.Lib.Checks

variable {ε ε' α β : Type}

/-- Stop with `e` where the condition holds. -/
def reject (c : Bool) (e : ε) : Except ε Unit := if c then .error e else .ok ()

/-- `Option::ok_or`. -/
def okOr (o : Option α) (e : ε) : Except ε α :=
  match o with
  | some a => .ok a
  | none => .error e

/-- The element of a list that has exactly one. -/
def sole : List α → Option α
  | [x] => some x
  | _ => none

theorem sole_eq_some {l : List α} {x : α} : sole l = some x ↔ l = [x] := by
  match l with
  | [] => simp [sole]
  | [y] => simp [sole]
  | y :: z :: l => simp [sole]

@[simp] theorem reject_true (e : ε) : reject true e = .error e := rfl

@[simp] theorem reject_false (e : ε) : reject false e = .ok () := rfl

@[simp] theorem okOr_some (a : α) (e : ε) : okOr (some a) e = .ok a := rfl

@[simp] theorem okOr_none (e : ε) : okOr (none : Option α) e = .error e := rfl

@[simp] theorem bind_ok (a : α) (k : α → Except ε β) :
    ((Except.ok a : Except ε α) >>= k) = k a := rfl

@[simp] theorem bind_error (e : ε) (k : α → Except ε β) :
    ((Except.error e : Except ε α) >>= k) = .error e := rfl

/-- A check that was passed. -/
theorem reject_eq_ok {c : Bool} {e : ε} {u : Unit} :
    reject c e = .ok u ↔ c = false := by
  cases c <;> simp

/-- A value that was there. -/
theorem okOr_eq_ok {o : Option α} {e : ε} {a : α} :
    okOr o e = .ok a ↔ o = some a := by
  cases o <;> simp

/-- A sequence that returned: its first part returned, and so did the rest. -/
theorem bind_eq_ok {m : Except ε α} {k : α → Except ε β} {b : β} :
    (m >>= k) = .ok b ↔ ∃ a, m = .ok a ∧ k a = .ok b := by
  cases m with
  | ok a => simp
  | error e => simp

/-- A result that was passed on through a function. -/
theorem map_eq_ok {m : Except ε α} {f : α → β} {b : β} :
    f <$> m = .ok b ↔ ∃ a, m = .ok a ∧ f a = b := by
  cases m with
  | ok a =>
      show Except.ok (f a) = .ok b ↔ _
      simp
  | error e =>
      show Except.error e = .ok b ↔ _
      simp

/-- A sequence that starts with a check. -/
theorem check_bind_eq_ok {m : Except ε Unit} {k : Unit → Except ε β} {b : β} :
    (m >>= k) = .ok b ↔ m = .ok () ∧ k () = .ok b := by
  cases m with
  | ok a => simp
  | error e => simp

/-- A sequence that failed: at its first part, or after it. -/
theorem bind_eq_error {m : Except ε α} {k : α → Except ε β} {e : ε} :
    (m >>= k) = .error e ↔ m = .error e ∨ ∃ a, m = .ok a ∧ k a = .error e := by
  cases m with
  | ok a => simp
  | error e' => simp

theorem reject_eq_error {c : Bool} {e e' : ε} :
    reject c e = .error e' ↔ c = true ∧ e = e' := by
  cases c <;> simp

theorem okOr_eq_error {o : Option α} {e e' : ε} :
    okOr o e = .error e' ↔ o = none ∧ e = e' := by
  cases o <;> simp

/-- Items that were read back one by one are the items that were written. -/
theorem mapM_map_eq_ok {f : α → β} {g : β → Except ε α} {l : List α} :
    (l.map f).mapM g = .ok l ↔ ∀ x ∈ l, g (f x) = .ok x := by
  induction l with
  | nil => simp [pure, Except.pure]
  | cons x l ih =>
      rw [List.map_cons, List.mapM_cons, bind_eq_ok, List.forall_mem_cons, ← ih]
      constructor
      · rintro ⟨a, hx, h⟩
        obtain ⟨as, hl, h⟩ := bind_eq_ok.mp h
        obtain ⟨rfl, rfl⟩ := List.cons.inj (Except.ok.inj h)
        exact ⟨hx, hl⟩
      · rintro ⟨hx, hl⟩
        exact ⟨x, hx, by rw [hl]; rfl⟩

/-- A loop of checks that was passed. -/
theorem forM_eq_ok {f : α → Except ε Unit} {l : List α} :
    l.forM f = .ok () ↔ ∀ x ∈ l, f x = .ok () := by
  induction l with
  | nil => simp [pure, Except.pure]
  | cons x l ih =>
      show (f x >>= fun _ => l.forM f) = .ok () ↔ _
      rw [check_bind_eq_ok, ih, List.forall_mem_cons]

/-! Errors that a validator never returns. -/

theorem bind_ne_error {m : Except ε α} {k : α → Except ε β} {e : ε}
    (hm : m ≠ .error e) (hk : ∀ a, k a ≠ .error e) : (m >>= k) ≠ .error e := by
  cases m with
  | ok a => exact hk a
  | error e' => exact fun h => hm (by simpa using h)

theorem reject_ne_error {c : Bool} {e e' : ε} (h : e ≠ e') :
    reject c e ≠ .error e' := by
  cases c with
  | true => simpa using h
  | false => simp

theorem okOr_ne_error {o : Option α} {e e' : ε} (h : e ≠ e') :
    okOr o e ≠ .error e' := by
  cases o with
  | none => simpa using h
  | some a => simp

theorem mapError_ne_error {m : Except ε α} {f : ε → ε'} {e' : ε'}
    (h : ∀ e, f e ≠ e') : m.mapError f ≠ .error e' := by
  cases m with
  | ok a => simp [Except.mapError]
  | error e => simpa [Except.mapError] using h e

/-- A relabelled error leaves a normal return alone. -/
theorem mapError_eq_ok {m : Except ε α} {f : ε → ε'} {a : α} :
    m.mapError f = .ok a ↔ m = .ok a := by
  cases m with
  | ok a => simp [Except.mapError]
  | error e => simp [Except.mapError]

end FrametimeCfg.Lib.Checks
