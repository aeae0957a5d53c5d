import FrametimeCfg.Lib.Effect

/-!
# Programs with fuel

A recursion that need not be structural is given fuel, and raises an error of its own when
the fuel is used up.  A run that ended in any other way ends so with more fuel too.
-/

namespace FrametimeCfg.Lib.Fuel

open FrametimeCfg.Lib.Effect

variable {σ ε α β : Type} {e : ε}

/-- Every run of `m` that does not end with `e` is one of `m'`. -/
def Extends (e : ε) (m m' : Prog σ ε α) : Prop :=
  ∀ s r t, m s = (r, t) → r ≠ .error e → m' s = (r, t)

namespace Extends

theorem refl (m : Prog σ ε α) : Extends e m m := fun _ _ _ h _ => h

theorem trans {m m' m'' : Prog σ ε α} (h : Extends e m m') (h' : Extends e m' m'') :
    Extends e m m'' :=
  fun s r t hrun hne => h' s r t (h s r t hrun hne) hne

theorem raise (m : Prog σ ε α) : Extends e (raise e) m := by
  intro s r t hrun hne
  obtain ⟨rfl, -⟩ := Prod.mk.inj hrun
  exact absurd rfl hne

theorem bind {m m' : Prog σ ε α} {k k' : α → Prog σ ε β} (h : Extends e m m')
    (hk : ∀ a, Extends e (k a) (k' a)) : Extends e (m >>= k) (m' >>= k') := by
  intro s r t hrun hne
  rcases bind_cases hrun with ⟨e', hm, rfl⟩ | ⟨a, s', hm, hrest⟩
  · have hne' : (Except.error e' : Except ε α) ≠ .error e := by
      intro heq
      exact hne (by rw [Except.error.inj heq])
    exact bind_apply_error (h s _ t hm hne')
  · rw [bind_apply_ok (h s _ s' hm (by simp))]
    exact hk a s' r t hrest hne

theorem forEach {body body' : α → Prog σ ε Unit} (h : ∀ x, Extends e (body x) (body' x))
    (xs : List α) : Extends e (forEach body xs) (forEach body' xs) := by
  induction xs with
  | nil => exact refl _
  | cons x xs ih => exact bind (h x) fun _ => ih

/-- From one unit of fuel more to any amount more. -/
theorem of_le {run : Nat → Prog σ ε α} (h : ∀ n, Extends e (run n) (run (n + 1)))
    {n m : Nat} (hle : n ≤ m) : Extends e (run n) (run m) := by
  induction hle with
  | refl => exact refl _
  | step _ ih => exact ih.trans (h _)

end Extends

end FrametimeCfg.Lib.Fuel
