import FrametimeCfg.Lib.Effect

/-!
# Programs beside a record of their calls

A program that calls others can be run beside a record: each call of interest is
appended to it together with its answer, and everything else leaves it alone.  The
program does not see the record, so the run is the one without it (`Mirrors`), and what
the record says at the end is what was called, in order.
-/

namespace FrametimeCfg.Lib.Recorded

open FrametimeCfg.Lib.Effect

variable {σ ε ε' α β ι : Type}

/-- A program that is not recorded. -/
def beside (m : Prog σ ε α) : Prog (σ × List ι) ε α := fun (s, log) =>
  ((m s).1, (m s).2, log)

/-- A call that is recorded with its answer. -/
def recorded (event : Except ε α → ι) (m : Prog σ ε α) : Prog (σ × List ι) ε α :=
  fun (s, log) => ((m s).1, (m s).2, log ++ [event (m s).1])

section

variable {s t : σ} {log log' : List ι} {r : Except ε α} {m : Prog σ ε α}

theorem beside_eq : beside m (s, log) = (r, (t, log')) ↔ m s = (r, t) ∧ log' = log := by
  show ((m s).1, (m s).2, log) = (r, t, log') ↔ ((m s).1, (m s).2) = (r, t) ∧ log' = log
  simp only [Prod.mk.injEq, and_assoc]
  exact and_congr_right fun _ => and_congr_right fun _ => eq_comm

theorem recorded_eq {event : Except ε α → ι} :
    recorded event m (s, log) = (r, (t, log')) ↔ m s = (r, t) ∧ log' = log ++ [event r] := by
  show ((m s).1, (m s).2, log ++ [event (m s).1]) = (r, t, log') ↔
    ((m s).1, (m s).2) = (r, t) ∧ log' = log ++ [event r]
  simp only [Prod.mk.injEq, and_assoc]
  refine and_congr_right fun hr => and_congr_right fun _ => ?_
  rw [hr]
  exact eq_comm

/-- A loop whose every turn is recorded under the name of its element. -/
theorem mapEach_recorded {γ : Type} {event : γ → ι} {f : γ → Prog σ ε β} {xs : List γ}
    {ys : List β}
    (h : mapEach (fun x => recorded (fun _ => event x) (f x)) xs (s, log) =
      (.ok ys, (t, log'))) :
    log' = log ++ xs.map event := by
  induction xs generalizing s log ys with
  | nil =>
      obtain ⟨-, hlog⟩ := Prod.mk.inj (Prod.mk.inj h).2
      rw [List.map_nil, List.append_nil, hlog]
  | cons x xs ih =>
      obtain ⟨y, ⟨s₁, log₁⟩, hx, hrest⟩ := bind_eq_ok h
      obtain ⟨-, hlog₁⟩ := recorded_eq.mp hx
      obtain ⟨zs, ⟨s₂, log₂⟩, hxs, hret⟩ := bind_eq_ok hrest
      obtain ⟨-, hend⟩ := Prod.mk.inj hret
      obtain ⟨rfl, rfl⟩ := Prod.mk.inj hend
      rw [ih hxs, hlog₁, List.map_cons, List.append_assoc]
      rfl

end

/-! ## The run without the record -/

/-- Whatever the record holds, the run is that of `m`. -/
def Mirrors (m' : Prog (σ × List ι) ε α) (m : Prog σ ε α) : Prop :=
  ∀ s log, (m' (s, log)).1 = (m s).1 ∧ (m' (s, log)).2.1 = (m s).2

theorem Mirrors.beside (m : Prog σ ε α) : Mirrors (ι := ι) (beside m) m :=
  fun _ _ => ⟨rfl, rfl⟩

theorem Mirrors.recorded (event : Except ε α → ι) (m : Prog σ ε α) :
    Mirrors (recorded event m) m := fun _ _ => ⟨rfl, rfl⟩

theorem Mirrors.ofExcept (r : Except ε α) :
    Mirrors (ofExcept r : Prog (σ × List ι) ε α) (ofExcept r) := fun _ _ => ⟨rfl, rfl⟩

theorem Mirrors.pure (a : α) : Mirrors (pure a : Prog (σ × List ι) ε α) (pure a) :=
  fun _ _ => ⟨rfl, rfl⟩

theorem Mirrors.raise (e : ε) : Mirrors (raise e : Prog (σ × List ι) ε α) (raise e) :=
  fun _ _ => ⟨rfl, rfl⟩

theorem Mirrors.attempt {m' : Prog (σ × List ι) ε α} {m : Prog σ ε α} (h : Mirrors m' m) :
    Mirrors (attempt m' : Prog (σ × List ι) ε' (Except ε α)) (attempt m) := by
  intro s log
  exact ⟨congrArg Except.ok (h s log).1, (h s log).2⟩

theorem Mirrors.bind {m' : Prog (σ × List ι) ε α} {m : Prog σ ε α}
    {k' : α → Prog (σ × List ι) ε β} {k : α → Prog σ ε β} (hm : Mirrors m' m)
    (hk : ∀ a, Mirrors (k' a) (k a)) : Mirrors (m' >>= k') (m >>= k) := by
  intro s log
  have hfirst := hm s log
  rw [bind_apply, bind_apply]
  rcases hrun : m s with ⟨r, t⟩
  rcases hrun' : m' (s, log) with ⟨r', t', log'⟩
  rw [hrun, hrun'] at hfirst
  obtain ⟨rfl, rfl⟩ := hfirst
  cases r' with
  | ok a => exact hk a t' log'
  | error e => exact ⟨rfl, rfl⟩

theorem Mirrors.relabel (f : ε → ε') {m' : Prog (σ × List ι) ε α} {m : Prog σ ε α}
    (hm : Mirrors m' m) : Mirrors (relabel f m') (relabel f m) := by
  intro s log
  have hrun := hm s log
  rw [Effect.relabel, Effect.relabel]
  rcases hm' : m' (s, log) with ⟨r', t', log'⟩
  rcases hm : m s with ⟨r, t⟩
  rw [hm', hm] at hrun
  obtain ⟨rfl, rfl⟩ := hrun
  cases r' with
  | ok a => exact ⟨rfl, rfl⟩
  | error e => exact ⟨rfl, rfl⟩

theorem Mirrors.mapEach {γ : Type} {f' : γ → Prog (σ × List ι) ε β} {f : γ → Prog σ ε β}
    (h : ∀ x, Mirrors (f' x) (f x)) (xs : List γ) :
    Mirrors (mapEach f' xs) (mapEach f xs) := by
  induction xs with
  | nil => exact Mirrors.pure []
  | cons x xs ih => exact (h x).bind fun y => ih.bind fun ys => Mirrors.pure (y :: ys)

/-- The calls that a program records. -/
def calls (m : Prog (σ × List ι) ε α) (s : σ) : List ι := (m (s, [])).2.2

/-- A recorded run has the result of the program without the record. -/
theorem Mirrors.run {m' : Prog (σ × List ι) ε α} {m : Prog σ ε α} (h : Mirrors m' m) (s : σ) :
    m' (s, []) = ((m s).1, ((m s).2, calls m' s)) := by
  have hrun := h s []
  rw [← hrun.1, ← hrun.2]
  rfl

end FrametimeCfg.Lib.Recorded
