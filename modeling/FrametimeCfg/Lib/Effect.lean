import Mathlib.Tactic.Common

/-!
# Programs with state and errors

A `Prog σ ε α` reads and changes a state `σ` and then either returns an `α`
or stops with an error `ε`.  The state survives the error: what a program did
before it stopped stays done, which is what a crash or an early return of an
imperative procedure does to the world outside it.

Correctness statements are triples `Triple P m Q E`: from every state that
satisfies `P`, a normal return of `m` satisfies `Q` and an error satisfies
`E`.  The rules below cover the constructs that a procedure with early
returns needs: sequencing, raising, catching an error as a value, relabelling
an error, and folding a body over a list.  Each procedure of a development is
specified once by a triple, and its callers compose the triples without
unfolding the procedure.

Nothing here mentions a particular program.
-/

namespace FrametimeCfg.Lib.Effect

/-- A program over the state `σ` that returns an `α` or raises an `ε`. -/
def Prog (σ ε α : Type) : Type := σ → Except ε α × σ

variable {σ τ ε ε' α β : Type}

/-! ## Constructs -/

/-- Return a value and leave the state alone. -/
def Prog.ret (a : α) : Prog σ ε α := fun s => (.ok a, s)

/-- Run `m`, then `k` on its value; an error of `m` skips `k`. -/
def Prog.andThen (m : Prog σ ε α) (k : α → Prog σ ε β) : Prog σ ε β := fun s =>
  match m s with
  | (.ok a, s') => k a s'
  | (.error e, s') => (.error e, s')

instance : Monad (Prog σ ε) where
  pure := Prog.ret
  bind := Prog.andThen

/-- Stop with an error. -/
def raise (e : ε) : Prog σ ε α := fun s => (.error e, s)

/-- Read a component of the state. -/
def gets (f : σ → α) : Prog σ ε α := fun s => (.ok (f s), s)

/-- Ask the state a question that may have no answer. -/
def consult (f : σ → Except ε α) : Prog σ ε α := fun s => (f s, s)

/-- Change the state. -/
def update (f : σ → σ) : Prog σ ε Unit := fun s => (.ok (), f s)

/-- Run `m` and hand its outcome back as a value. -/
def attempt (m : Prog σ ε α) : Prog σ ε' (Except ε α) := fun s =>
  match m s with
  | (r, s') => (.ok r, s')

/-- Relabel the error of `m`. -/
def relabel (f : ε → ε') (m : Prog σ ε α) : Prog σ ε' α := fun s =>
  match m s with
  | (.ok a, s') => (.ok a, s')
  | (.error e, s') => (.error (f e), s')

/-- Turn a computed outcome into a program. -/
def ofExcept (r : Except ε α) : Prog σ ε α := fun s => (r, s)

/-- Run `body` on each element in order; the first error stops the loop. -/
def forEach (body : α → Prog σ ε Unit) : List α → Prog σ ε Unit
  | [] => pure ()
  | x :: xs => do
      body x
      forEach body xs

/-- Run `f` on each element in order and collect the values. -/
def mapEach (f : α → Prog σ ε β) : List α → Prog σ ε (List β)
  | [] => pure []
  | x :: xs => do
      let y ← f x
      let ys ← mapEach f xs
      return y :: ys

@[simp] theorem pure_apply (a : α) (s : σ) :
    (pure a : Prog σ ε α) s = (.ok a, s) := rfl

@[simp] theorem raise_apply (e : ε) (s : σ) :
    (raise e : Prog σ ε α) s = (.error e, s) := rfl

@[simp] theorem gets_apply (f : σ → α) (s : σ) :
    (gets f : Prog σ ε α) s = (.ok (f s), s) := rfl

@[simp] theorem consult_apply (f : σ → Except ε α) (s : σ) :
    (consult f : Prog σ ε α) s = (f s, s) := rfl

@[simp] theorem update_apply (f : σ → σ) (s : σ) :
    (update f : Prog σ ε Unit) s = (.ok (), f s) := rfl

@[simp] theorem ofExcept_apply (r : Except ε α) (s : σ) :
    (ofExcept r : Prog σ ε α) s = (r, s) := rfl

theorem bind_apply (m : Prog σ ε α) (k : α → Prog σ ε β) (s : σ) :
    (m >>= k) s = match m s with
      | (.ok a, s') => k a s'
      | (.error e, s') => (.error e, s') := rfl

/-- Sequencing after a normal return. -/
theorem bind_apply_ok {m : Prog σ ε α} {k : α → Prog σ ε β} {s s' : σ} {a : α}
    (h : m s = (.ok a, s')) : (m >>= k) s = k a s' := by
  rw [bind_apply, h]

/-- Sequencing after an error. -/
theorem bind_apply_error {m : Prog σ ε α} {k : α → Prog σ ε β} {s s' : σ} {e : ε}
    (h : m s = (.error e, s')) : (m >>= k) s = (.error e, s') := by
  rw [bind_apply, h]

/-- A normal return of a sequence splits into the returns of its parts. -/
theorem bind_eq_ok {m : Prog σ ε α} {k : α → Prog σ ε β} {s t : σ} {b : β}
    (h : (m >>= k) s = (.ok b, t)) :
    ∃ a s', m s = (.ok a, s') ∧ k a s' = (.ok b, t) := by
  rw [bind_apply] at h
  rcases hm : m s with ⟨r, s'⟩
  rw [hm] at h
  cases r with
  | error e => simp at h
  | ok a => exact ⟨a, s', rfl, h⟩

/-- A computed sequence is a sequence of computed outcomes. -/
theorem ofExcept_bind (m : Except ε α) (k : α → Except ε β) :
    (ofExcept (m >>= k) : Prog σ ε β) = ofExcept m >>= fun a => ofExcept (k a) := by
  funext s
  cases m <;> rfl

/-- An error of a sequence is one of its parts. -/
theorem bind_eq_error {m : Prog σ ε α} {k : α → Prog σ ε β} {s t : σ} {e : ε}
    (h : (m >>= k) s = (.error e, t)) :
    m s = (.error e, t) ∨ ∃ a s', m s = (.ok a, s') ∧ k a s' = (.error e, t) := by
  rw [bind_apply] at h
  rcases hm : m s with ⟨r, s'⟩
  rw [hm] at h
  cases r with
  | error e' =>
      left
      simpa using h
  | ok a => exact .inr ⟨a, s', rfl, h⟩

/-- A sequence stops with its first part, or goes on after it. -/
theorem bind_cases {m : Prog σ ε α} {k : α → Prog σ ε β} {s t : σ} {r : Except ε β}
    (h : (m >>= k) s = (r, t)) :
    (∃ e, m s = (.error e, t) ∧ r = .error e) ∨ ∃ a s', m s = (.ok a, s') ∧ k a s' = (r, t) := by
  cases r with
  | error e =>
      rcases bind_eq_error h with hm | hk
      · exact .inl ⟨e, hm, rfl⟩
      · exact .inr hk
  | ok b => exact .inr (bind_eq_ok h)

/-- The outcome that was handed back as a value. -/
theorem attempt_eq_ok {m : Prog σ ε α} {s t : σ} {r : Except ε α} :
    (attempt m : Prog σ ε' (Except ε α)) s = (.ok r, t) ↔ m s = (r, t) := by
  rw [attempt]
  rcases m s with ⟨r', s'⟩
  simp [Prod.ext_iff]

/-- A normal return is not relabelled. -/
theorem relabel_eq_ok {f : ε → ε'} {m : Prog σ ε α} {s t : σ} {a : α} :
    relabel f m s = (.ok a, t) ↔ m s = (.ok a, t) := by
  rw [relabel]
  rcases m s with ⟨r, s'⟩
  cases r with
  | ok a' => simp
  | error e => simp

/-- An error is relabelled. -/
theorem relabel_eq_error {f : ε → ε'} {m : Prog σ ε α} {s t : σ} {e : ε'} :
    relabel f m s = (.error e, t) ↔ ∃ e', m s = (.error e', t) ∧ e = f e' := by
  rw [relabel]
  rcases m s with ⟨r, s'⟩
  cases r with
  | ok a => simp
  | error e' =>
      simp only [Prod.mk.injEq, Except.error.injEq]
      constructor
      · rintro ⟨rfl, rfl⟩
        exact ⟨e', ⟨rfl, rfl⟩, rfl⟩
      · rintro ⟨_, ⟨rfl, rfl⟩, rfl⟩
        exact ⟨rfl, rfl⟩

/-- A check stops the program where it stands, or the program goes on from there. -/
theorem check_cases {c : Except ε α} {k : α → Prog σ ε β} {s t : σ} {r : Except ε β}
    (h : (ofExcept c >>= k) s = (r, t)) :
    (∃ e, c = .error e ∧ r = .error e ∧ t = s) ∨ ∃ a, c = .ok a ∧ k a s = (r, t) := by
  cases c with
  | error e =>
      obtain ⟨rfl, rfl⟩ := Prod.mk.inj h
      exact .inl ⟨e, rfl, rfl, rfl⟩
  | ok a => exact .inr ⟨a, rfl, h⟩

/-- A question whose answer the program goes on with. -/
theorem consult_bind_eq_ok {f : σ → Except ε α} {k : α → Prog σ ε β} {s t : σ} {b : β}
    (h : (consult f >>= k) s = (.ok b, t)) : ∃ a, f s = .ok a ∧ k a s = (.ok b, t) := by
  obtain ⟨a, s', hask, hrest⟩ := bind_eq_ok h
  rw [consult_apply, Prod.mk.injEq] at hask
  obtain ⟨hf, rfl⟩ := hask
  exact ⟨a, hf, hrest⟩

/-- A loop over two lists in turn. -/
theorem forEach_append (body : α → Prog σ ε Unit) (xs ys : List α) :
    forEach body (xs ++ ys) = (do forEach body xs; forEach body ys) := by
  induction xs with
  | nil => rfl
  | cons x xs ih =>
      funext s
      show (body x >>= fun _ => forEach body (xs ++ ys)) s = _
      rw [ih]
      simp only [forEach, bind_apply]
      rcases body x s with ⟨r, s'⟩
      cases r with
      | error e => rfl
      | ok a => rfl

/-- **Where a loop stopped.**  The elements before the failing one ran to their
end, and those after it did not run. -/
theorem forEach_eq_error {body : α → Prog σ ε Unit} {xs : List α} {s t : σ} {e : ε}
    (h : forEach body xs s = (.error e, t)) :
    ∃ before x after s', xs = before ++ x :: after ∧
      forEach body before s = (.ok (), s') ∧ body x s' = (.error e, t) := by
  induction xs generalizing s with
  | nil => cases h
  | cons x xs ih =>
      rcases bind_eq_error h with hx | ⟨u, s₁, hx, hrest⟩
      · exact ⟨[], x, xs, s, rfl, rfl, hx⟩
      · obtain ⟨before, y, after, s', rfl, hbefore, hy⟩ := ih hrest
        exact ⟨x :: before, y, after, s', rfl, (bind_apply_ok hx).trans hbefore, hy⟩

/-! ## Calls that return -/

/-- The call returns from every state. -/
def Answers (m : Prog σ ε α) : Prop := ∀ s, ∃ a t, m s = (.ok a, t)

theorem Answers.pure (a : α) : Answers (pure a : Prog σ ε α) := fun s => ⟨a, s, rfl⟩

theorem Answers.bind {m : Prog σ ε α} {k : α → Prog σ ε β} (hm : Answers m)
    (hk : ∀ a, Answers (k a)) : Answers (m >>= k) := by
  intro s
  obtain ⟨a, s', hrun⟩ := hm s
  obtain ⟨b, t, hrest⟩ := hk a s'
  exact ⟨b, t, (bind_apply_ok hrun).trans hrest⟩

theorem Answers.attempt {m : Prog σ ε α} (h : Answers m) :
    Answers (attempt m : Prog σ ε' (Except ε α)) := by
  intro s
  obtain ⟨a, t, hrun⟩ := h s
  exact ⟨.ok a, t, attempt_eq_ok.mpr hrun⟩

theorem Answers.relabel {m : Prog σ ε α} {f : ε → ε'} (h : Answers m) :
    Answers (relabel f m) := by
  intro s
  obtain ⟨a, t, hrun⟩ := h s
  exact ⟨a, t, relabel_eq_ok.mpr hrun⟩

/-! ## Triples -/

/-- **Partial correctness with an error exit.**  From a state in `P`, a
normal return of `m` lands in `Q` and an error lands in `E`. -/
def Triple (P : σ → Prop) (m : Prog σ ε α) (Q : α → σ → Prop)
    (E : ε → σ → Prop) : Prop :=
  ∀ s, P s → match m s with
    | (.ok a, s') => Q a s'
    | (.error e, s') => E e s'

variable {P P' : σ → Prop} {Q Q' : α → σ → Prop} {R : β → σ → Prop}
  {E E' : ε → σ → Prop}

/-- Reading a triple at a normal return. -/
theorem Triple.ok {m : Prog σ ε α} (h : Triple P m Q E) {s s' : σ} {a : α}
    (hP : P s) (hm : m s = (.ok a, s')) : Q a s' := by
  have h' := h s hP
  rwa [hm] at h'

/-- Reading a triple at an error. -/
theorem Triple.error {m : Prog σ ε α} (h : Triple P m Q E) {s s' : σ} {e : ε}
    (hP : P s) (hm : m s = (.error e, s')) : E e s' := by
  have h' := h s hP
  rwa [hm] at h'

theorem Triple.ret {a : α} (h : ∀ s, P s → Q a s) :
    Triple P (pure a) Q E := h

theorem Triple.raise {e : ε} (h : ∀ s, P s → E e s) :
    Triple P (raise e) Q E := h

theorem Triple.gets {f : σ → α} (h : ∀ s, P s → Q (f s) s) :
    Triple P (gets f) Q E := h

theorem Triple.update {f : σ → σ} {Q : Unit → σ → Prop}
    (h : ∀ s, P s → Q () (f s)) : Triple P (update f) Q E := h

/-- **Sequencing.**  The middle assertion may depend on the value. -/
theorem Triple.bind {m : Prog σ ε α} {k : α → Prog σ ε β}
    (hm : Triple P m Q E) (hk : ∀ a, Triple (Q a) (k a) R E) :
    Triple P (m >>= k) R E := by
  intro s hP
  have h := hm s hP
  rw [bind_apply]
  rcases hr : m s with ⟨r, s'⟩
  rw [hr] at h
  cases r with
  | ok a => exact hk a s' h
  | error e => exact h

/-- Strengthen the precondition and weaken both exits. -/
theorem Triple.conseq {m : Prog σ ε α} (h : Triple P m Q E)
    (hP : ∀ s, P' s → P s) (hQ : ∀ a s, Q a s → Q' a s)
    (hE : ∀ e s, E e s → E' e s) : Triple P' m Q' E' := by
  intro s hs
  have h' := h s (hP s hs)
  rcases hr : m s with ⟨r, s'⟩
  rw [hr] at h'
  cases r with
  | ok a => exact hQ a s' h'
  | error e => exact hE e s' h'

/-- Strengthen the precondition only. -/
theorem Triple.pre {m : Prog σ ε α} (h : Triple P m Q E)
    (hP : ∀ s, P' s → P s) : Triple P' m Q E :=
  h.conseq hP (fun _ _ h => h) (fun _ _ h => h)

/-- A precondition may be used as a fact about the initial state. -/
theorem Triple.of_state {m : Prog σ ε α}
    (h : ∀ s, P s → Triple (fun t => t = s) m Q E) : Triple P m Q E :=
  fun s hs => h s hs s rfl

/-- A fact that the precondition carries may be assumed. -/
theorem Triple.assume {p : Prop} {m : Prog σ ε α}
    (h : p → Triple P m Q E) : Triple (fun s => p ∧ P s) m Q E :=
  fun s hs => h hs.1 s hs.2

/-- A witness that the precondition carries may be named. -/
theorem Triple.choose {γ : Type} {P : γ → σ → Prop} {m : Prog σ ε α}
    (h : ∀ x, Triple (P x) m Q E) : Triple (fun s => ∃ x, P x s) m Q E :=
  fun s ⟨x, hx⟩ => h x s hx

/-- Weaken the normal exit only. -/
theorem Triple.post {m : Prog σ ε α} (h : Triple P m Q E)
    (hQ : ∀ a s, Q a s → Q' a s) : Triple P m Q' E :=
  h.conseq (fun _ h => h) hQ (fun _ _ h => h)

/-- Catching an error: both exits become values. -/
theorem Triple.attempt {m : Prog σ ε α} {E'' : ε' → σ → Prop}
    (h : Triple P m Q E) :
    Triple P (attempt m : Prog σ ε' (Except ε α))
      (fun r s => match r with
        | .ok a => Q a s
        | .error e => E e s) E'' := by
  intro s hP
  have h' := h s hP
  rcases hr : m s with ⟨r, s'⟩
  rw [hr] at h'
  cases r with
  | ok a => simpa only [Effect.attempt, hr] using h'
  | error e => simpa only [Effect.attempt, hr] using h'

/-- Relabelling an error. -/
theorem Triple.relabel {m : Prog σ ε α} {f : ε → ε'} {E'' : ε' → σ → Prop}
    (h : Triple P m Q (fun e s => E'' (f e) s)) :
    Triple P (relabel f m) Q E'' := by
  intro s hP
  have h' := h s hP
  rcases hr : m s with ⟨r, s'⟩
  rw [hr] at h'
  cases r with
  | ok a => simpa only [Effect.relabel, hr] using h'
  | error e => simpa only [Effect.relabel, hr] using h'

/-- **The loop rule.**  A body that keeps an invariant for each element keeps
it over the whole list. -/
theorem Triple.forEach {I : σ → Prop} {body : α → Prog σ ε Unit} {xs : List α}
    (h : ∀ x ∈ xs, Triple I (body x) (fun _ => I) E) :
    Triple I (forEach body xs) (fun _ => I) E := by
  induction xs with
  | nil => exact Triple.ret fun _ h => h
  | cons x xs ih =>
      refine Triple.bind (h x (by simp)) fun _ => ?_
      exact ih fun y hy => h y (by simp [hy])

/-- The loop rule for a loop that collects values. -/
theorem Triple.mapEach {I : σ → Prop} {f : α → Prog σ ε β} {xs : List α}
    (h : ∀ x ∈ xs, Triple I (f x) (fun _ => I) E) :
    Triple I (mapEach f xs) (fun _ => I) E := by
  induction xs with
  | nil => exact Triple.ret fun _ h => h
  | cons x xs ih =>
      refine Triple.bind (h x (by simp)) fun _ => ?_
      refine Triple.bind (ih fun y hy => h y (by simp [hy])) fun _ => ?_
      exact Triple.ret fun _ h => h

/-! ## Frames -/

/-- Every end of the program, a failed one too, is related to its start. -/
def Within (R : σ → σ → Prop) (m : Prog σ ε α) : Prop := ∀ s, R s (m s).2

section

variable {R : σ → σ → Prop}

/-- A relation that the program keeps, along which an assertion is carried. -/
theorem Within.triple {m : Prog σ ε α} (h : Within R m) (hP : ∀ s t, P s → R s t → P t) :
    Triple P m (fun _ => P) (fun _ => P) := by
  intro s hs
  have hend := hP s _ hs (h s)
  rcases hm : m s with ⟨r, t⟩
  rw [hm] at hend
  cases r with
  | ok a => exact hend
  | error e => exact hend

theorem Within.pure (hrefl : ∀ s, R s s) (a : α) : Within R (pure a : Prog σ ε α) :=
  fun s => hrefl s

theorem Within.raise (hrefl : ∀ s, R s s) (e : ε) : Within R (raise e : Prog σ ε α) :=
  fun s => hrefl s

theorem Within.ofExcept (hrefl : ∀ s, R s s) (r : Except ε α) :
    Within R (ofExcept r : Prog σ ε α) :=
  fun s => hrefl s

theorem Within.update {f : σ → σ} (h : ∀ s, R s (f s)) :
    Within R (update f : Prog σ ε Unit) := h

/-- Sequencing under a transitive relation. -/
theorem Within.bind (htrans : ∀ s t u, R s t → R t u → R s u) {m : Prog σ ε α}
    {k : α → Prog σ ε β} (hm : Within R m) (hk : ∀ a, Within R (k a)) :
    Within R (m >>= k) := by
  intro s
  have hfirst := hm s
  rw [bind_apply]
  rcases hrun : m s with ⟨r, t⟩
  rw [hrun] at hfirst
  cases r with
  | ok a => exact htrans s t _ hfirst (hk a t)
  | error e => exact hfirst

theorem Within.attempt {m : Prog σ ε α} (h : Within R m) :
    Within R (attempt m : Prog σ ε' (Except ε α)) := h

theorem Within.relabel {m : Prog σ ε α} {f : ε → ε'} (h : Within R m) :
    Within R (relabel f m) := by
  intro s
  have hend := h s
  rw [Effect.relabel]
  rcases hrun : m s with ⟨r, t⟩
  rw [hrun] at hend
  cases r with
  | ok a => exact hend
  | error e => exact hend

end

end FrametimeCfg.Lib.Effect
