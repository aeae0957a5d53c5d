import Mathlib.Data.List.Basic

/-!
# Guarded traces

A trace is the list of calls a program has made, oldest first.  A *rule*
`A : List ι → ι → Prop` says which calls may follow which past; a trace is
guarded when every one of its calls is allowed after the calls before it.
The definition is relative to a past, so that the calls of one procedure can
be judged where they stand in the run of its caller, and `Guarded.append`
composes the judgements.

Guardedness is a property of every prefix at once (`Guarded.prefix`): a run
that is cut short by a crash is judged by the same rule as one that finishes.
-/

namespace FrametimeCfg.Lib.Trace

variable {ι : Type} {A : List ι → ι → Prop}

/-- Every call of `d` is allowed by `A` after `past` and the calls of `d`
before it. -/
def Guarded (A : List ι → ι → Prop) (past d : List ι) : Prop :=
  ∀ pre c post, d = pre ++ c :: post → A (past ++ pre) c

theorem Guarded.nil (past : List ι) : Guarded A past [] := by
  intro pre c post h
  cases pre <;> cases h

/-- One call more: it must be allowed after the whole trace so far. -/
theorem Guarded.snoc {past d : List ι} {c : ι} (h : Guarded A past d)
    (hc : A (past ++ d) c) : Guarded A past (d ++ [c]) := by
  intro pre c' post heq
  rcases List.eq_nil_or_concat post with rfl | ⟨post', last, rfl⟩
  · have hsplit : pre = d ∧ c' = c := by
      simpa using (List.append_inj' heq.symm rfl)
    rw [hsplit.1, hsplit.2]
    exact hc
  · have hd : d = pre ++ c' :: post' := by
      have heq' : d ++ [c] = (pre ++ c' :: post') ++ [last] := by simpa using heq
      exact (List.append_inj' heq' rfl).1
    exact h pre c' post' hd

/-- The calls of two consecutive procedures. -/
theorem Guarded.append {past d e : List ι} (hd : Guarded A past d)
    (he : Guarded A (past ++ d) e) : Guarded A past (d ++ e) := by
  intro pre c post heq
  rcases List.append_eq_append_iff.mp heq with ⟨m, hm, hpost⟩ | ⟨m, hm, hpost⟩
  · have := he m c post hpost
    rwa [hm, ← List.append_assoc]
  · cases m with
    | nil =>
        have := he [] c post (by simpa using hpost.symm)
        rw [List.append_nil] at hm
        rwa [← hm, ← List.append_nil (past ++ d)]
    | cons x m =>
        obtain ⟨rfl, -⟩ : c = x ∧ post = m ++ e := by simpa using hpost
        exact hd pre c m hm

/-- A prefix of a guarded trace is guarded. -/
theorem Guarded.prefix {past d e : List ι} (h : Guarded A past e)
    (hp : d <+: e) : Guarded A past d := by
  obtain ⟨rest, rfl⟩ := hp
  intro pre c post heq
  exact h pre c (post ++ rest) (by simp [heq])

/-- Reading a guarded trace at one of its calls. -/
theorem Guarded.at {pre post : List ι} {c : ι}
    (h : Guarded A [] (pre ++ c :: post)) : A pre c := by
  simpa using h pre c post rfl

/-- A call that the rule allows after any past never breaks a trace. -/
theorem Guarded.snoc_free {past d : List ι} {c : ι} (h : Guarded A past d)
    (hc : ∀ p, A p c) : Guarded A past (d ++ [c]) :=
  h.snoc (hc _)

/-! ## Facts about the past

Rules speak about calls that came earlier, in order.  `Happened s t` says
that the calls `s` occur in the trace `t` in this order, not necessarily next
to each other; it survives every later call. -/

/-- The calls `s` occur in `t` in this order. -/
def Happened (s t : List ι) : Prop := s.Sublist t

theorem Happened.done (t : List ι) : Happened [] t := List.nil_sublist t

/-- The next call is the first of the calls looked for. -/
theorem Happened.take {s t : List ι} (c : ι) (h : Happened s t) :
    Happened (c :: s) (c :: t) :=
  List.Sublist.cons_cons c h

/-- The next call is none of them. -/
theorem Happened.skip {s t : List ι} (c : ι) (h : Happened s t) :
    Happened s (c :: t) :=
  List.Sublist.cons c h

/-- Calls before. -/
theorem Happened.after {s t : List ι} (earlier : List ι) (h : Happened s t) :
    Happened s (earlier ++ t) :=
  List.sublist_append_of_sublist_right h

/-- Calls afterwards. -/
theorem Happened.before {s t : List ι} (later : List ι) (h : Happened s t) :
    Happened s (t ++ later) :=
  List.sublist_append_of_sublist_left h

end FrametimeCfg.Lib.Trace
