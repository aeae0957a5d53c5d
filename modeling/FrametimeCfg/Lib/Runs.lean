import Mathlib.Data.List.Chain

/-!
# Runs of a labelled step relation

A run from a state is a list of labels, each with the state that its step led
to.  A property that every step preserves holds in every state of a run, and a
transitive relation that links the two ends of exactly the good steps links
every earlier state to every later one exactly in the runs of good steps.

Nothing here mentions a particular system.
-/

namespace FrametimeCfg.Lib.Runs

variable {α σ : Type} {step : α → σ → σ → Prop}

/-- Each state follows from the one before it by the step of its label. -/
def IsRun (step : α → σ → σ → Prop) : σ → List (α × σ) → Prop
  | _, [] => True
  | s, (a, t) :: rest => step a s t ∧ IsRun step t rest

/-- The states of a run, the first one included. -/
def states (s : σ) (run : List (α × σ)) : List σ := s :: run.map Prod.snd

/-- Every step of the run is taken in a state and with a label that `good`
accepts. -/
def EachStep (good : σ → α → Prop) : σ → List (α × σ) → Prop
  | _, [] => True
  | s, (a, t) :: rest => good s a ∧ EachStep good t rest

/-- A run of good steps is a run of the steps that are good. -/
theorem IsRun.restrict {good : σ → α → Prop} {s : σ} {run : List (α × σ)}
    (hrun : IsRun step s run) (hgood : EachStep good s run) :
    IsRun (fun a s t => step a s t ∧ good s a) s run := by
  induction run generalizing s with
  | nil => trivial
  | cons x rest ih => exact ⟨⟨hrun.1, hgood.1⟩, ih hrun.2 hgood.2⟩

/-- **Invariants of runs.**  What every step preserves holds in every state. -/
theorem IsRun.invariant {I : σ → Prop} {s : σ} {run : List (α × σ)}
    (hrun : IsRun step s run) (hstep : ∀ a s t, step a s t → I s → I t) (hs : I s) :
    ∀ t ∈ states s run, I t := by
  induction run generalizing s with
  | nil =>
      intro t ht
      rw [states, List.map_nil, List.mem_singleton] at ht
      rw [ht]
      exact hs
  | cons x rest ih =>
      intro t ht
      rcases List.mem_cons.mp ht with rfl | hrest
      · exact hs
      · exact ih hrun.2 (hstep x.1 s x.2 hrun.1 hs) t hrest

/-- **Relations along runs.**  A transitive relation that holds across exactly
the good steps links each state to all later ones exactly when every step of
the run is good. -/
theorem IsRun.pairwise_iff {R : σ → σ → Prop} {good : σ → α → Prop} [IsTrans σ R]
    {s : σ} {run : List (α × σ)} (hrun : IsRun step s run)
    (hstep : ∀ a s t, step a s t → (R s t ↔ good s a)) :
    (states s run).Pairwise R ↔ EachStep good s run := by
  rw [← List.isChain_iff_pairwise]
  induction run generalizing s with
  | nil => exact iff_of_true (List.isChain_singleton s) trivial
  | cons x rest ih =>
      show List.IsChain R (s :: x.2 :: rest.map Prod.snd) ↔ _
      rw [List.isChain_cons_cons, hstep x.1 s x.2 hrun.1]
      exact and_congr_right fun _ => ih hrun.2

end FrametimeCfg.Lib.Runs
