import FrametimeCfg.Verified.EngineRecords
import FrametimeCfg.Verified.EngineTrace
import Mathlib.Data.List.Chain

/-!
# The accounts of an engine run

The engine records a step in three ways, and each of them first persists the new
progress and then holds it.  So at every end of a run the engine holds what was
persisted last.  It works on a step only while the step is not recorded, and so each
persisted progress adds one key to the one before and moves none.

A live run that returns has counted each of its unrecorded steps once, also where a
step is listed twice.  A dry run only observes.

The calls of a run are those of its trace.  A run is live or dry by the answers that
`is_dry_run` gave in it.
-/

namespace FrametimeCfg.Verified.EngineAccounts

open FrametimeCfg.Domain
open FrametimeCfg.Domain.Progress
open FrametimeCfg.Lib.Effect
open FrametimeCfg.Lib.OrderedMap
open FrametimeCfg.Verified.EngineRecords
open FrametimeCfg.Verified.EngineTrace

/-! ## Accounts -/

/-- The progress that a call has persisted. -/
def storedBy : Call → Option Progress
  | .persistProgress progress (.ok ()) => some progress
  | _ => none

/-- What the calls have persisted, in order. -/
def stored (calls : List Call) : List Progress := calls.filterMap storedBy

/-- What was persisted last, if anything. -/
def lastStored (start : Progress) (calls : List Call) : Progress :=
  (stored calls).getLastD start

/-- A call that a dry run makes. -/
def Observes : Call → Prop
  | .isDryRun _ | .inspect .. | .plan .. => True
  | _ => False

/-- The steps that the report accounts for. -/
def total (report : RunReport) : Nat :=
  report.completed + report.skipped + report.advisories

/-- The later progress has one step more, in one record; every other key is where it
was. -/
structure Adds (p q : Progress) (id : StepId) (r : Record) : Prop where
  fresh : p.isRecorded id = false
  placed : q.records id = only r
  completed : ∀ k, k ≠ keyFor id → (k ∈ q.completedSteps ↔ k ∈ p.completedSteps)
  skipped : ∀ k, k ≠ keyFor id → (k ∈ q.skippedSteps ↔ k ∈ p.skippedSteps)
  advised : ∀ k, k ≠ keyFor id → q.advisories[k]? = p.advisories[k]?

/-- The listed steps that are not recorded. -/
def openSteps (p : Progress) (steps : List Step) : Finset StepId :=
  (steps.map (·.id)).toFinset.filter fun id => p.isRecorded id = false

/-- What a run from `start` says with its outcome, its calls, the progress that the
engine holds in the end, and the steps that its report counts. -/
structure Accounted (steps : List Step) (start : Progress)
    (outcome : Except EngineError Unit) (calls : List Call) (stop : Progress)
    (counted : Nat) : Prop where
  held : stop = lastStored start calls
  kept : ∀ id, start.isRecorded id = true → stop.records id = start.records id
  oneByOne : (start :: stored calls).IsChain fun p q =>
    ∃ step ∈ steps, ∃ r, Adds p q step.id r
  live : outcome = .ok () → .isDryRun true ∉ calls →
    counted = (openSteps start steps).card ∧
      ∀ step ∈ steps, stop.isRecorded step.id = true
  dry : .isDryRun false ∉ calls → (∀ call ∈ calls, Observes call) ∧ stop = start

/-! ## One record more -/

section

variable {p q : Progress} {id : StepId} {r : Record}

theorem adds_completeStep (h : p.isRecorded id = false) (now : String) :
    Adds p (p.completeStep id now) id .completed where
  fresh := h
  placed := by rw [records_completeStep, Function.update_self]
  completed k hk := by
    show k ∈ insert (keyFor id) p.completedSteps ↔ _
    simp [hk]
  skipped k hk := by
    show k ∈ p.skippedSteps.erase (keyFor id) ↔ _
    simp [hk]
  advised k hk := by
    show (p.advisories.erase (keyFor id))[k]? = _
    rw [BTreeMap.get_erase, if_neg hk]

theorem adds_skipStep (h : p.isRecorded id = false) :
    Adds p (p.skipStep id) id .skipped where
  fresh := h
  placed := by rw [records_skipStep, Function.update_self]
  completed k hk := by
    show k ∈ p.completedSteps.erase (keyFor id) ↔ _
    simp [hk]
  skipped k hk := by
    show k ∈ insert (keyFor id) p.skippedSteps ↔ _
    simp [hk]
  advised k hk := by
    show (p.advisories.erase (keyFor id))[k]? = _
    rw [BTreeMap.get_erase, if_neg hk]

theorem adds_acknowledge (h : p.isRecorded id = false) (reason : String) :
    Adds p (p.acknowledgeStepAdvisory id reason) id .advised where
  fresh := h
  placed := by rw [records_acknowledgeStepAdvisory, Function.update_self]
  completed k hk := by
    show k ∈ p.completedSteps.erase (keyFor id) ↔ _
    simp [hk]
  skipped k hk := by
    show k ∈ p.skippedSteps.erase (keyFor id) ↔ _
    simp [hk]
  advised k hk := by
    show (p.advisories.insert (keyFor id) _)[k]? = _
    rw [BTreeMap.get_insert, if_neg hk]

/-- The records of the other steps stay. -/
theorem Adds.records_eq (h : Adds p q id r) {j : StepId} (hj : j ≠ id) :
    q.records j = p.records j := by
  have hk : keyFor j ≠ keyFor id := fun hk => hj (keyFor_inj.mp hk)
  have hadvised : keyFor j ∈ q.advisories ↔ keyFor j ∈ p.advisories := by
    rw [Std.ExtTreeMap.mem_iff_isSome_getElem?, Std.ExtTreeMap.mem_iff_isSome_getElem?,
      h.advised _ hk]
  funext record
  cases record with
  | completed => simp [records, isIn, isCompleted, h.completed _ hk]
  | skipped => simp [records, isIn, isSkipped, h.skipped _ hk]
  | advised => simp [records, isIn, hasAdvisory, hadvised]

/-- A step with the records of a recorded one is recorded. -/
theorem isRecorded_of_records {j : StepId} (h : q.records j = p.records j) :
    q.isRecorded j = p.isRecorded j := by
  rw [Bool.eq_iff_iff, isRecorded_iff, isRecorded_iff]
  have hr : ∀ r, q.isIn r j = p.isIn r j := fun r => congrFun h r
  simp [hr]

/-- The recorded steps are the old ones and the new one. -/
theorem Adds.isRecorded_iff (h : Adds p q id r) (j : StepId) :
    q.isRecorded j = true ↔ j = id ∨ p.isRecorded j = true := by
  by_cases hj : j = id
  · subst hj
    have hr : q.isIn r j = true := by
      show q.records j r = true
      rw [h.placed]
      simp [only]
    simp [(Progress.isRecorded_iff q j).mpr ⟨r, hr⟩]
  · simp [isRecorded_of_records (h.records_eq hj), hj]

/-- A recorded step at the head of the list does not count. -/
theorem openSteps_cons_recorded {step : Step} (h : p.isRecorded step.id = true)
    (rest : List Step) : openSteps p (step :: rest) = openSteps p rest := by
  simp [openSteps, Finset.filter_insert, h]

/-- A step that is recorded now has counted once. -/
theorem openSteps_cons_added {step : Step} (h : Adds p q step.id r)
    (rest : List Step) :
    (openSteps p (step :: rest)).card = (openSteps q rest).card + 1 := by
  have hnot : step.id ∉ openSteps q rest := by
    have hq : q.isRecorded step.id = true := (h.isRecorded_iff step.id).mpr (.inl rfl)
    simp [openSteps, hq]
  have hinsert : openSteps p (step :: rest) = insert step.id (openSteps q rest) := by
    ext j
    have hj := h.isRecorded_iff j
    have hfresh := h.fresh
    simp only [openSteps, List.map_cons, List.toFinset_cons, Finset.mem_filter,
      Finset.mem_insert, ← Bool.not_eq_true, hj]
    by_cases hid : j = step.id
    · subst hid
      simp [hfresh]
    · simp [hid]
  rw [hinsert, Finset.card_insert_of_notMem hnot]

end

/-! ## One iteration of the loop -/

section

variable {σ α : Type} {b : Backend σ} {c : Control σ} {digest : Digest} {profile : Profile}
  {s t u : EngineState (σ × List Call)} {A A' : List Call → Prop}

/-- Since `s` the progress is the same, and the calls are of the given kind. -/
def Over (A : List Call → Prop) (s u : EngineState (σ × List Call)) : Prop :=
  u.progress = s.progress ∧ ∃ calls, u.backend.2 = s.backend.2 ++ calls ∧ A calls

/-- And the report counts the same steps. -/
def Since (A : List Call → Prop) (s u : EngineState (σ × List Call)) : Prop :=
  Over A s u ∧ total u.report = total s.report

/-- Nothing was persisted; the run is live, or it only observed. -/
def Quiet (calls : List Call) : Prop :=
  stored calls = [] ∧ (.isDryRun false ∈ calls ∨ ∀ call ∈ calls, Observes call)

/-- Nothing was persisted in a live run. -/
def Live (calls : List Call) : Prop := stored calls = [] ∧ .isDryRun false ∈ calls

/-- Nothing was persisted in a dry run. -/
def Dry (calls : List Call) : Prop := Quiet calls ∧ .isDryRun true ∈ calls

/-- The step was recorded by a live run. -/
def Recorded (id : StepId) (s u : EngineState (σ × List Call)) : Prop :=
  ∃ calls r, u.backend.2 = s.backend.2 ++ calls ∧ stored calls = [u.progress] ∧
    .isDryRun false ∈ calls ∧ Adds s.progress u.progress id r ∧
      total u.report = total s.report + 1

/-- The ways an iteration returns. -/
def Treated (id : StepId) (s u : EngineState (σ × List Call)) : Prop :=
  s.progress.isRecorded id = true ∧ u = s ∨ Recorded id s u ∨ Over Dry s u

theorem stored_append (calls calls' : List Call) :
    stored (calls ++ calls') = stored calls ++ stored calls' :=
  List.filterMap_append

theorem stored_snoc {calls : List Call} {call : Call} (h : storedBy call = none) :
    stored (calls ++ [call]) = stored calls := by
  simp [stored, h]

theorem Over.mono (h : Over A s u) (hA : ∀ calls, A calls → A' calls) : Over A' s u := by
  obtain ⟨hprogress, calls, hcalls, hkind⟩ := h
  exact ⟨hprogress, calls, hcalls, hA calls hkind⟩

theorem Quiet.nil : Quiet [] := ⟨rfl, .inr fun _ h => by cases h⟩

theorem Live.quiet {calls : List Call} (h : Live calls) : Quiet calls := ⟨h.1, .inl h.2⟩

theorem Live.snoc {calls : List Call} {call : Call} (h : Live calls)
    (hcall : storedBy call = none) : Live (calls ++ [call]) :=
  ⟨(stored_snoc hcall).trans h.1, List.mem_append_left _ h.2⟩

theorem Quiet.snoc {calls : List Call} {call : Call} (h : Quiet calls)
    (hcall : storedBy call = none) (hobserves : Observes call) :
    Quiet (calls ++ [call]) := by
  refine ⟨(stored_snoc hcall).trans h.1, ?_⟩
  rcases h.2 with hlive | hall
  · exact .inl (List.mem_append_left _ hlive)
  · right
    intro call' hmem
    rcases List.mem_append.mp hmem with hmem | hmem
    · exact hall call' hmem
    · rw [List.mem_singleton.mp hmem]
      exact hobserves

/-- A recorded call extends the trace. -/
theorem call_over {port : Port σ α} {entry : α → Call} {B : α → List Call → Prop}
    {E : EngineError → EngineState (σ × List Call) → Prop}
    (h : ∀ calls answer, A calls → B answer (calls ++ [entry answer])) :
    Triple (Over A s) (call (record port entry)) (fun a => Over (B a) s) E := by
  intro u hu
  obtain ⟨hprogress, calls, hcalls, hkind⟩ := hu
  refine ⟨hprogress, calls ++ [entry (port u.backend.1).1], ?_, h _ _ hkind⟩
  show u.backend.2 ++ _ = s.backend.2 ++ _
  rw [hcalls, List.append_assoc]

theorem call_since {port : Port σ α} {entry : α → Call} {B : α → List Call → Prop}
    {E : EngineError → EngineState (σ × List Call) → Prop}
    (h : ∀ calls answer, A calls → B answer (calls ++ [entry answer])) :
    Triple (Since A s) (call (record port entry)) (fun a => Since (B a) s) E := by
  intro u hu
  have hcall : Triple (Over A s) (call (record port entry)) (fun a => Over (B a) s) E :=
    call_over h
  exact ⟨hcall u hu.1, hu.2⟩

/-- A fallible call whose record keeps the kind of the calls. -/
theorem tryCall_since {port : Port σ (Except String α)} {entry : Except String α → Call}
    {error : String → EngineError}
    (h : ∀ calls answer, A calls → A (calls ++ [entry answer]))
    (hquiet : ∀ calls, A calls → Quiet calls) :
    Triple (Since A s) (tryCall (record port entry) error) (fun _ => Since A s)
      (fun _ => Over Quiet s) := by
  refine Triple.bind (call_since (B := fun _ => A) h) fun answer => ?_
  cases answer with
  | ok a => exact Triple.ret fun _ hu => hu
  | error message => exact Triple.raise fun _ hu => hu.1.mono hquiet

/-- A closure leaves the trace alone. -/
theorem unrecorded_since {port : Port σ α}
    {E : EngineError → EngineState (σ × List Call) → Prop} :
    Triple (Since A s) (call (unrecorded port)) (fun _ => Since A s) E :=
  fun _ hu => hu

/-- The answer of `is_dry_run` decides what the run may do. -/
theorem isDryRun_since {E : EngineError → EngineState (σ × List Call) → Prop} :
    Triple (Since Quiet s) (call (traced b).isDryRun)
      (fun dry => Since (if dry then Dry else Live) s) E := by
  refine call_since (B := fun dry : Bool => if dry then Dry else Live) ?_
  intro calls dry hcalls
  cases dry with
  | true => exact ⟨hcalls.snoc rfl trivial, by simp⟩
  | false => exact ⟨(stored_snoc rfl).trans hcalls.1, by simp⟩

theorem Since.quiet (h : Since A s u) (hA : ∀ calls, A calls → Quiet calls) :
    Since Quiet s u := ⟨h.1.mono hA, h.2⟩

/-! ### Before the work -/

/-- Only a step that is not recorded goes on. -/
theorem skipRecordedOrCancelled_spec {id : StepId} {key : String} :
    Triple (· = s) (skipRecordedOrCancelled (traced b) (lifted c) id key)
      (fun recorded u => if recorded then s.progress.isRecorded id = true ∧ u = s
        else s.progress.isRecorded id = false ∧ Since Quiet s u)
      (fun _ => Over Quiet s) := by
  refine Triple.bind (Triple.gets (Q := fun q u => q = s.progress ∧ u = s)
    fun u hu => ⟨by rw [hu], hu⟩) fun q => Triple.assume ?_
  intro hq
  subst hq
  by_cases hrecorded : s.progress.isRecorded id = true
  · rw [if_pos hrecorded]
    exact Triple.ret fun u hu => ⟨hrecorded, hu⟩
  · rw [if_neg hrecorded]
    have hfresh : s.progress.isRecorded id = false := by simpa using hrecorded
    have hstart : ∀ u, u = s → Since Quiet s u := by
      intro u hu
      rw [hu]
      exact ⟨⟨rfl, [], (List.append_nil _).symm, Quiet.nil⟩, rfl⟩
    refine (Triple.bind isDryRun_since fun dry => ?_).pre hstart
    cases dry with
    | true => exact Triple.ret fun u hu => ⟨hfresh, hu.quiet fun _ h => h.1⟩
    | false =>
        refine Triple.bind unrecorded_since fun cancelled => ?_
        cases cancelled with
        | true => exact Triple.raise fun u hu => hu.1.mono fun _ h => h.quiet
        | false => exact Triple.ret fun u hu => ⟨hfresh, hu.quiet fun _ h => h.quiet⟩

theorem shouldSkipForPolicy_since {step : Step} :
    Triple (Since Quiet s) (shouldSkipForPolicy (traced b) (lifted c) step profile)
      (fun _ => Since Quiet s) (fun _ => Over Quiet s) := by
  unfold shouldSkipForPolicy
  cases profile.decision step.tier step.risk with
  | skip => exact Triple.ret fun _ hu => hu
  | auto => exact Triple.ret fun _ hu => hu
  | prompt =>
      refine Triple.bind isDryRun_since fun dry => ?_
      cases dry with
      | true => exact Triple.ret fun u hu => hu.quiet fun _ h => h.1
      | false =>
          refine Triple.bind unrecorded_since fun agreed => ?_
          exact Triple.ret fun u hu => hu.quiet fun _ h => h.quiet

/-! ### A dry run -/

theorem Dry.snoc {calls : List Call} {call : Call} (h : Dry calls)
    (hcall : storedBy call = none) (hobserves : Observes call) : Dry (calls ++ [call]) :=
  ⟨h.1.snoc hcall hobserves, List.mem_append_left _ h.2⟩

/-- An update of the report. -/
theorem update_over {f : EngineState (σ × List Call) → EngineState (σ × List Call)}
    {E : EngineError → EngineState (σ × List Call) → Prop}
    (hbackend : ∀ u, (f u).backend = u.backend) (hprogress : ∀ u, (f u).progress = u.progress) :
    Triple (Over A s) (update f) (fun _ => Over A s) E := by
  refine Triple.update ?_
  intro u hu
  unfold Over
  rw [hbackend, hprogress]
  exact hu

theorem emit_over {event : Event} {E : EngineError → EngineState (σ × List Call) → Prop} :
    Triple (Over A s) (emit event) (fun _ => Over A s) E :=
  update_over (fun _ => rfl) fun _ => rfl

/-- A skip that is not persisted. -/
theorem recordSkip_dry {step : Step} {key : String} :
    Triple (Over Dry s) (recordSkip (traced b) step key false) (fun _ => Over Dry s)
      (fun _ => Over Quiet s) :=
  Triple.bind emit_over fun _ => update_over (fun _ => rfl) fun _ => rfl

theorem reportDryRun_over {operation : Operation} {key : String} {inspection : Inspection} :
    Triple (Over Dry s) (reportDryRun (traced b) operation key inspection)
      (fun _ => Over Dry s) (fun _ => Over Quiet s) := by
  have hplan : Triple (Over Dry s) (tryCall ((traced b).plan operation) (.inspect key))
      (fun _ => Over Dry s) (fun _ => Over Quiet s) := by
    refine Triple.bind (call_over (B := fun _ => Dry) fun _ _ h => h.snoc rfl trivial)
      fun answer => ?_
    cases answer with
    | ok a => exact Triple.ret fun _ hu => hu
    | error message => exact Triple.raise fun _ hu => hu.mono fun _ h => h.1
  refine Triple.bind hplan fun lines => ?_
  refine Triple.bind (Triple.forEach fun line _ => emit_over) fun _ => ?_
  cases inspection with
  | inapplicable =>
      exact Triple.bind emit_over fun _ => update_over (fun _ => rfl) fun _ => rfl
  | unsupported => exact update_over (fun _ => rfl) fun _ => rfl
  | advisory reason =>
      exact Triple.bind emit_over fun _ => update_over (fun _ => rfl) fun _ => rfl
  | satisfied => exact update_over (fun _ => rfl) fun _ => rfl
  | needsApply => exact update_over (fun _ => rfl) fun _ => rfl

/-! ### A live step -/

/-- The ports of a traced backend: each call is recorded after the others. -/
theorem ports_traced {R : σ × List Call → σ × List Call → Prop}
    {W : Progress → σ × List Call → σ × List Call → Prop}
    (hcall : ∀ x y call, storedBy call = none → R x (y, x.2 ++ [call]))
    (hclosure : ∀ x y, R x (y, x.2))
    (hpersist : ∀ q x y answer, W q x (y, x.2 ++ [.persistProgress q answer])) :
    Ports (traced b) (lifted c) R W where
  isDryRun _ := hcall _ _ _ rfl
  inspect _ _ := hcall _ _ _ rfl
  plan _ _ := hcall _ _ _ rfl
  captureBackups _ _ := hcall _ _ _ rfl
  persistBackups _ _ := hcall _ _ _ rfl
  recoveryRequirement _ _ := hcall _ _ _ rfl
  capturePendingAudit _ _ := hcall _ _ _ rfl
  persistPendingAudit _ _ := hcall _ _ _ rfl
  finalizeAudit _ _ := hcall _ _ _ rfl
  capturePendingIrreversibleAudit _ _ := hcall _ _ _ rfl
  persistPendingIrreversibleAudit _ _ := hcall _ _ _ rfl
  finalizeIrreversibleAudit _ _ := hcall _ _ _ rfl
  failIrreversibleAudit _ _ := hcall _ _ _ rfl
  evidenceRequirement _ _ := hcall _ _ _ rfl
  captureEvidence _ _ := hcall _ _ _ rfl
  persistEvidence _ _ := hcall _ _ _ rfl
  verifyEvidence _ _ _ := hcall _ _ _ rfl
  apply _ _ := hcall _ _ _ rfl
  verify _ _ := hcall _ _ _ rfl
  persistProgress _ _ := hpersist _ _ _ _
  timestamp _ := hcall _ _ _ rfl
  consent _ _ := hclosure _ _
  cancelled _ := hclosure _ _

/-- The work on a step persists no progress. -/
theorem frame_live : Frame (traced b) (lifted c)
    fun u t : EngineState (σ × List Call) => Since Live s u → Since Live s t where
  refl _ hu := hu
  trans _ _ _ hut htv hu := htv (hut hu)
  event _ _ hu := hu
  ports := by
    refine ports_traced ?_ ?_ fun _ _ _ _ => trivial
    · rintro x y call hcall u rfl ⟨⟨hprogress, calls, hcalls, hlive⟩, htotal⟩
      refine ⟨⟨hprogress, calls ++ [call], ?_, hlive.snoc hcall⟩, htotal⟩
      show u.backend.2 ++ _ = _
      rw [hcalls, List.append_assoc]
    · rintro x y u rfl hu
      exact hu

theorem runLiveOperation_live (c : Control σ) {operation : Operation} {key : String}
    {inspection : Inspection} :
    Triple (Since Live s) (runLiveOperation (traced b) digest operation key inspection)
      (fun _ => Since Live s) (fun _ => Over Quiet s) := by
  have hframe : Frame (traced b) (lifted c) _ := frame_live (s := s)
  refine ((within_runLiveOperation hframe).triple fun _ _ hu hut => hut hu).conseq
    (fun _ hu => hu) (fun _ _ hu => hu) ?_
  exact fun _ _ hu => hu.1.mono fun _ h => h.quiet

/-- The progress `q` was persisted, and is not held yet. -/
def Pending (q : Progress) (s u : EngineState (σ × List Call)) : Prop :=
  Since (fun calls => stored calls = [q] ∧ .isDryRun false ∈ calls) s u

/-- The progress `q` is persisted and held. -/
def Held (q : Progress) (s u : EngineState (σ × List Call)) : Prop :=
  Pending q s { u with progress := s.progress } ∧ u.progress = q

theorem persistProgress_pending {q : Progress} {key : String} :
    Triple (Since Live s) (tryCall ((traced b).persistProgress q) (.progress key))
      (fun _ => Pending q s) (fun _ => Over Quiet s) := by
  refine Triple.bind (call_since (B := fun answer calls => .isDryRun false ∈ calls ∧
    stored calls = if answer = .ok () then [q] else []) ?_) fun answer => ?_
  · intro calls answer hlive
    refine ⟨List.mem_append_left _ hlive.2, ?_⟩
    rw [stored_append, hlive.1, List.nil_append]
    cases answer with
    | ok _ => rfl
    | error message => rfl
  · cases answer with
    | ok _ =>
        exact Triple.ret fun u hu => ⟨hu.1.mono fun _ h => ⟨h.2, h.1⟩, hu.2⟩
    | error message =>
        exact Triple.raise fun u hu => hu.1.mono fun _ h => ⟨h.2, .inl h.1⟩

theorem setProgress_held {q : Progress}
    {E : EngineError → EngineState (σ × List Call) → Prop} :
    Triple (Pending q s) (setProgress q) (fun _ => Held q s) E := by
  refine Triple.update ?_
  rintro u ⟨⟨hprogress, hcalls⟩, htotal⟩
  exact ⟨⟨⟨rfl, hcalls⟩, htotal⟩, rfl⟩

theorem emit_held {q : Progress} {event : Event}
    {E : EngineError → EngineState (σ × List Call) → Prop} :
    Triple (Held q s) (emit event) (fun _ => Held q s) E :=
  Triple.update fun _ hu => hu

/-- The count of the step that is recorded. -/
theorem count_recorded {q : Progress} {id : StepId} {r : Record}
    {f : EngineState (σ × List Call) → EngineState (σ × List Call)}
    {E : EngineError → EngineState (σ × List Call) → Prop}
    (hadds : Adds s.progress q id r) (hbackend : ∀ u, (f u).backend = u.backend)
    (hprogress : ∀ u, (f u).progress = u.progress)
    (hcount : ∀ u, total (f u).report = total u.report + 1) :
    Triple (Held q s) (update f) (fun _ => Recorded id s) E := by
  refine Triple.update ?_
  rintro u ⟨⟨⟨-, calls, hcalls, hstored, hlive⟩, htotal⟩, hheld⟩
  refine ⟨calls, r, ?_, ?_, hlive, ?_, ?_⟩
  · rw [hbackend]
    exact hcalls
  · rw [hprogress, hheld]
    exact hstored
  · rw [hprogress, hheld]
    exact hadds
  · rw [hcount]
    exact congrArg (· + 1) htotal

/-- The engine reads the progress that it holds. -/
theorem gets_since {β : Type} {k : Progress → EngineM (σ × List Call) β}
    {Q : β → EngineState (σ × List Call) → Prop}
    {E : EngineError → EngineState (σ × List Call) → Prop}
    (h : Triple (Since A s) (k s.progress) Q E) :
    Triple (Since A s) (gets EngineState.progress >>= k) Q E := by
  refine Triple.bind (Triple.gets (Q := fun q u => q = s.progress ∧ Since A s u)
    fun u hu => ⟨hu.1.1, hu⟩) fun q => Triple.assume ?_
  intro hq
  subst hq
  exact h

theorem emit_since {event : Event} {E : EngineError → EngineState (σ × List Call) → Prop} :
    Triple (Since A s) (emit event) (fun _ => Since A s) E :=
  Triple.update fun _ hu => hu

theorem recordAdvisory_recorded {step : Step} {key reason : String}
    (h : s.progress.isRecorded step.id = false) :
    Triple (Since Live s) (recordAdvisory (traced b) step key reason)
      (fun _ => Recorded step.id s) (fun _ => Over Quiet s) := by
  refine gets_since ?_
  refine Triple.bind persistProgress_pending fun _ => ?_
  refine Triple.bind setProgress_held fun _ => ?_
  refine Triple.bind emit_held fun _ => ?_
  exact count_recorded (adds_acknowledge h reason) (fun _ => rfl) (fun _ => rfl) fun _ => rfl

theorem recordSkip_recorded {step : Step} {key : String}
    (h : s.progress.isRecorded step.id = false) :
    Triple (Since Live s) (recordSkip (traced b) step key true)
      (fun _ => Recorded step.id s) (fun _ => Over Quiet s) := by
  refine Triple.bind emit_since fun _ => gets_since ?_
  refine Triple.bind persistProgress_pending fun _ => ?_
  refine Triple.bind setProgress_held fun _ => ?_
  exact count_recorded (adds_skipStep h) (fun _ => rfl) (fun _ => rfl)
    fun u => Nat.add_right_comm _ 1 _

theorem completeLiveStep_recorded {step : Step} {key : String}
    (h : s.progress.isRecorded step.id = false) :
    Triple (Since Live s) (completeLiveStep (traced b) step key)
      (fun _ => Recorded step.id s) (fun _ => Over Quiet s) := by
  refine gets_since ?_
  refine Triple.bind (call_since (B := fun _ => Live) fun _ _ hlive => hlive.snoc rfl)
    fun now => ?_
  refine Triple.bind persistProgress_pending fun _ => ?_
  refine Triple.bind setProgress_held fun _ => ?_
  refine Triple.bind emit_held fun _ => ?_
  refine count_recorded (adds_completeStep h now) (fun _ => rfl) (fun _ => rfl) fun u => ?_
  show u.report.completed + 1 + u.report.skipped + u.report.advisories = _
  unfold total
  omega

theorem runLiveStep_recorded (c : Control σ) {step : Step} {key : String}
    {inspection : Inspection} (h : s.progress.isRecorded step.id = false) :
    Triple (Since Live s) (runLiveStep (traced b) digest ⟨step⟩ key inspection)
      (fun _ => Recorded step.id s) (fun _ => Over Quiet s) := by
  cases inspection with
  | unsupported => exact Triple.raise fun u hu => hu.1.mono fun _ h => h.quiet
  | inapplicable => exact recordSkip_recorded h
  | advisory reason => exact recordAdvisory_recorded h
  | satisfied =>
      exact Triple.bind (runLiveOperation_live c) fun _ => completeLiveStep_recorded h
  | needsApply =>
      exact Triple.bind (runLiveOperation_live c) fun _ => completeLiveStep_recorded h

/-- **What an iteration does.**  It passes over a recorded step, records one that was
not, or reports a dry run; an iteration that stops has persisted nothing. -/
theorem runStep_treated {step : Step} :
    Triple (· = s) (runStep (traced b) (lifted c) digest profile step)
      (fun _ => Treated step.id s) (fun _ => Over Quiet s) := by
  refine Triple.bind skipRecordedOrCancelled_spec fun recorded => ?_
  cases recorded with
  | true => exact Triple.ret fun u hu => .inl hu
  | false =>
      refine Triple.assume fun hfresh => ?_
      refine Triple.bind shouldSkipForPolicy_since fun skipped => ?_
      cases skipped with
      | true =>
          refine Triple.bind isDryRun_since fun dry => ?_
          cases dry with
          | true =>
              refine (recordSkip_dry.post fun _ u hu => .inr (.inr hu)).pre ?_
              exact fun u hu => hu.1
          | false => exact (recordSkip_recorded hfresh).post fun _ u hu => .inr (.inl hu)
      | false =>
          refine Triple.bind emit_since fun _ => ?_
          refine Triple.bind (tryCall_since (fun _ _ h => h.snoc rfl trivial)
            fun _ h => h) fun inspection => ?_
          refine Triple.bind isDryRun_since fun dry => ?_
          cases dry with
          | true =>
              refine (reportDryRun_over.post fun _ u hu => .inr (.inr hu)).pre ?_
              exact fun u hu => hu.1
          | false =>
              exact (runLiveStep_recorded c hfresh).post fun _ u hu => .inr (.inl hu)

end

/-! ## Whole runs -/

section

variable {p q stop : Progress} {step : Step} {rest : List Step} {calls calls' : List Call}
  {r : Except EngineError Unit} {n : Nat}

theorem lastStored_append (p : Progress) (calls calls' : List Call) :
    lastStored p (calls ++ calls') = lastStored (lastStored p calls) calls' := by
  unfold lastStored
  rw [stored_append]
  induction stored calls generalizing p with
  | nil => rfl
  | cons q l ih =>
      rw [List.cons_append, List.getLastD_cons, List.getLastD_cons]
      exact ih q

theorem Accounted.nil (p : Progress) : Accounted [] p (.ok ()) [] p 0 where
  held := rfl
  kept _ _ := rfl
  oneByOne := List.isChain_singleton p
  live _ _ := ⟨rfl, fun _ h => by cases h⟩
  dry _ := ⟨fun _ h => (by cases h), rfl⟩

/-- The chain of a longer list of steps. -/
theorem chain_cons {l : List Progress}
    (h : l.IsChain fun p q => ∃ step ∈ rest, ∃ r, Adds p q step.id r) :
    l.IsChain fun p q => ∃ step' ∈ step :: rest, ∃ r, Adds p q step'.id r := by
  refine h.imp ?_
  rintro p q ⟨step', hmem, hadds⟩
  exact ⟨step', List.mem_cons_of_mem _ hmem, hadds⟩

/-- A recorded step changes nothing. -/
theorem Accounted.passed (hrecorded : p.isRecorded step.id = true)
    (h : Accounted rest p r calls stop n) : Accounted (step :: rest) p r calls stop n where
  held := h.held
  kept := h.kept
  oneByOne := chain_cons h.oneByOne
  live hr hlive := by
    obtain ⟨hcount, hall⟩ := h.live hr hlive
    refine ⟨by rw [hcount, openSteps_cons_recorded hrecorded], ?_⟩
    intro step' hmem
    rcases List.mem_cons.mp hmem with rfl | hmem
    · rw [isRecorded_of_records (h.kept _ hrecorded)]
      exact hrecorded
    · exact hall step' hmem
  dry := h.dry

/-- A step that was recorded, and the steps after it. -/
theorem Accounted.recorded {record : Record} (hadds : Adds p q step.id record)
    (hstored : stored calls = [q]) (hlive : .isDryRun false ∈ calls)
    (h : Accounted rest q r calls' stop n) :
    Accounted (step :: rest) p r (calls ++ calls') stop (n + 1) where
  held := by
    have hq : lastStored p calls = q := by
      unfold lastStored
      rw [hstored]
      rfl
    rw [lastStored_append, hq]
    exact h.held
  kept id hid := by
    have hne : id ≠ step.id := by
      intro heq
      rw [heq, hadds.fresh] at hid
      cases hid
    have hq : q.isRecorded id = true := (hadds.isRecorded_iff id).mpr (.inr hid)
    rw [h.kept id hq, hadds.records_eq hne]
  oneByOne := by
    rw [stored_append, hstored]
    refine List.IsChain.cons_cons ⟨step, by simp, record, hadds⟩ ?_
    exact chain_cons h.oneByOne
  live hr hnot := by
    have hnot' : .isDryRun true ∉ calls' := fun hmem => hnot (List.mem_append_right _ hmem)
    obtain ⟨hcount, hall⟩ := h.live hr hnot'
    refine ⟨by rw [hcount, openSteps_cons_added hadds], ?_⟩
    intro step' hmem
    rcases List.mem_cons.mp hmem with rfl | hmem
    · have hq : q.isRecorded step'.id = true := (hadds.isRecorded_iff _).mpr (.inl rfl)
      rw [isRecorded_of_records (h.kept _ hq)]
      exact hq
    · exact hall step' hmem
  dry hnot := absurd (List.mem_append_left _ hlive) hnot

/-- A step of a dry run, and the steps after it. -/
theorem Accounted.reported (hdry : Dry calls) (h : Accounted rest p r calls' stop n) :
    Accounted (step :: rest) p r (calls ++ calls') stop n where
  held := by
    have hp : lastStored p calls = p := by
      unfold lastStored
      rw [hdry.1.1]
      rfl
    rw [lastStored_append, hp]
    exact h.held
  kept := h.kept
  oneByOne := by
    rw [stored_append, hdry.1.1]
    exact chain_cons h.oneByOne
  live _ hnot := absurd (List.mem_append_left _ hdry.2) hnot
  dry hnot := by
    obtain ⟨hall, hsame⟩ := h.dry fun hmem => hnot (List.mem_append_right _ hmem)
    refine ⟨fun call hmem => ?_, hsame⟩
    rcases List.mem_append.mp hmem with hmem | hmem
    · have hobserves := hdry.1.2.resolve_left fun hlive =>
        hnot (List.mem_append_left _ hlive)
      exact hobserves call hmem
    · exact hall call hmem

/-- An iteration that stops the run. -/
theorem Accounted.stopped (hquiet : Quiet calls) (steps : List Step) (e : EngineError) :
    Accounted steps p (.error e) calls p 0 where
  held := by
    unfold lastStored
    rw [hquiet.1]
    rfl
  kept _ _ := rfl
  oneByOne := by
    rw [hquiet.1]
    exact List.isChain_singleton p
  live hr := by cases hr
  dry hnot := ⟨hquiet.2.resolve_left hnot, rfl⟩

end

section

variable {σ : Type} {b : Backend σ} {c : Control σ} {digest : Digest} {profile : Profile}

/-- The accounts of the loop from a state on. -/
theorem forEach_accounted (steps : List Step) (s t : EngineState (σ × List Call))
    (r : Except EngineError Unit)
    (h : forEach (runStep (traced b) (lifted c) digest profile) steps s = (r, t)) :
    ∃ calls counted, t.backend.2 = s.backend.2 ++ calls ∧
      (r = .ok () → .isDryRun true ∉ calls →
        total t.report = total s.report + counted) ∧
      Accounted steps s.progress r calls t.progress counted := by
  induction steps generalizing s with
  | nil =>
      obtain ⟨rfl, rfl⟩ := Prod.mk.inj h
      exact ⟨[], 0, (List.append_nil _).symm, fun _ _ => rfl, Accounted.nil _⟩
  | cons step rest ih =>
      rcases bind_cases h with ⟨e, hstep, rfl⟩ | ⟨_, s₁, hstep, hrest⟩
      · obtain ⟨hsame, calls, hcalls, hquiet⟩ := runStep_treated.error rfl hstep
        refine ⟨calls, 0, hcalls, fun hr => by (cases hr), ?_⟩
        rw [hsame]
        exact Accounted.stopped hquiet _ e
      · obtain ⟨calls, counted, hcalls, hcount, haccounted⟩ := ih s₁ hrest
        have htreated := runStep_treated.ok rfl hstep
        rcases htreated with ⟨hrecorded, rfl⟩ | hadded | hdry
        · exact ⟨calls, counted, hcalls, hcount, haccounted.passed hrecorded⟩
        · obtain ⟨before, record, hbefore, hstored, hlive, hadds, htotal⟩ := hadded
          refine ⟨before ++ calls, counted + 1, ?_, ?_, ?_⟩
          · rw [hcalls, hbefore, List.append_assoc]
          · intro hr hnot
            have hnot' : .isDryRun true ∉ calls :=
              fun hmem => hnot (List.mem_append_right _ hmem)
            have hrestTotal := hcount hr hnot'
            omega
          · exact haccounted.recorded hadds hstored hlive
        · obtain ⟨hsame, before, hbefore, hkind⟩ := hdry
          refine ⟨before ++ calls, counted, ?_, ?_, ?_⟩
          · rw [hcalls, hbefore, List.append_assoc]
          · exact fun _ hnot => absurd (List.mem_append_left _ hkind.2) hnot
          · rw [hsame] at haccounted
            exact haccounted.reported hkind

/-- **The engine's progress is accounted for**, however the run ends. -/
theorem engineAccounts (b : Backend σ) (c : Control σ) (digest : Digest)
    (profile : Profile) (steps : List Step) (start : Progress) (host : σ) :
    match tracedRun b c digest profile steps start host with
    | (r, t) => Accounted steps start r t.backend.2 t.progress (total t.report) := by
  rcases hrun : tracedRun b c digest profile steps start host with ⟨r, t⟩
  obtain ⟨calls, counted, hcalls, hcount, haccounted⟩ := forEach_accounted steps _ t r hrun
  have hsame : t.backend.2 = calls := hcalls.trans (List.nil_append calls)
  show Accounted steps start r t.backend.2 t.progress (total t.report)
  rw [hsame]
  refine { haccounted with live := fun hr hnot => ?_ }
  obtain ⟨hcounted, hall⟩ := haccounted.live hr hnot
  refine ⟨?_, hall⟩
  rw [hcount hr hnot, hcounted]
  exact Nat.zero_add _

end

end FrametimeCfg.Verified.EngineAccounts
