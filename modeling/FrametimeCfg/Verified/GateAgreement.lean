import FrametimeCfg.Domain.Benchmark
import FrametimeCfg.Domain.Orchestration
import FrametimeCfg.Verified.EngineOutcome
import FrametimeCfg.Windows.ActionCatalog

/-!
# Where the engine and the gates part

After Phase 1 a guard asks whether every engine step is resolved, and after
Phase 3 the final benchmark asks the same of its own steps.  The engine has a
notion of its own: a step it has acknowledged as an advisory is finished and
is never looked at again.  The guard of Phase 1 accepts an advisory for two
steps only, and the benchmark for none.

Which runs the gates let through is therefore a matter of the inputs.
`EndsResolved` says of one step that it was completed or skipped before, or
that the engine reaches it afresh and either declines it or can observe it;
the gates pass exactly when it holds of the steps they ask about.
-/

namespace FrametimeCfg.Verified.GateAgreement

open FrametimeCfg.Domain
open FrametimeCfg.Domain.Progress
open FrametimeCfg.Lib.Checks
open FrametimeCfg.Verified.EngineOutcome
open FrametimeCfg.Windows

/-- A run over the step ends with the step completed or skipped. -/
def EndsResolved (profile : Profile) (agrees : Step → Bool) (start : Progress)
    (step : Step) : Prop :=
  start.isCompleted step.id = true ∨ start.isSkipped step.id = true ∨
    start.hasAdvisory step.id = false ∧
      (hasAdvisoryCapability step = false ∨ declines profile agrees step = true)

instance (profile : Profile) (agrees : Step → Bool) (start : Progress)
    (step : Step) : Decidable (EndsResolved profile agrees start step) :=
  inferInstanceAs (Decidable (_ ∨ _ ∨ _ ∧ _))

/-- A run in which nothing but the inspection of each step is known: it is an
advisory exactly where the live descriptor is one. -/
abbrev DescribedAnswers {σ : Type} (b : Backend σ) (c : Control σ)
    (agrees : Step → Bool) (steps : List Step) : Prop :=
  Answers agrees hasAdvisoryCapability b c steps

section

variable {σ : Type} {b : Backend σ} {c : Control σ} {digest : Digest}
  {profile : Profile} {agrees : Step → Bool} {steps : List Step} {step : Step}
  {s t : EngineState σ}

/-- After a run, a step of the run is completed or skipped exactly when it was
bound to be. -/
theorem resolved_iff (h : DescribedAnswers b c agrees steps)
    (hnodup : (steps.map (·.id)).Nodup)
    (hrun : runWithControl b c digest steps profile s = (.ok (), t))
    (hmem : step ∈ steps) :
    (t.progress.isCompleted step.id = true ∨
      t.progress.isSkipped step.id = true) ↔
      EndsResolved profile agrees s.progress step :=
  ((run_result h hnodup hrun).1 step hmem).resolved_iff

/-- After a run, a step of the run is completed, skipped or acknowledged. -/
theorem recorded_of_run (h : DescribedAnswers b c agrees steps)
    (hnodup : (steps.map (·.id)).Nodup)
    (hrun : runWithControl b c digest steps profile s = (.ok (), t))
    (hmem : step ∈ steps) : t.progress.isRecorded step.id = true := by
  have hne := ((run_result h hnodup hrun).1 step hmem).recorded
  by_contra hnone
  rw [Bool.not_eq_true, isRecorded_eq_false_iff] at hnone
  exact hne hnone

end

/-! ## The Phase 1 guard -/

/-- The steps of a role in a phase are listed once. -/
theorem stepsForPhaseAndRole_nodup (phase : Phase) (role : OrchestrationRole) :
    ((stepsForPhaseAndRole phase role).map (·.id)).Nodup :=
  List.Sublist.nodup (List.filter_sublist.map _) stepCatalog_nodup

/-- What the guard asks of a step whose advisory it does not accept. -/
theorem resolvedPhaseOne_iff {p : Progress} {id : StepId}
    (h : phaseOneAdvisoryIsAuthorized id = false) :
    resolvedPhaseOne p id = true ↔
      (p.isCompleted id = true ∨ p.isSkipped id = true) := by
  simp [resolvedPhaseOne, h]

/-- What the guard asks of a step whose advisory it accepts. -/
theorem resolvedPhaseOne_of_recorded {p : Progress} {id : StepId}
    (h : phaseOneAdvisoryIsAuthorized id = true) (hp : p.isRecorded id = true) :
    resolvedPhaseOne p id = true := by
  simpa [resolvedPhaseOne, h, isRecorded] using hp

section

variable {σ : Type} {b : Backend σ} {c : Control σ} {digest : Digest}
  {profile : Profile} {agrees : Step → Bool} {s t : EngineState σ}

private theorem phaseOne_ready_iff
    (h : DescribedAnswers b c agrees (stepsForPhaseAndRole .one .engine))
    (hrun : runWithControl b c digest (stepsForPhaseAndRole .one .engine) profile s =
      (.ok (), t)) :
    requirePhaseOneHandoffReady t.progress = .ok () ↔
      ∀ step ∈ stepsForPhaseAndRole .one .engine,
        phaseOneAdvisoryIsAuthorized step.id = false →
          EndsResolved profile agrees s.progress step := by
  have hnodup := stepsForPhaseAndRole_nodup .one .engine
  rw [requirePhaseOneHandoffReady, requireResolvedPhaseOne, requireSteps_eq_ok]
  constructor
  · intro hready step hmem hguard
    rw [← resolved_iff h hnodup hrun hmem]
    exact (resolvedPhaseOne_iff hguard).mp (hready step hmem)
  · intro hends step hmem
    cases hguard : phaseOneAdvisoryIsAuthorized step.id with
    | true =>
        exact resolvedPhaseOne_of_recorded hguard
          (recorded_of_run h hnodup hrun hmem)
    | false =>
        rw [resolvedPhaseOne_iff hguard, resolved_iff h hnodup hrun hmem]
        exact hends step hmem hguard

/-- **When a finished Phase 1 may go on to P1:38.**  After every live run that
returns, over all Phase 1 engine steps, from any progress and under any
profile and consent: the handoff guard is ready exactly when every step other
than P1:2 and P1:9 was completed or skipped before the run, or was not
recorded and is then declined or observable. -/
theorem phaseOne_handoff_ready_iff
    (h : DescribedAnswers b c agrees (stepsForPhaseAndRole .one .engine))
    (start : Progress) (host : σ)
    (hrun : runWithControl b c digest (stepsForPhaseAndRole .one .engine) profile
      { backend := host, progress := start } = (.ok (), t)) :
    requirePhaseOneHandoffReady t.progress = .ok () ↔
      ∀ step ∈ stepsForPhaseAndRole .one .engine,
        phaseOneAdvisoryIsAuthorized step.id = false →
          EndsResolved profile agrees start step :=
  phaseOne_ready_iff h hrun

/-- **The guard is out of reach of every profile but the custom one.**  A live
run that starts without a record of P1:3 and returns leaves the guard
unready. -/
theorem phaseOne_never_ready (hprofile : profile ≠ .custom)
    (h : DescribedAnswers b c agrees (stepsForPhaseAndRole .one .engine))
    (hstart : s.progress.isRecorded ⟨.one, 3⟩ = false)
    (hrun : runWithControl b c digest (stepsForPhaseAndRole .one .engine) profile s =
      (.ok (), t)) :
    requirePhaseOneHandoffReady t.progress ≠ .ok () := by
  rw [Ne, phaseOne_ready_iff h hrun]
  intro hends
  obtain ⟨step, hmem, hid, hguard, hadvised, htier⟩ :
      ∃ step ∈ stepsForPhaseAndRole .one .engine, step.id = ⟨.one, 3⟩ ∧
        phaseOneAdvisoryIsAuthorized step.id = false ∧
        hasAdvisoryCapability step = true ∧ step.tier = 1 := by decide
  have hauto : declines profile agrees step = false := by
    rw [declines, htier, Profile.decision_tier_one hprofile]
  simp only [isRecorded, Bool.or_eq_false_iff] at hstart
  have hend := hends step hmem hguard
  simp [EndsResolved, hid, hstart, hadvised, hauto] at hend

end

/-! ## The final benchmark gate -/

/-- The final benchmark never refuses the progress for unresolved Phase 3
work: neither the commit does, whatever it is given, nor the validator of the
committed bundle. -/
def GateAccepts (p : Progress) : Prop :=
  (∀ s history config receiptId capturedUtc capture,
    prepareFinalBenchmarkCommit s p history config receiptId capturedUtc capture ≠
      .error unresolvedPhaseThreeMessage) ∧
  (∀ s history capturedUtc,
    validatePersistedFinalBenchmark s
        (p.completeStep PHASE_THREE_FINAL_BENCHMARK capturedUtc) history ≠
      .error unresolvedEarlierWorkMessage)

/-- One of the two texts by which the gate refuses unresolved work. -/
def IsRefusal (message : String) : Prop :=
  message = unresolvedPhaseThreeMessage ∨ message = unresolvedEarlierWorkMessage

section

variable {message : String}

/-- Two texts that start differently. -/
private theorem append_ne_of_head {a b t : String} {c d : Char}
    (ha : a.toList.head? = some c) (ht : t.toList.head? = some d) (h : c ≠ d) :
    a ++ b ≠ t := by
  intro hab
  rw [← hab, String.toList_append, List.head?_append, ha] at ht
  exact h (Option.some.inj ht)

/-- A text that is neither refusal. -/
theorem IsRefusal.ne {text : String} (h : IsRefusal message)
    (htext : text ≠ unresolvedPhaseThreeMessage ∧
      text ≠ unresolvedEarlierWorkMessage) : text ≠ message := by
  rcases h with rfl | rfl
  · exact htext.1
  · exact htext.2

/-- The configuration is not checked under these texts. -/
theorem configError_ne (e : ConfigError) :
    e.message ≠ unresolvedPhaseThreeMessage := by
  have hhead : unresolvedPhaseThreeMessage.toList.head? = some 'f' := by
    decide
  cases e with
  | fpsMeasuredCap => decide
  | fpsVrr => decide
  | cachePath path =>
      show "cache path " ++ path ++ " is not the compiled value" ≠ _
      rw [String.append_assoc]
      exact append_ne_of_head (c := 'c') (by decide) hhead (by decide)
  | shaderCachePath path =>
      show "CS2 shader-cache path " ++ path ++
        " is not in the compiled cache-root allowlist" ≠ _
      rw [String.append_assoc]
      exact append_ne_of_head (c := 'C') (by decide) hhead (by decide)

/-- A receipt is not checked under these texts. -/
theorem receipt_ne (h : IsRefusal message) (r : FinalBenchmarkReceipt) :
    r.validate ≠ .error message := by
  refine bind_ne_error (reject_ne_error (h.ne (by decide))) fun _ => ?_
  refine bind_ne_error (reject_ne_error (h.ne (by decide))) fun _ => ?_
  refine bind_ne_error (reject_ne_error (h.ne (by decide))) fun _ => ?_
  refine bind_ne_error (reject_ne_error (h.ne (by decide))) fun _ => ?_
  exact reject_ne_error (h.ne (by decide))

theorem receiptForTransaction_ne (h : IsRefusal message)
    (r : FinalBenchmarkReceipt) (t : RebootTransaction) :
    r.validateForTransaction t ≠ .error message :=
  bind_ne_error (receipt_ne h r) fun _ =>
    reject_ne_error (h.ne (by decide))

/-- The state is not checked under these texts. -/
theorem state_ne (h : IsRefusal message) (s : State) :
    s.validate ≠ .error message := by
  refine bind_ne_error (reject_ne_error (h.ne (by decide))) fun _ => ?_
  refine bind_ne_error (reject_ne_error (h.ne (by decide))) fun _ => ?_
  refine bind_ne_error (reject_ne_error (h.ne (by decide))) fun _ => ?_
  refine bind_ne_error (reject_ne_error (h.ne (by decide))) fun _ => ?_
  refine bind_ne_error (reject_ne_error (h.ne (by decide))) fun _ => ?_
  split
  · simp
  · refine bind_ne_error (okOr_ne_error (h.ne (by decide))) fun t => ?_
    refine bind_ne_error (reject_ne_error (h.ne (by decide))) fun _ => ?_
    exact receiptForTransaction_ne h _ t

end

/-- The Phase 3 work that the gate asks about. -/
def PhaseThreeResolved (p : Progress) : Prop :=
  ∀ step ∈ phaseThreeEngineSteps,
    p.isCompleted step.id = true ∨ p.isSkipped step.id = true

theorem phaseThreeResolved_iff (p : Progress) :
    PhaseThreeResolved p ↔ phaseThreeEngineSteps.any (unresolvedFor p) = false := by
  simp [PhaseThreeResolved, unresolvedFor, or_iff_not_imp_left]

/-- The commit never refuses resolved work. -/
theorem prepare_ne_of_resolved {p : Progress} (h : PhaseThreeResolved p)
    (hcompleted : p.isCompleted PHASE_THREE_FINAL_BENCHMARK = false)
    (hskipped : p.isSkipped PHASE_THREE_FINAL_BENCHMARK = false) (s history config
      receiptId capturedUtc capture) :
    prepareFinalBenchmarkCommit s p history config receiptId capturedUtc capture ≠
      .error unresolvedPhaseThreeMessage := by
  have hm : IsRefusal unresolvedPhaseThreeMessage := .inl rfl
  rw [phaseThreeResolved_iff] at h
  refine bind_ne_error (mapError_ne_error configError_ne) fun _ => ?_
  refine bind_ne_error (state_ne hm s) fun _ => ?_
  refine bind_ne_error (reject_ne_error (hm.ne (by decide))) fun _ => ?_
  refine bind_ne_error (reject_ne_error (hm.ne (by decide))) fun _ => ?_
  refine bind_ne_error ?_ fun _ => ?_
  · rw [h, hcompleted, hskipped]
    simp
  refine bind_ne_error (okOr_ne_error (hm.ne (by decide))) fun t => ?_
  refine bind_ne_error (reject_ne_error (hm.ne (by decide))) fun _ => ?_
  refine bind_ne_error (okOr_ne_error (hm.ne (by decide))) fun _ => ?_
  refine bind_ne_error (reject_ne_error (hm.ne (by decide))) fun _ => ?_
  refine bind_ne_error (okOr_ne_error (hm.ne (by decide))) fun _ => ?_
  refine bind_ne_error ?_ fun _ => ?_
  · exact bind_ne_error (receipt_ne hm _) fun _ => by simp [pure, Except.pure]
  refine bind_ne_error ?_ fun _ => ?_
  · unfold RebootTransaction.transitionTo
    split
    · simp
    · simpa using hm.ne (by decide)
  refine bind_ne_error (state_ne hm _) fun _ => ?_
  refine bind_ne_error (okOr_ne_error (hm.ne (by decide))) fun _ => ?_
  refine bind_ne_error (reject_ne_error (hm.ne (by decide))) fun _ => ?_
  simp [pure, Except.pure]

/-- The validator never refuses resolved work. -/
theorem validate_ne_of_resolved {p : Progress} (h : PhaseThreeResolved p)
    (s history) :
    validatePersistedFinalBenchmark s p history ≠
      .error unresolvedEarlierWorkMessage := by
  have hm : IsRefusal unresolvedEarlierWorkMessage := .inr rfl
  rw [phaseThreeResolved_iff] at h
  refine bind_ne_error (state_ne hm s) fun _ => ?_
  refine bind_ne_error (okOr_ne_error (hm.ne (by decide))) fun r => ?_
  refine bind_ne_error (okOr_ne_error (hm.ne (by decide))) fun t => ?_
  refine bind_ne_error (reject_ne_error (hm.ne (by decide))) fun _ => ?_
  refine bind_ne_error (receiptForTransaction_ne hm r t) fun _ => ?_
  refine bind_ne_error (reject_ne_error (hm.ne (by decide))) fun _ => ?_
  refine bind_ne_error ?_ fun _ => ?_
  · rw [h]
    simp
  refine bind_ne_error (reject_ne_error (hm.ne (by decide))) fun _ => ?_
  refine bind_ne_error (okOr_ne_error (hm.ne (by decide))) fun _ => ?_
  refine bind_ne_error (reject_ne_error (hm.ne (by decide))) fun _ => ?_
  simp [pure, Except.pure]

/-- Completing P3:13 leaves the earlier work as it was. -/
theorem PhaseThreeResolved.complete {p : Progress} (h : PhaseThreeResolved p)
    (capturedUtc : String) :
    PhaseThreeResolved (p.completeStep PHASE_THREE_FINAL_BENCHMARK capturedUtc) := by
  intro step hmem
  have hne : step.id ≠ PHASE_THREE_FINAL_BENCHMARK := by
    revert step
    decide
  have hrecords : (p.completeStep PHASE_THREE_FINAL_BENCHMARK capturedUtc).records
      step.id = p.records step.id := by
    rw [records_completeStep, Function.update_of_ne hne]
  have hcompleted := congrFun hrecords .completed
  have hskipped := congrFun hrecords .skipped
  simp only [records, isIn] at hcompleted hskipped
  rw [hcompleted, hskipped]
  exact h step hmem

/-- **What the gate accepts.**  Once P3:1 is completed and while P3:13 is not
recorded, the gate accepts exactly the progress whose Phase 3 work is completed
or skipped. -/
theorem gateAccepts_iff {p : Progress}
    (hinstall : p.isCompleted PHASE_THREE_DRIVER_INSTALL = true)
    (hfinal : p.isRecorded PHASE_THREE_FINAL_BENCHMARK = false) :
    GateAccepts p ↔ PhaseThreeResolved p := by
  simp only [isRecorded, Bool.or_eq_false_iff] at hfinal
  constructor
  · intro h
    have hcommit := h.1 {} [] shippedConfig ⟨"00000000000000000000000000000000",
      by decide⟩ "" ⟨F64.zero, F64.zero, 0⟩
    by_contra hunresolved
    rw [phaseThreeResolved_iff, Bool.not_eq_false] at hunresolved
    refine hcommit ?_
    have hstate : ({} : State).validate = .ok () := by decide
    unfold prepareFinalBenchmarkCommit
    rw [shippedConfig_valid, hstate, hinstall, hunresolved]
    rfl
  · intro h
    exact ⟨fun s history config receiptId capturedUtc capture =>
        prepare_ne_of_resolved h hfinal.1.1 hfinal.1.2 _ _ _ _ _ _,
      fun s history capturedUtc => validate_ne_of_resolved (h.complete _) _ _⟩

section

variable {σ : Type} {b : Backend σ} {c : Control σ} {digest : Digest}
  {profile : Profile} {agrees : Step → Bool} {t : EngineState σ}

/-- The steps of the gate are engine steps of Phase 3. -/
theorem mem_engineSteps {step : Step} (h : step ∈ phaseThreeEngineSteps) :
    step ∈ stepsForPhaseAndRole .three .engine := by
  revert step
  decide

/-- **When a finished Phase 3 may go on to the final benchmark.**  After every
live run that returns, over all Phase 3 engine steps, from any progress with
P3:1 completed and P3:13 unrecorded, and under any profile and consent: the
gate accepts the progress exactly when every step it asks about was completed
or skipped before the run, or was not recorded and is then declined or
observable. -/
theorem phaseThree_gate_accepts_iff
    (h : DescribedAnswers b c agrees (stepsForPhaseAndRole .three .engine))
    (start : Progress) (host : σ)
    (hinstall : start.isCompleted PHASE_THREE_DRIVER_INSTALL = true)
    (hfinal : start.isRecorded PHASE_THREE_FINAL_BENCHMARK = false)
    (hrun : runWithControl b c digest (stepsForPhaseAndRole .three .engine) profile
      { backend := host, progress := start } = (.ok (), t)) :
    GateAccepts t.progress ↔
      ∀ step ∈ phaseThreeEngineSteps, EndsResolved profile agrees start step := by
  have hnodup := stepsForPhaseAndRole_nodup .three .engine
  obtain ⟨hsteps, hothers⟩ := run_result h hnodup hrun
  -- The run keeps the completion of P3:1 and does not reach P3:13.
  have hinstall' : t.progress.isCompleted PHASE_THREE_DRIVER_INSTALL = true := by
    obtain ⟨step, hmem, hid⟩ : ∃ step ∈ stepsForPhaseAndRole .three .engine,
        step.id = PHASE_THREE_DRIVER_INSTALL := by decide
    have hkept := hsteps step hmem
    rw [hid] at hkept
    have hbefore : start.records PHASE_THREE_DRIVER_INSTALL ≠ noRecord := by
      intro hnone
      have hrecord : start.isCompleted PHASE_THREE_DRIVER_INSTALL = false :=
        congrFun hnone .completed
      rw [hinstall] at hrecord
      cases hrecord
    exact (congrFun (hkept.eq_of_recorded hbefore) .completed).trans hinstall
  have hfinal' : t.progress.isRecorded PHASE_THREE_FINAL_BENCHMARK = false := by
    rw [isRecorded_eq_false_iff] at hfinal ⊢
    exact (hothers _ (by decide)).trans hfinal
  rw [gateAccepts_iff hinstall' hfinal']
  constructor
  · intro hresolved step hmem
    exact (resolved_iff h hnodup hrun (mem_engineSteps hmem)).mp
      (hresolved step hmem)
  · intro hends step hmem
    exact (resolved_iff h hnodup hrun (mem_engineSteps hmem)).mpr
      (hends step hmem)

end

/-! ## A host whose inspections are as described -/

/-- The inspection that the live descriptor of a step dictates. -/
def describedInspection (step : Step) : Except String Inspection :=
  (descriptorFor step).map fun descriptor =>
    match descriptor.capability with
    | .advisory reason => .advisory reason
    | .supported => .inapplicable

/-- A cooperative host with the inspections that the descriptors dictate. -/
def describedBackend : Backend Unit :=
  { cooperativeBackend with
    inspect := fun operation host => (describedInspection operation.step, host) }

/-- A user who answers every question in the same way. -/
def answering (answer : Bool) : Control Unit where
  consent _ _ := (answer, ())
  cancelled _ := (false, ())

theorem describedBackend_answers (answer : Bool) (steps : List Step) :
    DescribedAnswers describedBackend (answering answer) (fun _ => answer) steps where
  live _ := rfl
  consent _ _ _ := rfl
  inspection step _ host inspection h := by
    have h' : describedInspection step = .ok inspection := h
    unfold describedInspection at h'
    unfold hasAdvisoryCapability
    cases hdescriptor : descriptorFor step with
    | error message => rw [hdescriptor] at h'; cases h'
    | ok descriptor =>
        rw [hdescriptor] at h'
        cases hcapability : descriptor.capability with
        | supported =>
            simp only [Except.map, hcapability, Except.ok.injEq] at h'
            simp [← h', Except.toOption, hcapability, Capability.isAdvisory]
        | advisory reason =>
            simp only [Except.map, hcapability, Except.ok.injEq] at h'
            simp [← h', Except.toOption, hcapability, Capability.isAdvisory]

/-- The run of a phase on that host, from some progress. -/
def describedRun (phase : Phase) (profile : Profile) (answer : Bool)
    (start : Progress) : Except EngineError Unit × EngineState Unit :=
  runWithControl describedBackend (answering answer)
    (fun _ => .error .invalidReceiptId) (stepsForPhaseAndRole phase .engine)
    profile { backend := (), progress := start }

theorem describedRun_eq {phase : Phase} {profile : Profile} {answer : Bool}
    {start : Progress} (h : (describedRun phase profile answer start).1 = .ok ()) :
    runWithControl describedBackend (answering answer)
        (fun _ => .error .invalidReceiptId) (stepsForPhaseAndRole phase .engine)
        profile { backend := (), progress := start } =
      (.ok (), (describedRun phase profile answer start).2) :=
  Prod.ext h rfl

/-- A user who declines everything reaches the guard. -/
theorem phaseOne_handoff_ready_declining :
    requirePhaseOneHandoffReady
      (describedRun .one .custom false {}).2.progress = .ok () := by
  have hrun : (describedRun .one .custom false {}).1 = .ok () := by decide +kernel
  rw [phaseOne_handoff_ready_iff (describedBackend_answers false _) {} ()
    (describedRun_eq hrun)]
  decide +kernel

/-- Under the default profile a run from no progress returns, and P1:3 keeps
the guard from being ready. -/
theorem phaseOne_handoff_unready :
    DescribedAnswers describedBackend (answering true) (fun _ => true)
        (stepsForPhaseAndRole .one .engine) ∧
      (describedRun .one .recommended true {}).1 = .ok () ∧
      requirePhaseOneHandoffReady
          (describedRun .one .recommended true {}).2.progress =
        .error (.missingResolvedPhaseOneStep 3) :=
  ⟨describedBackend_answers true _, by decide +kernel, by decide +kernel⟩

/-- Progress with the driver installed. -/
def installedProgress : Progress :=
  ({} : Progress).completeStep PHASE_THREE_DRIVER_INSTALL "2026-08-10 12:00:00"

/-- A user who declines the rest of Phase 3 reaches the final benchmark. -/
theorem phaseThree_gate_accepts_declining :
    GateAccepts (describedRun .three .custom false installedProgress).2.progress := by
  have hrun : (describedRun .three .custom false installedProgress).1 = .ok () := by
    decide +kernel
  rw [phaseThree_gate_accepts_iff (describedBackend_answers false _)
    installedProgress () (by decide +kernel) (by decide +kernel)
    (describedRun_eq hrun)]
  decide +kernel

/-- Under the safe profile a run returns, and the advisory of P3:7 keeps the
final benchmark from being committed. -/
theorem phaseThree_gate_refuses :
    DescribedAnswers describedBackend (answering true) (fun _ => true)
        (stepsForPhaseAndRole .three .engine) ∧
      installedProgress.isCompleted PHASE_THREE_DRIVER_INSTALL = true ∧
      installedProgress.isRecorded PHASE_THREE_FINAL_BENCHMARK = false ∧
      (describedRun .three .safe true installedProgress).1 = .ok () ∧
      (describedRun .three .safe true installedProgress).2.progress.hasAdvisory
        ⟨.three, 7⟩ = true ∧
      prepareFinalBenchmarkCommit armedState
          (describedRun .three .safe true installedProgress).2.progress []
          shippedConfig sampleReceiptId "2026-08-10 12:34:56"
          ⟨F64.ofNat 300, F64.ofNat 180, 3⟩ =
        .error unresolvedPhaseThreeMessage :=
  ⟨describedBackend_answers true _, by decide +kernel, by decide +kernel,
    by decide +kernel, by decide +kernel, by decide +kernel⟩

end FrametimeCfg.Verified.GateAgreement
