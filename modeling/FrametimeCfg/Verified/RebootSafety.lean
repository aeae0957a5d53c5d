import FrametimeCfg.Verified.RebootRetry
import FrametimeCfg.Verified.RebootRuns
import Mathlib.Logic.Relation

/-!
# Safety of the reboot transaction over whole runs

In every state that a run of the workflow reaches:

* the transaction keeps its identifier, and its stage only moves along the
  allowed transitions (`TransactionMoves`);
* a stage that is not one of the program, or `recoveryRequired`, admits no
  request that needs a stage, and no request is admitted on evidence that is
  unavailable;
* the Run value of Phase 3 is deleted only with Phase 2 completed and the
  final benchmark of the same transaction validated (`HandoffMayGo`).

What carries the last part across the checkpoints is `PhaseTwoRecorded`: the
stage says which steps of Phase 2 are recorded.  Direct calls keep it at every
stage.  Interrupted calls can leave the stage ahead of the progress, and then
it is `authorize` that keeps the final benchmark from going on.
-/

namespace FrametimeCfg.Verified.RebootSafety

open FrametimeCfg.Domain FrametimeCfg.Windows
open FrametimeCfg.Lib.Checks
open FrametimeCfg.Lib.Journal
open FrametimeCfg.Verified.Authorization
open FrametimeCfg.Verified.CheckpointRuns
open FrametimeCfg.Verified.Checkpoints
open FrametimeCfg.Verified.EngineRecords
open FrametimeCfg.Verified.FinalBenchmark
open FrametimeCfg.Verified.FinalBenchmarkRetry
open FrametimeCfg.Verified.RebootRuns
open FrametimeCfg.Verified.Reload
open Relation

/-! ## Authorization -/

/-- The request needs a stage of the transaction. -/
def NeedsStage : PhaseRequest → Prop
  | .optimize | .armSafeMode => False
  | .phaseTwo | .phaseThree | .finalBenchmark | .clearPhaseThreeHandoff => True

/-- The request needs a verified selected runtime. -/
def NeedsRuntime : PhaseRequest → Prop
  | .optimize | .clearPhaseThreeHandoff => False
  | .armSafeMode | .phaseTwo | .phaseThree | .finalBenchmark => True

/-- The evidence that a request consults. -/
def consulted (facts : PhaseFacts) : PhaseRequest → List Evidence
  | .optimize =>
      [facts.handoff.phaseTwoRunOnce, facts.handoff.phaseThreeRun, facts.handoff.safeBoot]
  | .armSafeMode => []
  | .phaseTwo => [facts.handoff.phaseTwoRunOnce, facts.handoff.safeBoot]
  | .phaseThree | .finalBenchmark =>
      [facts.handoff.phaseThreeRun, facts.handoff.phaseThreeSameUser]
  | .clearPhaseThreeHandoff =>
      [facts.handoff.phaseThreeRun, facts.handoff.phaseThreeSameUser,
        facts.finalBenchmarkPersisted]

section

variable {s : State} {p : Progress} {facts facts' : PhaseFacts} {request : PhaseRequest}
  {transition : Transition}

/-- No other evidence matters to the request. -/
theorem authorize_congr (hboot : facts'.boot = facts.boot)
    (hruntime : facts'.runtime = facts.runtime)
    (hready : facts'.phaseOneSafeModeReady = facts.phaseOneSafeModeReady)
    (hevidence : consulted facts' request = consulted facts request) :
    authorize request s p facts' = authorize request s p facts := by
  cases request <;>
    simp only [consulted, List.cons.injEq, and_true] at hevidence <;>
    simp only [authorize, requireCleanRebootState, hboot, hruntime, hready, hevidence]

/-- What is admitted was admitted on available evidence. -/
theorem consulted_available (h : authorize request s p facts = .ok transition) :
    ∀ evidence ∈ consulted facts request, evidence ≠ .unavailable := by
  have hlist : ∀ evidence ∈ consulted facts request,
      evidence = .verified ∨ evidence = .absent := by
    cases request with
    | optimize =>
        obtain ⟨-, h₁, h₂, h₃, -⟩ := authorize_optimize.mp h
        simp [consulted, h₁, h₂, h₃]
    | armSafeMode => simp [consulted]
    | phaseTwo =>
        obtain ⟨hready, ⟨-, -, hsafe, -⟩ | ⟨-, -, -, hsafe, -⟩⟩ := authorize_phaseTwo.mp h
        · simp [consulted, hready.handoff, hsafe]
        · simp [consulted, hready.handoff, hsafe]
    | phaseThree =>
        obtain ⟨hready, -⟩ := authorize_phaseThree.mp h
        simp [consulted, hready.handoff, hready.sameUser]
    | finalBenchmark =>
        obtain ⟨hready, -⟩ := authorize_finalBenchmark.mp h
        simp [consulted, hready.handoff, hready.sameUser]
    | clearPhaseThreeHandoff =>
        obtain ⟨-, hrun, huser, -, -, hfinal, -⟩ := authorize_clearPhaseThreeHandoff.mp h
        simp [consulted, hrun, huser, hfinal]
  intro evidence hmem
  rcases hlist evidence hmem with rfl | rfl <;> decide

/-- What needs a runtime is admitted with a verified one. -/
theorem runtime_verified (h : authorize request s p facts = .ok transition)
    (hneeds : NeedsRuntime request) : facts.runtime = .verifiedSelectedExecutable := by
  cases request with
  | optimize => exact hneeds.elim
  | armSafeMode => exact (authorize_armSafeMode.mp h).2.2.1
  | phaseTwo => exact (authorize_phaseTwo.mp h).1.runtime
  | phaseThree => exact (authorize_phaseThree.mp h).1.runtime
  | finalBenchmark => exact (authorize_finalBenchmark.mp h).1.runtime
  | clearPhaseThreeHandoff => exact hneeds.elim

/-- The stages in which work goes on. -/
def WorkingStage : RebootStage → Prop
  | .phaseOneSafeModeArmed | .phaseTwoSafeMode | .phaseThreeArmed
  | .phaseThreeComplete => True
  | .recoveryRequired | .unknown _ => False

/-- What needs a stage is admitted in a working stage. -/
theorem stage_working (h : authorize request s p facts = .ok transition)
    (hneeds : NeedsStage request) : ∃ stage, WorkingStage stage ∧ AtStage s stage := by
  cases request with
  | optimize => exact hneeds.elim
  | armSafeMode => exact hneeds.elim
  | phaseTwo =>
      obtain ⟨-, ⟨-, hstage, -⟩ | ⟨-, -, hstage, -⟩⟩ := authorize_phaseTwo.mp h
      · exact ⟨.phaseTwoSafeMode, trivial, hstage⟩
      · exact ⟨.phaseOneSafeModeArmed, trivial, hstage⟩
  | phaseThree => exact ⟨.phaseThreeArmed, trivial, (authorize_phaseThree.mp h).2.1⟩
  | finalBenchmark =>
      obtain ⟨-, hstage | hstage, -⟩ := authorize_finalBenchmark.mp h
      · exact ⟨.phaseThreeArmed, trivial, hstage⟩
      · exact ⟨.phaseThreeComplete, trivial, hstage⟩
  | clearPhaseThreeHandoff =>
      exact ⟨.phaseThreeComplete, trivial, (authorize_clearPhaseThreeHandoff.mp h).1⟩

/-- **No authority outside the working stages.** -/
theorem not_authorized_of_stage {t : RebootTransaction}
    (ht : s.activeRebootTransaction = some t) (hstage : ¬ WorkingStage t.stage)
    (hneeds : NeedsStage request) : authorize request s p facts ≠ .ok transition := by
  intro h
  obtain ⟨stage, hworking, t', ht', hauth⟩ := stage_working h hneeds
  obtain rfl := Option.some.inj (ht.symm.trans ht')
  rw [RebootTransaction.stage_of_isAuthorizedAt hauth] at hstage
  exact hstage hworking

end

/-! ## The transaction along a run -/

/-- Some allowed transitions lead from one stage to the other. -/
def StageMoves : RebootStage → RebootStage → Prop :=
  ReflTransGen fun stage stage' => stage.allowsTransitionTo stage' = true

/-- A transaction that the first state has, the second one has by the same
identifier, and its stage moved along allowed transitions. -/
def TransactionMoves (s s' : State) : Prop :=
  ∀ t, s.activeRebootTransaction = some t →
    ∃ t', s'.activeRebootTransaction = some t' ∧
      t'.transactionId = t.transactionId ∧ StageMoves t.stage t'.stage

theorem TransactionMoves.refl (s : State) : TransactionMoves s s :=
  fun t ht => ⟨t, ht, rfl, ReflTransGen.refl⟩

theorem TransactionMoves.trans {s s' s'' : State} (h : TransactionMoves s s')
    (h' : TransactionMoves s' s'') : TransactionMoves s s'' := by
  intro t ht
  obtain ⟨t', ht', hid, hstage⟩ := h t ht
  obtain ⟨t'', ht'', hid', hstage'⟩ := h' t' ht'
  exact ⟨t'', ht'', hid'.trans hid, hstage.trans hstage'⟩

/-- All steps of Phase 2 are completed. -/
def PhaseTwoDone (p : Progress) : Prop :=
  ∀ step ∈ stepsOfPhase .two, p.isCompleted step.id = true

/-- The steps of Phase 2. -/
theorem phaseTwo_steps : ∀ step ∈ stepsOfPhase .two,
    step.id = PHASE_TWO_SAFE_BOOT_CLEAR ∨ step.id = PHASE_TWO_DRIVER_CLEANUP ∨
      step.id = PHASE_TWO_PHASE_THREE_HANDOFF := by
  decide

/-- The stage says which steps of Phase 2 are recorded; before the end of
Phase 3 it does so for direct calls only. -/
def PhaseTwoRecorded (discipline : Discipline) (s : State) (p : Progress) : Prop :=
  ∀ t, s.activeRebootTransaction = some t →
    (t.stage = .phaseThreeComplete → PhaseTwoDone p) ∧
    (discipline = .direct → t.stage = .phaseTwoSafeMode →
      p.isCompleted PHASE_TWO_SAFE_BOOT_CLEAR = true) ∧
    (discipline = .direct → t.stage = .phaseThreeArmed → PhaseTwoDone p)

theorem PhaseTwoDone.mono {p q : Progress} (h : PhaseTwoDone p)
    (hpq : ∀ id, p.isCompleted id = true → q.isCompleted id = true) : PhaseTwoDone q :=
  fun step hstep => hpq _ (h step hstep)

/-- More completed steps do no harm. -/
theorem PhaseTwoRecorded.mono {discipline : Discipline} {s : State} {p q : Progress}
    (h : PhaseTwoRecorded discipline s p)
    (hpq : ∀ id, p.isCompleted id = true → q.isCompleted id = true) :
    PhaseTwoRecorded discipline s q := by
  intro t ht
  obtain ⟨hcomplete, hsafe, harmed⟩ := h t ht
  refine ⟨?_, ?_, ?_⟩
  · exact fun hstage => (hcomplete hstage).mono hpq
  · exact fun hd hstage => hpq _ (hsafe hd hstage)
  · exact fun hd hstage => (harmed hd hstage).mono hpq

theorem isCompleted_mono (p : Progress) (id : StepId) (now : String) (j : StepId)
    (h : p.isCompleted j = true) : (p.completeStep id now).isCompleted j = true := by
  rw [Progress.isCompleted_completeStep]
  exact Or.inr h

/-- What holds in every state of a run. -/
structure Invariant (discipline : Discipline) (s : State) (p : Progress) : Prop where
  state : StableState s
  progress : StableProgress p
  recorded : PhaseTwoRecorded discipline s p

/-- A step of a checkpoint: from the old two files to the new ones. -/
structure FileStep (discipline : Discipline) (s : State) (p : Progress)
    (s' : State) (p' : Progress) : Prop where
  moves : TransactionMoves s s'
  invariant : Invariant discipline s' p'

/-! ## Checkpoints keep the invariant -/

/-- A valid state has no second transaction among its unknown fields. -/
private theorem unknown_of_valid {s : State} (h : s.validate = .ok ()) :
    s.unknown["activeRebootTransaction"]? = none := by
  have hreject := (check_bind_eq_ok.mp h).1
  rw [reject_eq_ok] at hreject
  exact Std.ExtTreeMap.getElem?_eq_none_of_contains_eq_false hreject

/-- Another stable transaction keeps a valid state stable. -/
theorem stableState_of_transaction {s s' : State} {t : RebootTransaction}
    (hvalid : s.validate = .ok ()) (hunknown : s'.unknown = s.unknown)
    (ht : s'.activeRebootTransaction = some t) (hstable : StableTransaction t) :
    StableState s' := by
  have hnone : s'.unknown["activeRebootTransaction"]? = none := by
    rw [hunknown]
    exact unknown_of_valid hvalid
  refine ⟨?_, ?_⟩
  · intro t' ht'
    obtain rfl := Option.some.inj (ht.symm.trans ht')
    exact ⟨hstable, hnone⟩
  · rw [hnone]
    rfl

/-- The transaction that P1:38 arms is stable. -/
theorem stable_armedTransaction {ses : Session} {sid : String} {s : State}
    {t : RebootTransaction} (hs : StableState s)
    (h : armedTransaction ses sid s = .ok t) : StableTransaction t := by
  cases hactive : s.activeRebootTransaction with
  | some existing =>
      obtain rfl := armedTransaction_of_some h hactive
      exact (hs.transaction _ hactive).1
  | none =>
      rw [armedTransaction, hactive] at h
      obtain ⟨id, -, h⟩ := bind_eq_ok.mp h
      obtain ⟨-, hreturn⟩ := check_bind_eq_ok.mp h
      obtain rfl := Except.ok.inj hreturn
      refine ⟨?_, parse_asStr (by simp)⟩
      intro k _
      exact Std.ExtTreeMap.getElem?_empty

/-- One allowed transition, with the identifier kept. -/
private theorem moves_one {s s' : State} {t t' : RebootTransaction}
    (ht : s.activeRebootTransaction = some t) (ht' : s'.activeRebootTransaction = some t')
    (hid : t'.transactionId = t.transactionId)
    (hallows : t.stage.allowsTransitionTo t'.stage = true) : TransactionMoves s s' := by
  intro t₀ ht₀
  obtain rfl := Option.some.inj (ht.symm.trans ht₀)
  exact ⟨t', ht', hid, ReflTransGen.single hallows⟩

section

variable {discipline : Discipline} {ses : Session} {d : Durable} {p' : Progress}

theorem fileStep_armSafeMode {sid : String} {t : RebootTransaction}
    (hinv : Invariant discipline d.state d.progress) (hreadable : Readable d.state)
    (ht : armedTransaction ses sid d.state = .ok t) (hp' : StableProgress p') :
    FileStep discipline d.state d.progress (armedSafeModeState d.state t) p' := by
  have hstage := stage_of_armedTransaction ht
  refine ⟨?_, ?_, hp', ?_⟩
  · intro t₀ ht₀
    obtain rfl := armedTransaction_of_some ht ht₀
    exact ⟨_, rfl, rfl, ReflTransGen.refl⟩
  · exact stableState_of_transaction hreadable.valid rfl rfl
      (stable_armedTransaction hinv.state ht)
  · intro t' ht'
    obtain rfl : t = t' := Option.some.inj ht'
    simp [hstage]

theorem fileStep_clearSafeBoot {t : RebootTransaction}
    (hinv : Invariant discipline d.state d.progress) (hreadable : Readable d.state)
    (howned : OwnedAt ses d.state t .phaseOneSafeModeArmed) (hp' : StableProgress p')
    (hdone : discipline = .direct → p'.isCompleted PHASE_TWO_SAFE_BOOT_CLEAR = true) :
    FileStep discipline d.state d.progress
      (withTransaction d.state { t with stage := .phaseTwoSafeMode }) p' := by
  have hstage := RebootTransaction.stage_of_isAuthorizedAt howned.2.1
  have hstable := (hinv.state.transaction t howned.1).1
  refine ⟨moves_one howned.1 rfl rfl ?_, ?_, hp', ?_⟩
  · rw [hstage]
    rfl
  · exact stableState_of_transaction hreadable.valid rfl rfl
      (hstable.withStage rfl (parse_asStr (by simp)))
  · intro t' ht'
    obtain rfl := Option.some.inj ht'
    refine ⟨?_, fun hd _ => hdone hd, ?_⟩
    · intro hfalse
      cases hfalse
    · intro _ hfalse
      cases hfalse

theorem fileStep_armPhaseThree {t : RebootTransaction}
    (hinv : Invariant discipline d.state d.progress) (hreadable : Readable d.state)
    (howned : OwnedAt ses d.state t .phaseTwoSafeMode) (hp' : StableProgress p')
    (hdone : discipline = .direct → PhaseTwoDone p') :
    FileStep discipline d.state d.progress
      (withTransaction d.state { t with stage := .phaseThreeArmed }) p' := by
  have hstage := RebootTransaction.stage_of_isAuthorizedAt howned.2.1
  have hstable := (hinv.state.transaction t howned.1).1
  refine ⟨moves_one howned.1 rfl rfl ?_, ?_, hp', ?_⟩
  · rw [hstage]
    rfl
  · exact stableState_of_transaction hreadable.valid rfl rfl
      (hstable.withStage rfl (parse_asStr (by simp)))
  · intro t' ht'
    obtain rfl := Option.some.inj ht'
    refine ⟨?_, ?_, fun hd _ => hdone hd⟩
    · intro hfalse
      cases hfalse
    · intro _ hfalse
      cases hfalse

/-- The transaction of the final benchmark, in the state it was found in. -/
theorem source_transaction {s source : State} {capture : BenchmarkCapture}
    {t : RebootTransaction} (h : sourceState s capture = .ok source)
    (ht : source.activeRebootTransaction = some t) (harmed : t.stage = .phaseThreeArmed) :
    ∃ t₀, s.activeRebootTransaction = some t₀ ∧
      (t₀.stage = .phaseThreeArmed ∨ t₀.stage = .phaseThreeComplete) ∧
      t.transactionId = t₀.transactionId ∧ t.unknown = t₀.unknown ∧
      source.unknown = s.unknown := by
  rcases sourceState_eq_ok.mp h with ⟨-, -, rfl⟩ | ⟨receipt, t₀, -, hfound, ht₀, rfl⟩
  · exact ⟨t, ht, Or.inl harmed, rfl, rfl, rfl⟩
  · obtain rfl := Option.some.inj ht
    refine ⟨t₀, ht₀, Or.inr ?_, rfl, rfl, rfl⟩
    rw [validatePartialFinalState, check_bind_eq_ok, check_bind_eq_ok, reject_eq_ok] at hfound
    have hstage := hfound.2.1
    simpa [ht₀] using hstage

theorem fileStep_finalBenchmark {config : Config} {capture : BenchmarkCapture}
    {source : State} {clean : List BenchmarkRecord} {t : RebootTransaction}
    {receipt : FinalBenchmarkReceipt}
    (hinv : Invariant discipline d.state d.progress) (hreadable : Readable d.state)
    (hrec : Reconciled d.state d.progress config capture source clean t receipt)
    (hp' : StableProgress p') (hdone : PhaseTwoDone p') :
    FileStep discipline d.state d.progress (committedState source t receipt) p' := by
  have hstage := RebootTransaction.stage_of_isAuthorizedAt hrec.commits.authorized
  obtain ⟨t₀, ht₀, hstage₀, hid, hunknown, hrest⟩ :=
    source_transaction hrec.sourceFound hrec.commits.transaction hstage
  have hstable := (hinv.state.transaction t₀ ht₀).1
  refine ⟨?_, ?_, hp', ?_⟩
  · rcases hstage₀ with hstage₀ | hstage₀
    · refine moves_one ht₀ rfl hid ?_
      rw [hstage₀]
      rfl
    · intro t₁ ht₁
      obtain rfl := Option.some.inj (ht₀.symm.trans ht₁)
      refine ⟨_, rfl, hid, ?_⟩
      rw [hstage₀]
      exact ReflTransGen.refl
  · exact stableState_of_transaction hreadable.valid hrest rfl
      (hstable.withStage hunknown (parse_asStr (by simp)))
  · intro t' ht'
    obtain rfl := Option.some.inj ht'
    refine ⟨fun _ => hdone, ?_, ?_⟩
    · intro _ hfalse
      cases hfalse
    · intro _ hfalse
      cases hfalse

end

/-! ## One step -/

section

variable {discipline : Discipline} {d d' : Durable}

theorem stable_completeStep {p : Progress} (h : StableProgress p) (id : StepId)
    (now : String) : StableProgress (p.completeStep id now) := h

/-- The request for the final benchmark establishes Phase 2. -/
theorem phaseTwoDone_of_admitted {config : Config}
    {draws : List (Except String TransactionId)} {now : String}
    {capture : BenchmarkCapture}
    (h : Admitted (.finalBenchmark config draws now capture) d) : PhaseTwoDone d.progress := by
  obtain ⟨d₀, facts, transition, hauth, hrun⟩ := h
  have hready := (authorize_finalBenchmark.mp hauth).1
  have hdone : PhaseTwoDone d₀.progress := requireSteps_eq_ok.mp hready.phaseTwo
  rcases hrun with rfl | hrun
  · exact hdone
  · obtain ⟨q, hq, rfl⟩ := engineRun_progress hrun
    exact hdone.mono fun _ hid => hq.isCompleted hid

/-- P2:1 by its stage, P2:2 by its key and P2:3 by the call itself. -/
theorem phaseTwoDone_of_armPhaseThree {p : Progress} (now : String)
    (hclear : p.isCompleted PHASE_TWO_SAFE_BOOT_CLEAR = true)
    (hcleaned : Progress.key 2 2 ∈ p.completedSteps) :
    PhaseTwoDone (p.completeStep PHASE_TWO_PHASE_THREE_HANDOFF now) := by
  have hcleanup : p.isCompleted PHASE_TWO_DRIVER_CLEANUP = true := by
    show decide (Progress.keyFor PHASE_TWO_DRIVER_CLEANUP ∈ p.completedSteps) = true
    exact decide_eq_true hcleaned
  intro step hstep
  rw [Progress.isCompleted_completeStep]
  rcases phaseTwo_steps step hstep with h | h | h
  · exact Or.inr (h ▸ hclear)
  · exact Or.inr (h ▸ hcleanup)
  · exact Or.inl h

/-- **The files of a call.**  A direct call leaves both, an interrupted one may
leave the old progress. -/
theorem fileStep_of_moves {call : CheckpointCall} {s : State} {p p' : Progress}
    (hinv : Invariant discipline d.state d.progress) (hm : Moves d call s p)
    (hp' : p' = p ∨ (discipline = .admitted ∧ p' = d.progress))
    (hadmitted : discipline = .admitted → Admitted call d) :
    FileStep discipline d.state d.progress s p' := by
  have hdirect : discipline = .direct → p' = p := by
    intro hd
    rcases hp' with hp' | ⟨hd', -⟩
    · exact hp'
    · rw [hd] at hd'
      cases hd'
  cases hm with
  | armSafeMode ses sid t hreadable ht =>
      refine fileStep_armSafeMode hinv hreadable ht ?_
      rcases hp' with rfl | ⟨-, rfl⟩
      · exact stable_completeStep hinv.progress _ _
      · exact hinv.progress
  | clearSafeBoot ses t hreadable howned =>
      refine fileStep_clearSafeBoot hinv hreadable howned ?_ ?_
      · rcases hp' with rfl | ⟨-, rfl⟩
        · exact stable_completeStep hinv.progress _ _
        · exact hinv.progress
      · intro hd
        rw [hdirect hd, Progress.isCompleted_completeStep]
        exact Or.inl rfl
  | armPhaseThree ses t hreadable howned hcleaned =>
      refine fileStep_armPhaseThree hinv hreadable howned ?_ ?_
      · rcases hp' with rfl | ⟨-, rfl⟩
        · exact stable_completeStep hinv.progress _ _
        · exact hinv.progress
      · intro hd
        have hstage := RebootTransaction.stage_of_isAuthorizedAt howned.2.1
        have hclear := (hinv.recorded t howned.1).2.1 hd hstage
        rw [hdirect hd]
        exact phaseTwoDone_of_armPhaseThree _ hclear hcleaned
  | finalBenchmark config draws now capture source clean t receipt hreadable hrec =>
      have hphase : PhaseTwoDone d.progress := by
        cases hd : discipline with
        | admitted => exact phaseTwoDone_of_admitted (hadmitted hd)
        | direct =>
            have hstage := RebootTransaction.stage_of_isAuthorizedAt hrec.commits.authorized
            obtain ⟨t₀, ht₀, hstage₀, -⟩ :=
              source_transaction hrec.sourceFound hrec.commits.transaction hstage
            obtain ⟨hcomplete, -, harmed⟩ := hinv.recorded t₀ ht₀
            rcases hstage₀ with hstage₀ | hstage₀
            · exact harmed hd hstage₀
            · exact hcomplete hstage₀
      refine fileStep_finalBenchmark hinv hreadable hrec ?_ ?_
      · rcases hp' with rfl | ⟨-, rfl⟩
        · exact stable_completeStep hinv.progress _ _
        · exact hinv.progress
      · rcases hp' with rfl | ⟨-, rfl⟩
        · exact hphase.mono fun id hid => isCompleted_mono _ _ _ id hid
        · exact hphase

theorem FileStep.refl {s : State} {p : Progress} (h : Invariant discipline s p) :
    FileStep discipline s p s p :=
  ⟨TransactionMoves.refl s, h⟩

/-- The end or an interruption of a call, from what it leaves in the files. -/
theorem fileStep_of_call {call : CheckpointCall}
    (hinv : Invariant discipline d.state d.progress)
    (hadmitted : discipline = .admitted → Admitted call d)
    (hleft : d' = after d (call.writes d) ∨
      (discipline = .admitted ∧ ∃ k, d' = crash d (call.writes d) k)) :
    FileStep discipline d.state d.progress d'.state d'.progress := by
  have hsame : files d' = files d →
      FileStep discipline d.state d.progress d'.state d'.progress := by
    intro hfiles
    have hstate : d'.state = d.state := congrArg Prod.fst hfiles
    have hprogress : d'.progress = d.progress := congrArg Prod.snd hfiles
    rw [hstate, hprogress]
    exact FileStep.refl hinv
  rcases writes_cases call d with hnone | ⟨ses, sid, phase3, t, receipt, -, -, hdelete⟩ |
    ⟨s, p, hm, hwrites⟩
  · refine hsame ?_
    rcases hleft with rfl | ⟨-, k, rfl⟩
    · rw [hnone, after_nil]
    · rw [hnone, crash_nil]
  · refine hsame ?_
    rw [hdelete] at hleft
    rcases hleft with rfl | ⟨-, k, rfl⟩
    · rfl
    · cases k with
      | zero => rfl
      | succ k =>
          rw [crash_cons_succ, crash_nil]
          rfl
  · have hnew : ∀ p', files d' = (s, p') →
        p' = p ∨ (discipline = .admitted ∧ p' = d.progress) →
        FileStep discipline d.state d.progress d'.state d'.progress := by
      intro p' hfiles hp'
      have hstate : d'.state = s := congrArg Prod.fst hfiles
      have hprogress : d'.progress = p' := congrArg Prod.snd hfiles
      rw [hstate, hprogress]
      exact fileStep_of_moves hinv hm hp' hadmitted
    rcases hleft with rfl | ⟨hd, k, rfl⟩
    · exact hnew p hwrites.finished (Or.inl rfl)
    · rcases hwrites.stopped k with h | h | h
      · exact hsame h
      · exact hnew _ h (Or.inr ⟨hd, rfl⟩)
      · exact hnew _ h (Or.inl rfl)

/-- **One step** moves the transaction and keeps the invariant. -/
theorem fileStep_of_step (h : RebootStep discipline d d')
    (hinv : Invariant discipline d.state d.progress) :
    FileStep discipline d.state d.progress d'.state d'.progress := by
  cases h with
  | direct call _ hd =>
      refine fileStep_of_call hinv ?_ (Or.inl rfl)
      intro hd'
      rw [hd] at hd'
      cases hd'
  | admitted call _ k hd hadmitted =>
      exact fileStep_of_call hinv (fun _ => hadmitted) (Or.inr ⟨hd, k, rfl⟩)
  | engine _ _ hrun =>
      obtain ⟨q, hq, rfl⟩ := engineRun_progress hrun
      refine ⟨TransactionMoves.refl _, hinv.state, ?_, ?_⟩
      · intro k hk
        show q.unknown[k]? = none
        rw [hq.unknown]
        exact hinv.progress k hk
      · exact hinv.recorded.mono fun id hid => hq.isCompleted hid
  | reloadState _ s hs =>
      obtain ⟨hstable, hnone, hsome⟩ := reload_state hinv.state hs
      refine ⟨?_, hstable, hinv.progress, ?_⟩
      · intro t ht
        obtain ⟨t', ht', hid, hstage⟩ := hsome t ht
        refine ⟨t', ht', hid, ?_⟩
        rw [hstage]
        exact ReflTransGen.refl
      · intro t' ht'
        cases ht : d.state.activeRebootTransaction with
        | none =>
            have hfalse := (hnone ht).symm.trans ht'
            cases hfalse
        | some t =>
            obtain ⟨t'', ht'', -, hstage⟩ := hsome t ht
            obtain rfl := Option.some.inj (ht'.symm.trans ht'')
            rw [hstage]
            exact hinv.recorded t ht
  | reloadProgress _ p hp =>
      obtain ⟨hstable, hcompleted⟩ := reload_progress hinv.progress hp
      refine ⟨TransactionMoves.refl _, hinv.state, hstable, ?_⟩
      intro t ht
      obtain ⟨hcomplete, hsafe, harmed⟩ := hinv.recorded t ht
      have hdone : PhaseTwoDone d.progress → PhaseTwoDone p := by
        intro hdone step hstep
        rw [hcompleted step (List.mem_of_mem_filter hstep)]
        exact hdone step hstep
      have hclear : p.isCompleted PHASE_TWO_SAFE_BOOT_CLEAR =
          d.progress.isCompleted PHASE_TWO_SAFE_BOOT_CLEAR := by
        obtain ⟨step, hstep, hid⟩ : ∃ step ∈ stepCatalog,
            step.id = PHASE_TWO_SAFE_BOOT_CLEAR := by decide
        rw [← hid]
        exact hcompleted step hstep
      refine ⟨?_, ?_, ?_⟩
      · exact fun hstage => hdone (hcomplete hstage)
      · intro hd hstage
        show p.isCompleted _ = true
        rw [hclear]
        exact hsafe hd hstage
      · exact fun hd hstage => hdone (harmed hd hstage)
  | outside _ history runOnce safeboot => exact FileStep.refl hinv

/-! ## The Run value -/

/-- What has to hold where the Run value is deleted. -/
structure HandoffMayGo (d : Durable) : Prop where
  validated : ∃ t receipt, d.state.activeRebootTransaction = some t ∧
    validatePersistedFinalBenchmark d.state d.progress d.history = .ok receipt ∧
    t.transactionId = some receipt.transactionId
  phaseTwo : PhaseTwoDone d.progress
  driver : d.progress.isCompleted PHASE_THREE_DRIVER_INSTALL = true
  benchmark : d.progress.isCompleted PHASE_THREE_FINAL_BENCHMARK = true

/-- A call that deletes the Run value has validated the final benchmark. -/
theorem handoffMayGo_of_call {call : CheckpointCall}
    (hinv : Invariant discipline d.state d.progress)
    (hleft : d' = after d (call.writes d) ∨ ∃ k, d' = crash d (call.writes d) k)
    (harmed : d.handoff .phaseThreeRun ≠ none) (hgone : d'.handoff .phaseThreeRun = none) :
    HandoffMayGo d := by
  have hspared : ¬ SparesRun (call.writes d) := by
    intro hspares
    rcases hleft with rfl | ⟨k, rfl⟩
    · exact harmed (hspares.after hgone)
    · exact harmed (hspares.crash hgone)
  rcases writes_cases call d with hnone | ⟨ses, sid, phase3, t, receipt, -, hclears, -⟩ |
    ⟨s, p, -, hwrites⟩
  · refine absurd ?_ hspared
    rw [hnone]
    intro w hw
    cases hw
  · have hpersisted := validatePersistedFinalBenchmark_eq_ok.mp hclears.persisted
    have hstage := RebootTransaction.stage_of_isAuthorizedAt hclears.owned.2.1
    obtain ⟨t', ht', -, hfor⟩ := hpersisted.transaction
    have hid : t'.transactionId = some receipt.transactionId := by
      rw [FinalBenchmarkReceipt.validateForTransaction, check_bind_eq_ok,
        reject_eq_ok] at hfor
      simpa using hfor.2
    exact {
      validated := ⟨t', receipt, ht', hclears.persisted, hid⟩
      phaseTwo := (hinv.recorded t hclears.owned.1).1 hstage
      driver := hpersisted.progress.driver
      benchmark := hpersisted.progress.completed }
  · exact absurd hwrites.run hspared

/-- **One step** deletes the Run value only after a validated benchmark. -/
theorem handoffMayGo_of_step (h : RebootStep discipline d d')
    (hinv : Invariant discipline d.state d.progress)
    (harmed : d.handoff .phaseThreeRun ≠ none) (hgone : d'.handoff .phaseThreeRun = none) :
    HandoffMayGo d := by
  cases h with
  | direct call _ _ => exact handoffMayGo_of_call hinv (Or.inl rfl) harmed hgone
  | admitted call _ k _ _ => exact handoffMayGo_of_call hinv (Or.inr ⟨k, rfl⟩) harmed hgone
  | engine _ _ hrun =>
      obtain ⟨q, -, rfl⟩ := engineRun_progress hrun
      exact absurd hgone harmed
  | reloadState _ s _ => exact absurd hgone harmed
  | reloadProgress _ p _ => exact absurd hgone harmed
  | outside _ history runOnce safeboot => exact absurd hgone harmed

end

/-! ## Whole runs -/

/-- The states that runs lead to. -/
def Reaches (discipline : Discipline) : Durable → Durable → Prop :=
  ReflTransGen (RebootStep discipline)

/-- A start: both files are read from a document or are those of a fresh
installation, and there is no transaction. -/
structure Starts (d : Durable) : Prop where
  state : d.state = {} ∨ ∃ value, State.decode value = .ok d.state
  progress : d.progress = {} ∨ ∃ value, Progress.decode value = .ok d.progress
  noTransaction : d.state.activeRebootTransaction = none

theorem Starts.invariant {d : Durable} (h : Starts d) (discipline : Discipline) :
    Invariant discipline d.state d.progress := by
  refine ⟨?_, ?_, ?_⟩
  · rcases h.state with hs | ⟨value, hs⟩
    · rw [hs]
      exact stableState_default
    · exact stableState_of_decode hs
  · rcases h.progress with hp | ⟨value, hp⟩
    · rw [hp]
      exact stableProgress_default
    · exact stableProgress_of_decode hp
  · intro t ht
    rw [h.noTransaction] at ht
    cases ht

/-- **A whole run** moves the transaction and keeps the invariant. -/
theorem fileStep_of_reaches {discipline : Discipline} {d d' : Durable}
    (h : Reaches discipline d d') (hinv : Invariant discipline d.state d.progress) :
    FileStep discipline d.state d.progress d'.state d'.progress := by
  induction h with
  | refl => exact FileStep.refl hinv
  | tail _ hstep ih =>
      have hnext := fileStep_of_step hstep ih.invariant
      exact ⟨ih.moves.trans hnext.moves, hnext.invariant⟩

/-- **Safety of the reboot transaction.**  From a start without a transaction,
in every state `d` that a run reaches: the transaction of `d` keeps its
identifier and moves along the allowed stages; nothing that needs a stage is
admitted outside the working stages, nothing at all on unavailable evidence,
and nothing that needs a runtime without a verified one; and a step that
deletes the Run value finds Phase 2, P3:1 and P3:13 completed and the final
benchmark of this transaction validated. -/
theorem reboot_safety (discipline : Discipline) {d₀ d : Durable} (hstart : Starts d₀)
    (hreach : Reaches discipline d₀ d) :
    (∀ d', Reaches discipline d d' → TransactionMoves d.state d'.state) ∧
    (∀ request facts transition t, NeedsStage request →
      d.state.activeRebootTransaction = some t → ¬ WorkingStage t.stage →
      authorize request d.state d.progress facts ≠ .ok transition) ∧
    (∀ request facts transition,
      authorize request d.state d.progress facts = .ok transition →
      (∀ evidence ∈ consulted facts request, evidence ≠ .unavailable) ∧
      (NeedsRuntime request → facts.runtime = .verifiedSelectedExecutable)) ∧
    (∀ d', RebootStep discipline d d' → d.handoff .phaseThreeRun ≠ none →
      d'.handoff .phaseThreeRun = none → HandoffMayGo d) := by
  have hinv := (fileStep_of_reaches hreach (hstart.invariant discipline)).invariant
  refine ⟨?_, ?_, ?_, ?_⟩
  · intro d' hd'
    exact (fileStep_of_reaches hd' hinv).moves
  · intro request facts transition t hneeds ht hstage
    exact not_authorized_of_stage ht hstage hneeds
  · intro request facts transition hauth
    exact ⟨consulted_available hauth, runtime_verified hauth⟩
  · intro d' hstep harmed hgone
    exact handoffMayGo_of_step hstep hinv harmed hgone

/-- A fresh installation on which P1:38 armed Safe Mode. -/
def armedFacts : Durable :=
  after {} (CheckpointCall.writes (.armSafeMode RebootRetry.sampleSession) {})

/-- The same, after P2:1 cleared it. -/
def clearedFacts : Durable :=
  after armedFacts (CheckpointCall.writes (.clearSafeBoot RebootRetry.sampleSession) armedFacts)

/-- From P1:38 to P2:1 on a fresh installation. -/
theorem reboot_safety_cleared :
    TransactionMoves armedFacts.state clearedFacts.state := by
  have hstart : Starts {} := ⟨Or.inl rfl, Or.inl rfl, rfl⟩
  have harmed : Reaches .direct {} armedFacts :=
    ReflTransGen.single (.direct (.armSafeMode RebootRetry.sampleSession) {} rfl)
  have hcleared : Reaches .direct armedFacts clearedFacts :=
    ReflTransGen.single (.direct (.clearSafeBoot RebootRetry.sampleSession) armedFacts rfl)
  exact (reboot_safety .direct hstart harmed).1 clearedFacts hcleared

/-- The run of the last statement has a transaction, and P2:1 moved it. -/
example : clearedFacts.state.activeRebootTransaction.map (·.stage) =
    some .phaseTwoSafeMode := by decide +kernel

end FrametimeCfg.Verified.RebootSafety
