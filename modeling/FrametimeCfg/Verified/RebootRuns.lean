import FrametimeCfg.Verified.Authorization
import FrametimeCfg.Verified.CheckpointRuns
import FrametimeCfg.Verified.EngineRecords
import FrametimeCfg.Verified.Reload

/-!
# Runs of the reboot workflow

A run of the workflow is a sequence of steps over the durable facts: a call of
a checkpoint, a run of the engine, a reload of one of the files by a later
process, and what happens outside the reboot transaction (Windows consumes the
RunOnce value, the history grows).

There are two ways to call a checkpoint.  A *direct* call asks nobody and runs
to its end.  An *admitted* call is one that `authorize` let through, in the
same process and before an engine run at most, and it may be interrupted
after any of its writes.
-/

namespace FrametimeCfg.Verified.RebootRuns

open FrametimeCfg.Domain FrametimeCfg.Windows
open FrametimeCfg.Lib.Checks
open FrametimeCfg.Lib.Journal
open FrametimeCfg.Verified.BenchmarkStore
open FrametimeCfg.Verified.CheckpointRuns
open FrametimeCfg.Verified.Checkpoints
open FrametimeCfg.Verified.EngineRecords
open FrametimeCfg.Verified.FinalBenchmark
open FrametimeCfg.Verified.FinalBenchmarkRetry

/-! ## Steps -/

/-- The call of a checkpoint, with what its process brings. -/
inductive CheckpointCall where
  | armSafeMode (ses : Session)
  | clearSafeBoot (ses : Session)
  | armPhaseThree (ses : Session)
  | finalBenchmark (config : Config) (draws : List (Except String TransactionId))
      (now : String) (capture : BenchmarkCapture)
  | clearHandoff (ses : Session)

namespace CheckpointCall

/-- The request that leads to the call. -/
def request : CheckpointCall → PhaseRequest
  | .armSafeMode _ => .armSafeMode
  | .clearSafeBoot _ => .phaseTwo
  | .armPhaseThree _ => .phaseTwo
  | .finalBenchmark .. => .finalBenchmark
  | .clearHandoff _ => .clearPhaseThreeHandoff

/-- The writes of the call, whatever its outcome. -/
def writes : CheckpointCall → Durable → List Write
  | .armSafeMode ses, d => writesOf (armSafeModeHandoff ses) d
  | .clearSafeBoot ses, d => writesOf (completePhaseTwoSafeBootClear ses) d
  | .armPhaseThree ses, d => writesOf (armPhaseThreeHandoff ses) d
  | .finalBenchmark config draws now capture, d =>
      writesOf (persistFinalBenchmark config draws now capture) d
  | .clearHandoff ses, d => writesOf (clearPhaseThreeHandoff ses) d

end CheckpointCall

/-- A run of the engine, over any backend that touches nothing durable but
the progress, and that only where the engine persists it.  Where a persistence
fails, the progress may be there or not. -/
def EngineRun (d d' : Durable) : Prop :=
  ∃ (σ : Type) (b : Backend σ) (c : Control σ) (digest : Digest) (steps : List Step)
    (profile : Profile) (durable : σ → Durable) (host : σ),
    Ports b c (fun s t => durable t = durable s)
      (fun q s t => durable t = durable s ∨
        durable t = { durable s with progress := q }) ∧
    durable host = d ∧
    d' = durable (runWithControl b c digest steps profile
      { backend := host, progress := d.progress }).2.backend

/-- How the checkpoints are called. -/
inductive Discipline where
  /-- Unasked, each call to its end. -/
  | direct
  /-- Let through by `authorize`, and possibly interrupted. -/
  | admitted
  deriving DecidableEq

/-- `authorize` let the call through, and at most an engine run of the same
process came after that. -/
def Admitted (call : CheckpointCall) (d : Durable) : Prop :=
  ∃ d₀ facts transition,
    authorize call.request d₀.state d₀.progress facts = .ok transition ∧
      (d₀ = d ∨ EngineRun d₀ d)

/-- One step of the workflow. -/
inductive RebootStep (discipline : Discipline) : Durable → Durable → Prop
  | direct (call : CheckpointCall) (d : Durable) (h : discipline = .direct) :
      RebootStep discipline d (after d (call.writes d))
  | admitted (call : CheckpointCall) (d : Durable) (k : Nat)
      (h : discipline = .admitted) (hadmitted : Admitted call d) :
      RebootStep discipline d (crash d (call.writes d) k)
  | engine (d d' : Durable) (h : EngineRun d d') : RebootStep discipline d d'
  | reloadState (d : Durable) (s : State) (h : State.decode d.state.encode = .ok s) :
      RebootStep discipline d { d with state := s }
  | reloadProgress (d : Durable) (p : Progress)
      (h : Progress.decode d.progress.encode = .ok p) :
      RebootStep discipline d { d with progress := p }
  | outside (d : Durable) (history : List BenchmarkRecord) (runOnce : Option RegValue)
      (safeboot : Option String) :
      RebootStep discipline d
        { (d.apply (.handoff .phaseTwoRunOnce runOnce)) with
          history := history
          safeboot := safeboot }

/-! ## What an engine run does -/

/-- **An engine run** replaces the progress by one that has its records. -/
theorem engineRun_progress {d d' : Durable} (h : EngineRun d d') :
    ∃ q, KeepsRecords d.progress q ∧ d' = { d with progress := q } := by
  obtain ⟨σ, b, c, digest, steps, profile, durable, host, hports, rfl, rfl⟩ := h
  have hkeep : PortsKeep b c (fun s => ∃ q, KeepsRecords (durable host).progress q ∧
      durable s = { durable host with progress := q }) (durable host).progress := by
    refine hports.mono ?_ ?_
    · intro s t hst hs
      obtain ⟨q, hq, hs⟩ := hs
      exact ⟨q, hq, hst.trans hs⟩
    · intro q s t hst hq hs
      obtain ⟨q', hq', hs⟩ := hs
      rcases hst with hst | hst
      · exact ⟨q', hq', hst.trans hs⟩
      · refine ⟨q, hq, ?_⟩
        rw [hst, hs]
  exact run_keeps hkeep ⟨_, KeepsRecords.refl _, rfl⟩

/-! ## What the writes of a call do -/

/-- The two files that the transaction rests on. -/
def files (d : Durable) : State × Progress := (d.state, d.progress)

/-- The writes touch neither file. -/
def SparesFiles (ws : List Write) : Prop :=
  ∀ w ∈ ws, ∀ d : Durable, files (d.apply w) = files d

/-- The writes never delete the Run value. -/
def SparesRun (ws : List Write) : Prop :=
  ∀ w ∈ ws, ∀ d : Durable,
    (d.apply w).handoff .phaseThreeRun = none → d.handoff .phaseThreeRun = none

theorem SparesFiles.after {ws : List Write} (h : SparesFiles ws) (d : Durable) :
    files (Lib.Journal.after d ws) = files d := by
  induction ws generalizing d with
  | nil => rfl
  | cons w ws ih =>
      have hrest : SparesFiles ws := fun w' hw' => h w' (List.mem_cons_of_mem _ hw')
      rw [after_cons, ih hrest, apply_eq]
      exact h w List.mem_cons_self d

theorem SparesRun.after {ws : List Write} (h : SparesRun ws) {d : Durable}
    (hnone : (Lib.Journal.after d ws).handoff .phaseThreeRun = none) :
    d.handoff .phaseThreeRun = none := by
  induction ws generalizing d with
  | nil => exact hnone
  | cons w ws ih =>
      have hrest : SparesRun ws := fun w' hw' => h w' (List.mem_cons_of_mem _ hw')
      rw [after_cons] at hnone
      exact h w List.mem_cons_self d (ih hrest hnone)

theorem SparesRun.crash {ws : List Write} (h : SparesRun ws) {d : Durable} {k : Nat}
    (hnone : (Lib.Journal.crash d ws k).handoff .phaseThreeRun = none) :
    d.handoff .phaseThreeRun = none := by
  have htake : SparesRun (ws.take k) := fun w hw => h w (List.mem_of_mem_take hw)
  exact htake.after hnone

theorem sparesRun_append {ws ws' : List Write} (h : SparesRun ws) (h' : SparesRun ws') :
    SparesRun (ws ++ ws') := by
  intro w hw
  rcases List.mem_append.mp hw with hw | hw
  · exact h w hw
  · exact h' w hw

/-- A write of a file, of the boot setting, or of a value that is there. -/
theorem sparesRun_of_kind {ws : List Write}
    (h : ∀ w ∈ ws, ∀ value, w = .handoff .phaseThreeRun value → value ≠ none) :
    SparesRun ws := by
  intro w hw d hnone
  cases w with
  | handoff slot value =>
      by_cases hslot : slot = .phaseThreeRun
      · subst hslot
        rw [apply_handoff_self] at hnone
        exact absurd hnone (h _ hw value rfl)
      · have hother : (d.apply (.handoff slot value)).handoff .phaseThreeRun =
            d.handoff .phaseThreeRun := if_neg (Ne.symm hslot)
        rwa [hother] at hnone
  | _ => exact hnone

/-- What is left where the writes of a call stop: the two files as they were,
the new state, or both new files. -/
structure FileWrites (d : Durable) (ws : List Write) (s : State) (p : Progress) :
    Prop where
  stopped : ∀ k, files (crash d ws k) = files d ∨ files (crash d ws k) = (s, d.progress) ∨
    files (crash d ws k) = (s, p)
  finished : files (after d ws) = (s, p)
  run : SparesRun ws

/-- The state and the progress last, after writes that touch neither. -/
theorem fileWrites_of_spares {d : Durable} {pre : List Write} {s : State} {p : Progress}
    (hpre : SparesFiles pre) (hrun : SparesRun pre) :
    FileWrites d (pre ++ [.state s, .progress p]) s p := by
  have hfiles : files (after d pre) = files d := hpre.after d
  have hprogress : (after d pre).progress = d.progress := congrArg Prod.snd hfiles
  refine ⟨?_, ?_, sparesRun_append hrun ?_⟩
  · intro k
    by_cases hk : k ≤ pre.length
    · have htake : SparesFiles (pre.take k) := fun w hw => hpre w (List.mem_of_mem_take hw)
      rw [crash_append_le d _ hk]
      exact Or.inl (htake.after d)
    · obtain ⟨j, rfl⟩ : ∃ j, k = pre.length + (j + 1) := ⟨k - pre.length - 1, by omega⟩
      rw [crash_append_add, crash_cons_succ]
      cases j with
      | zero =>
          refine Or.inr (Or.inl ?_)
          show (s, (after d pre).progress) = (s, d.progress)
          rw [hprogress]
      | succ j =>
          rw [crash_cons_succ, crash_nil]
          exact Or.inr (Or.inr rfl)
  · rw [after_append]
    rfl
  · refine sparesRun_of_kind ?_
    intro w hw value heq
    subst heq
    simp at hw

/-- The three files of a bundle, those that change. -/
theorem fileWrites_changedFiles (d : Durable) (s : State) (p : Progress)
    (history : List BenchmarkRecord) :
    FileWrites d (changedFiles d s p history) s p := by
  have hspares : SparesFiles (historyWrites d history) := by
    intro w hw d'
    unfold historyWrites at hw
    split at hw
    · cases hw
    · rw [List.mem_singleton.mp hw]
      rfl
  have hprogress : (after d (historyWrites d history)).progress = d.progress :=
    congrArg Prod.snd (hspares.after d)
  have hstate : (after d (historyWrites d history)).state = d.state :=
    congrArg Prod.fst (hspares.after d)
  refine ⟨?_, ?_, ?_⟩
  · intro k
    rw [changedFiles]
    by_cases hk : k ≤ (historyWrites d history).length
    · have htake : SparesFiles ((historyWrites d history).take k) :=
        fun w hw => hspares w (List.mem_of_mem_take hw)
      rw [crash_append_le d _ hk]
      exact Or.inl (htake.after d)
    · obtain ⟨j, rfl⟩ : ∃ j, k = (historyWrites d history).length + (j + 1) :=
        ⟨k - (historyWrites d history).length - 1, by omega⟩
      rw [crash_append_add]
      by_cases hs : s = d.state
      · by_cases hp : p = d.progress
        · rw [stateWrites, if_pos hs, progressWrites, if_pos hp, List.nil_append, crash_nil]
          exact Or.inl (hspares.after d)
        · rw [stateWrites, if_pos hs, progressWrites, if_neg hp, List.nil_append,
            crash_cons_succ, crash_nil, hs]
          refine Or.inr (Or.inr ?_)
          show ((after d (historyWrites d history)).state, p) = (d.state, p)
          rw [hstate]
      · rw [stateWrites, if_neg hs, List.singleton_append, crash_cons_succ]
        by_cases hp : p = d.progress
        · rw [progressWrites, if_pos hp, crash_nil]
          refine Or.inr (Or.inl ?_)
          show (s, (after d (historyWrites d history)).progress) = (s, d.progress)
          rw [hprogress]
        · rw [progressWrites, if_neg hp]
          cases j with
          | zero =>
              refine Or.inr (Or.inl ?_)
              show (s, (after d (historyWrites d history)).progress) = (s, d.progress)
              rw [hprogress]
          | succ j =>
              rw [crash_cons_succ, crash_nil]
              exact Or.inr (Or.inr rfl)
  · rw [after_changedFiles]
    rfl
  · refine sparesRun_of_kind ?_
    intro w hw value heq
    subst heq
    simp only [changedFiles, historyWrites, stateWrites, progressWrites,
      List.mem_append] at hw
    split_ifs at hw <;> simp at hw

/-! ## The calls -/

/-- The two files that a call leaves which has work to do. -/
inductive Moves (d : Durable) : CheckpointCall → State → Progress → Prop
  | armSafeMode (ses : Session) (sid : String) (t : RebootTransaction)
      (hreadable : Readable d.state) (ht : armedTransaction ses sid d.state = .ok t) :
      Moves d (.armSafeMode ses) (armedSafeModeState d.state t)
        (d.progress.completeStep PHASE_ONE_SAFE_MODE_HANDOFF ses.completedUtc)
  | clearSafeBoot (ses : Session) (t : RebootTransaction) (hreadable : Readable d.state)
      (howned : OwnedAt ses d.state t .phaseOneSafeModeArmed) :
      Moves d (.clearSafeBoot ses)
        (withTransaction d.state { t with stage := .phaseTwoSafeMode })
        (d.progress.completeStep PHASE_TWO_SAFE_BOOT_CLEAR ses.completedUtc)
  | armPhaseThree (ses : Session) (t : RebootTransaction) (hreadable : Readable d.state)
      (howned : OwnedAt ses d.state t .phaseTwoSafeMode)
      (hcleaned : Progress.key 2 2 ∈ d.progress.completedSteps) :
      Moves d (.armPhaseThree ses)
        (withTransaction d.state { t with stage := .phaseThreeArmed })
        (d.progress.completeStep PHASE_TWO_PHASE_THREE_HANDOFF ses.completedUtc)
  | finalBenchmark (config : Config) (draws : List (Except String TransactionId))
      (now : String) (capture : BenchmarkCapture) (source : State)
      (clean : List BenchmarkRecord) (t : RebootTransaction)
      (receipt : FinalBenchmarkReceipt) (hreadable : Readable d.state)
      (hrec : Reconciled d.state d.progress config capture source clean t receipt) :
      Moves d (.finalBenchmark config draws now capture) (committedState source t receipt)
        (d.progress.completeStep PHASE_THREE_FINAL_BENCHMARK receipt.capturedUtc)

private theorem sparesRun_handoffWrites (d : Durable) (slot : HandoffSlot)
    (expected : String) : SparesRun (handoffWrites d slot expected) := by
  refine sparesRun_of_kind ?_
  intro w hw value heq
  subst heq
  unfold handoffWrites at hw
  split at hw
  · have hsame := List.mem_singleton.mp hw
    injection hsame with _ hvalue
    rw [hvalue]
    exact Option.some_ne_none _
  · cases hw

private theorem sparesFiles_handoffWrites (d : Durable) (slot : HandoffSlot)
    (expected : String) : SparesFiles (handoffWrites d slot expected) := by
  intro w hw d'
  unfold handoffWrites at hw
  split at hw
  · rw [List.mem_singleton.mp hw]
    rfl
  · cases hw

/-- **The writes of a call.**  It writes nothing, or it deletes the Run value
after a validated benchmark, or it moves the two files. -/
theorem writes_cases (call : CheckpointCall) (d : Durable) :
    call.writes d = [] ∨
      (∃ ses sid phase3 t receipt, call = .clearHandoff ses ∧
        ClearsPhaseThree ses d sid phase3 t receipt ∧
        call.writes d = [.handoff .phaseThreeRun none]) ∨
      ∃ s p, Moves d call s p ∧ FileWrites d (call.writes d) s p := by
  cases call with
  | armSafeMode ses =>
      have hfirst : ChecksFirst (armSafeModeHandoff ses) d := checksFirst_armSafeModeHandoff
      rcases hfirst with hnone | ⟨ws, u, h⟩
      · exact Or.inl hnone
      · obtain ⟨sid, phase2, t, harms, rfl⟩ := returns_armSafeModeHandoff.mp h
        have hwrites : CheckpointCall.writes (.armSafeMode ses) d =
            (handoffWrites d .phaseTwoRunOnce phase2 ++ [.safeboot (some "minimal")]) ++
              [.state (armedSafeModeState d.state t), .progress
                (d.progress.completeStep PHASE_ONE_SAFE_MODE_HANDOFF ses.completedUtc)] := by
          rw [List.append_assoc]
          exact h.writesOf_eq
        refine Or.inr (Or.inr ⟨_, _, .armSafeMode ses sid t harms.readable
          harms.transaction, ?_⟩)
        rw [hwrites]
        refine fileWrites_of_spares ?_ (sparesRun_append (sparesRun_handoffWrites _ _ _) ?_)
        · intro w hw d'
          rcases List.mem_append.mp hw with hw | hw
          · exact sparesFiles_handoffWrites _ _ _ w hw d'
          · rw [List.mem_singleton.mp hw]
            rfl
        · refine sparesRun_of_kind ?_
          intro w hw value heq
          subst heq
          simp at hw
  | clearSafeBoot ses =>
      have hfirst : ChecksFirst (completePhaseTwoSafeBootClear ses) d :=
        checksFirst_completePhaseTwoSafeBootClear
      rcases hfirst with hnone | ⟨ws, u, h⟩
      · exact Or.inl hnone
      · obtain ⟨phase2, t, hclears, rfl⟩ := returns_completePhaseTwoSafeBootClear.mp h
        refine Or.inr (Or.inr ⟨_, _, .clearSafeBoot ses t hclears.readable hclears.owned, ?_⟩)
        have hwrites : CheckpointCall.writes (.clearSafeBoot ses) d =
            clearSafeBootWrites ses d t := h.writesOf_eq
        have hspares : SparesFiles [.safeboot none] := by
          intro w hw d'
          rw [List.mem_singleton.mp hw]
          rfl
        have hrun : SparesRun [.safeboot none] := by
          refine sparesRun_of_kind ?_
          intro w hw value heq
          subst heq
          simp at hw
        rw [hwrites]
        exact fileWrites_of_spares hspares hrun
  | armPhaseThree ses =>
      have hfirst : ChecksFirst (armPhaseThreeHandoff ses) d :=
        checksFirst_armPhaseThreeHandoff
      rcases hfirst with hnone | ⟨ws, u, h⟩
      · exact Or.inl hnone
      · obtain ⟨sid, phase3, t, harms, rfl⟩ := returns_armPhaseThreeHandoff.mp h
        refine Or.inr (Or.inr ⟨_, _, .armPhaseThree ses t harms.readable harms.owned
          harms.cleaned, ?_⟩)
        have hwrites : CheckpointCall.writes (.armPhaseThree ses) d =
            armPhaseThreeWrites ses d phase3 t := h.writesOf_eq
        rw [hwrites]
        exact fileWrites_of_spares (sparesFiles_handoffWrites _ _ _)
          (sparesRun_handoffWrites _ _ _)
  | finalBenchmark config draws now capture =>
      have hfirst : ChecksFirst (persistFinalBenchmark config draws now capture) d :=
        checksFirst_persistFinalBenchmark
      rcases hfirst with hnone | ⟨ws, receipt, h⟩
      · exact Or.inl hnone
      · have hwrites : CheckpointCall.writes (.finalBenchmark config draws now capture) d =
            ws := h.writesOf_eq
        rcases returns_persistFinalBenchmark.mp h with
          ⟨hreadable, ⟨-, rfl⟩ | ⟨commit, hpending, -, rfl⟩⟩
        · exact Or.inl hwrites
        · obtain ⟨source, clean, t, receipt', hrec, -, hcommit⟩ :=
            reconciled_of_pending hpending
          refine Or.inr (Or.inr ⟨_, _, .finalBenchmark config draws now capture source
            clean t receipt' hreadable hrec, ?_⟩)
          have hstate : commit.state = committedState source t receipt' := by
            rw [hcommit]
            simp only [committed]
          have hprogress : commit.progress = d.progress.completeStep
              PHASE_THREE_FINAL_BENCHMARK receipt'.capturedUtc := by
            rw [hcommit]
            simp only [committed]
          rw [hwrites, ← hstate, ← hprogress]
          exact fileWrites_changedFiles d _ _ _
  | clearHandoff ses =>
      have hfirst : ChecksFirst (clearPhaseThreeHandoff ses) d :=
        checksFirst_clearPhaseThreeHandoff
      rcases hfirst with hnone | ⟨ws, u, h⟩
      · exact Or.inl hnone
      · obtain ⟨sid, phase3, t, receipt, hclears, rfl⟩ := returns_clearPhaseThreeHandoff.mp h
        exact Or.inr (Or.inl ⟨ses, sid, phase3, t, receipt, rfl, hclears, h.writesOf_eq⟩)

end FrametimeCfg.Verified.RebootRuns
