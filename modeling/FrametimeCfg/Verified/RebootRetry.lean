import FrametimeCfg.Verified.Authorization
import FrametimeCfg.Verified.Checkpoints

/-!
# Retrying an interrupted checkpoint

A checkpoint that stops early is retried by the same request.  The retry goes
through `authorize` once more, on the facts that the crash left, and only then
through the checkpoint itself.

The checkpoints accept their own partial work: P1:38 takes over a transaction
it finds, and the handoff values may be there already.  The guard does not.
It asks for the facts that held before the checkpoint, so a retry is admitted
only as long as the crash left nothing that the guard reads: the RunOnce and
Run values, and the Safe Boot setting of P1:38.
-/

namespace FrametimeCfg.Verified.RebootRetry

open FrametimeCfg.Domain FrametimeCfg.Windows
open FrametimeCfg.Lib.Checks
open FrametimeCfg.Lib.Journal
open FrametimeCfg.Verified.Authorization
open FrametimeCfg.Verified.Checkpoints

/-! ## Checkpoints and their retries -/

/-- The three checkpoints that arm or advance the reboot transaction. -/
inductive Checkpoint where
  | armSafeMode
  | clearSafeBoot
  | armPhaseThree
  deriving DecidableEq, Repr

namespace Checkpoint

/-- The request that leads to the checkpoint. -/
def request : Checkpoint → PhaseRequest
  | .armSafeMode => .armSafeMode
  | .clearSafeBoot => .phaseTwo
  | .armPhaseThree => .phaseTwo

/-- The transition under which the workflow runs the checkpoint. -/
def transition : Checkpoint → Transition
  | .armSafeMode => .armSafeMode true
  | .clearSafeBoot => .runPhaseTwoStepOne
  | .armPhaseThree => .runRemainingPhaseTwo

def program : Checkpoint → Session → StoreM Unit
  | .armSafeMode => armSafeModeHandoff
  | .clearSafeBoot => completePhaseTwoSafeBootClear
  | .armPhaseThree => armPhaseThreeHandoff

/-- How many of its writes a checkpoint makes before the first one that its
guard reads. -/
def preparations (d : Durable) : Checkpoint → Nat
  | .armSafeMode => (if (d.handoff .phaseTwoRunOnce).isNone then 1 else 0) + 1
  | .clearSafeBoot => 0
  | .armPhaseThree => if (d.handoff .phaseThreeRun).isNone then 1 else 0

end Checkpoint

/-- The guard admits the checkpoint. -/
def Admitted (cp : Checkpoint) (ses : Session) (d : Durable) : Prop :=
  authorize cp.request d.state d.progress (observe ses d) = .ok cp.transition

/-- A later process of the same user, with the same boot environment and the
same runtime.  It draws its own identifier and its own times. -/
structure Restarts (ses ses' : Session) : Prop where
  boot : ses'.boot = ses.boot
  user : ses'.tokenUserSid = ses.tokenUserSid
  runtime : ses'.runtime = ses.runtime
  executable : ses'.executablePath = ses.executablePath
  driver : ses'.driverRemovalComplete = ses.driverRemovalComplete
  draws : ∃ id, ses'.randomTransactionId = .ok id

/-! ## Facts up to stamps -/

/-- The transaction without its identifier and its times. -/
def RebootTransaction.withoutStamps (t : RebootTransaction) : RebootTransaction :=
  { t with transactionId := none, createdUtc := none, updatedUtc := none }

/-- The state without the stamps of its transaction. -/
def withoutStamps (s : State) : State :=
  { s with
    activeRebootTransaction :=
      s.activeRebootTransaction.map RebootTransaction.withoutStamps }

/-- The same facts, up to the transaction identifier and time stamps. -/
structure SameUpToStamps (d d' : Durable) : Prop where
  state : withoutStamps d.state = withoutStamps d'.state
  progress : { d.progress with timestamps := ∅ } = { d'.progress with timestamps := ∅ }
  stamped : ∀ key, key ∈ d.progress.timestamps ↔ key ∈ d'.progress.timestamps
  history : d.history = d'.history
  handoff : d.handoff = d'.handoff
  safeboot : d.safeboot = d'.safeboot

/-- Two completions of one step stamp the same keys. -/
theorem stamped_completeStep (p : Progress) (id : StepId) (now now' key : String) :
    key ∈ (p.completeStep id now).timestamps ↔
      key ∈ (p.completeStep id now').timestamps := by
  simp only [Progress.completeStep, Progress.complete, Std.ExtTreeMap.mem_insert]

/-- From the facts `d`, the guard admits the checkpoint and its run ends with
the facts `final`. -/
def ReachesFrom (cp : Checkpoint) (ses : Session) (d final : Durable) : Prop :=
  Admitted cp ses d ∧
    ∃ ws, Returns (cp.program ses) d ws () ∧ SameUpToStamps (after d ws) final

/-- **A crash point that can be resumed.**  After `k` writes of the
checkpoint, a later process that issues the same request is admitted, and its
run ends with the facts of the uninterrupted run. -/
def Resumes (cp : Checkpoint) (ses ses' : Session) (d : Durable) (k : Nat) : Prop :=
  ReachesFrom cp ses' (crash d (writesOf (cp.program ses) d) k)
    (after d (writesOf (cp.program ses) d))

/-! ## States left by a preparation -/

/-- Nothing but the Safe Boot setting and the value of one slot changed, and
the slot still fits. -/
structure Prepared (d d' : Durable) (slot : HandoffSlot) (expected : String) :
    Prop where
  state : d'.state = d.state
  progress : d'.progress = d.progress
  history : d'.history = d.history
  others : ∀ other, other ≠ slot → d'.handoff other = d.handoff other
  fits : HandoffFits d' slot expected

section

variable {d d' : Durable} {slot : HandoffSlot} {expected : String}
  {ses ses' : Session} {k : Nat}

theorem Prepared.refl (h : HandoffFits d slot expected) :
    Prepared d d slot expected :=
  ⟨rfl, rfl, rfl, fun _ _ => rfl, h⟩

theorem Prepared.written (d : Durable) (slot : HandoffSlot) (expected : String) :
    Prepared d (d.apply (.handoff slot (some (.string expected)))) slot expected := by
  refine ⟨rfl, rfl, rfl, fun other hother => ?_, Or.inr ?_⟩
  · show (if other = slot then _ else d.handoff other) = d.handoff other
    rw [if_neg hother]
  · exact apply_handoff_self _ _

theorem Prepared.safeboot (h : Prepared d d' slot expected) (value : Option String) :
    Prepared d (d'.apply (.safeboot value)) slot expected :=
  ⟨h.state, h.progress, h.history, h.others, h.fits⟩

/-- Once the slot is ensured, a preparation has left no other trace in the
handoff values. -/
theorem Prepared.handoff_eq (h : Prepared d d' slot expected) :
    (d'.apply (.handoff slot (some (.string expected)))).handoff =
      (d.apply (.handoff slot (some (.string expected)))).handoff := by
  funext other
  show (if other = slot then _ else d'.handoff other) =
    (if other = slot then _ else d.handoff other)
  by_cases hother : other = slot
  · rw [if_pos hother, if_pos hother]
  · rw [if_neg hother, if_neg hother, h.others other hother]

/-- The write of a slot is either still to come or done. -/
theorem crash_handoffWrites (h : HandoffFits d slot expected) (k : Nat) :
    crash d (handoffWrites d slot expected) k = d ∨
      crash d (handoffWrites d slot expected) k =
        d.apply (.handoff slot (some (.string expected))) := by
  rcases h with hnone | hsome
  · cases k with
    | zero => exact Or.inl rfl
    | succ k =>
        refine Or.inr ?_
        simp only [handoffWrites, hnone, crash_cons_succ, crash_nil, apply_eq]
  · refine Or.inl ?_
    simp only [handoffWrites, hsome, crash_nil]

theorem handoffWrites_length (d : Durable) (slot : HandoffSlot) (expected : String) :
    (handoffWrites d slot expected).length =
      if (d.handoff slot).isNone then 1 else 0 := by
  rw [handoffWrites]
  cases d.handoff slot <;> rfl

/-! ## P1:38 -/

/-- Without an active transaction there is no receipt, and the transaction is
free to be any. -/
theorem readable_armedSafeModeState {s : State} {t : RebootTransaction}
    (h : Readable s) (hactive : s.activeRebootTransaction = none) :
    Readable (armedSafeModeState s t) := by
  have hreceipt : s.finalBenchmark = none := by
    cases hf : s.finalBenchmark with
    | none => rfl
    | some receipt =>
        have hvalid := h.valid
        simp only [State.validate, check_bind_eq_ok, hf, hactive, okOr_none,
          bind_error, reduceCtorEq, and_false] at hvalid
  refine ⟨?_, h.workDir⟩
  have hcongr : (armedSafeModeState s t).validate = s.validate :=
    State.validate_congr hreceipt hreceipt rfl rfl rfl rfl rfl
  rw [hcongr]
  exact h.valid

/-- The transaction that P1:38 makes. -/
def freshTransaction (ses : Session) (sid : String) (id : TransactionId) :
    RebootTransaction where
  transactionId := some id
  initiatorUserSid := some sid
  stage := .phaseOneSafeModeArmed
  runtime := some ses.runtime
  createdUtc := some ses.createdUtc
  updatedUtc := some ses.updatedUtc

/-- A new transaction has authority as soon as the user and the runtime are
well formed. -/
theorem freshTransaction_isAuthorizedAt {sid : String} {id : TransactionId} :
    (freshTransaction ses sid id).isAuthorizedAt .phaseOneSafeModeArmed = true ↔
      validUserSid sid = true ∧ ses.runtime.isComplete = true := by
  rw [RebootTransaction.isAuthorizedAt_iff]
  simp [freshTransaction]

theorem armedTransaction_eq_ok {sid : String} {s : State} {t : RebootTransaction}
    (hactive : s.activeRebootTransaction = none) :
    armedTransaction ses sid s = .ok t ↔
      ∃ id, ses.randomTransactionId = .ok id ∧ t = freshTransaction ses sid id ∧
        validUserSid sid = true ∧ ses.runtime.isComplete = true := by
  rw [armedTransaction, hactive]
  show newTransaction ses sid = .ok t ↔ _
  rw [newTransaction, bind_eq_ok]
  constructor
  · rintro ⟨id, hid, hrest⟩
    obtain ⟨hauth, hreturn⟩ := check_bind_eq_ok.mp hrest
    rw [reject_eq_ok, Bool.not_eq_false'] at hauth
    exact ⟨id, hid, (Except.ok.inj hreturn).symm,
      freshTransaction_isAuthorizedAt.mp hauth⟩
  · rintro ⟨id, hid, rfl, hvalid⟩
    refine ⟨id, hid, check_bind_eq_ok.mpr ⟨?_, rfl⟩⟩
    rw [reject_eq_ok, Bool.not_eq_false']
    exact freshTransaction_isAuthorizedAt.mpr hvalid

/-- A crash before the state was written can be resumed. -/
theorem armSafeMode_resumes {sid phase2 : String} {t : RebootTransaction}
    (h : ArmsSafeMode ses d sid phase2 t) (hsame : Restarts ses ses')
    (hadmitted : Admitted .armSafeMode ses d)
    (hprep : Prepared d d' .phaseTwoRunOnce phase2) :
    ReachesFrom .armSafeMode ses' d' (after d (armSafeModeWrites ses d phase2 t)) := by
  obtain ⟨hboot, hresolved, hruntime, hactive, -⟩ := authorize_armSafeMode.mp hadmitted
  obtain ⟨id', hid'⟩ := hsame.draws
  obtain ⟨id, -, rfl, hsid, hcomplete⟩ := (armedTransaction_eq_ok hactive).mp h.transaction
  have hactive' : d'.state.activeRebootTransaction = none := by
    rw [hprep.state, hactive]
  have harmed : armedTransaction ses' sid d'.state =
      .ok (freshTransaction ses' sid id') :=
    (armedTransaction_eq_ok hactive').mpr
      ⟨id', hid', rfl, hsid, by rw [hsame.runtime]; exact hcomplete⟩
  have hcommand : phaseTwoCommand ses' = .ok phase2 := by
    rw [phaseTwoCommand, hsame.executable]
    exact h.command
  have hreadable : Readable d'.state := by
    rw [hprep.state]
    exact h.readable
  have harms : ArmsSafeMode ses' d' sid phase2 (freshTransaction ses' sid id') :=
    { token := by rw [hsame.user]; exact h.token
      command := hcommand
      readable := hreadable
      transaction := harmed
      fits := hprep.fits
      writable := readable_armedSafeModeState hreadable hactive' }
  refine ⟨?_, _, returns_armSafeModeHandoff.mpr ⟨_, _, _, harms, rfl⟩, ?_⟩
  · refine authorize_armSafeMode.mpr ⟨?_, ?_, hruntime, hactive', rfl⟩
    · exact hsame.boot.trans hboot
    · rw [hprep.progress]
      exact hresolved
  · rw [armSafeModeWrites, armSafeModeWrites, after_append, after_append,
      after_handoffWrites hprep.fits, after_handoffWrites h.fits]
    exact {
      state := by
        show withoutStamps (armedSafeModeState d'.state _) =
          withoutStamps (armedSafeModeState d.state _)
        rw [hprep.state]
        simp [withoutStamps, armedSafeModeState, RebootTransaction.withoutStamps,
          freshTransaction, hsame.runtime]
      progress := by
        show ({ d'.progress.completeStep _ _ with timestamps := ∅ } : Progress) =
          { d.progress.completeStep _ _ with timestamps := ∅ }
        rw [hprep.progress]
        rfl
      stamped := fun key => by
        show key ∈ (d'.progress.completeStep _ _).timestamps ↔
          key ∈ (d.progress.completeStep _ _).timestamps
        rw [hprep.progress]
        exact stamped_completeStep _ _ _ _ _
      history := hprep.history
      handoff := hprep.handoff_eq
      safeboot := rfl }

/-- Once the state is written, the guard sees the transaction and refuses. -/
theorem armSafeMode_refused (h : d'.state.activeRebootTransaction.isSome = true) :
    ¬ Admitted .armSafeMode ses' d' := by
  intro hadmitted
  obtain ⟨-, -, -, hactive, -⟩ := authorize_armSafeMode.mp hadmitted
  rw [hactive] at h
  exact Bool.false_ne_true h

/-! ## P2:1 -/

/-- A retry of P2:1 that finds the facts as they were. -/
theorem clearSafeBoot_resumes {phase2 : String} {t : RebootTransaction}
    (h : ClearsSafeBoot ses d phase2 t) (hsame : Restarts ses ses')
    (hadmitted : Admitted .clearSafeBoot ses d) :
    ReachesFrom .clearSafeBoot ses' d (after d (clearSafeBootWrites ses d t)) := by
  have howned : OwnedAt ses' d.state t .phaseOneSafeModeArmed := by
    rw [OwnedAt, hsame.runtime]
    exact h.owned
  have hclears : ClearsSafeBoot ses' d phase2 t :=
    { readable := h.readable
      owned := howned
      command := by rw [phaseTwoCommand, hsame.executable]; exact h.command
      armed := h.armed
      writable := h.writable }
  refine ⟨?_, _, returns_completePhaseTwoSafeBootClear.mpr ⟨_, _, hclears, rfl⟩, ?_⟩
  · obtain ⟨hready, hhalf⟩ := authorize_phaseTwo.mp hadmitted
    refine authorize_phaseTwo.mpr ⟨?_, hhalf⟩
    exact { hready with boot := hsame.boot.trans hready.boot }
  · exact {
      state := rfl
      progress := rfl
      stamped := fun key => stamped_completeStep _ _ _ _ _
      history := rfl
      handoff := rfl
      safeboot := rfl }

/-- Once Safe Boot is cleared, the guard misses it and refuses. -/
theorem clearSafeBoot_refused (h : d'.safeboot = none) :
    ¬ Admitted .clearSafeBoot ses' d' := by
  intro hadmitted
  obtain ⟨-, hhalf⟩ := authorize_phaseTwo.mp hadmitted
  rcases hhalf with ⟨-, -, -, htransition⟩ | ⟨-, -, -, hsafe, -⟩
  · cases htransition
  · simp [observe, h, safebootEvidence] at hsafe

/-! ## P2:3 -/

/-- A crash before the state was written can be resumed. -/
theorem armPhaseThree_resumes {sid phase3 : String} {t : RebootTransaction}
    (h : ArmsPhaseThree ses d sid phase3 t) (hsame : Restarts ses ses')
    (hadmitted : Admitted .armPhaseThree ses d)
    (hprep : Prepared d d' .phaseThreeRun phase3) (hsafe : d'.safeboot = d.safeboot) :
    ReachesFrom .armPhaseThree ses' d' (after d (armPhaseThreeWrites ses d phase3 t)) := by
  have howned : OwnedAt ses' d'.state t .phaseTwoSafeMode := by
    rw [OwnedAt, hsame.runtime, hprep.state]
    exact h.owned
  have harms : ArmsPhaseThree ses' d' sid phase3 t :=
    { token := by rw [hsame.user]; exact h.token
      command := by rw [phaseThreeCommand, hsame.executable]; exact h.command
      driver := by rw [hsame.driver]; exact h.driver
      readable := by rw [hprep.state]; exact h.readable
      cleaned := by rw [hprep.progress]; exact h.cleaned
      owned := howned
      user := h.user
      fits := hprep.fits
      writable := by rw [hprep.state]; exact h.writable }
  refine ⟨?_, _, returns_armPhaseThreeHandoff.mpr ⟨_, _, _, harms, rfl⟩, ?_⟩
  · obtain ⟨hready, hhalf⟩ := authorize_phaseTwo.mp hadmitted
    have hrunOnce : d'.handoff .phaseTwoRunOnce = d.handoff .phaseTwoRunOnce :=
      hprep.others _ (by decide)
    have hready' : PhaseTwoReady d'.state d'.progress (observe ses' d') := by
      rw [hprep.state, hprep.progress]
      exact { hready with
        boot := hsame.boot.trans hready.boot
        flagObserved := by
          show d'.state.phase1SafeModeReady = true
          rw [hprep.state]
          exact hready.flag
        handoff := by
          show runValueEvidence (d'.handoff .phaseTwoRunOnce) = .verified
          rw [hrunOnce]
          exact hready.handoff }
    refine authorize_phaseTwo.mpr ⟨hready', ?_⟩
    have hboot : (observe ses' d').handoff.safeBoot = (observe ses d).handoff.safeBoot := by
      simp only [observe, hsafe]
    rw [hprep.state, hprep.progress, hboot]
    exact hhalf
  · rw [armPhaseThreeWrites, armPhaseThreeWrites, after_append, after_append,
      after_handoffWrites hprep.fits, after_handoffWrites h.fits]
    exact {
      state := by
        show withoutStamps (withTransaction d'.state _) =
          withoutStamps (withTransaction d.state _)
        rw [hprep.state]
      progress := by
        show ({ d'.progress.completeStep _ _ with timestamps := ∅ } : Progress) =
          { d.progress.completeStep _ _ with timestamps := ∅ }
        rw [hprep.progress]
        rfl
      stamped := fun key => by
        show key ∈ (d'.progress.completeStep _ _).timestamps ↔
          key ∈ (d.progress.completeStep _ _).timestamps
        rw [hprep.progress]
        exact stamped_completeStep _ _ _ _ _
      history := hprep.history
      handoff := hprep.handoff_eq
      safeboot := hsafe }

/-- Once the state is written, its stage is past the one the guard asks
for. -/
theorem armPhaseThree_refused {t : RebootTransaction}
    (h : d'.state.activeRebootTransaction = some { t with stage := .phaseThreeArmed }) :
    ¬ Admitted .armPhaseThree ses' d' := by
  intro hadmitted
  obtain ⟨-, hhalf⟩ := authorize_phaseTwo.mp hadmitted
  rcases hhalf with ⟨-, ⟨t', ht', hstage⟩, -⟩ | ⟨-, -, -, -, htransition⟩
  · rw [h] at ht'
    have hmoved := RebootTransaction.stage_of_isAuthorizedAt hstage
    rw [← Option.some.inj ht'] at hmoved
    cases hmoved
  · cases htransition

end

/-! ## Which crash points can be resumed -/

/-- A crash point of a list of writes in two parts lies in the first part or
after at least one write of the second. -/
theorem crash_cases (d : Durable) (ws : List Write) (w : Write) (ws' : List Write)
    (k : Nat) :
    (k ≤ ws.length ∧ crash d (ws ++ w :: ws') k = crash d ws k) ∨
      (¬ k ≤ ws.length ∧ ∃ j, k = ws.length + (j + 1) ∧
        crash d (ws ++ w :: ws') k = crash ((after d ws).apply w) ws' j) := by
  by_cases hk : k ≤ ws.length
  · exact Or.inl ⟨hk, crash_append_le d (w :: ws') hk⟩
  · obtain ⟨j, rfl⟩ : ∃ j, k = ws.length + (j + 1) :=
      ⟨k - ws.length - 1, by omega⟩
    refine Or.inr ⟨hk, j, rfl, ?_⟩
    rw [crash_append_add, crash_cons_succ, apply_eq]

/-- A crash point of the progress write leaves the rest of the facts. -/
theorem crash_progress (d : Durable) (p : Progress) (j : Nat) :
    (crash d [.progress p] j).state = d.state ∧
      (crash d [.progress p] j).safeboot = d.safeboot := by
  cases j with
  | zero => exact ⟨rfl, rfl⟩
  | succ j => rw [crash_cons_succ, crash_nil]; exact ⟨rfl, rfl⟩

/-- A crash point of the two files leaves the Safe Boot setting. -/
theorem crash_files (d : Durable) (s : State) (p : Progress) (j : Nat) :
    (crash d [.state s, .progress p] j).safeboot = d.safeboot := by
  cases j with
  | zero => rfl
  | succ j => rw [crash_cons_succ]; exact (crash_progress _ p j).2

section

variable {d : Durable} {ses ses' : Session}

/-- The crash points of P1:38. -/
theorem crash_armSafeMode {phase2 : String} (t : RebootTransaction)
    (h : HandoffFits d .phaseTwoRunOnce phase2) (k : Nat) :
    (k ≤ Checkpoint.preparations d .armSafeMode ∧
        Prepared d (crash d (armSafeModeWrites ses d phase2 t) k)
          .phaseTwoRunOnce phase2) ∨
      (¬ k ≤ Checkpoint.preparations d .armSafeMode ∧
        (crash d (armSafeModeWrites ses d phase2 t) k).state =
          armedSafeModeState d.state t) := by
  have hlength : Checkpoint.preparations d .armSafeMode =
      (handoffWrites d .phaseTwoRunOnce phase2).length + 1 := by
    rw [handoffWrites_length]
    rfl
  have hslot := crash_handoffWrites h
  rcases crash_cases d (handoffWrites d .phaseTwoRunOnce phase2)
    (.safeboot (some "minimal"))
    [.state (armedSafeModeState d.state t), .progress (d.progress.completeStep
      PHASE_ONE_SAFE_MODE_HANDOFF ses.completedUtc)] k with ⟨hk, hcrash⟩ | ⟨hk, j, hj, hcrash⟩
  · refine Or.inl ⟨by omega, ?_⟩
    rw [armSafeModeWrites, hcrash]
    rcases hslot k with hd | hd
    · rw [hd]
      exact Prepared.refl h
    · rw [hd]
      exact Prepared.written d _ _
  · rw [armSafeModeWrites, hcrash, after_handoffWrites h]
    cases j with
    | zero =>
        refine Or.inl ⟨by omega, ?_⟩
        exact (Prepared.written d _ _).safeboot _
    | succ j =>
        refine Or.inr ⟨by omega, ?_⟩
        rw [crash_cons_succ, (crash_progress _ _ j).1]
        rfl

/-- The crash points of P2:1. -/
theorem crash_clearSafeBoot (t : RebootTransaction) (k : Nat) :
    (k ≤ Checkpoint.preparations d .clearSafeBoot ∧
        crash d (clearSafeBootWrites ses d t) k = d) ∨
      (¬ k ≤ Checkpoint.preparations d .clearSafeBoot ∧
        (crash d (clearSafeBootWrites ses d t) k).safeboot = none) := by
  cases k with
  | zero => exact Or.inl ⟨Nat.le_refl 0, rfl⟩
  | succ k =>
      refine Or.inr ⟨Nat.not_succ_le_zero k, ?_⟩
      rw [clearSafeBootWrites, crash_cons_succ, crash_files]
      rfl

/-- The crash points of P2:3. -/
theorem crash_armPhaseThree {phase3 : String} (t : RebootTransaction)
    (h : HandoffFits d .phaseThreeRun phase3) (k : Nat) :
    (k ≤ Checkpoint.preparations d .armPhaseThree ∧
        Prepared d (crash d (armPhaseThreeWrites ses d phase3 t) k)
          .phaseThreeRun phase3 ∧
        (crash d (armPhaseThreeWrites ses d phase3 t) k).safeboot = d.safeboot) ∨
      (¬ k ≤ Checkpoint.preparations d .armPhaseThree ∧
        (crash d (armPhaseThreeWrites ses d phase3 t) k).state.activeRebootTransaction =
          some { t with stage := .phaseThreeArmed }) := by
  have hlength : Checkpoint.preparations d .armPhaseThree =
      (handoffWrites d .phaseThreeRun phase3).length := by
    rw [handoffWrites_length]
    rfl
  rw [hlength]
  rcases crash_cases d (handoffWrites d .phaseThreeRun phase3)
    (.state (withTransaction d.state { t with stage := .phaseThreeArmed }))
    [.progress (d.progress.completeStep PHASE_TWO_PHASE_THREE_HANDOFF ses.completedUtc)]
    k with ⟨hk, hcrash⟩ | ⟨hk, j, -, hcrash⟩
  · refine Or.inl ⟨hk, ?_⟩
    rw [armPhaseThreeWrites, hcrash]
    rcases crash_handoffWrites h k with hd | hd
    · rw [hd]
      exact ⟨Prepared.refl h, rfl⟩
    · rw [hd]
      exact ⟨Prepared.written d _ _, rfl⟩
  · refine Or.inr ⟨hk, ?_⟩
    rw [armPhaseThreeWrites, hcrash, (crash_progress _ _ j).1]
    rfl

/-- **Which crash points can be resumed.**  For each checkpoint that the guard
admits and that succeeds: a process that stops after `k` writes can be resumed
exactly when none of them is one that the guard reads.  These are the first
writes of P1:38, up to Safe Boot, none of P2:1, and the Run value of P2:3. -/
theorem resumes_iff_preparing {cp : Checkpoint} (hadmitted : Admitted cp ses d)
    (hrun : outcomeOf (cp.program ses) d = .ok ()) (hsame : Restarts ses ses')
    (k : Nat) : Resumes cp ses ses' d k ↔ k ≤ cp.preparations d := by
  have hreturns := returns_of_outcome hrun
  cases cp with
  | armSafeMode =>
      obtain ⟨sid, phase2, t, harms, hws⟩ := returns_armSafeModeHandoff.mp hreturns
      rw [Resumes, hws]
      rcases crash_armSafeMode t harms.fits k with ⟨hk, hprep⟩ | ⟨hk, hstate⟩
      · exact iff_of_true (armSafeMode_resumes harms hsame hadmitted hprep) hk
      · refine iff_of_false (fun h => armSafeMode_refused ?_ h.1) hk
        rw [hstate]
        rfl
  | clearSafeBoot =>
      obtain ⟨phase2, t, hclears, hws⟩ :=
        returns_completePhaseTwoSafeBootClear.mp hreturns
      rw [Resumes, hws]
      rcases crash_clearSafeBoot t k with ⟨hk, hcrash⟩ | ⟨hk, hsafe⟩
      · rw [hcrash]
        exact iff_of_true (clearSafeBoot_resumes hclears hsame hadmitted) hk
      · exact iff_of_false (fun h => clearSafeBoot_refused hsafe h.1) hk
  | armPhaseThree =>
      obtain ⟨sid, phase3, t, harms, hws⟩ := returns_armPhaseThreeHandoff.mp hreturns
      rw [Resumes, hws]
      rcases crash_armPhaseThree t harms.fits k with ⟨hk, hprep, hsafe⟩ | ⟨hk, hstage⟩
      · exact iff_of_true
          (armPhaseThree_resumes harms hsame hadmitted hprep hsafe) hk
      · exact iff_of_false (fun h => armPhaseThree_refused hstage h.1) hk

end

/-! ## A session -/

/-- A process of a fixed user under a fixed runtime. -/
def sampleSession : Session where
  boot := .normal
  tokenUserSid := .ok "S-1-5-21-1"
  runtime := sampleRuntime
  executablePath := "C:\\FRAMETIME_CFG\\frametime.exe"
  driverRemovalComplete := .ok none
  randomTransactionId := .ok sampleTransactionId
  createdUtc := "2024-01-01T00:00:00Z"
  updatedUtc := "2024-01-01T00:00:00Z"
  completedUtc := "2024-01-01T00:00:00Z"

/-- The facts after a complete Phase 1, with no handoff yet. -/
def resolvedFacts : Durable where
  progress := (stepsForPhaseAndRole .one .engine).foldl
    (fun p step => p.completeStep step.id "2024-01-01T00:00:00Z") {}

private theorem resolvedFacts_admitted :
    Admitted .armSafeMode sampleSession resolvedFacts := by
  show authorize .armSafeMode _ _ _ = .ok (.armSafeMode true)
  decide +kernel

private theorem resolvedFacts_succeeds :
    outcomeOf (Checkpoint.armSafeMode.program sampleSession) resolvedFacts = .ok () := by
  decide +kernel

private theorem sampleSession_restarts : Restarts sampleSession sampleSession :=
  ⟨rfl, rfl, rfl, rfl, rfl, sampleTransactionId, rfl⟩

/-- A crash of P1:38 right after Safe Boot was set can be resumed. -/
theorem resumes_after_safeboot :
    Resumes .armSafeMode sampleSession sampleSession resolvedFacts 2 :=
  (resumes_iff_preparing resolvedFacts_admitted resolvedFacts_succeeds
    sampleSession_restarts 2).mpr (by decide +kernel)

/-- A crash of P1:38 between the state and the progress cannot be resumed: the
guard refuses the transaction that the checkpoint itself would take over. -/
theorem not_resumes_after_state :
    Admitted .armSafeMode sampleSession resolvedFacts ∧
      outcomeOf (Checkpoint.armSafeMode.program sampleSession) resolvedFacts = .ok () ∧
      Restarts sampleSession sampleSession ∧
      ¬ Resumes .armSafeMode sampleSession sampleSession resolvedFacts 3 := by
  refine ⟨resolvedFacts_admitted, resolvedFacts_succeeds, sampleSession_restarts, ?_⟩
  intro h
  exact armSafeMode_refused (by decide +kernel) h.1

end FrametimeCfg.Verified.RebootRetry
