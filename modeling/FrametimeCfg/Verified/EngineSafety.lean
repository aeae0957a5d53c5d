import FrametimeCfg.Verified.EngineTrace

/-!
# No mutation without a durable way back

Two rules govern the calls of one step execution, whatever the backend
answers.

* A mutation is preceded, within the execution, by the recovery calls that the
  last answer to `recovery_requirement` demands, all of them successful: a
  non-empty capture persisted as captured, a valid pending audit persisted as
  captured, or both with the backups first (`Recovered`).
* Progress that newly completes a step is persisted only after the step was
  verified in the same execution; after every audit persisted in it was
  finalized; and, where the step demands a durable receipt, after a receipt
  valid for the step was captured, persisted and re-observed
  (`CompletionReady`).

The proof says once what the engine has done when a step is ready to be
completed (`Prepared`, one constructor for each of the six ways), and carries
the exact list of calls through the engine by triples.
-/

namespace FrametimeCfg.Verified.EngineSafety

open FrametimeCfg.Domain
open FrametimeCfg.Lib.Effect
open FrametimeCfg.Lib.Trace
open FrametimeCfg.Verified.EngineTrace

/-! ## The rules -/

/-- The recovery calls that a requirement demands for a mutation. -/
def RecoveryCalls (requirement : RecoveryRequirement) (operation : Operation)
    (calls : List Call) : Prop :=
  let key := Progress.keyFor operation.step.id
  match requirement with
  | .losslessBackup =>
      ∃ entries, entries ≠ [] ∧
        Happened [.captureBackups operation (.ok entries),
          .persistBackups entries (.ok ())] calls
  | .rebuildableAudit =>
      ∃ audit, audit.isValidPendingFor key = true ∧
        Happened [.capturePendingAudit operation (.ok audit),
          .persistPendingAudit audit (.ok ())] calls
  | .manualRecoveryAudit =>
      ∃ audit, audit.isValidPendingFor .manualRecoveryAudit key = true ∧
        Happened [.capturePendingIrreversibleAudit operation (.ok audit),
          .persistPendingIrreversibleAudit audit (.ok ())] calls
  | .mixed =>
      ∃ entries audit, entries ≠ [] ∧ audit.isValidPendingFor .mixed key = true ∧
        Happened [.captureBackups operation (.ok entries),
          .persistBackups entries (.ok ()),
          .capturePendingIrreversibleAudit operation (.ok audit),
          .persistPendingIrreversibleAudit audit (.ok ())] calls

/-- The call asks for the recovery requirement of some step. -/
def AsksRequirement : Call → Prop
  | .recoveryRequirement _ _ => True
  | _ => False

/-- After the last answer about the recovery requirement, everything it
demands has happened. -/
def Recovered (operation : Operation) (past : List Call) : Prop :=
  ∃ earlier requirement later,
    past = earlier ++ .recoveryRequirement operation requirement :: later ∧
    (∀ c ∈ later, ¬ AsksRequirement c) ∧
    RecoveryCalls requirement operation later

/-- What must have happened in a step execution before its completion is
persisted. -/
structure CompletionReady (digest : Digest) (operation : Operation)
    (past : List Call) : Prop where
  verified : Happened [.verify operation (.ok ())] past
  auditFinalized : ∀ audit, Call.persistPendingAudit audit (.ok ()) ∈ past →
    ∃ now, Happened [.persistPendingAudit audit (.ok ()),
      .verify operation (.ok ()),
      .finalizeAudit (audit.finalized now) (.ok ())] past
  irreversibleAuditFinalized :
    ∀ audit, Call.persistPendingIrreversibleAudit audit (.ok ()) ∈ past →
      ∃ now, Happened [.persistPendingIrreversibleAudit audit (.ok ()),
        .verify operation (.ok ()),
        .finalizeIrreversibleAudit (audit.finalized now) (.ok ())] past
  observed : Call.evidenceRequirement operation .durableReceipt ∈ past →
    ∃ receipt,
      receipt.validateFor digest (Progress.keyFor operation.step.id) = .ok () ∧
      Happened [.captureEvidence operation (.ok receipt),
        .persistEvidence receipt (.ok ()),
        .verifyEvidence operation receipt (.ok ()),
        .verify operation (.ok ())] past

/-- The progress completes a step that `before` did not. -/
def NewlyCompletes (before progress : Progress) : Prop :=
  ∃ key ∈ progress.completedSteps, key ∉ before.completedSteps

/-- The rule for the calls of one execution of `step`, started with the
progress `before`. -/
def Allowed (digest : Digest) (step : Step) (before : Progress)
    (past : List Call) : Call → Prop
  | .apply operation _ => operation = ⟨step⟩ ∧ Recovered operation past
  | .persistProgress progress _ =>
      NewlyCompletes before progress →
        (∀ key ∈ progress.completedSteps, key ∉ before.completedSteps →
          key = Progress.keyFor step.id) ∧
        CompletionReady digest ⟨step⟩ past
  | _ => True

/-! ## The ways to complete a step -/

/-- A call before the engine starts to work on a step. -/
def Preliminary : Call → Prop
  | .isDryRun _ => True
  | .inspect _ _ => True
  | _ => False

/-- The calls of an execution that is ready to complete its step: what came
before the work, then one of six scripts. -/
inductive Prepared (digest : Digest) (operation : Operation) :
    List Call → Prop where
  | verified (start) (hstart : ∀ c ∈ start, Preliminary c) (evidence)
      (hevidence : evidence ≠ .durableReceipt) :
      Prepared digest operation (start ++
        [.evidenceRequirement operation evidence, .verify operation (.ok ())])
  | observed (start) (hstart : ∀ c ∈ start, Preliminary c) (receipt)
      (hreceipt : receipt.validateFor digest
        (Progress.keyFor operation.step.id) = .ok ()) :
      Prepared digest operation (start ++
        [.evidenceRequirement operation .durableReceipt,
          .captureEvidence operation (.ok receipt),
          .persistEvidence receipt (.ok ()),
          .verifyEvidence operation receipt (.ok ()),
          .verify operation (.ok ())])
  | lossless (start) (hstart : ∀ c ∈ start, Preliminary c) (entries) :
      Prepared digest operation (start ++
        [.recoveryRequirement operation .losslessBackup,
          .captureBackups operation (.ok entries),
          .persistBackups entries (.ok ()),
          .apply operation (.ok ()), .verify operation (.ok ())])
  | rebuildable (start) (hstart : ∀ c ∈ start, Preliminary c) (audit now) :
      Prepared digest operation (start ++
        [.recoveryRequirement operation .rebuildableAudit,
          .capturePendingAudit operation (.ok audit),
          .persistPendingAudit audit (.ok ()),
          .apply operation (.ok ()), .verify operation (.ok ()),
          .timestamp now, .finalizeAudit (audit.finalized now) (.ok ())])
  | irreversible (start) (hstart : ∀ c ∈ start, Preliminary c) (asked answered)
      (backups) (hbackups : backups = [] ∨ ∃ entries, backups =
        [.captureBackups operation (.ok entries), .persistBackups entries (.ok ())])
      (audit now) :
      Prepared digest operation (start ++
        [.recoveryRequirement operation asked,
          .recoveryRequirement operation answered] ++ backups ++
        [.capturePendingIrreversibleAudit operation (.ok audit),
          .persistPendingIrreversibleAudit audit (.ok ()),
          .apply operation (.ok ()), .verify operation (.ok ()),
          .timestamp now,
          .finalizeIrreversibleAudit (audit.finalized now) (.ok ())])

section

variable {digest : Digest} {operation : Operation} {calls : List Call}

/-- No audit is persisted before the work on a step. -/
private theorem not_preliminary_of_mem {start : List Call}
    (hstart : ∀ c ∈ start, Preliminary c) {c : Call} (hc : ¬ Preliminary c) :
    c ∉ start :=
  fun h => hc (hstart c h)

/-- **Every way to complete a step obeys the completion rule.** -/
theorem Prepared.completionReady (h : Prepared digest operation calls)
    (now : String) :
    CompletionReady digest operation (calls ++ [.timestamp now]) := by
  cases h with
  | verified start hstart evidence hevidence =>
      have hfree : ∀ {c : Call}, ¬ Preliminary c → c ∉ start :=
        fun hc => not_preliminary_of_mem hstart hc
      refine ⟨?_, fun audit h => ?_, fun audit h => ?_, fun h => ?_⟩
      · exact .before _ (.after _ (.skip _ (.take _ (.done _))))
      · simp [hfree (c := .persistPendingAudit audit (.ok ())) id] at h
      · simp [hfree (c := .persistPendingIrreversibleAudit audit (.ok ())) id] at h
      · simp [hfree (c := .evidenceRequirement operation .durableReceipt) id,
          Ne.symm hevidence] at h
  | observed start hstart receipt hreceipt =>
      have hfree : ∀ {c : Call}, ¬ Preliminary c → c ∉ start :=
        fun hc => not_preliminary_of_mem hstart hc
      refine ⟨?_, fun audit h => ?_, fun audit h => ?_, fun _ => ?_⟩
      · exact .before _ (.after _ (.skip _ (.skip _ (.skip _ (.skip _
          (.take _ (.done _)))))))
      · simp [hfree (c := .persistPendingAudit audit (.ok ())) id] at h
      · simp [hfree (c := .persistPendingIrreversibleAudit audit (.ok ())) id] at h
      · refine ⟨receipt, hreceipt, .before _ (.after _ (.skip _ ?_))⟩
        exact .take _ (.take _ (.take _ (.take _ (.done _))))
  | lossless start hstart entries =>
      have hfree : ∀ {c : Call}, ¬ Preliminary c → c ∉ start :=
        fun hc => not_preliminary_of_mem hstart hc
      refine ⟨?_, fun audit h => ?_, fun audit h => ?_, fun h => ?_⟩
      · exact .before _ (.after _ (.skip _ (.skip _ (.skip _ (.skip _
          (.take _ (.done _)))))))
      · simp [hfree (c := .persistPendingAudit audit (.ok ())) id] at h
      · simp [hfree (c := .persistPendingIrreversibleAudit audit (.ok ())) id] at h
      · simp [hfree (c := .evidenceRequirement operation .durableReceipt) id] at h
  | rebuildable start hstart audit done =>
      have hfree : ∀ {c : Call}, ¬ Preliminary c → c ∉ start :=
        fun hc => not_preliminary_of_mem hstart hc
      refine ⟨?_, fun audit' h => ?_, fun audit' h => ?_, fun h => ?_⟩
      · exact .before _ (.after _ (.skip _ (.skip _ (.skip _ (.skip _
          (.take _ (.done _)))))))
      · obtain rfl : audit' = audit := by
          simpa [hfree (c := .persistPendingAudit audit' (.ok ())) id] using h
        refine ⟨done, .before _ (.after _ (.skip _ (.skip _ (.take _ ?_))))⟩
        exact .skip _ (.take _ (.skip _ (.take _ (.done _))))
      · simp [hfree (c := .persistPendingIrreversibleAudit audit' (.ok ())) id] at h
      · simp [hfree (c := .evidenceRequirement operation .durableReceipt) id] at h
  | irreversible start hstart asked answered backups hbackups audit done =>
      have hfree : ∀ {c : Call}, ¬ Preliminary c → c ∉ start :=
        fun hc => not_preliminary_of_mem hstart hc
      have hfree' : ∀ {c : Call}, (∀ o r, c ≠ .captureBackups o r) →
          (∀ e r, c ≠ .persistBackups e r) → c ∉ backups := by
        intro c hcapture hpersist hmem
        rcases hbackups with rfl | ⟨entries, rfl⟩
        · cases hmem
        · simp only [List.mem_cons, List.not_mem_nil, or_false] at hmem
          rcases hmem with hmem | hmem
          · exact hcapture _ _ hmem
          · exact hpersist _ _ hmem
      refine ⟨?_, fun audit' h => ?_, fun audit' h => ?_, fun h => ?_⟩
      · exact .before _ (.after _ (.skip _ (.skip _ (.skip _
          (.take _ (.done _))))))
      · simp [hfree (c := .persistPendingAudit audit' (.ok ())) id,
          hfree' (c := .persistPendingAudit audit' (.ok ()))] at h
      · obtain rfl : audit' = audit := by
          simpa [hfree (c := .persistPendingIrreversibleAudit audit' (.ok ())) id,
            hfree' (c := .persistPendingIrreversibleAudit audit' (.ok ()))] using h
        refine ⟨done, .before _ (.after _ (.skip _ (.take _ ?_)))⟩
        exact .skip _ (.take _ (.skip _ (.take _ (.done _))))
      · simp [hfree (c := .evidenceRequirement operation .durableReceipt) id,
          hfree' (c := .evidenceRequirement operation .durableReceipt)] at h

end

/-! ## Carrying the calls through the engine -/

section

variable {σ α : Type} {b : Backend σ} {c : Control σ} {digest : Digest}
  {step : Step} {before : Progress} {past d : List Call}

/-- The execution of the step has made exactly the calls `d` so far, all of
them allowed, and the engine's progress is unchanged. -/
def At (digest : Digest) (step : Step) (before : Progress) (past d : List Call)
    (s : EngineState (σ × List Call)) : Prop :=
  s.backend.2 = past ++ d ∧ s.progress = before ∧
    Guarded (Allowed digest step before) [] d

/-- The execution of the step ended, and all its calls were allowed. -/
def Stopped (digest : Digest) (step : Step) (before : Progress)
    (past : List Call) (s : EngineState (σ × List Call)) : Prop :=
  ∃ d, s.backend.2 = past ++ d ∧ Guarded (Allowed digest step before) [] d

theorem At.stopped {s : EngineState (σ × List Call)}
    (h : At digest step before past d s) : Stopped digest step before past s :=
  ⟨d, h.1, h.2.2⟩

/-- A recorded call that is allowed here. -/
theorem call_at {port : Port σ α} {entry : α → Call}
    (h : ∀ a, Allowed digest step before d (entry a)) :
    Triple (At digest step before past d) (call (record port entry))
      (fun a => At digest step before past (d ++ [entry a]))
      (fun _ => Stopped digest step before past) := by
  rintro s ⟨hlog, hprogress, hguarded⟩
  refine ⟨?_, hprogress, hguarded.snoc (h _)⟩
  show s.backend.2 ++ [entry (port s.backend.1).1] =
    past ++ (d ++ [entry (port s.backend.1).1])
  rw [hlog, List.append_assoc]

/-- A recorded fallible call that is allowed here; a failure ends the
execution. -/
theorem tryCall_at {port : Port σ (Except String α)}
    {entry : Except String α → Call} {error : String → EngineError}
    (h : ∀ a, Allowed digest step before d (entry a)) :
    Triple (At digest step before past d) (tryCall (record port entry) error)
      (fun a => At digest step before past (d ++ [entry (.ok a)]))
      (fun _ => Stopped digest step before past) := by
  refine Triple.bind (call_at h) fun answer => ?_
  cases answer with
  | ok a => exact Triple.ret fun _ h => h
  | error message => exact Triple.raise fun _ h => h.stopped

/-- Reporting an event makes no call. -/
theorem emit_at {event : Event} :
    Triple (At (σ := σ) digest step before past d) (emit event)
      (fun _ => At digest step before past d)
      (fun _ => Stopped digest step before past) :=
  Triple.update fun _ h => h

/-- A call that is allowed after any past, once the progress may have
changed. -/
theorem call_stopped {port : Port σ α} {entry : α → Call}
    (h : ∀ d a, Allowed digest step before d (entry a)) :
    Triple (Stopped digest step before past) (call (record port entry))
      (fun _ => Stopped digest step before past)
      (fun _ => Stopped digest step before past) := by
  rintro s ⟨d, hlog, hguarded⟩
  refine ⟨d ++ [entry (port s.backend.1).1], ?_, hguarded.snoc (h _ _)⟩
  show s.backend.2 ++ [entry (port s.backend.1).1] =
    past ++ (d ++ [entry (port s.backend.1).1])
  rw [hlog, List.append_assoc]

theorem tryCall_stopped {port : Port σ (Except String α)}
    {entry : Except String α → Call} {error : String → EngineError}
    (h : ∀ d a, Allowed digest step before d (entry a)) :
    Triple (Stopped digest step before past) (tryCall (record port entry) error)
      (fun _ => Stopped digest step before past)
      (fun _ => Stopped digest step before past) := by
  refine Triple.bind (call_stopped h) fun answer => ?_
  cases answer with
  | ok a => exact Triple.ret fun _ h => h
  | error message => exact Triple.raise fun _ h => h

/-- Bookkeeping makes no call. -/
theorem update_stopped
    {f : EngineState (σ × List Call) → EngineState (σ × List Call)}
    (hf : ∀ s, (f s).backend = s.backend) :
    Triple (Stopped digest step before past)
      (update f : EngineM (σ × List Call) Unit)
      (fun _ => Stopped digest step before past)
      (fun _ => Stopped digest step before past) := by
  refine Triple.update fun s hs => ?_
  obtain ⟨d, hlog, hguarded⟩ := hs
  exact ⟨d, by rw [hf, hlog], hguarded⟩

theorem emit_stopped {event : Event} :
    Triple (Stopped (σ := σ) digest step before past) (emit event)
      (fun _ => Stopped digest step before past)
      (fun _ => Stopped digest step before past) :=
  update_stopped fun _ => rfl

/-- The mutation of a step whose recovery is in place. -/
theorem applyAndVerify_at {key : String} (h : Recovered ⟨step⟩ d) :
    Triple (At digest step before past d)
      (applyAndVerify (traced b) ⟨step⟩ key)
      (fun _ => At digest step before past
        (d ++ [.apply ⟨step⟩ (.ok ()), .verify ⟨step⟩ (.ok ())]))
      (fun _ => Stopped digest step before past) := by
  refine Triple.bind (tryCall_at fun _ => ⟨rfl, h⟩) fun _ => ?_
  refine Triple.bind emit_at fun _ => ?_
  refine Triple.bind (tryCall_at fun _ => trivial) fun _ => ?_
  refine emit_at.post fun _ s hs => ?_
  simpa using hs

/-- A non-empty capture, persisted exactly. -/
theorem captureLosslessBackups_at {key : String} :
    Triple (At digest step before past d)
      (captureLosslessBackups (traced b) ⟨step⟩ key)
      (fun _ s => ∃ entries, entries ≠ [] ∧ At digest step before past
        (d ++ [.captureBackups ⟨step⟩ (.ok entries),
          .persistBackups entries (.ok ())]) s)
      (fun _ => Stopped digest step before past) := by
  refine Triple.bind emit_at fun _ => ?_
  refine Triple.bind (tryCall_at fun _ => trivial) fun entries => ?_
  split
  · exact Triple.raise fun _ h => h.stopped
  · next hne =>
    refine Triple.bind (tryCall_at fun _ => trivial) fun _ => ?_
    refine emit_at.post fun _ s hs => ⟨entries, ?_, ?_⟩
    · simpa using hne
    · simpa using hs

/-! ### The scripts -/

/-- After its requirement was asked, everything a step did is later than the
last question. -/
private theorem recovered_of_calls {requirement : RecoveryRequirement}
    {later : List Call} (hlater : ∀ c ∈ later, ¬ AsksRequirement c)
    (h : RecoveryCalls requirement ⟨step⟩ later) :
    Recovered ⟨step⟩ (d ++ .recoveryRequirement ⟨step⟩ requirement :: later) :=
  ⟨d, requirement, later, rfl, hlater, h⟩

theorem runLosslessOperation_at {key : String}
    (hd : ∀ c ∈ d, Preliminary c) :
    Triple (At digest step before past
        (d ++ [.recoveryRequirement ⟨step⟩ .losslessBackup]))
      (runLosslessOperation (traced b) ⟨step⟩ key)
      (fun _ s => ∃ calls, Prepared digest ⟨step⟩ calls ∧
        At digest step before past calls s)
      (fun _ => Stopped digest step before past) := by
  refine Triple.bind captureLosslessBackups_at fun _ => ?_
  refine Triple.choose fun entries => Triple.assume fun hne => ?_
  have hrecovered : Recovered ⟨step⟩
      ((d ++ [.recoveryRequirement ⟨step⟩ .losslessBackup]) ++
        [.captureBackups ⟨step⟩ (.ok entries), .persistBackups entries (.ok ())]) := by
    rw [List.append_assoc]
    refine recovered_of_calls (by simp [AsksRequirement]) ?_
    exact ⟨entries, hne, .take _ (.take _ (.done _))⟩
  refine (applyAndVerify_at hrecovered).post fun _ s hs => ?_
  exact ⟨_, .lossless d hd entries, by simpa using hs⟩

theorem runRebuildableOperation_at
    (hd : ∀ c ∈ d, Preliminary c) :
    Triple (At digest step before past
        (d ++ [.recoveryRequirement ⟨step⟩ .rebuildableAudit]))
      (runRebuildableOperation (traced b) ⟨step⟩ (Progress.keyFor step.id))
      (fun _ s => ∃ calls, Prepared digest ⟨step⟩ calls ∧
        At digest step before past calls s)
      (fun _ => Stopped digest step before past) := by
  refine Triple.bind emit_at fun _ => ?_
  refine Triple.bind (tryCall_at fun _ => trivial) fun audit => ?_
  split
  · exact Triple.raise fun _ h => h.stopped
  · next hvalid =>
    have hvalid : audit.isValidPendingFor (Progress.keyFor step.id) = true := by
      simpa using hvalid
    refine Triple.bind (tryCall_at fun _ => trivial) fun _ => ?_
    refine Triple.bind emit_at fun _ => ?_
    have hrecovered : Recovered ⟨step⟩
        (((d ++ [.recoveryRequirement ⟨step⟩ .rebuildableAudit]) ++
          [.capturePendingAudit ⟨step⟩ (.ok audit)]) ++
          [.persistPendingAudit audit (.ok ())]) := by
      simp only [List.append_assoc, List.singleton_append]
      refine recovered_of_calls (by simp [AsksRequirement]) ?_
      exact ⟨audit, hvalid, .take _ (.take _ (.done _))⟩
    refine Triple.bind (applyAndVerify_at hrecovered) fun _ => ?_
    refine Triple.bind (call_at fun _ => trivial) fun now => ?_
    refine Triple.bind (tryCall_at fun _ => trivial) fun _ => ?_
    refine emit_at.post fun _ s hs => ?_
    exact ⟨_, .rebuildable d hd audit now, by simpa using hs⟩

theorem runEvidenceOperation_at
    (hd : ∀ c ∈ d, Preliminary c) :
    Triple (At digest step before past
        (d ++ [.evidenceRequirement ⟨step⟩ .durableReceipt]))
      (runEvidenceOperation (traced b) digest ⟨step⟩ (Progress.keyFor step.id))
      (fun _ s => ∃ calls, Prepared digest ⟨step⟩ calls ∧
        At digest step before past calls s)
      (fun _ => Stopped digest step before past) := by
  refine Triple.bind emit_at fun _ => ?_
  refine Triple.bind (tryCall_at fun _ => trivial) fun receipt => ?_
  cases hreceipt : receipt.validateFor digest (Progress.keyFor step.id) with
  | error error =>
      refine Triple.bind (Q := fun _ _ => False) ?_ fun _ s hs => hs.elim
      exact Triple.relabel fun s hs => hs.stopped
  | ok =>
      refine Triple.bind (Q := fun _ => At digest step before past
        ((d ++ [.evidenceRequirement ⟨step⟩ .durableReceipt]) ++
          [.captureEvidence ⟨step⟩ (.ok receipt)])) ?_ fun _ => ?_
      · exact Triple.relabel fun s hs => hs
      refine Triple.bind (tryCall_at fun _ => trivial) fun _ => ?_
      refine Triple.bind emit_at fun _ => ?_
      refine Triple.bind (tryCall_at fun _ => trivial) fun _ => ?_
      refine Triple.bind emit_at fun _ => ?_
      refine Triple.bind (tryCall_at fun _ => trivial) fun _ => ?_
      refine emit_at.post fun _ s hs => ?_
      exact ⟨_, .observed d hd receipt hreceipt, by simpa using hs⟩

/-- What an irreversible operation has done before its audit: asked twice, and
captured backups exactly when the second answer was mixed recovery. -/
theorem runPendingIrreversibleAudit_at (asked : RecoveryRequirement)
    {requirement : RecoveryRequirement} {backups : List Call} (hd : ∀ c ∈ d, Preliminary c)
    (hbackups : (requirement ≠ .mixed ∧ backups = []) ∨
      requirement = .mixed ∧ ∃ entries, entries ≠ [] ∧ backups =
        [.captureBackups ⟨step⟩ (.ok entries), .persistBackups entries (.ok ())]) :
    Triple (At digest step before past
        (d ++ [.recoveryRequirement ⟨step⟩ asked,
          .recoveryRequirement ⟨step⟩ requirement] ++ backups))
      (runPendingIrreversibleAudit (traced b) ⟨step⟩ (Progress.keyFor step.id)
        requirement)
      (fun _ s => ∃ calls, Prepared digest ⟨step⟩ calls ∧
        At digest step before past calls s)
      (fun _ => Stopped digest step before past) := by
  refine Triple.bind emit_at fun _ => ?_
  refine Triple.bind (tryCall_at fun _ => trivial) fun audit => ?_
  split
  · exact Triple.raise fun _ h => h.stopped
  next hvalid =>
  have hvalid : audit.isValidPendingFor requirement (Progress.keyFor step.id) =
      true := by
    simpa using hvalid
  refine Triple.bind (tryCall_at fun _ => trivial) fun _ => ?_
  refine Triple.bind emit_at fun _ => ?_
  have hrecovered : Recovered ⟨step⟩
      (((d ++ [.recoveryRequirement ⟨step⟩ asked,
          .recoveryRequirement ⟨step⟩ requirement] ++ backups) ++
        [.capturePendingIrreversibleAudit ⟨step⟩ (.ok audit)]) ++
        [.persistPendingIrreversibleAudit audit (.ok ())]) := by
    have hshape : ((d ++ [.recoveryRequirement ⟨step⟩ asked,
          .recoveryRequirement ⟨step⟩ requirement] ++ backups) ++
        [.capturePendingIrreversibleAudit ⟨step⟩ (.ok audit)]) ++
        [.persistPendingIrreversibleAudit audit (.ok ())] =
        (d ++ [.recoveryRequirement ⟨step⟩ asked]) ++
          .recoveryRequirement ⟨step⟩ requirement ::
            (backups ++ [.capturePendingIrreversibleAudit ⟨step⟩ (.ok audit),
              .persistPendingIrreversibleAudit audit (.ok ())]) := by
      simp
    rw [hshape]
    rcases hbackups with ⟨hmixed, rfl⟩ | ⟨rfl, entries, hne, rfl⟩
    · refine recovered_of_calls (by simp [AsksRequirement]) ?_
      -- a valid audit answers an irreversible requirement, and this one is not mixed
      have hkind := IrreversibleAudit.requirement_of_isValidPendingFor hvalid
      cases audit with
      | mixed record => exact absurd hkind hmixed
      | manual record =>
          have hmanual : requirement = .manualRecoveryAudit := hkind
          subst hmanual
          exact ⟨.manual record, hvalid, .take _ (.take _ (.done _))⟩
    · refine recovered_of_calls (by simp [AsksRequirement]) ?_
      exact ⟨entries, audit, hne, hvalid,
        .take _ (.take _ (.take _ (.take _ (.done _))))⟩
  refine Triple.bind (Triple.attempt (applyAndVerify_at hrecovered)) fun outcome => ?_
  cases outcome with
  | error error =>
      refine Triple.bind (call_stopped fun _ _ => trivial) fun now => ?_
      refine Triple.bind (tryCall_stopped fun _ _ => trivial) fun _ => ?_
      refine Triple.bind emit_stopped fun _ => ?_
      exact Triple.raise fun _ h => h
  | ok =>
      refine Triple.bind (call_at fun _ => trivial) fun now => ?_
      refine Triple.bind (tryCall_at fun _ => trivial) fun _ => ?_
      refine emit_at.post fun _ s hs => ?_
      refine ⟨_, .irreversible d hd asked requirement backups ?_ audit now,
        by simpa using hs⟩
      rcases hbackups with ⟨-, h⟩ | ⟨-, entries, -, h⟩
      · exact Or.inl h
      · exact Or.inr ⟨entries, h⟩

theorem runIrreversibleOperation_at {asked : RecoveryRequirement}
    (hd : ∀ c ∈ d, Preliminary c) :
    Triple (At digest step before past (d ++ [.recoveryRequirement ⟨step⟩ asked]))
      (runIrreversibleOperation (traced b) ⟨step⟩ (Progress.keyFor step.id))
      (fun _ s => ∃ calls, Prepared digest ⟨step⟩ calls ∧
        At digest step before past calls s)
      (fun _ => Stopped digest step before past) := by
  refine Triple.bind (call_at fun _ => trivial) fun requirement => ?_
  by_cases hmixed : requirement = .mixed
  · subst hmixed
    refine Triple.bind captureLosslessBackups_at fun _ => ?_
    refine Triple.choose fun entries => Triple.assume fun hne => ?_
    refine (runPendingIrreversibleAudit_at asked hd
      (Or.inr ⟨rfl, entries, hne, rfl⟩)).pre fun s hs => ?_
    simpa using hs
  · simp only [if_neg hmixed]
    refine (runPendingIrreversibleAudit_at asked hd
      (Or.inl ⟨hmixed, rfl⟩)).pre fun s hs => ?_
    simpa using hs

/-- Whatever a live step does, when it returns it is prepared for
completion. -/
theorem runLiveOperation_at {inspection : Inspection}
    (hd : ∀ c ∈ d, Preliminary c) :
    Triple (At digest step before past d)
      (runLiveOperation (traced b) digest ⟨step⟩ (Progress.keyFor step.id)
        inspection)
      (fun _ s => ∃ calls, Prepared digest ⟨step⟩ calls ∧
        At digest step before past calls s)
      (fun _ => Stopped digest step before past) := by
  unfold runLiveOperation
  split
  · refine Triple.bind (call_at fun _ => trivial) fun evidence => ?_
    by_cases hevidence : evidence = .durableReceipt
    · subst hevidence
      exact runEvidenceOperation_at hd
    · simp only [if_neg hevidence]
      refine Triple.bind (tryCall_at fun _ => trivial) fun _ => ?_
      refine emit_at.post fun _ s hs => ?_
      exact ⟨_, .verified d hd evidence hevidence, by simpa using hs⟩
  · refine Triple.bind (call_at fun _ => trivial) fun requirement => ?_
    cases requirement with
    | losslessBackup => exact runLosslessOperation_at hd
    | rebuildableAudit => exact runRebuildableOperation_at hd
    | manualRecoveryAudit => exact runIrreversibleOperation_at hd
    | mixed => exact runIrreversibleOperation_at hd

/-! ### Recording -/

/-- The completion of a prepared step is allowed. -/
theorem completeLiveStep_at {key : String} {calls : List Call}
    (h : Prepared digest ⟨step⟩ calls) :
    Triple (At digest step before past calls)
      (completeLiveStep (traced b) step key)
      (fun _ => Stopped digest step before past)
      (fun _ => Stopped digest step before past) := by
  refine Triple.bind (Q := fun p s => p = before ∧
    At digest step before past calls s) (Triple.gets fun s hs => ⟨hs.2.1, hs⟩)
    fun p => Triple.assume fun hp => ?_
  subst hp
  refine Triple.bind (call_at fun _ => trivial) fun now => ?_
  refine Triple.bind (tryCall_at fun _ _ => ?_) fun _ => ?_
  · refine ⟨fun k hk hnew => ?_, h.completionReady now⟩
    rcases Progress.mem_completedSteps_completeStep.mp hk with hk | hk
    · exact hk
    · exact absurd hk hnew
  · refine Triple.bind (Q := fun _ => Stopped digest step p past)
      (Triple.update fun s hs => hs.stopped) fun _ => ?_
    exact Triple.bind emit_stopped fun _ => update_stopped fun _ => rfl

/-- Skipping a step completes nothing. -/
theorem recordSkip_at {key : String} {persist : Bool} :
    Triple (At digest step before past d)
      (recordSkip (traced b) step key persist)
      (fun _ => Stopped digest step before past)
      (fun _ => Stopped digest step before past) := by
  refine Triple.bind emit_at fun _ => ?_
  cases persist with
  | false => exact (update_stopped fun _ => rfl).pre fun s hs => hs.stopped
  | true =>
      refine Triple.bind (Q := fun p s => p = before ∧
        At digest step before past d s) (Triple.gets fun s hs => ⟨hs.2.1, hs⟩)
        fun p => Triple.assume fun hp => ?_
      subst hp
      refine Triple.bind (tryCall_at fun _ hnew => ?_) fun _ => ?_
      · obtain ⟨k, hk, hfresh⟩ := hnew
        exact absurd (Progress.completedSteps_skipStep_subset hk) hfresh
      · refine Triple.bind (Q := fun _ => Stopped digest step p past)
          (Triple.update fun s hs => hs.stopped) fun _ => ?_
        exact update_stopped fun _ => rfl

/-- Acknowledging an advisory completes nothing. -/
theorem recordAdvisory_at {key reason : String} :
    Triple (At digest step before past d)
      (recordAdvisory (traced b) step key reason)
      (fun _ => Stopped digest step before past)
      (fun _ => Stopped digest step before past) := by
  refine Triple.bind (Q := fun p s => p = before ∧
    At digest step before past d s) (Triple.gets fun s hs => ⟨hs.2.1, hs⟩)
    fun p => Triple.assume fun hp => ?_
  subst hp
  refine Triple.bind (tryCall_at fun _ hnew => ?_) fun _ => ?_
  · obtain ⟨k, hk, hfresh⟩ := hnew
    exact absurd (Progress.completedSteps_acknowledge_subset hk) hfresh
  · refine Triple.bind (Q := fun _ => Stopped digest step p past)
      (Triple.update fun s hs => hs.stopped) fun _ => ?_
    exact Triple.bind emit_stopped fun _ => update_stopped fun _ => rfl

/-! ## One step -/

theorem runLiveStep_at {inspection : Inspection} (hd : ∀ c ∈ d, Preliminary c) :
    Triple (At digest step before past d)
      (runLiveStep (traced b) digest ⟨step⟩ (Progress.keyFor step.id) inspection)
      (fun _ => Stopped digest step before past)
      (fun _ => Stopped digest step before past) := by
  have hwork : ∀ inspection, Triple (At digest step before past d)
      (do
        runLiveOperation (traced b) digest ⟨step⟩ (Progress.keyFor step.id)
          inspection
        completeLiveStep (traced b) step (Progress.keyFor step.id))
      (fun _ => Stopped digest step before past)
      (fun _ => Stopped digest step before past) := by
    intro inspection
    refine Triple.bind (runLiveOperation_at hd) fun _ => ?_
    exact Triple.choose fun calls => Triple.assume fun h => completeLiveStep_at h
  cases inspection with
  | unsupported => exact Triple.raise fun _ h => h.stopped
  | inapplicable => exact recordSkip_at
  | advisory reason => exact recordAdvisory_at
  | satisfied => exact hwork .satisfied
  | needsApply => exact hwork .needsApply

/-- Only preliminary calls so far. -/
def Starting (digest : Digest) (step : Step) (before : Progress)
    (past : List Call) (s : EngineState (σ × List Call)) : Prop :=
  ∃ d, (∀ c ∈ d, Preliminary c) ∧ At digest step before past d s

theorem Starting.stopped {s : EngineState (σ × List Call)}
    (h : Starting digest step before past s) :
    Stopped digest step before past s := by
  obtain ⟨d, -, h⟩ := h
  exact h.stopped

/-- A preliminary call. -/
theorem preliminary_call {port : Port σ α} {entry : α → Call}
    (hentry : ∀ a, Preliminary (entry a))
    (h : ∀ d a, Allowed digest step before d (entry a)) :
    Triple (Starting digest step before past) (call (record port entry))
      (fun _ => Starting digest step before past)
      (fun _ => Stopped digest step before past) := by
  refine Triple.choose fun d => Triple.assume fun hd => ?_
  refine (call_at (h d)).post fun a s hs => ⟨d ++ [entry a], ?_, hs⟩
  intro c hc
  rcases List.mem_append.mp hc with hc | hc
  · exact hd c hc
  · rw [List.mem_singleton.mp hc]
    exact hentry a

/-- The closures make no backend call. -/
theorem unrecorded_call {port : Port σ α} :
    Triple (Starting digest step before past) (call (unrecorded port))
      (fun _ => Starting digest step before past)
      (fun _ => Stopped digest step before past) :=
  fun _ h => h

theorem skipRecordedOrCancelled_at {key : String} :
    Triple (Starting digest step before past)
      (skipRecordedOrCancelled (traced b) (lifted c) step.id key)
      (fun _ => Starting digest step before past)
      (fun _ => Stopped digest step before past) := by
  refine Triple.bind (Triple.gets (Q := fun _ => Starting digest step before past)
    fun _ h => h) fun progress => ?_
  split
  · exact Triple.ret fun _ h => h
  refine Triple.bind (preliminary_call (fun _ => trivial) fun _ _ => trivial)
    fun dry => ?_
  split
  · exact Triple.ret fun _ h => h
  refine Triple.bind unrecorded_call fun cancelled => ?_
  split
  · exact Triple.raise fun _ h => h.stopped
  · exact Triple.ret fun _ h => h

theorem shouldSkipForPolicy_at {profile : Profile} :
    Triple (Starting digest step before past)
      (shouldSkipForPolicy (traced b) (lifted c) step profile)
      (fun _ => Starting digest step before past)
      (fun _ => Stopped digest step before past) := by
  unfold shouldSkipForPolicy
  split
  · exact Triple.ret fun _ h => h
  · refine Triple.bind (preliminary_call (fun _ => trivial) fun _ _ => trivial)
      fun dry => ?_
    split
    · exact Triple.ret fun _ h => h
    · exact Triple.bind unrecorded_call fun _ => Triple.ret fun _ h => h
  · exact Triple.ret fun _ h => h

/-- The question whether the run is dry, for a live backend. -/
theorem isDryRun_call (hlive : ∀ s, (b.isDryRun s).1 = false) :
    Triple (Starting digest step before past) (call (traced b).isDryRun)
      (fun dry s => dry = false ∧ Starting digest step before past s)
      (fun _ => Stopped digest step before past) := by
  have h : Triple (Starting digest step before past) (call (traced b).isDryRun)
      (fun _ => Starting digest step before past)
      (fun _ => Stopped digest step before past) :=
    preliminary_call (fun _ => trivial) fun _ _ => trivial
  exact fun s hs => ⟨hlive s.backend.1, h.ok hs rfl⟩

/-- **One execution of the loop body.**  From any progress and after any past,
its calls obey the rules. -/
theorem runStep_stopped (hlive : ∀ s, (b.isDryRun s).1 = false)
    {profile : Profile} :
    Triple (fun s => s.backend.2 = past ∧ s.progress = before)
      (runStep (traced b) (lifted c) digest profile step)
      (fun _ => Stopped digest step before past)
      (fun _ => Stopped digest step before past) := by
  refine Triple.pre (P := Starting digest step before past) ?_ fun s hs =>
    ⟨[], by simp, by simpa using hs.1, hs.2, Guarded.nil _⟩
  refine Triple.bind skipRecordedOrCancelled_at fun recorded => ?_
  split
  · exact Triple.ret fun _ h => h.stopped
  refine Triple.bind shouldSkipForPolicy_at fun skipped => ?_
  split
  · refine Triple.bind (isDryRun_call hlive) fun dry => Triple.assume fun _ => ?_
    exact Triple.choose fun d => Triple.assume fun _ => recordSkip_at
  refine Triple.bind (Q := fun _ => Starting digest step before past)
    (Triple.update fun _ h => h) fun _ => ?_
  refine Triple.bind (Q := fun _ => Starting digest step before past) ?_
    fun inspection => ?_
  · refine Triple.bind (preliminary_call (fun _ => trivial) fun _ _ => trivial)
      fun answer => ?_
    cases answer with
    | ok a => exact Triple.ret fun _ h => h
    | error message => exact Triple.raise fun _ h => h.stopped
  refine Triple.bind (isDryRun_call hlive) fun dry => Triple.assume fun hdry => ?_
  subst hdry
  exact Triple.choose fun d => Triple.assume fun hd => runLiveStep_at hd

end

/-! ## Whole runs -/

section

variable {σ : Type} {b : Backend σ} (c : Control σ) (digest : Digest)
  (profile : Profile)

/-- What the loop records, iteration by iteration: the calls of the iterations
are the whole trace, in order, and each iteration obeys the rules. -/
theorem stepRunsFrom_spec (hlive : ∀ s, (b.isDryRun s).1 = false) :
    ∀ (steps : List Step) (s : EngineState (σ × List Call)),
      (runWithControl (traced b) (lifted c) digest steps profile s).2.backend.2 =
          s.backend.2 ++
            (stepRunsFrom b c digest profile steps s).flatMap StepRun.calls ∧
        (stepRunsFrom b c digest profile steps s).map StepRun.step <+: steps ∧
        ∀ run ∈ stepRunsFrom b c digest profile steps s,
          Guarded (Allowed digest run.step run.before) [] run.calls := by
  intro steps
  induction steps with
  | nil =>
      intro s
      refine ⟨(List.append_nil _).symm, List.nil_prefix, ?_⟩
      intro run hrun
      cases hrun
  | cons step steps ih =>
      intro s
      have hbody : Triple
          (fun t => t.backend.2 = s.backend.2 ∧ t.progress = s.progress)
          (runStep (traced b) (lifted c) digest profile step)
          (fun _ => Stopped digest step s.progress s.backend.2)
          (fun _ => Stopped digest step s.progress s.backend.2) :=
        runStep_stopped hlive
      have hstep := hbody s ⟨rfl, rfl⟩
      have hrun : runWithControl (traced b) (lifted c) digest (step :: steps)
          profile s =
          (do
            runStep (traced b) (lifted c) digest profile step
            runWithControl (traced b) (lifted c) digest steps profile) s := rfl
      rcases hout : runStep (traced b) (lifted c) digest profile step s with ⟨r, t⟩
      rw [hout] at hstep
      cases r with
      | error e =>
          obtain ⟨d, hlog, hguarded⟩ := hstep
          rw [hrun, bind_apply_error hout]
          have hruns : stepRunsFrom b c digest profile (step :: steps) s =
              [⟨step, s.progress, d⟩] := by
            simp only [stepRunsFrom, hout, hlog, List.drop_left]
          rw [hruns]
          refine ⟨by simpa using hlog, by simp, ?_⟩
          intro run hmem
          rw [List.mem_singleton.mp hmem]
          exact hguarded
      | ok a =>
          obtain ⟨d, hlog, hguarded⟩ := hstep
          obtain ⟨htrace, hprefix, hrules⟩ := ih t
          rw [hrun, bind_apply_ok hout]
          have hruns : stepRunsFrom b c digest profile (step :: steps) s =
              ⟨step, s.progress, d⟩ ::
                stepRunsFrom b c digest profile steps t := by
            simp only [stepRunsFrom, hout, hlog, List.drop_left]
          rw [hruns]
          refine ⟨?_, ?_, ?_⟩
          · rw [htrace, hlog, List.flatMap_cons, List.append_assoc]
          · rw [List.map_cons]
            exact List.prefix_cons_inj step |>.mpr hprefix
          · intro run hmem
            rcases List.mem_cons.mp hmem with rfl | hmem
            · exact hguarded
            · exact hrules run hmem

/-- **No mutation without a durable way back, and no completion without
proof.**  For every backend that is not a dry run, every list of steps,
profile, consent and cancellation: the calls of the run are the calls of its
step executions, one after the other, and within one execution

* every `apply` is for the step of the execution and comes after the
  successful recovery calls that the last answer about its recovery
  requirement demands;
* every `persist_progress` that newly completes a step completes only the step
  of the execution, and comes after its successful verification, after the
  finalization of every audit persisted in the execution, and, where a durable
  receipt is required, after the receipt was captured, validated, persisted and
  re-observed.

The rules look only at earlier calls, so they hold at every prefix of the
trace. -/
theorem mutation_safety (hlive : ∀ s, (b.isDryRun s).1 = false)
    (steps : List Step) (progress : Progress) (host : σ) :
    (tracedRun b c digest profile steps progress host).2.backend.2 =
        (stepRuns b c digest profile steps progress host).flatMap StepRun.calls ∧
      (stepRuns b c digest profile steps progress host).map StepRun.step <+:
        steps ∧
      ∀ run ∈ stepRuns b c digest profile steps progress host,
        (∀ earlier operation answer later,
          run.calls = earlier ++ .apply operation answer :: later →
            operation = ⟨run.step⟩ ∧ Recovered operation earlier) ∧
        (∀ earlier progress answer later,
          run.calls = earlier ++ .persistProgress progress answer :: later →
            NewlyCompletes run.before progress →
              (∀ key ∈ progress.completedSteps,
                key ∉ run.before.completedSteps →
                  key = Progress.keyFor run.step.id) ∧
              CompletionReady digest ⟨run.step⟩ earlier) := by
  obtain ⟨htrace, hprefix, hrules⟩ := stepRunsFrom_spec c digest profile hlive
    steps { backend := (host, []), progress := progress }
  refine ⟨htrace, hprefix, fun run hrun => ⟨?_, ?_⟩⟩
  · intro earlier operation answer later hcalls
    exact (hcalls ▸ hrules run hrun).at
  · intro earlier progress' answer later hcalls hnew
    exact (hcalls ▸ hrules run hrun).at hnew

end

/-! ## A run that mutates

The rules are not vacuous: on a host where every call succeeds, Game Mode
(P1:12) is applied, after its registry value was captured and persisted. -/

/-- The row of P1:12. -/
def gameMode : Step :=
  s .one 12 "System" "Game Mode" 1 .safe .registry .gameMode false false

theorem mutation_safety_gameMode :
    ∃ run ∈ stepRuns cooperativeBackend unattended (fun _ => .error .invalidReceiptId)
        .safe [gameMode] {} (),
      ∃ earlier later,
        run.calls = earlier ++ .apply ⟨gameMode⟩ (.ok ()) :: later ∧
        Recovered ⟨gameMode⟩ earlier := by
  have hrules := (mutation_safety (b := cooperativeBackend) unattended
    (fun _ => .error .invalidReceiptId) .safe (fun _ => rfl) [gameMode] {} ()).2.2
  have hcalls : ∀ run ∈ stepRuns cooperativeBackend unattended
      (fun _ => .error .invalidReceiptId) .safe [gameMode] {} (),
      run.calls = run.calls.take 6 ++ .apply ⟨gameMode⟩ (.ok ()) ::
        run.calls.drop 7 := by
    intro run hrun
    rw [List.mem_singleton.mp hrun]
    rfl
  refine ⟨_, List.mem_cons_self, _, _, hcalls _ List.mem_cons_self, ?_⟩
  exact ((hrules _ List.mem_cons_self).1 _ _ _ _ (hcalls _ List.mem_cons_self)).2

end FrametimeCfg.Verified.EngineSafety
