import FrametimeCfg.Domain.Engine

/-!
# The engine keeps the records it finds

A run of the engine passes over every step that is recorded, so whatever it
persists still has each record that it started with, and the unknown fields of
the document too.  This holds at every end of a run, a failed one included,
and for every backend.

The result is stated for an invariant of the host.  Where each port keeps the
invariant, and the persistence of the progress keeps it for every progress
that has the old records (`PortsKeep`), a run keeps it (`run_keeps`).
-/

namespace FrametimeCfg.Verified.EngineRecords

open FrametimeCfg.Domain
open FrametimeCfg.Domain.Progress
open FrametimeCfg.Lib.Effect

/-! ## Keeping records -/

/-- `q` has every record of `p`, and the same unknown fields. -/
structure KeepsRecords (p q : Progress) : Prop where
  recorded : ∀ id, p.isRecorded id = true → q.records id = p.records id
  unknown : q.unknown = p.unknown

theorem KeepsRecords.refl (p : Progress) : KeepsRecords p p :=
  ⟨fun _ _ => rfl, rfl⟩

theorem KeepsRecords.isCompleted {p q : Progress} (h : KeepsRecords p q) {id : StepId}
    (hid : p.isCompleted id = true) : q.isCompleted id = true := by
  have hrecorded : p.isRecorded id = true := by
    rw [isRecorded_iff]
    exact ⟨.completed, hid⟩
  have hsame : q.records id .completed = p.records id .completed := by
    rw [h.recorded id hrecorded]
  exact hsame.trans hid

/-- A step that the later progress does not record, the earlier one does not
record either. -/
theorem KeepsRecords.isRecorded_eq_false {p q : Progress} (h : KeepsRecords p q)
    {id : StepId} (hq : q.isRecorded id = false) : p.isRecorded id = false := by
  by_contra hp
  rw [Bool.not_eq_false] at hp
  have hsame := h.recorded id hp
  rw [(isRecorded_eq_false_iff q id).mp hq] at hsame
  have hp' := (isRecorded_eq_false_iff p id).mpr hsame.symm
  rw [hp] at hp'
  cases hp'

/-- Recording a step that was not recorded keeps the records. -/
theorem KeepsRecords.update {p q q' : Progress} {id : StepId} {r : Record}
    (h : KeepsRecords p q) (hid : p.isRecorded id = false)
    (hrecords : q'.records = Function.update q.records id (only r))
    (hunknown : q'.unknown = q.unknown) : KeepsRecords p q' := by
  refine ⟨?_, hunknown.trans h.unknown⟩
  intro j hj
  have hne : j ≠ id := by
    intro heq
    rw [heq, hid] at hj
    cases hj
  rw [hrecords, Function.update_of_ne hne]
  exact h.recorded j hj

/-! ## Hosts -/

section

variable {σ α : Type} {b : Backend σ} {c : Control σ} {digest : Digest}
  {profile : Profile} {I : σ → Prop} {p : Progress}

/-- Every port relates the host before a call to the host after it by `R`, and
the persistence of a progress `q` by `W q`. -/
structure Ports (b : Backend σ) (c : Control σ) (R : σ → σ → Prop)
    (W : Progress → σ → σ → Prop) : Prop where
  isDryRun : ∀ s, R s (b.isDryRun s).2
  inspect : ∀ operation s, R s (b.inspect operation s).2
  plan : ∀ operation s, R s (b.plan operation s).2
  captureBackups : ∀ operation s, R s (b.captureBackups operation s).2
  persistBackups : ∀ entries s, R s (b.persistBackups entries s).2
  recoveryRequirement : ∀ operation s, R s (b.recoveryRequirement operation s).2
  capturePendingAudit : ∀ operation s, R s (b.capturePendingAudit operation s).2
  persistPendingAudit : ∀ audit s, R s (b.persistPendingAudit audit s).2
  finalizeAudit : ∀ audit s, R s (b.finalizeAudit audit s).2
  capturePendingIrreversibleAudit : ∀ operation s,
    R s (b.capturePendingIrreversibleAudit operation s).2
  persistPendingIrreversibleAudit : ∀ audit s,
    R s (b.persistPendingIrreversibleAudit audit s).2
  finalizeIrreversibleAudit : ∀ audit s, R s (b.finalizeIrreversibleAudit audit s).2
  failIrreversibleAudit : ∀ audit s, R s (b.failIrreversibleAudit audit s).2
  evidenceRequirement : ∀ operation s, R s (b.evidenceRequirement operation s).2
  captureEvidence : ∀ operation s, R s (b.captureEvidence operation s).2
  persistEvidence : ∀ receipt s, R s (b.persistEvidence receipt s).2
  verifyEvidence : ∀ operation receipt s, R s (b.verifyEvidence operation receipt s).2
  apply : ∀ operation s, R s (b.apply operation s).2
  verify : ∀ operation s, R s (b.verify operation s).2
  persistProgress : ∀ q s, W q s (b.persistProgress q s).2
  timestamp : ∀ s, R s (b.timestamp s).2
  consent : ∀ step s, R s (c.consent step s).2
  cancelled : ∀ s, R s (c.cancelled s).2

/-- What is related by every call is related by the ports. -/
theorem Ports.free {R : σ → σ → Prop} {W : Progress → σ → σ → Prop} (hR : ∀ s t, R s t)
    (hW : ∀ q s t, W q s t) : Ports b c R W where
  isDryRun _ := hR _ _
  inspect _ _ := hR _ _
  plan _ _ := hR _ _
  captureBackups _ _ := hR _ _
  persistBackups _ _ := hR _ _
  recoveryRequirement _ _ := hR _ _
  capturePendingAudit _ _ := hR _ _
  persistPendingAudit _ _ := hR _ _
  finalizeAudit _ _ := hR _ _
  capturePendingIrreversibleAudit _ _ := hR _ _
  persistPendingIrreversibleAudit _ _ := hR _ _
  finalizeIrreversibleAudit _ _ := hR _ _
  failIrreversibleAudit _ _ := hR _ _
  evidenceRequirement _ _ := hR _ _
  captureEvidence _ _ := hR _ _
  persistEvidence _ _ := hR _ _
  verifyEvidence _ _ _ := hR _ _
  apply _ _ := hR _ _
  verify _ _ := hR _ _
  persistProgress _ _ := hW _ _ _
  timestamp _ := hR _ _
  consent _ _ := hR _ _
  cancelled _ := hR _ _

theorem Ports.mono {R R' : σ → σ → Prop} {W W' : Progress → σ → σ → Prop}
    (h : Ports b c R W) (hR : ∀ s t, R s t → R' s t)
    (hW : ∀ q s t, W q s t → W' q s t) : Ports b c R' W' where
  isDryRun s := hR _ _ (h.isDryRun s)
  inspect operation s := hR _ _ (h.inspect operation s)
  plan operation s := hR _ _ (h.plan operation s)
  captureBackups operation s := hR _ _ (h.captureBackups operation s)
  persistBackups entries s := hR _ _ (h.persistBackups entries s)
  recoveryRequirement operation s := hR _ _ (h.recoveryRequirement operation s)
  capturePendingAudit operation s := hR _ _ (h.capturePendingAudit operation s)
  persistPendingAudit audit s := hR _ _ (h.persistPendingAudit audit s)
  finalizeAudit audit s := hR _ _ (h.finalizeAudit audit s)
  capturePendingIrreversibleAudit operation s :=
    hR _ _ (h.capturePendingIrreversibleAudit operation s)
  persistPendingIrreversibleAudit audit s :=
    hR _ _ (h.persistPendingIrreversibleAudit audit s)
  finalizeIrreversibleAudit audit s := hR _ _ (h.finalizeIrreversibleAudit audit s)
  failIrreversibleAudit audit s := hR _ _ (h.failIrreversibleAudit audit s)
  evidenceRequirement operation s := hR _ _ (h.evidenceRequirement operation s)
  captureEvidence operation s := hR _ _ (h.captureEvidence operation s)
  persistEvidence receipt s := hR _ _ (h.persistEvidence receipt s)
  verifyEvidence operation receipt s := hR _ _ (h.verifyEvidence operation receipt s)
  apply operation s := hR _ _ (h.apply operation s)
  verify operation s := hR _ _ (h.verify operation s)
  persistProgress q s := hW _ _ _ (h.persistProgress q s)
  timestamp s := hR _ _ (h.timestamp s)
  consent step s := hR _ _ (h.consent step s)
  cancelled s := hR _ _ (h.cancelled s)

/-- A relation between states of the engine that every call but the persistence of
progress keeps, and every event. -/
structure Frame (b : Backend σ) (c : Control σ)
    (R : EngineState σ → EngineState σ → Prop) : Prop where
  refl : ∀ s, R s s
  trans : ∀ s t u, R s t → R t u → R s u
  event : ∀ s (event : Event), R s { s with report.events := s.report.events ++ [event] }
  ports : Ports b c (fun x y => ∀ s, s.backend = x → R s { s with backend := y })
    fun _ _ _ => True

section

variable {R : EngineState σ → EngineState σ → Prop} {operation : Operation} {key : String}

theorem Frame.bind {β : Type} {m : EngineM σ α} {k : α → EngineM σ β} (h : Frame b c R)
    (hm : Within R m) (hk : ∀ a, Within R (k a)) : Within R (m >>= k) :=
  Within.bind h.trans hm hk

theorem Frame.pure (h : Frame b c R) (a : α) : Within R (pure a : EngineM σ α) :=
  Within.pure h.refl a

theorem Frame.raise (h : Frame b c R) (error : EngineError) :
    Within R (raise error : EngineM σ α) :=
  Within.raise h.refl error

theorem Frame.emits (h : Frame b c R) (event : Event) : Within R (emit event) :=
  fun s => h.event s event

theorem Frame.call {port : Port σ α}
    (h : ∀ x s, s.backend = x → R s { s with backend := (port x).2 }) :
    Within R (call port) :=
  fun s => h s.backend s rfl

theorem Frame.tryCall {port : Port σ (Except String α)} {error : String → EngineError}
    (h : Frame b c R) (hport : ∀ x s, s.backend = x → R s { s with backend := (port x).2 }) :
    Within R (tryCall port error) := by
  refine h.bind (Frame.call hport) fun answer => ?_
  cases answer with
  | ok a => exact h.pure a
  | error message => exact h.raise _

theorem within_applyAndVerify (h : Frame b c R) :
    Within R (applyAndVerify b operation key) := by
  refine h.bind (h.tryCall (h.ports.apply _)) fun _ => ?_
  refine h.bind (h.emits _) fun _ => ?_
  exact h.bind (h.tryCall (h.ports.verify _)) fun _ => h.emits _

theorem within_captureLosslessBackups (h : Frame b c R) :
    Within R (captureLosslessBackups b operation key) := by
  refine h.bind (h.emits _) fun _ => ?_
  refine h.bind (h.tryCall (h.ports.captureBackups _)) fun backups => ?_
  split
  · exact h.raise _
  · exact h.bind (h.tryCall (h.ports.persistBackups _)) fun _ => h.emits _

theorem within_runEvidenceOperation (h : Frame b c R) :
    Within R (runEvidenceOperation b digest operation key) := by
  refine h.bind (h.emits _) fun _ => ?_
  refine h.bind (h.tryCall (h.ports.captureEvidence _)) fun receipt => ?_
  refine h.bind (Within.ofExcept h.refl _).relabel fun _ => ?_
  refine h.bind (h.tryCall (h.ports.persistEvidence _)) fun _ => ?_
  refine h.bind (h.emits _) fun _ => ?_
  refine h.bind (h.tryCall (h.ports.verifyEvidence _ _)) fun _ => ?_
  refine h.bind (h.emits _) fun _ => ?_
  exact h.bind (h.tryCall (h.ports.verify _)) fun _ => h.emits _

theorem within_runRebuildableOperation (h : Frame b c R) :
    Within R (runRebuildableOperation b operation key) := by
  refine h.bind (h.emits _) fun _ => ?_
  refine h.bind (h.tryCall (h.ports.capturePendingAudit _)) fun audit => ?_
  split
  · exact h.raise _
  refine h.bind (h.tryCall (h.ports.persistPendingAudit _)) fun _ => ?_
  refine h.bind (h.emits _) fun _ => ?_
  refine h.bind (within_applyAndVerify h) fun _ => ?_
  refine h.bind (Frame.call h.ports.timestamp) fun now => ?_
  exact h.bind (h.tryCall (h.ports.finalizeAudit _)) fun _ => h.emits _

theorem within_runPendingIrreversibleAudit {requirement : RecoveryRequirement}
    (h : Frame b c R) :
    Within R (runPendingIrreversibleAudit b operation key requirement) := by
  refine h.bind (h.emits _) fun _ => ?_
  refine h.bind (h.tryCall (h.ports.capturePendingIrreversibleAudit _)) fun audit => ?_
  split
  · exact h.raise _
  refine h.bind (h.tryCall (h.ports.persistPendingIrreversibleAudit _)) fun _ => ?_
  refine h.bind (h.emits _) fun _ => ?_
  refine h.bind (within_applyAndVerify h).attempt fun outcome => ?_
  cases outcome with
  | ok _ =>
      refine h.bind (Frame.call h.ports.timestamp) fun now => ?_
      exact h.bind (h.tryCall (h.ports.finalizeIrreversibleAudit _)) fun _ => h.emits _
  | error error =>
      refine h.bind (Frame.call h.ports.timestamp) fun now => ?_
      refine h.bind (h.tryCall (h.ports.failIrreversibleAudit _)) fun _ => ?_
      exact h.bind (h.emits _) fun _ => h.raise _

theorem within_runIrreversibleOperation (h : Frame b c R) :
    Within R (runIrreversibleOperation b operation key) := by
  refine h.bind (Frame.call (h.ports.recoveryRequirement _)) fun requirement => ?_
  by_cases hmixed : requirement = .mixed
  · simp only [hmixed, if_true]
    refine h.bind (within_captureLosslessBackups h) fun _ => ?_
    exact within_runPendingIrreversibleAudit h
  · simp only [hmixed, if_false]
    exact within_runPendingIrreversibleAudit h

/-- **The work on a step** only makes calls and reports events. -/
theorem within_runLiveOperation {inspection : Inspection} (h : Frame b c R) :
    Within R (runLiveOperation b digest operation key inspection) := by
  unfold runLiveOperation
  split
  · refine h.bind (Frame.call (h.ports.evidenceRequirement _)) fun evidence => ?_
    split
    · exact within_runEvidenceOperation h
    · exact h.bind (h.tryCall (h.ports.verify _)) fun _ => h.emits _
  · refine h.bind (Frame.call (h.ports.recoveryRequirement _)) fun requirement => ?_
    cases requirement with
    | rebuildableAudit => exact within_runRebuildableOperation h
    | manualRecoveryAudit => exact within_runIrreversibleOperation h
    | mixed => exact within_runIrreversibleOperation h
    | losslessBackup =>
        exact h.bind (within_captureLosslessBackups h) fun _ => within_applyAndVerify h

end

/-- Every port keeps the invariant; the progress that is persisted may be any
that has the records of `p`. -/
abbrev PortsKeep (b : Backend σ) (c : Control σ) (I : σ → Prop) (p : Progress) : Prop :=
  Ports b c (fun s t => I s → I t) fun q s t => KeepsRecords p q → I s → I t

/-- The host keeps the invariant, and the engine the records. -/
def Holds (I : σ → Prop) (p : Progress) (s : EngineState σ) : Prop :=
  I s.backend ∧ KeepsRecords p s.progress

/-- The procedure keeps both, however it ends. -/
def Keeps (I : σ → Prop) (p : Progress) (m : EngineM σ α) : Prop :=
  Triple (Holds I p) m (fun _ => Holds I p) (fun _ => Holds I p)

theorem Keeps.bind {β : Type} {m : EngineM σ α} {k : α → EngineM σ β}
    (hm : Keeps I p m) (hk : ∀ a, Keeps I p (k a)) : Keeps I p (m >>= k) :=
  Triple.bind hm hk

theorem keeps_pure (a : α) : Keeps I p (pure a : EngineM σ α) :=
  Triple.ret fun _ hs => hs

theorem keeps_raise (error : EngineError) : Keeps I p (raise error : EngineM σ α) :=
  Triple.raise fun _ hs => hs

theorem keeps_call {port : Port σ α} (h : ∀ s, I s → I (port s).2) :
    Keeps I p (call port) :=
  fun s hs => ⟨h s.backend hs.1, hs.2⟩

theorem keeps_tryCall {port : Port σ (Except String α)} {error : String → EngineError}
    (h : ∀ s, I s → I (port s).2) : Keeps I p (tryCall port error) := by
  refine (keeps_call h).bind fun answer => ?_
  cases answer with
  | ok a => exact keeps_pure a
  | error message => exact keeps_raise _

/-- An update of the report. -/
theorem keeps_update {f : EngineState σ → EngineState σ}
    (hbackend : ∀ s, (f s).backend = s.backend)
    (hprogress : ∀ s, (f s).progress = s.progress) :
    Keeps I p (update f : EngineM σ Unit) := by
  refine Triple.update ?_
  intro s hs
  show I (f s).backend ∧ KeepsRecords p (f s).progress
  rw [hbackend, hprogress]
  exact hs

theorem keeps_emit (event : Event) : Keeps (σ := σ) I p (emit event) :=
  keeps_update (fun _ => rfl) fun _ => rfl

theorem keeps_setProgress {q : Progress} (h : KeepsRecords p q) :
    Keeps (σ := σ) I p (setProgress q) :=
  Triple.update fun _ hs => ⟨hs.1, h⟩

end

/-! ## Recording a step -/

section

variable {σ : Type} {b : Backend σ} {c : Control σ} {digest : Digest}
  {profile : Profile} {I : σ → Prop} {p : Progress} {step : Step} {key : String}

/-- The progress that the engine holds has the old records. -/
private theorem keeps_progress {α : Type} {k : Progress → EngineM σ α}
    (h : ∀ q, KeepsRecords p q → Keeps I p (k q)) :
    Keeps I p (gets EngineState.progress >>= k) := by
  refine Triple.bind (Triple.gets (Q := fun q s => KeepsRecords p q ∧ Holds I p s)
    fun s hs => ⟨hs.2, hs⟩) ?_
  intro q
  exact Triple.assume fun hq => h q hq

theorem keeps_recordAdvisory {reason : String} (h : PortsKeep b c I p)
    (hid : p.isRecorded step.id = false) :
    Keeps I p (recordAdvisory b step key reason) := by
  refine keeps_progress fun q hq => ?_
  have hq' : KeepsRecords p (q.acknowledgeStepAdvisory step.id reason) :=
    hq.update hid (records_acknowledgeStepAdvisory _ _ _) rfl
  refine (keeps_tryCall fun s => h.persistProgress _ s hq').bind fun _ => ?_
  refine (keeps_setProgress hq').bind fun _ => ?_
  exact (keeps_emit _).bind fun _ => keeps_update (fun _ => rfl) fun _ => rfl

theorem keeps_recordSkip {persist : Bool} (h : PortsKeep b c I p)
    (hid : p.isRecorded step.id = false) :
    Keeps I p (recordSkip b step key persist) := by
  refine (keeps_emit _).bind fun _ => ?_
  cases persist with
  | false => exact keeps_update (fun _ => rfl) fun _ => rfl
  | true =>
      refine keeps_progress fun q hq => ?_
      have hq' : KeepsRecords p (q.skipStep step.id) :=
        hq.update hid (records_skipStep _ _) rfl
      refine (keeps_tryCall fun s => h.persistProgress _ s hq').bind fun _ => ?_
      refine (keeps_setProgress hq').bind fun _ => ?_
      exact keeps_update (fun _ => rfl) fun _ => rfl

theorem keeps_completeLiveStep (h : PortsKeep b c I p)
    (hid : p.isRecorded step.id = false) :
    Keeps I p (completeLiveStep b step key) := by
  refine keeps_progress fun q hq => ?_
  refine (keeps_call h.timestamp).bind fun now => ?_
  have hq' : KeepsRecords p (q.completeStep step.id now) :=
    hq.update hid (records_completeStep _ _ _) rfl
  refine (keeps_tryCall fun s => h.persistProgress _ s hq').bind fun _ => ?_
  refine (keeps_setProgress hq').bind fun _ => ?_
  exact (keeps_emit _).bind fun _ => keeps_update (fun _ => rfl) fun _ => rfl

/-! ## Working on a step -/

variable {operation : Operation}

/-- What the host keeps, the engine keeps while it does not persist progress. -/
theorem frame_holds (h : PortsKeep b c I p) :
    Frame b c fun s t => Holds I p s → Holds I p t where
  refl _ hs := hs
  trans _ _ _ hst htu hs := htu (hst hs)
  event _ _ hs := hs
  ports := by
    refine h.mono ?_ fun _ _ _ _ => trivial
    rintro x y hxy s rfl hs
    exact ⟨hxy hs.1, hs.2⟩

theorem keeps_runLiveOperation {inspection : Inspection} (h : PortsKeep b c I p) :
    Keeps I p (runLiveOperation b digest operation key inspection) :=
  (within_runLiveOperation (frame_holds h)).triple fun _ _ hs hst => hst hs

/-! ## The loop -/

theorem keeps_runLiveStep {inspection : Inspection} (h : PortsKeep b c I p)
    (hid : p.isRecorded operation.step.id = false) :
    Keeps I p (runLiveStep b digest operation key inspection) := by
  cases inspection with
  | unsupported => exact keeps_raise _
  | inapplicable => exact keeps_recordSkip h hid
  | advisory reason => exact keeps_recordAdvisory h hid
  | satisfied =>
      exact (keeps_runLiveOperation h).bind fun _ => keeps_completeLiveStep h hid
  | needsApply =>
      exact (keeps_runLiveOperation h).bind fun _ => keeps_completeLiveStep h hid

theorem keeps_forEach {α : Type} {body : α → EngineM σ Unit} {xs : List α}
    (h : ∀ x, Keeps I p (body x)) : Keeps I p (forEach body xs) :=
  Triple.forEach fun x _ => h x

theorem keeps_reportDryRun {inspection : Inspection} (h : PortsKeep b c I p) :
    Keeps I p (reportDryRun b operation key inspection) := by
  refine (keeps_tryCall (h.plan _)).bind fun lines => ?_
  refine (keeps_forEach fun line => keeps_emit _).bind fun _ => ?_
  cases inspection with
  | inapplicable =>
      exact (keeps_emit _).bind fun _ => keeps_update (fun _ => rfl) fun _ => rfl
  | unsupported => exact keeps_update (fun _ => rfl) fun _ => rfl
  | advisory reason =>
      exact (keeps_emit _).bind fun _ => keeps_update (fun _ => rfl) fun _ => rfl
  | satisfied => exact keeps_update (fun _ => rfl) fun _ => rfl
  | needsApply => exact keeps_update (fun _ => rfl) fun _ => rfl

/-- The engine goes on with a step only where the step was not recorded at the
start of the run. -/
theorem skipRecordedOrCancelled_unrecorded {id : StepId} (h : PortsKeep b c I p) :
    Triple (Holds I p) (skipRecordedOrCancelled b c id key)
      (fun recorded s => (recorded = false → p.isRecorded id = false) ∧ Holds I p s)
      (fun _ => Holds I p) := by
  refine Triple.bind (Triple.gets (Q := fun q s => KeepsRecords p q ∧ Holds I p s)
    fun s hs => ⟨hs.2, hs⟩) ?_
  intro q
  refine Triple.assume ?_
  intro hq
  by_cases hrecorded : q.isRecorded id = true
  · rw [if_pos hrecorded]
    refine Triple.ret ?_
    intro s hs
    exact ⟨(nomatch ·), hs⟩
  · rw [if_neg hrecorded]
    have hnone : p.isRecorded id = false :=
      hq.isRecorded_eq_false (by simpa using hrecorded)
    have hfree : Keeps I p (do
        let dry ← call b.isDryRun
        if dry then pure false
        else
          let cancelled ← call c.cancelled
          if cancelled then raise (.cancelled key) else pure false) := by
      refine (keeps_call h.isDryRun).bind fun dry => ?_
      cases dry with
      | true => exact keeps_pure _
      | false =>
          refine (keeps_call h.cancelled).bind fun cancelled => ?_
          cases cancelled with
          | true => exact keeps_raise _
          | false => exact keeps_pure _
    exact Triple.post hfree fun _ _ hs => ⟨fun _ => hnone, hs⟩

theorem keeps_shouldSkipForPolicy (h : PortsKeep b c I p) :
    Keeps I p (shouldSkipForPolicy b c step profile) := by
  unfold shouldSkipForPolicy
  cases profile.decision step.tier step.risk with
  | skip => exact keeps_pure _
  | auto => exact keeps_pure _
  | prompt =>
      refine (keeps_call h.isDryRun).bind fun dry => ?_
      cases dry with
      | true => exact keeps_pure _
      | false => exact (keeps_call (h.consent _)).bind fun agreed => keeps_pure _

theorem keeps_runStep (h : PortsKeep b c I p) :
    Keeps I p (runStep b c digest profile step) := by
  refine Triple.bind (skipRecordedOrCancelled_unrecorded h) ?_
  intro recorded
  refine Triple.assume ?_
  intro hnone
  cases recorded with
  | true => exact keeps_pure _
  | false =>
      have hid : p.isRecorded step.id = false := hnone rfl
      refine (keeps_shouldSkipForPolicy h).bind fun skipped => ?_
      cases skipped with
      | true =>
          refine (keeps_call h.isDryRun).bind fun dry => ?_
          exact keeps_recordSkip h hid
      | false =>
          refine (keeps_emit _).bind fun _ => ?_
          refine (keeps_tryCall (h.inspect _)).bind fun inspection => ?_
          refine (keeps_call h.isDryRun).bind fun dry => ?_
          cases dry with
          | true => exact keeps_reportDryRun h
          | false => exact keeps_runLiveStep h hid

/-- **A run keeps the invariant of its host**, however it ends. -/
theorem run_keeps {steps : List Step} {host : σ} (h : PortsKeep b c I p)
    (hhost : I host) :
    I (runWithControl b c digest steps profile
      { backend := host, progress := p }).2.backend := by
  have hrun : Keeps I p (runWithControl b c digest steps profile) :=
    keeps_forEach fun _ => keeps_runStep h
  have hstart : Holds I p { backend := host, progress := p } :=
    ⟨hhost, KeepsRecords.refl p⟩
  have hend := hrun _ hstart
  rcases hresult : runWithControl b c digest steps profile
    { backend := host, progress := p } with ⟨r, s⟩
  rw [hresult] at hend
  cases r with
  | ok _ => exact hend.1
  | error _ => exact hend.1

end

end FrametimeCfg.Verified.EngineRecords
