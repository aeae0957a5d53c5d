import FrametimeCfg.Verified.EngineRecords

/-!
# What a live run leaves behind

A live run that returns treats each of its steps in one of four ways: a step
that was recorded before is passed over, a step that the profile or the user
declines is skipped, a step whose inspection is an advisory is acknowledged,
and every other step is completed or skipped.  `StepResult` lists the four
ways; `runStep_result` says that one iteration of the loop treats its step in
one of them and leaves the records of every other step alone, and
`run_result` carries this over the whole run.
-/

namespace FrametimeCfg.Verified.EngineOutcome

open FrametimeCfg.Domain
open FrametimeCfg.Domain.Progress
open FrametimeCfg.Lib.Effect

/-! ## The treatment of a step -/

/-- The profile, or the user it asks, keeps the engine from the step. -/
def declines (profile : Profile) (agrees : Step → Bool) (step : Step) : Bool :=
  match profile.decision step.tier step.risk with
  | .skip => true
  | .prompt => !agrees step
  | .auto => false

section

variable (profile : Profile) (agrees advised : Step → Bool)

/-- The records of a step before and after a run that reached it. -/
inductive StepResult (step : Step) : (Record → Bool) → (Record → Bool) → Prop where
  | kept (before) (h : before ≠ noRecord) : StepResult step before before
  | declined (h : declines profile agrees step = true) :
      StepResult step noRecord (only .skipped)
  | advised (h : declines profile agrees step = false) (ha : advised step = true) :
      StepResult step noRecord (only .advised)
  | worked (h : declines profile agrees step = false) (ha : advised step = false)
      (r) (hr : r ≠ .advised) : StepResult step noRecord (only r)

/-- One record is a record. -/
private theorem only_ne_noRecord (r : Record) : only r ≠ noRecord := by
  intro h
  have hr : only r r = noRecord r := by rw [h]
  simp [only, noRecord] at hr

variable {profile agrees advised} in
/-- Every treatment leaves the step in some record. -/
theorem StepResult.recorded {step : Step} {before after : Record → Bool}
    (h : StepResult profile agrees advised step before after) :
    after ≠ noRecord := by
  cases h with
  | kept before h => exact h
  | declined h => exact only_ne_noRecord _
  | advised h ha => exact only_ne_noRecord _
  | worked h ha r hr => exact only_ne_noRecord _

variable {profile agrees advised} in
/-- A step that was recorded before keeps its records. -/
theorem StepResult.eq_of_recorded {step : Step} {before after : Record → Bool}
    (h : StepResult profile agrees advised step before after)
    (hbefore : before ≠ noRecord) : after = before := by
  cases h with
  | kept before h => rfl
  | declined h => exact absurd rfl hbefore
  | advised h ha => exact absurd rfl hbefore
  | worked h ha r hr => exact absurd rfl hbefore

variable {profile agrees advised} in
/-- Which treatments leave the step completed or skipped. -/
theorem StepResult.resolved_iff {step : Step} {before after : Record → Bool}
    (h : StepResult profile agrees advised step before after) :
    (after .completed = true ∨ after .skipped = true) ↔
      before .completed = true ∨ before .skipped = true ∨
        before .advised = false ∧
          (advised step = false ∨ declines profile agrees step = true) := by
  cases h with
  | kept before hbefore =>
      constructor
      · rintro (h | h)
        · exact Or.inl h
        · exact Or.inr (Or.inl h)
      · rintro (h | h | ⟨hadvised, -⟩)
        · exact Or.inl h
        · exact Or.inr h
        -- A step that was recorded, but not as an advisory, is resolved.
        · by_contra hnone
          rw [not_or, Bool.not_eq_true, Bool.not_eq_true] at hnone
          refine hbefore (funext fun r => ?_)
          cases r with
          | completed => exact hnone.1
          | skipped => exact hnone.2
          | advised => exact hadvised
  | declined h => simp [only, noRecord, h]
  | advised h ha => simp [only, noRecord, h, ha]
  | worked h ha r hr =>
      cases r with
      | completed => simp [only, noRecord, ha]
      | skipped => simp [only, noRecord, ha]
      | advised => exact absurd rfl hr

/-- The ports of a live run answer as described: it is no dry run, the user
answers by `agrees`, and an inspection is an advisory exactly for the steps
that `advised` names. -/
structure Answers {σ : Type} (b : Backend σ) (c : Control σ) (steps : List Step) :
    Prop where
  live : ∀ host, (b.isDryRun host).1 = false
  consent : ∀ step ∈ steps, ∀ host, (c.consent step host).1 = agrees step
  inspection : ∀ step ∈ steps, ∀ host inspection,
    (b.inspect ⟨step⟩ host).1 = .ok inspection →
      ((∃ reason, inspection = .advisory reason) ↔ advised step = true)

end

/-! ## Procedures that leave the progress alone -/

section

variable {σ α : Type} {b : Backend σ} {c : Control σ} {digest : Digest}
  {p : Progress}

/-- The engine holds the progress `p`. -/
def Holds (p : Progress) (s : EngineState σ) : Prop := s.progress = p

/-- An error ends the run, and nothing is said about it. -/
def Stops (_ : EngineError) (_ : EngineState σ) : Prop := True

theorem call_holds {port : Port σ α} {A : α → Prop}
    (h : ∀ host, A (port host).1) :
    Triple (Holds p) (call port) (fun a s => A a ∧ Holds p s) Stops :=
  fun s hs => ⟨h s.backend, hs⟩

theorem tryCall_holds {port : Port σ (Except String α)}
    {error : String → EngineError} {A : α → Prop}
    (h : ∀ host a, (port host).1 = .ok a → A a) :
    Triple (Holds p) (tryCall port error) (fun a s => A a ∧ Holds p s) Stops := by
  refine Triple.bind (call_holds (A := fun r => ∀ a, r = .ok a → A a) h)
    fun answer => ?_
  cases answer with
  | ok a => exact Triple.ret fun _ hs => ⟨hs.1 a rfl, hs.2⟩
  | error message => exact Triple.raise fun _ _ => trivial

/-- A call whose answer does not matter. -/
theorem call_keeps (port : Port σ α) :
    Triple (Holds p) (call port) (fun _ => Holds p) Stops :=
  fun _ hs => hs

theorem tryCall_keeps (port : Port σ (Except String α))
    (error : String → EngineError) :
    Triple (Holds p) (tryCall port error) (fun _ => Holds p) Stops :=
  (tryCall_holds (A := fun _ => True) fun _ _ _ => trivial).post fun _ _ h => h.2

theorem emit_keeps (event : Event) :
    Triple (Holds (σ := σ) p) (emit event) (fun _ => Holds p) Stops :=
  Triple.update fun _ hs => hs

theorem raise_stops (P : EngineState σ → Prop) (Q : α → EngineState σ → Prop)
    (error : EngineError) : Triple P (raise error) Q Stops :=
  Triple.raise fun _ _ => trivial

/-- The calls and the events leave the progress alone. -/
theorem frame_progress (c : Control σ) (p : Progress) :
    EngineRecords.Frame b c fun s t : EngineState σ => s.progress = p → t.progress = p where
  refl _ hs := hs
  trans _ _ _ hst htu hs := htu (hst hs)
  event _ _ hs := hs
  ports := EngineRecords.Ports.free (fun _ _ _ _ hs => hs) fun _ _ _ => trivial

/-- The work on a step records nothing. -/
theorem runLiveOperation_keeps (operation : Operation) (key : String)
    (inspection : Inspection) :
    Triple (Holds p) (runLiveOperation b digest operation key inspection)
      (fun _ => Holds p) Stops := by
  -- the closures are not asked here
  let c : Control σ := ⟨fun _ s => (false, s), fun s => (false, s)⟩
  refine ((EngineRecords.within_runLiveOperation (frame_progress c p)).triple
    fun s t hs hst => hst hs).conseq (fun _ hs => hs) (fun _ _ hs => hs) ?_
  exact fun _ _ _ => trivial

/-! ## Procedures that record the step -/

/-- The records are those of `p` but for the given step. -/
def Becomes (p : Progress) (id : StepId) (r : Record) (s : EngineState σ) : Prop :=
  s.progress.records = Function.update p.records id (only r)

theorem update_becomes {id : StepId} {r : Record}
    {f : EngineState σ → EngineState σ} (h : ∀ s, (f s).progress = s.progress) :
    Triple (Becomes p id r) (update f : EngineM σ Unit)
      (fun _ => Becomes p id r) Stops := by
  refine Triple.update fun s hs => ?_
  show (f s).progress.records = _
  rw [h]
  exact hs

theorem setProgress_becomes {id : StepId} {r : Record} {q : Progress}
    (h : q.records = Function.update p.records id (only r)) :
    Triple (Holds (σ := σ) p) (setProgress q) (fun _ => Becomes p id r) Stops :=
  Triple.update fun _ _ => h

theorem recordAdvisory_becomes (step : Step) (key reason : String) :
    Triple (Holds p) (recordAdvisory b step key reason)
      (fun _ => Becomes p step.id .advised) Stops := by
  refine Triple.bind (Triple.gets (Q := fun q s => q = p ∧ Holds p s)
    fun s hs => ⟨hs, hs⟩) fun q => Triple.assume ?_
  rintro rfl
  refine Triple.bind (tryCall_keeps _ _) fun _ => ?_
  refine Triple.bind
    (setProgress_becomes (records_acknowledgeStepAdvisory _ _ _)) fun _ => ?_
  exact Triple.bind (update_becomes fun _ => rfl) fun _ => update_becomes fun _ => rfl

theorem recordSkip_becomes (step : Step) (key : String) :
    Triple (Holds p) (recordSkip b step key true)
      (fun _ => Becomes p step.id .skipped) Stops := by
  refine Triple.bind (emit_keeps _) fun _ => ?_
  simp only [if_true]
  refine Triple.bind (Triple.gets (Q := fun q s => q = p ∧ Holds p s)
    fun s hs => ⟨hs, hs⟩) fun q => Triple.assume ?_
  rintro rfl
  refine Triple.bind (tryCall_keeps _ _) fun _ => ?_
  refine Triple.bind (setProgress_becomes (records_skipStep _ _)) fun _ => ?_
  exact update_becomes fun _ => rfl

theorem completeLiveStep_becomes (step : Step) (key : String) :
    Triple (Holds p) (completeLiveStep b step key)
      (fun _ => Becomes p step.id .completed) Stops := by
  refine Triple.bind (Triple.gets (Q := fun q s => q = p ∧ Holds p s)
    fun s hs => ⟨hs, hs⟩) fun q => Triple.assume ?_
  rintro rfl
  refine Triple.bind (call_keeps _) fun now => ?_
  refine Triple.bind (tryCall_keeps _ _) fun _ => ?_
  refine Triple.bind
    (setProgress_becomes (records_completeStep _ _ _)) fun _ => ?_
  exact Triple.bind (update_becomes fun _ => rfl) fun _ => update_becomes fun _ => rfl

/-! ## One iteration of the loop -/

section

variable {c : Control σ} {profile : Profile} {agrees advised : Step → Bool}
  {steps : List Step} {step : Step}

/-- The iteration has treated the step, and no other. -/
def Treated (profile : Profile) (agrees advised : Step → Bool) (p : Progress)
    (step : Step) (s : EngineState σ) : Prop :=
  ∃ after, StepResult profile agrees advised step (p.records step.id) after ∧
    s.progress.records = Function.update p.records step.id after

theorem skipRecordedOrCancelled_holds (id : StepId) (key : String) :
    Triple (Holds p) (skipRecordedOrCancelled b c id key)
      (fun recorded s => recorded = p.isRecorded id ∧ Holds p s) Stops := by
  refine Triple.bind (Triple.gets (Q := fun q s => q = p ∧ Holds p s)
    fun s hs => ⟨hs, hs⟩) fun q => Triple.assume ?_
  rintro rfl
  split
  · next h => exact Triple.ret fun s hs => ⟨h.symm, hs⟩
  · next h =>
    have hnone : q.isRecorded id = false := by simpa using h
    refine Triple.bind (call_keeps _) fun dry => ?_
    split
    · exact Triple.ret fun s hs => ⟨hnone.symm, hs⟩
    · refine Triple.bind (call_keeps _) fun cancelled => ?_
      split
      · exact raise_stops _ _ _
      · exact Triple.ret fun s hs => ⟨hnone.symm, hs⟩

theorem shouldSkipForPolicy_holds
    (h : Answers agrees advised b c steps) (hmem : step ∈ steps) :
    Triple (Holds p) (shouldSkipForPolicy b c step profile)
      (fun skipped s => skipped = declines profile agrees step ∧ Holds p s)
      Stops := by
  unfold shouldSkipForPolicy declines
  cases profile.decision step.tier step.risk with
  | skip => exact Triple.ret fun s hs => ⟨rfl, hs⟩
  | auto => exact Triple.ret fun s hs => ⟨rfl, hs⟩
  | prompt =>
      refine Triple.bind (call_holds (A := fun dry => dry = false) h.live)
        fun dry => Triple.assume ?_
      rintro rfl
      refine Triple.bind (call_holds (A := fun agreed => agreed = agrees step)
        (h.consent step hmem)) fun agreed => Triple.assume ?_
      rintro rfl
      exact Triple.ret fun s hs => ⟨rfl, hs⟩

/-- A new record of the step is one of the ways to treat it. -/
theorem Becomes.treated {r : Record} {s : EngineState σ}
    (h : Becomes p step.id r s) (hp : p.records step.id = noRecord)
    (hr : StepResult profile agrees advised step noRecord (only r)) :
    Treated profile agrees advised p step s :=
  ⟨only r, hp ▸ hr, h⟩

theorem runLiveStep_treated (key : String) (inspection : Inspection)
    (hinspection : (∃ reason, inspection = .advisory reason) ↔ advised step = true)
    (hp : p.records step.id = noRecord)
    (hd : declines profile agrees step = false) :
    Triple (Holds p) (runLiveStep b digest ⟨step⟩ key inspection)
      (fun _ => Treated profile agrees advised p step) Stops := by
  cases inspection with
  | unsupported => exact raise_stops _ _ _
  | advisory reason =>
      have ha : advised step = true := hinspection.mp ⟨reason, rfl⟩
      exact (recordAdvisory_becomes step key reason).post
        fun _ _ h => h.treated hp (.advised hd ha)
  | inapplicable =>
      have ha : advised step = false := by simpa using hinspection
      exact (recordSkip_becomes step key).post
        fun _ _ h => h.treated hp (.worked hd ha .skipped (by simp))
  | satisfied =>
      have ha : advised step = false := by simpa using hinspection
      refine Triple.bind (runLiveOperation_keeps _ _ _) fun _ => ?_
      exact (completeLiveStep_becomes step key).post
        fun _ _ h => h.treated hp (.worked hd ha .completed (by simp))
  | needsApply =>
      have ha : advised step = false := by simpa using hinspection
      refine Triple.bind (runLiveOperation_keeps _ _ _) fun _ => ?_
      exact (completeLiveStep_becomes step key).post
        fun _ _ h => h.treated hp (.worked hd ha .completed (by simp))

/-- **One iteration of the loop.**  The step is treated in one of the four
ways, and the records of the other steps stay. -/
theorem runStep_treated (h : Answers agrees advised b c steps)
    (hmem : step ∈ steps) :
    Triple (Holds p) (runStep b c digest profile step)
      (fun _ => Treated profile agrees advised p step) Stops := by
  refine Triple.bind (skipRecordedOrCancelled_holds _ _)
    fun recorded => Triple.assume ?_
  rintro rfl
  split
  · next hrecorded =>
    refine Triple.ret fun s hs => ⟨p.records step.id, .kept _ fun hnone => ?_, ?_⟩
    · rw [← isRecorded_eq_false_iff] at hnone
      simp [hnone] at hrecorded
    · rw [Function.update_eq_self, show s.progress = p from hs]
  next hrecorded =>
  have hp : p.records step.id = noRecord :=
    (isRecorded_eq_false_iff p step.id).mp (by simpa using hrecorded)
  refine Triple.bind (shouldSkipForPolicy_holds h hmem)
    fun skipped => Triple.assume ?_
  rintro rfl
  split
  · next hd =>
    refine Triple.bind (call_holds (A := fun dry => dry = false) h.live)
      fun dry => Triple.assume ?_
    rintro rfl
    exact (recordSkip_becomes step _).post fun _ _ h => h.treated hp (.declined hd)
  next hd =>
  have hd' : declines profile agrees step = false := by simpa using hd
  refine Triple.bind (emit_keeps _) fun _ => ?_
  refine Triple.bind (tryCall_holds (h.inspection step hmem))
    fun inspection => Triple.assume fun hinspection => ?_
  refine Triple.bind (call_holds (A := fun dry => dry = false) h.live)
    fun dry => Triple.assume ?_
  rintro rfl
  exact runLiveStep_treated _ _ hinspection hp hd'

/-! ## The whole run -/

/-- **What a live run that returns leaves behind.**  Each of its steps was
treated in one of the four ways, and no other step was touched. -/
theorem run_result {s t : EngineState σ}
    (h : Answers agrees advised b c steps)
    (hnodup : (steps.map (·.id)).Nodup)
    (hrun : runWithControl b c digest steps profile s = (.ok (), t)) :
    (∀ step ∈ steps, StepResult profile agrees advised step
      (s.progress.records step.id) (t.progress.records step.id)) ∧
    ∀ id ∉ steps.map (·.id), t.progress.records id = s.progress.records id := by
  -- The answers stay those of the whole list while the induction runs down it.
  generalize hrest : steps = rest at hrun hnodup
  have hsub : ∀ step ∈ rest, step ∈ steps := by rw [hrest]; exact fun _ h => h
  clear hrest
  induction rest generalizing s with
  | nil =>
      obtain rfl : s = t := by
        simpa [runWithControl, forEach] using hrun
      exact ⟨by simp, fun _ _ => rfl⟩
  | cons step rest ih =>
      obtain ⟨_, s', hstep, hrest⟩ := bind_eq_ok hrun
      obtain ⟨after, hresult, hs'⟩ :=
        (runStep_treated h (hsub step (by simp))).ok rfl hstep
      simp only [List.map_cons, List.nodup_cons] at hnodup
      obtain ⟨hsteps, hothers⟩ := ih hrest hnodup.2
        fun step' hmem => hsub step' (by simp [hmem])
      refine ⟨fun step' hmem => ?_, fun id hid => ?_⟩
      · rcases List.mem_cons.mp hmem with rfl | hmem
        · rw [hothers _ hnodup.1, hs', Function.update_self]
          exact hresult
        · have hne : step'.id ≠ step.id := by
            rintro heq
            exact hnodup.1 (heq ▸ List.mem_map_of_mem hmem)
          have := hsteps step' hmem
          rwa [hs', Function.update_of_ne hne] at this
      · simp only [List.map_cons, List.mem_cons, not_or] at hid
        rw [hothers id hid.2, hs', Function.update_of_ne hid.1]

end

end

end FrametimeCfg.Verified.EngineOutcome
