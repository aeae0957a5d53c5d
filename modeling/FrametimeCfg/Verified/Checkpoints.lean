import FrametimeCfg.Windows.Reboot

/-!
# What a checkpoint does

Each checkpoint is a sequence of reads, checks, writes and readbacks.  The
lemma about it lists, for a run that returns, what the checks established and
the writes in their order.  Every readback agrees with what was just written,
so a readback never adds a condition beyond the validity of the new state.
-/

namespace FrametimeCfg.Verified.Checkpoints

open FrametimeCfg.Domain FrametimeCfg.Windows
open FrametimeCfg.Lib.Checks
open FrametimeCfg.Lib.Journal

variable {ses : Session} {d : Durable} {ws : List Write} {u : Unit}

/-! ## Registry values and the boot setting -/

theorem change_value (slot : HandoffSlot) (value : String) :
    (slot.change value).value = .string value := by
  cases slot <;> rfl

@[simp] theorem apply_handoff_self (slot : HandoffSlot) (value : Option RegValue) :
    (d.apply (.handoff slot value)).handoff slot = value := by
  simp [Durable.apply]

theorem handoffText_eq_ok {value : Option RegValue} {text : Option String} :
    handoffText value = .ok text ↔ value = text.map .string := by
  cases value with
  | none => cases text <;> simp [handoffText]
  | some value =>
      cases value with
      | string s => cases text <;> simp [handoffText]
      | _ => cases text <;> simp [handoffText]

theorem returns_readHandoffValue {slot : HandoffSlot} {text : Option String} :
    Returns (readHandoffValue slot) d ws text ↔
      d.handoff slot = text.map .string ∧ ws = [] := by
  rw [readHandoffValue, returns_read_bind, returns_check, handoffText_eq_ok]

theorem returns_requireExactHandoff {slot : HandoffSlot} {expected label : String} :
    Returns (requireExactHandoff slot expected label) d ws u ↔
      d.handoff slot = some (.string expected) ∧ ws = [] := by
  rw [requireExactHandoff, returns_bind]
  constructor
  · rintro ⟨ws₁, text, ws₂, hread, hcheck, rfl⟩
    obtain ⟨hvalue, rfl⟩ := returns_readHandoffValue.mp hread
    obtain ⟨hreject, rfl⟩ := returns_check.mp hcheck
    have htext : text = some expected := by
      simpa [reject_eq_ok] using hreject
    rw [hvalue, htext]
    exact ⟨rfl, rfl⟩
  · rintro ⟨hvalue, rfl⟩
    refine ⟨[], some expected, [], returns_readHandoffValue.mpr ⟨hvalue, rfl⟩, ?_, rfl⟩
    exact returns_check.mpr ⟨by simp, rfl⟩

/-- The slot holds the expected text or nothing. -/
def HandoffFits (d : Durable) (slot : HandoffSlot) (expected : String) : Prop :=
  d.handoff slot = none ∨ d.handoff slot = some (.string expected)

/-- The write that fills an empty slot. -/
def handoffWrites (d : Durable) (slot : HandoffSlot) (expected : String) :
    List Write :=
  match d.handoff slot with
  | none => [.handoff slot (some (.string expected))]
  | some _ => []

theorem returns_ensureHandoffValue {slot : HandoffSlot} {expected label : String} :
    Returns (ensureHandoffValue slot expected label) d ws u ↔
      HandoffFits d slot expected ∧ ws = handoffWrites d slot expected := by
  rw [ensureHandoffValue, returns_bind]
  constructor
  · rintro ⟨ws₁, text, ws₂, hread, hrest, rfl⟩
    obtain ⟨hvalue, rfl⟩ := returns_readHandoffValue.mp hread
    cases text with
    | some value =>
        obtain ⟨hreject, rfl⟩ := returns_check.mp hrest
        have htext : value = expected := by simpa [reject_eq_ok] using hreject
        subst htext
        exact ⟨Or.inr hvalue, by simp [handoffWrites, hvalue]⟩
    | none =>
        obtain ⟨ws', hexact, rfl⟩ := returns_write_bind.mp hrest
        obtain ⟨-, rfl⟩ := returns_requireExactHandoff.mp hexact
        have hnone : d.handoff slot = none := hvalue
        exact ⟨Or.inl hnone, by simp [handoffWrites, hnone, change_value]⟩
  · rintro ⟨hnone | hsome, rfl⟩
    · refine ⟨[], none, _, returns_readHandoffValue.mpr ⟨hnone, rfl⟩, ?_, rfl⟩
      refine returns_write_bind.mpr ⟨[], ?_, by simp [hnone, change_value]⟩
      refine returns_requireExactHandoff.mpr ⟨?_, rfl⟩
      rw [apply_eq, apply_handoff_self, change_value]
    · refine ⟨[], some expected, _, returns_readHandoffValue.mpr ⟨hsome, rfl⟩, ?_, rfl⟩
      exact returns_check.mpr ⟨by simp, by simp [hsome]⟩

/-- After the slot was ensured, it is as if it had been written. -/
theorem after_handoffWrites {slot : HandoffSlot} {expected : String}
    (h : HandoffFits d slot expected) :
    after d (handoffWrites d slot expected) =
      d.apply (.handoff slot (some (.string expected))) := by
  rcases h with hnone | hsome
  · simp only [handoffWrites, hnone, after_cons, after_nil, apply_eq]
  · have hsame : (fun other => if other = slot then some (.string expected)
        else d.handoff other) = d.handoff := by
      funext other
      by_cases hother : other = slot
      · rw [if_pos hother, hother, hsome]
      · rw [if_neg hother]
    simp only [handoffWrites, hsome, after_nil, Durable.apply, hsame]

private theorem command_ok (arguments : List String) (label : String)
    (h : (CommandVector.new .bcdedit arguments).toOption.isSome = true) :
    ∃ command, (CommandVector.new .bcdedit arguments).mapError
      (fun error => label ++ error) = .ok command := by
  cases hc : CommandVector.new .bcdedit arguments with
  | ok command => exact ⟨command, rfl⟩
  | error e => simp [hc, Except.toOption] at h

theorem returns_setSafebootMinimal :
    Returns setSafebootMinimal d ws u ↔ ws = [.safeboot (some "minimal")] := by
  obtain ⟨command, hcommand⟩ := command_ok
    ["/set", "\x7bcurrent\x7d", "safeboot", "minimal"] "P1:38 set safeboot: "
    (by decide +kernel)
  have hread : safebootEvidence (some "minimal") = .configured "minimal" := by
    decide +kernel
  rw [setSafebootMinimal, returns_check_bind, hcommand]
  simp only [Except.ok.injEq, exists_eq_left', put, returns_write_bind,
    returns_read_bind, returns_check, reject_eq_ok, decide_eq_false_iff_not, not_not]
  constructor
  · rintro ⟨ws', ⟨-, rfl⟩, rfl⟩
    rfl
  · rintro rfl
    exact ⟨[], ⟨hread, rfl⟩, rfl⟩

theorem returns_clearSafeboot :
    Returns clearSafeboot d ws u ↔ ws = [.safeboot none] := by
  obtain ⟨command, hcommand⟩ := command_ok
    ["/deletevalue", "\x7bcurrent\x7d", "safeboot"] "P2:1 clear safeboot: "
    (by decide +kernel)
  rw [clearSafeboot, returns_check_bind, hcommand]
  simp only [Except.ok.injEq, exists_eq_left', put, returns_write_bind,
    returns_read_bind, returns_check, reject_eq_ok, decide_eq_false_iff_not, not_not]
  constructor
  · rintro ⟨ws', ⟨-, rfl⟩, rfl⟩
    rfl
  · rintro rfl
    exact ⟨[], ⟨rfl, rfl⟩, rfl⟩

/-! ## Files -/

theorem returns_persistStateReadback {s : State} {label : String} :
    Returns (persistStateReadback s label) d ws u ↔ Readable s ∧ ws = [.state s] := by
  rw [persistStateReadback, put, returns_write_bind]
  constructor
  · rintro ⟨ws', hrest, rfl⟩
    obtain ⟨ws₁, t, ws₂, hread, hcheck, rfl⟩ := returns_bind.mp hrest
    obtain ⟨hreadable, -, rfl⟩ := returns_readState.mp (returns_relabel.mp hread)
    obtain ⟨-, rfl⟩ := returns_check.mp hcheck
    exact ⟨hreadable, rfl⟩
  · rintro ⟨hreadable, rfl⟩
    refine ⟨[], returns_bind.mpr ⟨[], s, [], ?_, ?_, rfl⟩, rfl⟩
    · exact returns_relabel.mpr (returns_readState.mpr ⟨hreadable, rfl, rfl⟩)
    · exact returns_check.mpr ⟨by simp, rfl⟩

theorem returns_persistProgressReadback {p : Progress} {label : String} :
    Returns (persistProgressReadback p label) d ws u ↔ ws = [.progress p] := by
  rw [persistProgressReadback, put, returns_write_bind]
  constructor
  · rintro ⟨ws', hrest, rfl⟩
    obtain ⟨ws₁, q, ws₂, hread, hcheck, rfl⟩ := returns_bind.mp hrest
    obtain ⟨-, rfl⟩ := returns_readProgress.mp hread
    obtain ⟨-, rfl⟩ := returns_check.mp hcheck
    rfl
  · rintro rfl
    refine ⟨[], returns_bind.mpr ⟨[], p, [], ?_, ?_, rfl⟩, rfl⟩
    · exact returns_readProgress.mpr ⟨rfl, rfl⟩
    · exact returns_check.mpr ⟨by simp, rfl⟩

/-- The two files at the end of every checkpoint: the state, then the
progress. -/
theorem returns_persistBoth {s : State} {p : Progress} {label : String} :
    Returns (persistStateReadback s label >>= fun _ => persistProgressReadback p label)
        d ws u ↔
      Readable s ∧ ws = [.state s, .progress p] := by
  rw [returns_bind]
  constructor
  · rintro ⟨ws₁, _, ws₂, hstate, hprogress, rfl⟩
    obtain ⟨hreadable, rfl⟩ := returns_persistStateReadback.mp hstate
    obtain rfl := returns_persistProgressReadback.mp hprogress
    exact ⟨hreadable, rfl⟩
  · rintro ⟨hreadable, rfl⟩
    exact ⟨[.state s], (), [.progress p],
      returns_persistStateReadback.mpr ⟨hreadable, rfl⟩,
      returns_persistProgressReadback.mpr rfl, rfl⟩

theorem returns_readState_bind {α : Type} {k : State → StoreM α} {a : α} :
    Returns (readState >>= k) d ws a ↔
      Readable d.state ∧ Returns (k d.state) d ws a := by
  rw [returns_bind]
  constructor
  · rintro ⟨ws₁, s, ws₂, hread, hk, rfl⟩
    obtain ⟨hreadable, rfl, rfl⟩ := returns_readState.mp hread
    exact ⟨hreadable, hk⟩
  · rintro ⟨hreadable, hk⟩
    exact ⟨[], d.state, ws, returns_readState.mpr ⟨hreadable, rfl, rfl⟩, hk, rfl⟩

theorem returns_readProgress_bind {α : Type} {k : Progress → StoreM α} {a : α} :
    Returns (readProgress >>= k) d ws a ↔ Returns (k d.progress) d ws a :=
  returns_read_bind

/-! ## Receipts -/

/-- A valid state holds a receipt only with a transaction of the last two
stages. -/
theorem receipt_eq_none {s : State} (hvalid : s.validate = .ok ())
    (h : ∀ t, s.activeRebootTransaction = some t → receiptStageAuthorized t = false) :
    s.finalBenchmark = none := by
  cases hf : s.finalBenchmark with
  | none => rfl
  | some receipt =>
      simp only [State.validate, check_bind_eq_ok, hf] at hvalid
      obtain ⟨t, ht, hrest⟩ := bind_eq_ok.mp hvalid.2.2.2.2.2
      obtain ⟨hstage, -⟩ := check_bind_eq_ok.mp hrest
      rw [reject_eq_ok, h t (okOr_eq_ok.mp ht)] at hstage
      cases hstage

/-- Before Phase 3 is armed, there is no receipt. -/
theorem receipt_eq_none_of_stage {s : State} {t : RebootTransaction}
    (hvalid : s.validate = .ok ()) (ht : s.activeRebootTransaction = some t)
    (harmed : t.stage ≠ .phaseThreeArmed) (hcomplete : t.stage ≠ .phaseThreeComplete) :
    s.finalBenchmark = none := by
  refine receipt_eq_none hvalid ?_
  intro t' ht'
  obtain rfl := Option.some.inj (ht.symm.trans ht')
  unfold receiptStageAuthorized
  split
  · contradiction
  · contradiction
  · rfl

/-! ## P1:38 -/

/-- The state that P1:38 writes. -/
def armedSafeModeState (s : State) (t : RebootTransaction) : State :=
  { s with
    phase1SafeModeReady := true
    activeRebootTransaction := some t }

/-- The command line of the Phase 2 handoff. -/
def phaseTwoCommand (ses : Session) : Except String String :=
  handoffCommand ses.executablePath "phase2 --yes"

/-- The command line of the Phase 3 handoff. -/
def phaseThreeCommand (ses : Session) : Except String String :=
  handoffCommand ses.executablePath "phase3-handoff"

/-- The checks that P1:38 passed. -/
structure ArmsSafeMode (ses : Session) (d : Durable) (sid phase2 : String)
    (t : RebootTransaction) : Prop where
  token : ses.tokenUserSid = .ok sid
  command : phaseTwoCommand ses = .ok phase2
  readable : Readable d.state
  transaction : armedTransaction ses sid d.state = .ok t
  fits : HandoffFits d .phaseTwoRunOnce phase2
  writable : Readable (armedSafeModeState d.state t)

/-- The writes of P1:38. -/
def armSafeModeWrites (ses : Session) (d : Durable) (phase2 : String)
    (t : RebootTransaction) : List Write :=
  handoffWrites d .phaseTwoRunOnce phase2 ++
    [.safeboot (some "minimal"), .state (armedSafeModeState d.state t),
      .progress (d.progress.completeStep PHASE_ONE_SAFE_MODE_HANDOFF ses.completedUtc)]

/-- **P1:38** fills the RunOnce value, sets Safe Boot, and then writes the
state and the progress. -/
theorem returns_armSafeModeHandoff :
    Returns (armSafeModeHandoff ses) d ws u ↔
      ∃ sid phase2 t, ArmsSafeMode ses d sid phase2 t ∧
        ws = armSafeModeWrites ses d phase2 t := by
  simp only [armSafeModeHandoff, returns_check_bind, mapError_eq_ok,
    returns_readState_bind, returns_readProgress_bind]
  constructor
  · rintro ⟨sid, hsid, phase2, hcommand, hreadable, t, ht, hrest⟩
    obtain ⟨_, _, _, hensure, hsafe, rfl⟩ := returns_bind.mp hrest
    obtain ⟨hfits, rfl⟩ := returns_ensureHandoffValue.mp hensure
    obtain ⟨_, _, _, hset, hboth, rfl⟩ := returns_bind.mp hsafe
    obtain rfl := returns_setSafebootMinimal.mp hset
    obtain ⟨hwritable, rfl⟩ := returns_persistBoth.mp hboth
    exact ⟨sid, phase2, t, ⟨hsid, hcommand, hreadable, ht, hfits, hwritable⟩, rfl⟩
  · rintro ⟨sid, phase2, t, h, rfl⟩
    refine ⟨sid, h.token, phase2, h.command, h.readable, t, h.transaction, ?_⟩
    refine returns_bind.mpr ⟨_, (), _, returns_ensureHandoffValue.mpr ⟨h.fits, rfl⟩, ?_, rfl⟩
    refine returns_bind.mpr ⟨_, (), _, returns_setSafebootMinimal.mpr rfl, ?_, rfl⟩
    exact returns_persistBoth.mpr ⟨h.writable, rfl⟩

/-! ## P2:1 -/

/-- The state with another active transaction. -/
def withTransaction (s : State) (t : RebootTransaction) : State :=
  { s with activeRebootTransaction := some t }

/-- The transaction belongs to this runtime and has authority at the stage. -/
def OwnedAt (ses : Session) (s : State) (t : RebootTransaction) (stage : RebootStage) :
    Prop :=
  s.activeRebootTransaction = some t ∧ t.isAuthorizedAt stage = true ∧
    t.runtime = some ses.runtime

theorem requireRuntimeAndStage_eq_ok {t : RebootTransaction} {runtime : RuntimeRecord}
    {stage : RebootStage} {label : String} :
    requireRuntimeAndStage t runtime stage label = .ok u ↔
      t.isAuthorizedAt stage = true ∧ t.runtime = some runtime := by
  simp [requireRuntimeAndStage, reject_eq_ok]

/-- From a stage that allows the next one, the transition succeeds. -/
theorem transitionTo_eq_ok {t moved : RebootTransaction} {next : RebootStage}
    (h : t.stage.allowsTransitionTo next = true) :
    t.transitionTo next = .ok moved ↔ moved = { t with stage := next } := by
  rw [RebootTransaction.transitionTo, if_pos h]
  exact ⟨fun heq => (Except.ok.inj heq).symm, fun heq => by rw [heq]⟩

/-- The checks that P2:1 passed. -/
structure ClearsSafeBoot (ses : Session) (d : Durable) (phase2 : String)
    (t : RebootTransaction) : Prop where
  readable : Readable d.state
  owned : OwnedAt ses d.state t .phaseOneSafeModeArmed
  command : phaseTwoCommand ses = .ok phase2
  armed : d.handoff .phaseTwoRunOnce = some (.string phase2)
  writable : Readable (withTransaction d.state { t with stage := .phaseTwoSafeMode })

/-- The writes of P2:1. -/
def clearSafeBootWrites (ses : Session) (d : Durable) (t : RebootTransaction) :
    List Write :=
  [.safeboot none, .state (withTransaction d.state { t with stage := .phaseTwoSafeMode }),
    .progress (d.progress.completeStep PHASE_TWO_SAFE_BOOT_CLEAR ses.completedUtc)]

/-- **P2:1** clears Safe Boot, and then writes the state and the progress. -/
theorem returns_completePhaseTwoSafeBootClear :
    Returns (completePhaseTwoSafeBootClear ses) d ws u ↔
      ∃ phase2 t, ClearsSafeBoot ses d phase2 t ∧
        ws = clearSafeBootWrites ses d t := by
  simp only [completePhaseTwoSafeBootClear, returns_check_bind,
    returns_readState_bind, returns_readProgress_bind, okOr_eq_ok,
    requireRuntimeAndStage_eq_ok]
  constructor
  · rintro ⟨hreadable, t, ht, _, hauth, phase2, hcommand, hrest⟩
    have hallows : t.stage.allowsTransitionTo .phaseTwoSafeMode = true := by
      rw [RebootTransaction.stage_of_isAuthorizedAt hauth.1]
      rfl
    obtain ⟨_, _, _, hexact, hsafe, rfl⟩ := returns_bind.mp hrest
    obtain ⟨harmed, rfl⟩ := returns_requireExactHandoff.mp hexact
    obtain ⟨_, _, _, hclear, hstage, rfl⟩ := returns_bind.mp hsafe
    obtain rfl := returns_clearSafeboot.mp hclear
    obtain ⟨moved, hmoved, hboth⟩ := returns_check_bind.mp hstage
    obtain rfl := (transitionTo_eq_ok hallows).mp (mapError_eq_ok.mp hmoved)
    obtain ⟨hwritable, rfl⟩ := returns_persistBoth.mp hboth
    exact ⟨phase2, t, ⟨hreadable, ⟨ht, hauth⟩, hcommand, harmed, hwritable⟩, rfl⟩
  · rintro ⟨phase2, t, h, rfl⟩
    have hallows : t.stage.allowsTransitionTo .phaseTwoSafeMode = true := by
      rw [RebootTransaction.stage_of_isAuthorizedAt h.owned.2.1]
      rfl
    refine ⟨h.readable, t, h.owned.1, (), h.owned.2, phase2, h.command, ?_⟩
    refine returns_bind.mpr ⟨[], (), _, returns_requireExactHandoff.mpr ⟨h.armed, rfl⟩,
      ?_, rfl⟩
    refine returns_bind.mpr ⟨_, (), _, returns_clearSafeboot.mpr rfl, ?_, rfl⟩
    refine returns_check_bind.mpr ⟨{ t with stage := .phaseTwoSafeMode }, ?_, ?_⟩
    · exact mapError_eq_ok.mpr ((transitionTo_eq_ok hallows).mpr rfl)
    · exact returns_persistBoth.mpr ⟨h.writable, rfl⟩

/-! ## P2:3 -/

/-- The checks that P2:3 passed. -/
structure ArmsPhaseThree (ses : Session) (d : Durable) (sid phase3 : String)
    (t : RebootTransaction) : Prop where
  token : ses.tokenUserSid = .ok sid
  command : phaseThreeCommand ses = .ok phase3
  driver : ses.driverRemovalComplete = .ok (some true)
  readable : Readable d.state
  cleaned : Progress.key 2 2 ∈ d.progress.completedSteps
  owned : OwnedAt ses d.state t .phaseTwoSafeMode
  user : t.initiatorUserSid = some sid
  fits : HandoffFits d .phaseThreeRun phase3
  writable : Readable (withTransaction d.state { t with stage := .phaseThreeArmed })

/-- The writes of P2:3. -/
def armPhaseThreeWrites (ses : Session) (d : Durable) (phase3 : String)
    (t : RebootTransaction) : List Write :=
  handoffWrites d .phaseThreeRun phase3 ++
    [.state (withTransaction d.state { t with stage := .phaseThreeArmed }),
      .progress (d.progress.completeStep PHASE_TWO_PHASE_THREE_HANDOFF ses.completedUtc)]

/-- **P2:3** fills the Run value, and then writes the state and the
progress. -/
theorem returns_armPhaseThreeHandoff :
    Returns (armPhaseThreeHandoff ses) d ws u ↔
      ∃ sid phase3 t, ArmsPhaseThree ses d sid phase3 t ∧
        ws = armPhaseThreeWrites ses d phase3 t := by
  simp only [armPhaseThreeHandoff, returns_check_bind, mapError_eq_ok,
    returns_readState_bind, returns_readProgress_bind, okOr_eq_ok, reject_eq_ok,
    requireRuntimeAndStage_eq_ok, Bool.not_eq_false', decide_eq_false_iff_not, not_not]
  constructor
  · rintro ⟨sid, hsid, phase3, hcommand, evidence, hdriver, complete, rfl, _, rfl,
      hreadable, _, hcleaned, t, ht, _, hauth, _, huser, hrest⟩
    have hallows : t.stage.allowsTransitionTo .phaseThreeArmed = true := by
      rw [RebootTransaction.stage_of_isAuthorizedAt hauth.1]
      rfl
    obtain ⟨_, _, _, hensure, hstage, rfl⟩ := returns_bind.mp hrest
    obtain ⟨hfits, rfl⟩ := returns_ensureHandoffValue.mp hensure
    obtain ⟨moved, hmoved, hboth⟩ := returns_check_bind.mp hstage
    obtain rfl := (transitionTo_eq_ok hallows).mp (mapError_eq_ok.mp hmoved)
    obtain ⟨hwritable, rfl⟩ := returns_persistBoth.mp hboth
    exact ⟨sid, phase3, t, ⟨hsid, hcommand, hdriver, hreadable, hcleaned, ⟨ht, hauth⟩,
      huser, hfits, hwritable⟩, rfl⟩
  · rintro ⟨sid, phase3, t, h, rfl⟩
    have hallows : t.stage.allowsTransitionTo .phaseThreeArmed = true := by
      rw [RebootTransaction.stage_of_isAuthorizedAt h.owned.2.1]
      rfl
    refine ⟨sid, h.token, phase3, h.command, some true, h.driver, true, rfl, (), rfl,
      h.readable, (), h.cleaned, t, h.owned.1, (), h.owned.2, (), h.user, ?_⟩
    refine returns_bind.mpr ⟨_, (), _, returns_ensureHandoffValue.mpr ⟨h.fits, rfl⟩, ?_, rfl⟩
    refine returns_check_bind.mpr ⟨{ t with stage := .phaseThreeArmed }, ?_, ?_⟩
    · exact mapError_eq_ok.mpr ((transitionTo_eq_ok hallows).mpr rfl)
    · exact returns_persistBoth.mpr ⟨h.writable, rfl⟩

/-! ## The end of Phase 3 -/

/-- The status of the final benchmark is that of the validation, and nothing
is written. -/
private theorem finalBenchmarkStatusLocked_apply (s : State) (p : Progress) :
    finalBenchmarkStatusLocked s p d =
      match validatePersistedFinalBenchmark s p d.history with
      | .ok _ => (.ok (), [])
      | .error error => (.error ("P3 completion final benchmark: " ++ error), []) := by
  rw [finalBenchmarkStatusLocked, readHistory, read_bind_apply, check_bind_apply]
  cases validatePersistedFinalBenchmark s p d.history <;> rfl

theorem writesOf_finalBenchmarkStatusLocked (s : State) (p : Progress) :
    writesOf (finalBenchmarkStatusLocked s p) d = [] := by
  rw [writesOf, finalBenchmarkStatusLocked_apply]
  cases validatePersistedFinalBenchmark s p d.history <;> rfl

/-- The status is good where the persisted bundle is accepted. -/
theorem finalBenchmarkStatusLocked_isNone {s : State} {p : Progress} :
    (outcomeOf (finalBenchmarkStatusLocked s p) d).toOption.isNone = false ↔
      ∃ receipt, validatePersistedFinalBenchmark s p d.history = .ok receipt := by
  rw [outcomeOf, finalBenchmarkStatusLocked_apply]
  cases validatePersistedFinalBenchmark s p d.history <;> simp [Except.toOption]

/-- The checks that the end of Phase 3 passed. -/
structure ClearsPhaseThree (ses : Session) (d : Durable) (sid phase3 : String)
    (t : RebootTransaction) (receipt : FinalBenchmarkReceipt) : Prop where
  readable : Readable d.state
  stamped : Progress.key 3 13 ∈ d.progress.completedSteps
  persisted : validatePersistedFinalBenchmark d.state d.progress d.history = .ok receipt
  owned : OwnedAt ses d.state t .phaseThreeComplete
  token : ses.tokenUserSid = .ok sid
  user : t.initiatorUserSid = some sid
  command : phaseThreeCommand ses = .ok phase3
  armed : d.handoff .phaseThreeRun = some (.string phase3)

/-- The rest after the checks: the value is deleted, and is gone. -/
private theorem returns_deleteHandoff {phase3 label message : String} :
    Returns (do
        requireExactHandoff .phaseThreeRun phase3 label
        put (.handoff .phaseThreeRun none)
        let value ← readHandoffValue .phaseThreeRun
        check (reject value.isSome message)) d ws u ↔
      d.handoff .phaseThreeRun = some (.string phase3) ∧
        ws = [.handoff .phaseThreeRun none] := by
  rw [returns_bind]
  constructor
  · intro h
    obtain ⟨_, _, _, hexact, hrest, rfl⟩ := h
    obtain ⟨harmed, rfl⟩ := returns_requireExactHandoff.mp hexact
    obtain ⟨ws', hread, rfl⟩ := returns_write_bind.mp hrest
    obtain ⟨_, value, _, hvalue, hcheck, rfl⟩ := returns_bind.mp hread
    obtain ⟨-, rfl⟩ := returns_readHandoffValue.mp hvalue
    obtain ⟨-, rfl⟩ := returns_check.mp hcheck
    exact ⟨harmed, rfl⟩
  · intro h
    obtain ⟨harmed, rfl⟩ := h
    have hread : Returns (readHandoffValue .phaseThreeRun)
        (d.apply (.handoff .phaseThreeRun none)) [] none :=
      returns_readHandoffValue.mpr ⟨apply_handoff_self _ _, rfl⟩
    refine ⟨[], (), _, returns_requireExactHandoff.mpr ⟨harmed, rfl⟩, ?_, rfl⟩
    refine returns_write_bind.mpr ⟨[], ?_, rfl⟩
    exact returns_bind.mpr ⟨[], none, [], hread, returns_check.mpr ⟨rfl, rfl⟩, rfl⟩

/-- **The end of Phase 3** validates the persisted benchmark and deletes the
Run value. -/
theorem returns_clearPhaseThreeHandoff :
    Returns (clearPhaseThreeHandoff ses) d ws u ↔
      ∃ sid phase3 t receipt, ClearsPhaseThree ses d sid phase3 t receipt ∧
        ws = [.handoff .phaseThreeRun none] := by
  rw [clearPhaseThreeHandoff, returns_readState_bind]
  constructor
  · intro h
    obtain ⟨hreadable, h⟩ := h
    replace h := returns_readProgress_bind.mp h
    obtain ⟨_, status, _, hstatus, h, rfl⟩ := returns_bind.mp h
    obtain ⟨rfl, rfl⟩ := returns_attempt.mp hstatus
    rw [writesOf_finalBenchmarkStatusLocked, after_nil] at h
    rw [writesOf_finalBenchmarkStatusLocked]
    simp only [returns_check_bind, okOr_eq_ok, requireRuntimeAndStage_eq_ok,
      mapError_eq_ok, reject_eq_ok, Bool.or_eq_false_iff, decide_eq_false_iff_not,
      not_not, finalBenchmarkStatusLocked_isNone, returns_deleteHandoff] at h
    obtain ⟨_, ⟨hstamped, receipt, hpersisted⟩, t, ht, _, hauth, sid, htoken, _, huser,
      phase3, hcommand, harmed, rfl⟩ := h
    exact ⟨sid, phase3, t, receipt, ⟨hreadable, hstamped, hpersisted, ⟨ht, hauth⟩,
      htoken, huser, hcommand, harmed⟩, rfl⟩
  · intro h
    obtain ⟨sid, phase3, t, receipt, hclears, rfl⟩ := h
    refine ⟨hclears.readable, returns_readProgress_bind.mpr ?_⟩
    refine returns_bind.mpr ⟨[], _, _, returns_attempt.mpr
      ⟨rfl, writesOf_finalBenchmarkStatusLocked _ _⟩, ?_, rfl⟩
    simp only [returns_check_bind, okOr_eq_ok, requireRuntimeAndStage_eq_ok,
      mapError_eq_ok, reject_eq_ok, Bool.or_eq_false_iff, decide_eq_false_iff_not,
      not_not, finalBenchmarkStatusLocked_isNone, returns_deleteHandoff]
    exact ⟨(), ⟨hclears.stamped, receipt, hclears.persisted⟩, t, hclears.owned.1, (),
      hclears.owned.2, sid, hclears.token, (), hclears.user, phase3, hclears.command,
      hclears.armed, trivial⟩

end FrametimeCfg.Verified.Checkpoints
