import FrametimeCfg.Windows.Persistence

/-!
# The reboot checkpoints

Four procedures move the reboot transaction across its restarts: P1:38 arms
the Safe Mode handoff, P2:1 clears Safe Boot, P2:3 arms the Phase 3 handoff,
and the completion of Phase 3 clears it again.  Each of them re-reads the
durable facts under the suite lock, checks its own preconditions, and then
writes: a registry value or the boot setting, the state, and the progress
last.

A `Session` is what a process brings with it: the user, the selected runtime,
the evidence about the driver, and the values it draws.  `observe` computes
the facts that `authorize` is asked with.
-/

namespace FrametimeCfg.Windows

open FrametimeCfg.Domain
open FrametimeCfg.Lib.Checks
open FrametimeCfg.Lib.Journal

/-! ## Sessions and evidence -/

/-- What a process brings to a checkpoint. -/
structure Session where
  boot : BootEnvironment
  /-- `current_token_user_sid`. -/
  tokenUserSid : Except String String
  /-- The record of the verified selected runtime. -/
  runtime : RuntimeRecord
  executablePath : String
  /-- `load_driver_transaction_at`, with `removal_complete` of the evidence. -/
  driverRemovalComplete : Except String (Option Bool)
  /-- `random_transaction_id`. -/
  randomTransactionId : Except String TransactionId
  createdUtc : String
  updatedUtc : String
  completedUtc : String

inductive SafebootEvidence where
  | configured (value : String)
  | absent
  | unavailable
  deriving DecidableEq

/-- `safeboot_evidence_from_bcd`, on the value of the element. -/
def safebootEvidence : Option String → SafebootEvidence
  | some value =>
      if value ∈ ["minimal", "network", "dsrepair"] then .configured value
      else .unavailable
  | none => .absent

/-- `run_value_evidence`. -/
def runValueEvidence : Option RegValue → Evidence
  | some (.string value) => if value.isEmpty then .unavailable else .verified
  | none => .absent
  | some _ => .unavailable

/-- `valid_canonical_sid`. -/
def validCanonicalSid (value : String) : Bool := validUserSid value

/-- `same_user_handoff_evidence`. -/
def sameUserHandoffEvidence (phase3 : Evidence)
    (tokenUserSid initiatorUserSid : Option String) : Evidence :=
  match phase3 with
  | .absent => .absent
  | .unavailable => .unavailable
  | .verified =>
      match tokenUserSid, initiatorUserSid with
      | some current, some initiator =>
          if validCanonicalSid current && validCanonicalSid initiator then
            if current = initiator then .verified else .absent
          else .unavailable
      | _, _ => .unavailable

/-- `inspect_reboot_handoff_state`, mapped to the facts of `authorize` as the
workflow does, for a process that retains a verified selected runtime. -/
def observe (ses : Session) (d : Durable) : PhaseFacts where
  boot := ses.boot
  runtime := .verifiedSelectedExecutable
  handoff :=
    { phaseTwoRunOnce := runValueEvidence (d.handoff .phaseTwoRunOnce)
      phaseThreeRun := runValueEvidence (d.handoff .phaseThreeRun)
      safeBoot :=
        match safebootEvidence d.safeboot with
        | .configured _ => .verified
        | .absent => .absent
        | .unavailable => .unavailable
      phaseThreeSameUser :=
        sameUserHandoffEvidence (runValueEvidence (d.handoff .phaseThreeRun))
          ses.tokenUserSid.toOption
          (d.state.activeRebootTransaction.bind (·.initiatorUserSid)) }
  phaseOneSafeModeReady := d.state.phase1SafeModeReady
  finalBenchmarkPersisted := finalBenchmarkEvidence (finalBenchmarkStatus d)

/-! ## Registry values and the boot setting -/

/-- `handoff_command`. -/
def handoffCommand (executable arguments : String) : Except String String := do
  reject (executable.toList.any (fun c => c = '\x00' || c = '"' || c = '\r' || c = '\n') ||
      arguments.toList.any (fun c => c = '\x00' || c = '\r' || c = '\n'))
    "selected runtime command is unsafe"
  return "\"" ++ executable ++ "\" " ++ arguments

/-- The text of a registry value that is a string. -/
def handoffText : Option RegValue → Except String (Option String)
  | some (.string value) => .ok (some value)
  | none => .ok none
  | some _ => .error "handoff registry value is not a string"

/-- `read_handoff_value`. -/
def readHandoffValue (slot : HandoffSlot) : StoreM (Option String) := do
  let value ← read (·.handoff slot)
  check (handoffText value)

/-- `require_exact_handoff`. -/
def requireExactHandoff (slot : HandoffSlot) (expected label : String) :
    StoreM Unit := do
  let value ← readHandoffValue slot
  check (reject (value ≠ some expected)
    (label ++ " handoff readback is absent or differs; retry recovery"))

/-- `ensure_handoff_value`. -/
def ensureHandoffValue (slot : HandoffSlot) (expected label : String) :
    StoreM Unit := do
  match ← readHandoffValue slot with
  | some value =>
      check (reject (value ≠ expected)
        (label ++ " existing handoff value differs; retain it for recovery"))
  | none => do
      put (.handoff slot (some (slot.change expected).value))
      requireExactHandoff slot expected label

/-- `set_safeboot_minimal`. -/
def setSafebootMinimal : StoreM Unit := do
  let _ ← check ((CommandVector.new .bcdedit
    ["/set", "\x7bcurrent\x7d", "safeboot", "minimal"]).mapError
      fun error => "P1:38 set safeboot: " ++ error)
  put (.safeboot (some "minimal"))
  let evidence ← read fun d => safebootEvidence d.safeboot
  check (reject (evidence ≠ .configured "minimal")
    "P1:38 safeboot readback differs; retry recovery")

/-- `clear_safeboot`. -/
def clearSafeboot : StoreM Unit := do
  let _ ← check ((CommandVector.new .bcdedit
    ["/deletevalue", "\x7bcurrent\x7d", "safeboot"]).mapError
      fun error => "P2:1 clear safeboot: " ++ error)
  put (.safeboot none)
  let evidence ← read fun d => safebootEvidence d.safeboot
  check (reject (evidence ≠ .absent)
    "P2:1 safeboot still configured or unreadable; retry recovery")

/-! ## Files -/

/-- `persist_state_readback`. -/
def persistStateReadback (state : State) (label : String) : StoreM Unit := do
  put (.state state)
  let persisted ← relabel (fun error => label ++ " read back state: " ++ error) readState
  check (reject (persisted ≠ state)
    (label ++ " state readback differs; retry recovery"))

/-- `persist_progress_readback`. -/
def persistProgressReadback (progress : Progress) (label : String) : StoreM Unit := do
  put (.progress progress)
  let persisted ← readProgress
  check (reject (persisted ≠ progress)
    (label ++ " progress readback differs; retry recovery"))

/-! ## Transactions -/

/-- `new_transaction`. -/
def newTransaction (ses : Session) (sid : String) : Except String RebootTransaction := do
  let id ← ses.randomTransactionId
  let transaction : RebootTransaction :=
    { schemaVersion := 1
      transactionId := some id
      initiatorUserSid := some sid
      stage := .phaseOneSafeModeArmed
      runtime := some ses.runtime
      driverPackage := none
      createdUtc := some ses.createdUtc
      updatedUtc := some ses.updatedUtc }
  reject (!transaction.isAuthorizedAt .phaseOneSafeModeArmed)
    "P1:38 generated invalid reboot transaction"
  return transaction

/-- `require_runtime_and_stage`. -/
def requireRuntimeAndStage (t : RebootTransaction) (runtime : RuntimeRecord)
    (stage : RebootStage) (label : String) : Except String Unit :=
  reject (!t.isAuthorizedAt stage || t.runtime ≠ some runtime)
    (label ++ " transaction runtime or stage differs; retain handoff for recovery")

/-- The transaction that P1:38 arms: the one it finds, if it is its own, or a
new one. -/
def armedTransaction (ses : Session) (sid : String) (s : State) :
    Except String RebootTransaction :=
  match s.activeRebootTransaction with
  | some existing =>
      if existing.isAuthorizedAt .phaseOneSafeModeArmed &&
          existing.runtime = some ses.runtime &&
          existing.initiatorUserSid = some sid then .ok existing
      else .error "P1:38 active reboot transaction differs; retain it for recovery"
  | none => newTransaction ses sid

/-! ## Checkpoints -/

/-- `arm_safe_mode_handoff`. -/
def armSafeModeHandoff (ses : Session) : StoreM Unit := do
  let sid ← check (ses.tokenUserSid.mapError fun error => "P1:38 TokenUser: " ++ error)
  let phase2 ← check (handoffCommand ses.executablePath "phase2 --yes")
  let state ← readState
  let progress ← readProgress
  let transaction ← check (armedTransaction ses sid state)
  ensureHandoffValue .phaseTwoRunOnce phase2 "P1:38"
  setSafebootMinimal
  persistStateReadback
    { state with
      phase1SafeModeReady := true
      activeRebootTransaction := some transaction } "P1:38"
  persistProgressReadback
    (progress.completeStep PHASE_ONE_SAFE_MODE_HANDOFF ses.completedUtc) "P1:38"

/-- `complete_phase_two_safe_boot_clear`. -/
def completePhaseTwoSafeBootClear (ses : Session) : StoreM Unit := do
  let state ← readState
  let progress ← readProgress
  let transaction ← check (okOr state.activeRebootTransaction
    "P2:1 reboot transaction is missing")
  check (requireRuntimeAndStage transaction ses.runtime .phaseOneSafeModeArmed "P2:1")
  let phase2 ← check (handoffCommand ses.executablePath "phase2 --yes")
  requireExactHandoff .phaseTwoRunOnce phase2 "P2:1"
  clearSafeboot
  let moved ← check ((transaction.transitionTo .phaseTwoSafeMode).mapError
    fun error => "P2:1 stage: " ++ error)
  persistStateReadback { state with activeRebootTransaction := some moved } "P2:1"
  persistProgressReadback
    (progress.completeStep PHASE_TWO_SAFE_BOOT_CLEAR ses.completedUtc) "P2:1"

/-- `arm_phase_three_handoff`. -/
def armPhaseThreeHandoff (ses : Session) : StoreM Unit := do
  let sid ← check (ses.tokenUserSid.mapError fun error => "P2:3 TokenUser: " ++ error)
  let phase3 ← check (handoffCommand ses.executablePath "phase3-handoff")
  let evidence ← check ses.driverRemovalComplete
  let removalComplete ← check (okOr evidence
    "P2:3 requires durable P1:18/P1:19 NVIDIA transaction evidence")
  check (reject (!removalComplete)
    "P2:3 requires coherent P2:2 removal evidence; retain the Phase 2 handoff")
  let state ← readState
  let progress ← readProgress
  check (reject (Progress.key 2 2 ∉ progress.completedSteps)
    "P2:3 requires completed P2:2; retain the Phase 2 handoff")
  let transaction ← check (okOr state.activeRebootTransaction
    "P2:3 reboot transaction is missing")
  check (requireRuntimeAndStage transaction ses.runtime .phaseTwoSafeMode "P2:3")
  check (reject (transaction.initiatorUserSid ≠ some sid)
    "P2:3 TokenUser differs from the initiating handoff user")
  ensureHandoffValue .phaseThreeRun phase3 "P2:3"
  let moved ← check ((transaction.transitionTo .phaseThreeArmed).mapError
    fun error => "P2:3 stage: " ++ error)
  persistStateReadback { state with activeRebootTransaction := some moved } "P2:3"
  persistProgressReadback
    (progress.completeStep PHASE_TWO_PHASE_THREE_HANDOFF ses.completedUtc) "P2:3"

/-- `final_benchmark_status_locked`. -/
def finalBenchmarkStatusLocked (s : State) (p : Progress) : StoreM Unit := do
  let history ← readHistory
  let _ ← check ((validatePersistedFinalBenchmark s p history).mapError
    fun error => "P3 completion final benchmark: " ++ error)
  return ()

/-- `clear_phase_three_handoff`. -/
def clearPhaseThreeHandoff (ses : Session) : StoreM Unit := do
  let state ← readState
  let progress ← readProgress
  let status ← attempt (finalBenchmarkStatusLocked state progress)
  check (reject (Progress.key 3 13 ∉ progress.completedSteps || status.toOption.isNone)
    "P3 completion requires a coherent persisted final benchmark; handoff retained")
  let transaction ← check (okOr state.activeRebootTransaction
    "P3 completion reboot transaction is missing")
  check (requireRuntimeAndStage transaction ses.runtime .phaseThreeComplete
    "P3 completion")
  let sid ← check (ses.tokenUserSid.mapError
    fun error => "P3 completion TokenUser: " ++ error)
  check (reject (transaction.initiatorUserSid ≠ some sid)
    "P3 completion TokenUser differs from the initiating handoff user")
  let phase3 ← check (handoffCommand ses.executablePath "phase3-handoff")
  requireExactHandoff .phaseThreeRun phase3 "P3 completion"
  put (.handoff .phaseThreeRun none)
  let value ← readHandoffValue .phaseThreeRun
  check (reject value.isSome
    "P3 completion Run handoff delete readback failed; retry recovery")

end FrametimeCfg.Windows
