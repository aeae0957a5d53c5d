import FrametimeCfg.Windows.LiveInspection
import FrametimeCfg.Windows.PagefileNative

/-!
# Verification by the live backend

An observation is repeated and compared with what inspection kept.  The other actions
compare the host with the binding of their capture, which they look up under the key of
the step.
-/

namespace FrametimeCfg.Windows.LiveBackend

open FrametimeCfg.Domain
open FrametimeCfg.Lib.Checks
open FrametimeCfg.Lib.Effect
open FrametimeCfg.Lib.OrderedMap
open FrametimeCfg.Lib.Text

section

variable {σ Session Profile : Type} (n : Native σ Session Profile)

/-! ## Observations -/

/-- `verify_observation_action`. -/
def verifyObservationAction (action : Action) (s : Live σ) : Except String (Option Unit) :=
  match action with
  | .observeConfigState => (verifyConfigState (some s.config) s.state).map some
  | .observeGpuInventory => do
      let observed ← discoverHardware n s.host
      (verifyGpuInventory s.hardware observed).map some
  | .baselineBenchmark =>
      if baselineBenchmarkIsPersisted n s.host then .ok (some ())
      else .error "P1:17 requires a coherent persisted baseline VProf capture"
  | .finalBenchmark =>
      .error "P3:13 is completed only by the standalone final-benchmark command"
  | .observeChipsetDriver => do
      let captured ← okOr s.chipsetInventory
        "P1:35 verification requires immutable inspected chipset records"
      (verifyChipsetInventory n s.host captured).map some
  | .observeMemoryTopology => do
      let captured ← okOr s.memoryTopology
        "P1:24 verification requires immutable inspected SMBIOS topology"
      (verifyMemoryTopology n s.host captured).map some
  | .fpsCapInfo => (verifyFpsCapInfo (some s.config) s.state).map some
  | _ => .ok none

/-! ## The page file -/

/-- `native_pagefile_verify`. -/
def nativePagefileVerify (binding : PagefileBinding) (created : Option CreatedPagefileToken) :
    Prog σ String Unit := do
  n.connectPagefile
  verifyPagefileMutation n.pagefile binding created

/-- `native_pagefile_compensate`. -/
def nativePagefileCompensate (binding : PagefileBinding)
    (created : Option CreatedPagefileToken) : Prog σ String Unit := do
  n.connectPagefile
  compensatePagefileMutation n.pagefile binding created

/-- `compound_pagefile_error`: report a failure after compensating it. -/
def failCompensated {α : Type} (context : String) (rollback : Prog σ String Unit)
    (message : String) : Prog σ String α := do
  match ← attempt rollback with
  | .ok () => raise (PagefileError.compensated context message).text
  | .error rollback => raise (PagefileError.uncompensated context message rollback).text

/-- `verify_pagefile_action`. -/
def verifyPagefileAction (key : String) : LiveM σ Unit := do
  let binding ← consult fun s => okOr s.capturedPagefileBindings[key]?
    "P1:8 verification requires a captured CIM pagefile binding"
  let created ← gets fun s => s.createdPagefileTokens[key]?
  onHost do
    match ← attempt (nativePagefileVerify n binding created) with
    | .ok () => pure ()
    | .error error =>
        failCompensated "verify P1:8 postconditions"
          (nativePagefileCompensate n binding created) error

/-! ## Captured bindings -/

/-- `verify_interrupt_action`, of the actions that it verifies. -/
def verifyInterruptAction (action : Action) (key : String) (s : Live σ) :
    Option (Except String Unit) :=
  match action with
  | .msiInterrupts => some (do
      let batches ← okOr s.capturedMsiBatches[key]?
        "P3:2 verification requires captured MSI devices"
      verifyNativeMsiBatches n.interrupts s.host batches)
  | .nicInterruptAffinity => some (do
      let binding ← okOr s.capturedNicAffinityBindings[key]?
        "P3:3 verification requires captured NIC binding"
      verifyNativeNicAffinity n.interrupts s.host binding)
  | _ => none

/-- `verify_drs_backup`. -/
def verifyDrsBackup [DecidableEq Profile] (key : String) : LiveM σ Unit := do
  let backup ← consult fun s => okOr s.capturedDrsBackups[key]?
    "P3:4 verification requires a read-only captured DRS backup"
  onHost (withNvapi n (verifyCs2Profile n.drs backup))

/-- The enumeration of the current boot entry. -/
def BOOT_LISTING : CommandVector where
  command := .bcdedit
  arguments := ["/enum", "\x7bcurrent\x7d"]

/-- `verify_tool`. -/
def verifyTool (command : CommandVector) (s : σ) : Except String Unit :=
  if command.command = .bcdedit ∧
      command.arguments = ["/deletevalue", "\x7bcurrent\x7d", "safeboot"] then do
    let current ← n.query BOOT_LISTING s
    reject ("safeboot".toList <:+: (asciiLower current).toList)
      "Safe Mode remains armed after deletion"
  else .error "external-tool command lacks an exact read-only verifier"

/-- `verify_action`. -/
def verifyAction (action : Action) (cs2Binding : Option Cs2RegistryBinding) (s : σ) :
    Except String Unit :=
  match action with
  | .registryBatch changes => changes.forM fun change => do
      let value ← n.registryReadExact change s
      reject (value ≠ some change.value) "registry postcondition was not observed"
  | .cs2Registry action => do
      let binding ← okOr cs2Binding
        "CS2 registry verification requires a captured install binding"
      verifyCs2Registry n binding action s
  | .tool command => verifyTool n command s
  | .pagefile | .cs2Config | .msiInterrupts | .nicInterruptAffinity | .nvidiaProfileApply
  | .networkStack =>
      .error "native action verification requires its captured platform binding"
  | .advisory reason => .error reason
  | .observeConfigState | .observeGpuInventory | .observeChipsetDriver
  | .observeMemoryTopology | .baselineBenchmark | .finalBenchmark | .fpsCapInfo
  | .gpuDriverCleanPreparation | .nvidiaDriverDownloadPreparation | .nvidiaDriverRemoval
  | .nvidiaDriverInstall | .nvidiaProfilePreparation | .safeModeHandoff | .phaseThreeHandoff
  | .msiPreparation | .nicAffinityPreparation | .cs2LaunchVideoGuide | .amdRadeonGuide
  | .vramUsageGuide | .finalChecklistGuide => .ok ()

/-! ## The call -/

/-- A failed verification abandons the transaction. -/
def orAbandon {α : Type} (key : String) (m : LiveM σ α) : LiveM σ α :=
  onError (Live.abandonTransaction key) m

/-- The verification of an action that is not an observation.  A binding of P1:34 or of
P1:16 that is missing ends the call before the transaction is abandoned. -/
def verifyMutation [DecidableEq Profile] (action : Action) (key : String) : LiveM σ Unit := do
  let s ← gets id
  match action, verifyInterruptAction n action key s with
  | .pagefile, _ => orAbandon key (verifyPagefileAction n key)
  | .cs2Config, _ => do
      let binding ← ofExcept (okOr s.capturedCs2ConfigBindings[key]?
        "P1:34 verification requires a captured CS2 config binding")
      orAbandon key (ask (verifyCs2Config n binding))
  | _, some result => orAbandon key (ofExcept result)
  | .nvidiaProfileApply, none => orAbandon key (verifyDrsBackup n key)
  | .networkStack, none => do
      let binding ← ofExcept (okOr s.capturedNetworkStackBindings[key]?
        "P1:16 verification requires a captured network-stack binding")
      orAbandon key (onHost (relabel n.describeNetworkStack
        (verifyNetworkStack n.networkStack binding)))
  | action, none =>
      orAbandon key (ask (verifyAction n action s.capturedCs2Bindings[key]?))

/-- `LiveBackend::verify`. -/
def verify [DecidableEq Profile] (operation : Operation) : LiveM σ Unit := do
  let descriptor ← ofExcept (descriptorFor operation.step)
  match ← consult (verifyObservationAction n descriptor.action) with
  | some () => pure ()
  | none => verifyMutation n descriptor.action (key operation)

end

end FrametimeCfg.Windows.LiveBackend
