import FrametimeCfg.Domain.RoundTrip
import FrametimeCfg.Lib.Checks

/-!
# Northclock operations

An operation asks for changes of named values of the processor or of the graphics card.
A backend answers a request with a plan, which has the values as they are, and a plan
that is applied with a receipt.  Requests have bounds, and a write needs an
authorisation, which a binary without the feature for writes never gives.

Plans and receipts go through JSON between the commands.
-/

namespace FrametimeCfg.Northclock

open FrametimeCfg.Domain
open FrametimeCfg.Domain.Serde
open FrametimeCfg.Lib.Checks
open FrametimeCfg.Lib.OrderedMap

/-! ## Errors -/

inductive NorthclockError where
  | internal (message : String)
  | invalidUsage (message : String)
  | unavailable (message : String)
  | permissionOrSafety (message : String)
  | hardwareOperation (message : String)
  deriving DecidableEq

/-- The text of an error. -/
def NorthclockError.text : NorthclockError → String
  | .internal message => "internal failure: " ++ message
  | .invalidUsage message => "invalid usage: " ++ message
  | .unavailable message => "capability unavailable: " ++ message
  | .permissionOrSafety message => "permission or safety rejection: " ++ message
  | .hardwareOperation message => "hardware operation or validation failure: " ++ message

/-! ## Operations -/

inductive OperationTarget where
  | cpuCurveOptimizer
  | gpuTuning
  deriving DecidableEq

def OperationTarget.capabilityName : OperationTarget → String
  | .cpuCurveOptimizer => "cpu.tuning"
  | .gpuTuning => "gpu.tuning"

/-- The name of a target. -/
def OperationTarget.name : OperationTarget → String
  | .cpuCurveOptimizer => "cpu_curve_optimizer"
  | .gpuTuning => "gpu_tuning"

structure OperationRequest where
  target : OperationTarget
  changes : BTreeMap Int64
  deriving DecidableEq

structure OperationPlan where
  id : String
  target : OperationTarget
  backend : String
  requestedChanges : BTreeMap Int64
  capturedState : BTreeMap Int64
  boundsValidated : Bool
  hardwareVerified : Bool
  deriving DecidableEq

structure ApplyReceipt where
  planId : String
  target : OperationTarget
  capturedState : BTreeMap Int64
  requestedChanges : BTreeMap Int64
  readback : BTreeMap Int64
  validationPassed : Bool
  rollbackAvailable : Bool
  backend : String
  hardwareVerified : Bool
  deriving DecidableEq

structure RollbackReceipt where
  planId : String
  restoredState : BTreeMap Int64
  readback : BTreeMap Int64
  validationPassed : Bool
  backend : String
  hardwareVerified : Bool
  deriving DecidableEq

structure ProcessAffinityPlan where
  id : String
  processId : UInt32
  requestedMask : UInt64
  capturedMask : UInt64
  systemMask : UInt64
  boundsValidated : Bool
  deriving DecidableEq

structure ProcessAffinityReceipt where
  planId : String
  processId : UInt32
  capturedMask : UInt64
  requestedMask : UInt64
  readbackMask : UInt64
  validationPassed : Bool
  rollbackAvailable : Bool
  deriving DecidableEq

structure ProcessAffinityRollbackReceipt where
  planId : String
  processId : UInt32
  restoredMask : UInt64
  readbackMask : UInt64
  validationPassed : Bool
  deriving DecidableEq

/-! ## Documents -/

def OperationTarget.codec : Codec OperationTarget :=
  .unit isUnit [.cpuCurveOptimizer, .gpuTuning] OperationTarget.name

def OperationPlan.codec : Codec OperationPlan :=
  .closed
    (.field (.required "id" .string) <|
      .field (.required "target" OperationTarget.codec) <|
      .field (.required "backend" .string) <|
      .field (.required "requested_changes" Codec.i64.map) <|
      .field (.required "captured_state" Codec.i64.map) <|
      .field (.required "bounds_validated" .bool) <|
      .field (.required "hardware_verified" .bool) .done)
    (fun (id, target, backend, requestedChanges, capturedState, boundsValidated,
        hardwareVerified, _) =>
      { id, target, backend, requestedChanges, capturedState, boundsValidated,
        hardwareVerified })
    (fun p => (p.id, p.target, p.backend, p.requestedChanges, p.capturedState,
      p.boundsValidated, p.hardwareVerified, ()))
    (fun _ => rfl) (by decide)

def ApplyReceipt.codec : Codec ApplyReceipt :=
  .closed
    (.field (.required "plan_id" .string) <|
      .field (.required "target" OperationTarget.codec) <|
      .field (.required "captured_state" Codec.i64.map) <|
      .field (.required "requested_changes" Codec.i64.map) <|
      .field (.required "readback" Codec.i64.map) <|
      .field (.required "validation_passed" .bool) <|
      .field (.required "rollback_available" .bool) <|
      .field (.required "backend" .string) <|
      .field (.required "hardware_verified" .bool) .done)
    (fun (planId, target, capturedState, requestedChanges, readback, validationPassed,
        rollbackAvailable, backend, hardwareVerified, _) =>
      { planId, target, capturedState, requestedChanges, readback, validationPassed,
        rollbackAvailable, backend, hardwareVerified })
    (fun r => (r.planId, r.target, r.capturedState, r.requestedChanges, r.readback,
      r.validationPassed, r.rollbackAvailable, r.backend, r.hardwareVerified, ()))
    (fun _ => rfl) (by decide)

def RollbackReceipt.codec : Codec RollbackReceipt :=
  .closed
    (.field (.required "plan_id" .string) <|
      .field (.required "restored_state" Codec.i64.map) <|
      .field (.required "readback" Codec.i64.map) <|
      .field (.required "validation_passed" .bool) <|
      .field (.required "backend" .string) <|
      .field (.required "hardware_verified" .bool) .done)
    (fun (planId, restoredState, readback, validationPassed, backend, hardwareVerified, _) =>
      { planId, restoredState, readback, validationPassed, backend, hardwareVerified })
    (fun r => (r.planId, r.restoredState, r.readback, r.validationPassed, r.backend,
      r.hardwareVerified, ()))
    (fun _ => rfl) (by decide)

def ProcessAffinityPlan.codec : Codec ProcessAffinityPlan :=
  .closed
    (.field (.required "id" .string) <|
      .field (.required "process_id" .u32) <|
      .field (.required "requested_mask" .u64) <|
      .field (.required "captured_mask" .u64) <|
      .field (.required "system_mask" .u64) <|
      .field (.required "bounds_validated" .bool) .done)
    (fun (id, processId, requestedMask, capturedMask, systemMask, boundsValidated, _) =>
      { id, processId, requestedMask, capturedMask, systemMask, boundsValidated })
    (fun p => (p.id, p.processId, p.requestedMask, p.capturedMask, p.systemMask,
      p.boundsValidated, ()))
    (fun _ => rfl) (by decide)

def ProcessAffinityReceipt.codec : Codec ProcessAffinityReceipt :=
  .closed
    (.field (.required "plan_id" .string) <|
      .field (.required "process_id" .u32) <|
      .field (.required "captured_mask" .u64) <|
      .field (.required "requested_mask" .u64) <|
      .field (.required "readback_mask" .u64) <|
      .field (.required "validation_passed" .bool) <|
      .field (.required "rollback_available" .bool) .done)
    (fun (planId, processId, capturedMask, requestedMask, readbackMask, validationPassed,
        rollbackAvailable, _) =>
      { planId, processId, capturedMask, requestedMask, readbackMask, validationPassed,
        rollbackAvailable })
    (fun r => (r.planId, r.processId, r.capturedMask, r.requestedMask, r.readbackMask,
      r.validationPassed, r.rollbackAvailable, ()))
    (fun _ => rfl) (by decide)

def ProcessAffinityRollbackReceipt.codec : Codec ProcessAffinityRollbackReceipt :=
  .closed
    (.field (.required "plan_id" .string) <|
      .field (.required "process_id" .u32) <|
      .field (.required "restored_mask" .u64) <|
      .field (.required "readback_mask" .u64) <|
      .field (.required "validation_passed" .bool) .done)
    (fun (planId, processId, restoredMask, readbackMask, validationPassed, _) =>
      { planId, processId, restoredMask, readbackMask, validationPassed })
    (fun r => (r.planId, r.processId, r.restoredMask, r.readbackMask, r.validationPassed, ()))
    (fun _ => rfl) (by decide)

theorem OperationTarget.codec_roundTrip : OperationTarget.codec.RoundTrip := by
  apply Codec.unit_roundTrip
  · intro target
    cases target <;> simp
  · intro a b h
    cases a <;> cases b <;> first | rfl | exact absurd h (by decide)

/-- A plan comes back from its document. -/
theorem OperationPlan.codec_roundTrip : OperationPlan.codec.RoundTrip := by
  refine Codec.closed_roundTrip (fun _ => rfl) ?_
  have hmap := Codec.map_roundTrip Codec.i64_roundTrip
  apply Fields.required_roundTrip Codec.string_roundTrip
  apply Fields.required_roundTrip OperationTarget.codec_roundTrip
  apply Fields.required_roundTrip Codec.string_roundTrip
  apply Fields.required_roundTrip hmap
  apply Fields.required_roundTrip hmap
  apply Fields.required_roundTrip Codec.bool_roundTrip
  exact Fields.required_roundTrip Codec.bool_roundTrip Fields.done_roundTrip

/-- A receipt comes back from its document. -/
theorem ApplyReceipt.codec_roundTrip : ApplyReceipt.codec.RoundTrip := by
  refine Codec.closed_roundTrip (fun _ => rfl) ?_
  have hmap := Codec.map_roundTrip Codec.i64_roundTrip
  apply Fields.required_roundTrip Codec.string_roundTrip
  apply Fields.required_roundTrip OperationTarget.codec_roundTrip
  apply Fields.required_roundTrip hmap
  apply Fields.required_roundTrip hmap
  apply Fields.required_roundTrip hmap
  apply Fields.required_roundTrip Codec.bool_roundTrip
  apply Fields.required_roundTrip Codec.bool_roundTrip
  apply Fields.required_roundTrip Codec.string_roundTrip
  exact Fields.required_roundTrip Codec.bool_roundTrip Fields.done_roundTrip

/-! ## Authorisation -/

def RISK_ACKNOWLEDGEMENT : String := "NORTHCLOCK-HARDWARE-WRITES-UNVERIFIED"

structure WriteAuthorization where
  experimental : Bool
  apply : Bool
  elevated : Bool
  riskAcknowledgement : Option String

/-- `WriteAuthorization::validate`, in a binary with or without the feature
`experimental-hardware-writes`. -/
def WriteAuthorization.validate (experimentalHardwareWrites : Bool)
    (authorization : WriteAuthorization) : Except NorthclockError Unit := do
  reject (!experimentalHardwareWrites) (.permissionOrSafety
    "binary was built without experimental-hardware-writes")
  reject (!authorization.experimental || !authorization.apply) (.permissionOrSafety
    "hardware writes require both --experimental and --apply")
  reject (!authorization.elevated) (.permissionOrSafety
    "hardware writes require an elevated process")
  reject (authorization.riskAcknowledgement ≠ some RISK_ACKNOWLEDGEMENT) (.permissionOrSafety
    ("risk acknowledgement must exactly match " ++ RISK_ACKNOWLEDGEMENT))

/-! ## Bounds -/

/-- The value is one that the target has and within its fixed bounds. -/
def withinBounds (target : OperationTarget) (name : String) (value : Int64) : Bool :=
  match target with
  | .cpuCurveOptimizer => name = "curve_optimizer" && -50 ≤ value && value ≤ 50
  | .gpuTuning =>
      (name = "gpu_power_limit_percent" && -50 ≤ value && value ≤ 20) ||
      (name = "gpu_core_offset_mhz" && -500 ≤ value && value ≤ 500) ||
      (name = "gpu_memory_offset_mhz" && -1000 ≤ value && value ≤ 1500)

/-- The loop of `SafetyPolicy::validate` over the changes. -/
def checkBounds (target : OperationTarget) : List (String × Int64) → Except NorthclockError Unit
  | [] => .ok ()
  | (name, value) :: rest => do
      reject (!withinBounds target name value) (.permissionOrSafety
        (name ++ " value " ++ toString value.toInt ++
          " is unsupported or outside the fixed safety bounds"))
      checkBounds target rest

/-- `SafetyPolicy::validate`. -/
def SafetyPolicy.validate (request : OperationRequest) : Except NorthclockError Unit := do
  reject request.changes.isEmpty
    (.invalidUsage "an operation must request at least one change")
  checkBounds request.target request.changes.toList

/-- The loop passes when every value is within its bounds. -/
theorem checkBounds_eq_ok {target : OperationTarget} {changes : List (String × Int64)} :
    checkBounds target changes = .ok () ↔
      ∀ p ∈ changes, withinBounds target p.1 p.2 = true := by
  induction changes with
  | nil => simp [checkBounds]
  | cons p changes ih =>
      obtain ⟨name, value⟩ := p
      rw [checkBounds, check_bind_eq_ok, reject_eq_ok, ih, List.forall_mem_cons]
      simp

/-- **What is accepted.**  There is a change, and every change is within its bounds. -/
theorem SafetyPolicy.validate_eq_ok {request : OperationRequest} :
    SafetyPolicy.validate request = .ok () ↔
      request.changes.isEmpty = false ∧ ∀ name value, request.changes[name]? = some value →
        withinBounds request.target name value = true := by
  rw [SafetyPolicy.validate, check_bind_eq_ok, reject_eq_ok, checkBounds_eq_ok]
  refine and_congr_right fun _ => ?_
  constructor
  · intro h name value hvalue
    exact h (name, value) (Std.ExtTreeMap.mem_toList_iff_getElem?_eq_some.mpr hvalue)
  · intro h p hp
    exact h p.1 p.2 (Std.ExtTreeMap.mem_toList_iff_getElem?_eq_some.mp hp)

end FrametimeCfg.Northclock
