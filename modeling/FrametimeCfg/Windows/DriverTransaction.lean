import FrametimeCfg.Domain.DriverEvidence

/-!
# The durable driver transaction

The plan, the artifact and the authorization of a driver change are kept in one
file, together with the evidence of its steps: the capture and the removal of
P2:2 and the installation of P3:1.  The record is validated when it is written,
when it is read back and when a later step loads it, each time at the local time
of the suite.

The record begins with the plan of an inspected input, the acquired artifact and an
authorization made for the two.

The host keeps the file as the record it decodes to.  `faults` says which of the
calls to the work directory fail.
-/

namespace FrametimeCfg.Windows

open FrametimeCfg.Domain
open FrametimeCfg.Lib.Checks
open FrametimeCfg.Lib.Effect

/-! ## The local time -/

/-- A local time, as the clock gives it. -/
structure LocalTime where
  year : Int
  month : Nat
  day : Nat
  hour : Nat
  minute : Nat
  second : Nat
  yearRange : -9999 ≤ year ∧ year ≤ 9999
  monthRange : 1 ≤ month ∧ month ≤ 12
  dayRange : 1 ≤ day ∧ day ≤ 31
  timeRange : hour < 24 ∧ minute < 60 ∧ second < 60

/-- A number with zeros before it. -/
def padded (width n : Nat) : List Char :=
  let digits := Nat.toDigits 10 n
  List.replicate (width - digits.length) '0' ++ digits

/-- `timestamp`: `[year]-[month]-[day] [hour]:[minute]:[second]`. -/
def timestamp (t : LocalTime) : String :=
  String.ofList ((if t.year < 0 then ['-'] else []) ++ padded 4 t.year.natAbs ++ '-' ::
    padded 2 t.month ++ '-' :: padded 2 t.day ++ ' ' :: padded 2 t.hour ++ ':' ::
    padded 2 t.minute ++ ':' :: padded 2 t.second)

/-! ## The record -/

def DRIVER_TRANSACTION_SCHEMA : UInt32 := 1

/-- The freshness that the file is validated with. -/
def DURABLE_FRESHNESS : CaptureFreshnessPolicy := { maximumAgeSeconds := 86400 }

/-- The freshness of a removal. -/
def REMOVAL_FRESHNESS : CaptureFreshnessPolicy := { maximumAgeSeconds := 900 }

structure DriverTransaction where
  schemaVersion : UInt32
  plan : DryRunDriverPlan
  artifact : SignedArtifactDescriptor
  authorization : ArtifactAcquisitionAuthorization
  capture : Option DriverExecutionCapture := none
  removal : Option RemovalExecutionEvidence := none
  installation : Option InstallationEvidence := none
  deriving DecidableEq

/-- A validation error as its text. -/
def asText {α : Type} (r : Except ValidationError α) : Except String α :=
  r.mapError ValidationError.message

/-- `DriverTransaction::prepared`. -/
def DriverTransaction.prepared (plan : DryRunDriverPlan) (artifact : SignedArtifactDescriptor)
    (authorization : ArtifactAcquisitionAuthorization) : Except String DriverTransaction := do
  asText plan.validate
  asText (artifact.validateFor plan.targetGpu)
  reject (authorization.planSha256 ≠ plan.inputSha256 ||
    authorization.targetGpu ≠ plan.targetGpu)
    "driver authorization does not bind the prepared plan"
  return {
    schemaVersion := DRIVER_TRANSACTION_SCHEMA
    plan := plan
    artifact := artifact
    authorization := authorization }

/-- The check of a capture that may be there. -/
def validateCapture (digests : DriverDigests) (plan : DryRunDriverPlan) (nowUtc : String)
    (freshness : CaptureFreshnessPolicy) :
    Option DriverExecutionCapture → Except String Unit
  | none => .ok ()
  | some capture => asText (capture.validateForPlanAt digests plan freshness nowUtc)

/-- The check of a removal that may be there. -/
def validateRemoval (digests : DriverDigests) (plan : DryRunDriverPlan) (nowUtc : String)
    (freshness : CaptureFreshnessPolicy) (capture : Option DriverExecutionCapture) :
    Option RemovalExecutionEvidence → Except String Unit
  | none => .ok ()
  | some removal => do
      asText (removal.validateForPlanAt digests plan freshness nowUtc)
      reject (capture ≠ some removal.capture)
        "driver removal is not bound to retained capture"

/-- The check of an installation that may be there. -/
def validateInstallation (digests : DriverDigests) (transaction : DriverTransaction)
    (nowUtc : String) (freshness : CaptureFreshnessPolicy) :
    Option InstallationEvidence → Except String Unit
  | none => .ok ()
  | some installation => do
      let capture ← okOr transaction.capture "driver installation lacks retained capture"
      asText (installation.validateForPlanAt digests transaction.plan capture
        transaction.artifact freshness nowUtc)
      reject (installation.authorization ≠ transaction.authorization)
        "driver installation is not bound to retained authorization"

/-- `DriverTransaction::validate`. -/
def DriverTransaction.validate (digests : DriverDigests) (transaction : DriverTransaction)
    (nowUtc : String) (freshness : CaptureFreshnessPolicy) : Except String Unit := do
  reject (transaction.schemaVersion ≠ DRIVER_TRANSACTION_SCHEMA)
    "driver transaction schema is unsupported"
  let expected ← DriverTransaction.prepared transaction.plan transaction.artifact
    transaction.authorization
  reject (expected.plan ≠ transaction.plan || expected.artifact ≠ transaction.artifact)
    "driver transaction preparation is incoherent"
  validateCapture digests transaction.plan nowUtc freshness transaction.capture
  validateRemoval digests transaction.plan nowUtc freshness transaction.capture
    transaction.removal
  validateInstallation digests transaction nowUtc freshness transaction.installation

/-! ## The preparation -/

/-- The packages that a plan records at P1:19. -/
def recordedPackages (plan : DryRunDriverPlan) : Option (List PublishedDriverPackage) :=
  match plan.entries[1]?.map DryRunDriverPlanEntry.action with
  | some (.recordExactPackages packages) => some packages
  | _ => none

/-- `prepare_nvidia_driver`, after its inspection and acquisition: the transaction that
it persists. -/
def prepareNvidiaDriver (digests : DriverDigests) (targetGpu : ExactGpuIdentity)
    (installedPackages : List PublishedDriverPackage) (artifact : SignedArtifactDescriptor)
    (authorizationId authorizedAtUtc expiresAtUtc : String) :
    Except String DriverTransaction := do
  let plan ← asText (generateDryRunPlan digests.planInput
    { targetGpu := targetGpu, installedPackages := installedPackages, artifact := artifact })
  let packages ← okOr (recordedPackages plan) "prepared plan lacks exact package record"
  let set ← asText (CanonicalPackageSet.fromUnsorted targetGpu packages)
  let packageSetSha256 ← asText (set.fingerprint digests)
  let identity ← asText (ArtifactIdentity.fromDescriptor artifact)
  DriverTransaction.prepared plan artifact {
    schemaVersion := DRIVER_SCHEMA_VERSION
    authorizationId := authorizationId
    planSha256 := plan.inputSha256
    targetGpu := targetGpu
    packageSetSha256 := packageSetSha256
    artifact := identity
    authorizedAtUtc := authorizedAtUtc
    expiresAtUtc := expiresAtUtc }

/-! ## The file -/

/-- The machine, the transaction file, the readings of the local clock and the
faults of the calls to come. -/
structure DriverHost (M : Type) where
  machine : M
  file : Option DriverTransaction := none
  clock : Nat → LocalTime
  readings : Nat := 0
  faults : List Bool := []

section

variable {M α : Type}

/-- One call to the work directory. -/
def storeCall (operation : String) : Prog (DriverHost M) String Unit := fun s =>
  match s.faults with
  | true :: faults => (.error operation, { s with faults := faults })
  | false :: faults => (.ok (), { s with faults := faults })
  | [] => (.ok (), s)

/-- `timestamp()`. -/
def localTimestamp : Prog (DriverHost M) String String := fun s =>
  (.ok (timestamp (s.clock s.readings)), { s with readings := s.readings + 1 })

/-- A validation at the local time. -/
def validateNow (digests : DriverDigests) (transaction : DriverTransaction) :
    Prog (DriverHost M) String Unit := do
  let now ← localTimestamp
  ofExcept (transaction.validate digests now DURABLE_FRESHNESS)

/-- The record in the file. -/
def readFile : Prog (DriverHost M) String DriverTransaction := fun s =>
  (okOr s.file "read driver transaction: file not found", s)

/-- `persist_driver_transaction`. -/
def persistDriverTransaction (digests : DriverDigests) (transaction : DriverTransaction) :
    Prog (DriverHost M) String DriverTransaction := do
  storeCall "acquire the work directory"
  storeCall "live transaction lock unavailable"
  validateNow digests transaction
  storeCall "persist driver transaction"
  update fun s => { s with file := some transaction }
  storeCall "read back driver transaction"
  let persisted ← readFile
  validateNow digests persisted
  ofExcept (reject (persisted ≠ transaction)
    "driver transaction readback verification failed")
  return persisted

/-- The transaction of a file that exists. -/
def loadExisting (digests : DriverDigests) :
    Prog (DriverHost M) String (Option DriverTransaction) := do
  storeCall "read driver transaction"
  let transaction ← readFile
  validateNow digests transaction
  return some transaction

/-- `load_driver_transaction_at`. -/
def loadDriverTransactionAt (digests : DriverDigests) :
    Prog (DriverHost M) String (Option DriverTransaction) := do
  storeCall "acquire the work directory"
  let file ← gets DriverHost.file
  if file.isNone then pure none else loadExisting digests

/-! ## The removal -/

/-- `AdapterFailure`, displayed. -/
def adapterError (failure : AdapterFailure) : String :=
  "adapter " ++ failure.operation ++ " failed: " ++ failure.reason

/-- An operation on the machine. -/
def onMachine (m : Prog M AdapterFailure α) : Prog (DriverHost M) String α := fun s =>
  match m s.machine with
  | (.ok a, machine) => (.ok a, { s with machine := machine })
  | (.error failure, machine) => (.error (adapterError failure), { s with machine := machine })

def MAX_NVIDIA_AUTHORIZATION_SECONDS : Int := 86400

/-- The error of `parse_utc_seconds`. -/
def authorizeError (reason : String) : AdapterFailure :=
  { operation := "authorize NVIDIA artifact", reason := reason }

/-- `parse_utc_seconds`. -/
def parseUtcSeconds (value : String) : Except AdapterFailure Int := do
  let bytes := value.toUTF8.data.toList
  let number := fun start stop =>
    okOr (digitsValue (slice bytes start stop)) (authorizeError "timestamp contains non-digits")
  reject (!timeShape bytes) (authorizeError "timestamp must be UTC RFC3339")
  let year ← number 0 4
  let month ← number 5 7
  let day ← number 8 10
  let hour ← number 11 13
  let minute ← number 14 16
  let second ← number 17 19
  let days ← okOr (daysInMonth year month)
    (authorizeError "timestamp has an invalid calendar date")
  reject (day = 0 || days < day || 23 < hour || 59 < minute || 59 < second)
    (authorizeError "timestamp has an invalid time")
  let completed := year - 1
  let before := completed * 365 + completed.tdiv 4 - completed.tdiv 100 + completed.tdiv 400 +
    MONTH_DAYS[(month - 1).toNat]?.getD 0 + day - 1
  let total := if 2 < month ∧ isLeapYear year then before + 1 else before
  return total * 86400 + hour * 3600 + minute * 60 + second

/-- `validate_bounded_nvidia_authorization`. -/
def validateBoundedNvidiaAuthorization (authorization : ArtifactAcquisitionAuthorization)
    (artifact : SignedArtifactDescriptor) (nowUtc : String) : Except AdapterFailure Unit := do
  reject (authorization.schemaVersion ≠ DRIVER_SCHEMA_VERSION)
    (authorizeError "authorization schema is unsupported")
  (authorization.artifact.validateMatches artifact).mapError fun error =>
    authorizeError error.message
  let authorized ← parseUtcSeconds authorization.authorizedAtUtc
  let expires ← parseUtcSeconds authorization.expiresAtUtc
  let now ← parseUtcSeconds nowUtc
  reject (now < authorized || expires < now || expires ≤ authorized ||
    MAX_NVIDIA_AUTHORIZATION_SECONDS < expires - authorized)
    (authorizeError "authorization is expired, not yet valid, or exceeds the 24-hour limit")

/-- `validate_driver_authorization`. -/
def validateDriverAuthorization (transaction : DriverTransaction)
    (capture : DriverExecutionCapture) (nowUtc : String) : Except String Unit := do
  asText (transaction.authorization.validateForCaptureAt capture transaction.artifact nowUtc)
  (validateBoundedNvidiaAuthorization transaction.authorization transaction.artifact
    nowUtc).mapError adapterError

/-- The capture, the removal and their record. -/
def removeAndRecord (digests : DriverDigests) (adapters : DriverAdapters M)
    (transaction : DriverTransaction) : Prog (DriverHost M) String DriverTransaction := do
  let capture ← onMachine
    (captureDriverExecution digests adapters transaction.plan REMOVAL_FRESHNESS)
  let now ← onMachine adapters.currentUtc
  ofExcept (validateDriverAuthorization transaction capture now)
  let removal ← onMachine
    (removeCapturedPackages digests adapters transaction.plan capture REMOVAL_FRESHNESS)
  persistDriverTransaction digests
    { transaction with capture := some capture, removal := some removal }

/-- `remove_prepared_nvidia_driver`. -/
def removePreparedNvidiaDriver (digests : DriverDigests) (adapters : DriverAdapters M) :
    Prog (DriverHost M) String DriverTransaction := do
  storeCall "acquire the work directory"
  let loaded ← loadDriverTransactionAt digests
  match loaded with
  | none => raise "P2:2 requires durable P1:18/P1:19 NVIDIA transaction evidence"
  | some transaction =>
      if transaction.removal.isSome then pure transaction
      else removeAndRecord digests adapters transaction

end

end FrametimeCfg.Windows
