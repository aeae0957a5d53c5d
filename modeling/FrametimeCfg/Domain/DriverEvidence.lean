import FrametimeCfg.Domain.Driver
import FrametimeCfg.Lib.Effect

/-!
# Evidence of a driver change

Before packages are removed their set is captured together with a Safe Mode
observation; the removal is recorded package by package with a fresh inventory
after it; an installation is recorded with the authorization it used and the
artifact that was observed.  Each record is validated against the plan at a
current time: a capture is fresh for as long as the policy says.

The adapters and the clock are injected.  A time is a text in UTC, to the second.
-/

namespace FrametimeCfg.Domain

open FrametimeCfg.Lib.Checks
open FrametimeCfg.Lib.Effect
open FrametimeCfg.Lib.Text

/-! ## Times -/

/-- The value of a digit. -/
def digitValue (byte : UInt8) : Option Int :=
  if 48 ≤ byte ∧ byte ≤ 57 then some (byte.toNat - 48) else none

/-- The number of a range of digits. -/
def digitsValue (bytes : List UInt8) : Option Int :=
  bytes.foldlM (fun value byte => (digitValue byte).map (value * 10 + ·)) 0

def isLeapYear (year : Int) : Bool :=
  year % 4 = 0 && (year % 100 ≠ 0 || year % 400 = 0)

/-- The days of a month; none for a number that is no month. -/
def daysInMonth (year month : Int) : Option Int :=
  if month ∈ [1, 3, 5, 7, 8, 10, 12] then some 31
  else if month ∈ [4, 6, 9, 11] then some 30
  else if month = 2 then some (if isLeapYear year then 29 else 28)
  else none

/-- The days before a month in a year that is no leap year. -/
def MONTH_DAYS : List Int := [0, 31, 59, 90, 120, 151, 181, 212, 243, 273, 304, 334]

/-- The seconds since the first year. -/
def secondsOf (year month day hour minute second : Int) : Int :=
  let completed := year - 1
  let daysBeforeYear := completed * 365 + completed / 4 - completed / 100 + completed / 400
  let days := daysBeforeYear + MONTH_DAYS[(month - 1).toNat]?.getD 0 + day - 1
  let days := if 2 < month ∧ isLeapYear year then days + 1 else days
  days * 86400 + hour * 3600 + minute * 60 + second

/-- The separators of a time, with their places. -/
def SEPARATORS : List (Nat × UInt8) :=
  [(4, 45), (7, 45), (10, 84), (13, 58), (16, 58), (19, 90)]

/-- The bytes from one place to another. -/
def slice (bytes : List UInt8) (start stop : Nat) : List UInt8 :=
  (bytes.drop start).take (stop - start)

/-- The bytes have the length and the separators of a time. -/
def timeShape (bytes : List UInt8) : Bool :=
  bytes.length = 20 && SEPARATORS.all fun (place, byte) => bytes[place]? = some byte

/-- `timestamp`, on the bytes of the text. -/
def parseTime (bytes : List UInt8) : Option Int := do
  guard (timeShape bytes)
  let year ← digitsValue (slice bytes 0 4)
  let month ← digitsValue (slice bytes 5 7)
  let day ← digitsValue (slice bytes 8 10)
  let hour ← digitsValue (slice bytes 11 13)
  let minute ← digitsValue (slice bytes 14 16)
  let second ← digitsValue (slice bytes 17 19)
  let days ← daysInMonth year month
  guard (!(year = 0 || day = 0 || days < day || 23 < hour || 59 < minute || 59 < second))
  return secondsOf year month day hour minute second

/-- `timestamp`. -/
def evidenceTime (value field : String) : Except ValidationError Int :=
  okOr (parseTime value.toUTF8.data.toList) (.invalid field)

/-! ## Package sets -/

structure CanonicalPackageSet where
  targetGpu : ExactGpuIdentity
  packages : List PublishedDriverPackage
  deriving DecidableEq

/-- The digest of a plan input, and of a package set. -/
structure DriverDigests where
  planInput : DriverPlanInput → Sha256Digest
  packageSet : CanonicalPackageSet → Sha256Digest

/-- The loop over the packages of a set; `names` holds the earlier ones, and
`previous` the last of them. -/
def validatePackages (targetGpu : ExactGpuIdentity) (names : List OemPublishedName)
    (previous : Option OemPublishedName) :
    List PublishedDriverPackage → Except ValidationError Unit
  | [] => .ok ()
  | package :: rest => do
      package.validateFor targetGpu
      reject (package.publishedName ∈ names ||
        previous.any fun prior => package.publishedName.value ≤ prior.value)
        .nonCanonicalPackageSet
      validatePackages targetGpu (package.publishedName :: names)
        (some package.publishedName) rest

/-- `CanonicalPackageSet::validate`. -/
def CanonicalPackageSet.validate (set : CanonicalPackageSet) :
    Except ValidationError Unit := do
  set.targetGpu.validate
  validatePackages set.targetGpu [] none set.packages

/-- `CanonicalPackageSet::from_unsorted`. -/
def CanonicalPackageSet.fromUnsorted (targetGpu : ExactGpuIdentity)
    (packages : List PublishedDriverPackage) :
    Except ValidationError CanonicalPackageSet := do
  let set : CanonicalPackageSet :=
    { targetGpu := targetGpu, packages := sortPackages packages }
  set.validate
  return set

/-- `CanonicalPackageSet::fingerprint`. -/
def CanonicalPackageSet.fingerprint (digests : DriverDigests) (set : CanonicalPackageSet) :
    Except ValidationError Sha256Digest := do
  set.validate
  return digests.packageSet set

/-- `CanonicalPackageSet::names`. -/
def CanonicalPackageSet.names (set : CanonicalPackageSet) : Finset OemPublishedName :=
  (set.packages.map PublishedDriverPackage.publishedName).toFinset

/-! ## Captures -/

inductive SafeModeState where
  | confirmed
  | notDetected
  | indeterminate
  deriving DecidableEq, Repr

structure SafeModeObservation where
  targetGpu : ExactGpuIdentity
  state : SafeModeState
  observedAtUtc : String
  bootSessionId : String
  deriving DecidableEq

/-- `SafeModeObservation::validate`. -/
def SafeModeObservation.validate (observation : SafeModeObservation) :
    Except ValidationError Unit := do
  observation.targetGpu.validate
  let _ ← evidenceTime observation.observedAtUtc "safeModeObservedAtUtc"
  requireText observation.bootSessionId "bootSessionId"

structure CaptureFreshnessPolicy where
  maximumAgeSeconds : UInt64
  deriving DecidableEq

/-- The age limit, as the signed number it is compared as. -/
def CaptureFreshnessPolicy.limit (policy : CaptureFreshnessPolicy) : Int :=
  min policy.maximumAgeSeconds.toNat (2 ^ 63 - 1)

/-- `CaptureFreshnessPolicy::validate_capture_at`. -/
def CaptureFreshnessPolicy.validateCaptureAt (policy : CaptureFreshnessPolicy)
    (capturedAtUtc nowUtc : String) : Except ValidationError Unit := do
  reject (policy.maximumAgeSeconds = 0) (.invalid "maximumAgeSeconds")
  let captured ← evidenceTime capturedAtUtc "capturedAtUtc"
  let now ← evidenceTime nowUtc "nowUtc"
  reject (now - captured < 0 || policy.limit < now - captured) .staleCapture

structure DriverExecutionCapture where
  schemaVersion : UInt32
  planSha256 : Sha256Digest
  targetGpu : ExactGpuIdentity
  safeMode : SafeModeObservation
  installedPackages : CanonicalPackageSet
  packageSetSha256 : Sha256Digest
  capturedAtUtc : String
  deriving DecidableEq

/-- `planned_names`. -/
def plannedNames (plan : DryRunDriverPlan) :
    Except ValidationError (Finset OemPublishedName) :=
  match plan.entries[1]?.map DryRunDriverPlanEntry.action with
  | some (.recordExactPackages packages) =>
      .ok (packages.map PublishedDriverPackage.publishedName).toFinset
  | _ => .error .capturePlanMismatch

/-- `DriverExecutionCapture::validate_for_plan_at`. -/
def DriverExecutionCapture.validateForPlanAt (digests : DriverDigests)
    (capture : DriverExecutionCapture) (plan : DryRunDriverPlan)
    (freshness : CaptureFreshnessPolicy) (nowUtc : String) :
    Except ValidationError Unit := do
  plan.validate
  reject (capture.schemaVersion ≠ DRIVER_SCHEMA_VERSION ||
    capture.planSha256 ≠ plan.inputSha256 || capture.targetGpu ≠ plan.targetGpu)
    .capturePlanMismatch
  capture.installedPackages.validate
  reject (capture.installedPackages.targetGpu ≠ capture.targetGpu) .capturePlanMismatch
  let fingerprint ← capture.installedPackages.fingerprint digests
  reject (capture.packageSetSha256 ≠ fingerprint) .capturePlanMismatch
  let planned ← plannedNames plan
  reject (capture.installedPackages.names ≠ planned) .capturePlanMismatch
  capture.safeMode.validate
  reject (capture.safeMode.targetGpu ≠ capture.targetGpu ||
    capture.safeMode.state ≠ .confirmed) .safeModeNotConfirmed
  let observed ← evidenceTime capture.safeMode.observedAtUtc "safeModeObservedAtUtc"
  let captured ← evidenceTime capture.capturedAtUtc "capturedAtUtc"
  reject (captured < observed) .capturePlanMismatch
  reject (freshness.limit < captured - observed) .staleCapture
  freshness.validateCaptureAt capture.capturedAtUtc nowUtc

/-! ## Authorizations -/

structure ArtifactIdentity where
  artifactId : String
  artifactFileName : String
  payloadSha256 : Sha256Digest
  signerThumbprintSha256 : Sha256Digest
  deriving DecidableEq

/-- `ArtifactIdentity::from_descriptor`. -/
def ArtifactIdentity.fromDescriptor (descriptor : SignedArtifactDescriptor) :
    Except ValidationError ArtifactIdentity := do
  descriptor.locator.validate
  descriptor.authenticode.validate
  return {
    artifactId := descriptor.locator.artifactId
    artifactFileName := descriptor.locator.artifactFileName
    payloadSha256 := descriptor.payloadSha256
    signerThumbprintSha256 := descriptor.authenticode.signerThumbprintSha256 }

/-- `ArtifactIdentity::validate_matches`. -/
def ArtifactIdentity.validateMatches (identity : ArtifactIdentity)
    (descriptor : SignedArtifactDescriptor) : Except ValidationError Unit := do
  let expected ← ArtifactIdentity.fromDescriptor descriptor
  reject (identity ≠ expected) .artifactIdentityMismatch

structure ArtifactAcquisitionAuthorization where
  schemaVersion : UInt32
  authorizationId : String
  planSha256 : Sha256Digest
  targetGpu : ExactGpuIdentity
  packageSetSha256 : Sha256Digest
  artifact : ArtifactIdentity
  authorizedAtUtc : String
  expiresAtUtc : String
  deriving DecidableEq

/-- `ArtifactAcquisitionAuthorization::validate_for_capture_at`. -/
def ArtifactAcquisitionAuthorization.validateForCaptureAt
    (authorization : ArtifactAcquisitionAuthorization) (capture : DriverExecutionCapture)
    (artifact : SignedArtifactDescriptor) (nowUtc : String) :
    Except ValidationError Unit := do
  reject (authorization.schemaVersion ≠ DRIVER_SCHEMA_VERSION ||
    authorization.planSha256 ≠ capture.planSha256 ||
    authorization.targetGpu ≠ capture.targetGpu ||
    authorization.packageSetSha256 ≠ capture.packageSetSha256) .authorizationMismatch
  requireText authorization.authorizationId "authorizationId"
  authorization.targetGpu.validate
  authorization.artifact.validateMatches artifact
  let authorized ← evidenceTime authorization.authorizedAtUtc "authorizedAtUtc"
  let expires ← evidenceTime authorization.expiresAtUtc "expiresAtUtc"
  let now ← evidenceTime nowUtc "nowUtc"
  reject (now < authorized || expires < now || expires ≤ authorized) .authorizationExpired

/-! ## Removals -/

inductive PackageRemovalDisposition where
  | removed
  | alreadyAbsent
  | failed (reason : String)
  deriving DecidableEq

structure PackageRemovalOutcome where
  publishedName : OemPublishedName
  disposition : PackageRemovalDisposition
  observedAtUtc : String
  deriving DecidableEq

structure RemovalExecutionEvidence where
  capture : DriverExecutionCapture
  outcomes : List PackageRemovalOutcome
  postRemovalPackages : CanonicalPackageSet
  observedAtUtc : String
  deriving DecidableEq

/-- The loop over the outcomes. -/
def validateOutcomes (capturedAtUtc : String) :
    List PackageRemovalOutcome → Except ValidationError Unit
  | [] => .ok ()
  | outcome :: rest => do
      reject (outcome.disposition ≠ .removed) .invalidRemovalEvidence
      let observed ← evidenceTime outcome.observedAtUtc "removalObservedAtUtc"
      let captured ← evidenceTime capturedAtUtc "capturedAtUtc"
      reject (observed < captured) .invalidRemovalEvidence
      validateOutcomes capturedAtUtc rest

/-- `RemovalExecutionEvidence::validate_for_plan_at`. -/
def RemovalExecutionEvidence.validateForPlanAt (digests : DriverDigests)
    (evidence : RemovalExecutionEvidence) (plan : DryRunDriverPlan)
    (freshness : CaptureFreshnessPolicy) (nowUtc : String) :
    Except ValidationError Unit := do
  evidence.capture.validateForPlanAt digests plan freshness nowUtc
  evidence.postRemovalPackages.validate
  reject (evidence.postRemovalPackages.targetGpu ≠ evidence.capture.targetGpu)
    .invalidRemovalEvidence
  let observed ← evidenceTime evidence.observedAtUtc "postRemovalObservedAtUtc"
  let captured ← evidenceTime evidence.capture.capturedAtUtc "capturedAtUtc"
  reject (observed < captured) .invalidRemovalEvidence
  let expected := evidence.capture.installedPackages.names
  let outcomeNames := (evidence.outcomes.map PackageRemovalOutcome.publishedName).toFinset
  reject (evidence.outcomes.length ≠ expected.card || outcomeNames ≠ expected)
    .invalidRemovalEvidence
  validateOutcomes evidence.capture.capturedAtUtc evidence.outcomes
  reject (!Disjoint expected evidence.postRemovalPackages.names) .invalidRemovalEvidence

/-! ## Installations -/

structure InstalledArtifactObservation where
  artifact : ArtifactIdentity
  observedAtUtc : String
  deriving DecidableEq

structure InstallationEvidence where
  authorization : ArtifactAcquisitionAuthorization
  freshAuthenticode : AuthenticodeEvidence
  installedArtifact : InstalledArtifactObservation
  postInstallPackages : CanonicalPackageSet
  observedAtUtc : String
  deriving DecidableEq

/-- The first time is before the second one. -/
def timeBefore (first firstField second secondField : String) :
    Except ValidationError Bool := do
  let firstTime ← evidenceTime first firstField
  let secondTime ← evidenceTime second secondField
  return firstTime < secondTime

/-- The times of an installation, each pair that must not be out of order. -/
def installationTimes (evidence : InstallationEvidence) (capture : DriverExecutionCapture) :
    List (String × String × String × String) :=
  let fresh := evidence.freshAuthenticode.observedAtUtc
  let freshField := "freshAuthenticodeObservedAtUtc"
  let authorized := evidence.authorization.authorizedAtUtc
  let installed := evidence.installedArtifact.observedAtUtc
  let post := evidence.observedAtUtc
  [(fresh, freshField, authorized, "authorizedAtUtc"),
    (installed, "installObservedAtUtc", fresh, freshField),
    (installed, "installObservedAtUtc", authorized, "authorizedAtUtc"),
    (post, "postInstallObservedAtUtc", authorized, "authorizedAtUtc"),
    (post, "postInstallObservedAtUtc", installed, "installObservedAtUtc"),
    (post, "postInstallObservedAtUtc", capture.capturedAtUtc, "capturedAtUtc")]

/-- None of the pairs is out of order. -/
def validateTimes : List (String × String × String × String) → Except ValidationError Unit
  | [] => .ok ()
  | (first, firstField, second, secondField) :: rest => do
      let before ← timeBefore first firstField second secondField
      reject before .invalidInstallationEvidence
      validateTimes rest

/-- `InstallationEvidence::validate_for_capture_at`. -/
def InstallationEvidence.validateForCaptureAt (evidence : InstallationEvidence)
    (capture : DriverExecutionCapture) (artifact : SignedArtifactDescriptor)
    (nowUtc : String) : Except ValidationError Unit := do
  evidence.authorization.validateForCaptureAt capture artifact nowUtc
  evidence.freshAuthenticode.validate
  evidence.postInstallPackages.validate
  reject (evidence.postInstallPackages.targetGpu ≠ capture.targetGpu ||
    evidence.postInstallPackages.packages.isEmpty ||
    evidence.installedArtifact.artifact ≠ evidence.authorization.artifact ||
    evidence.freshAuthenticode.signerSubject ≠ artifact.authenticode.signerSubject ||
    evidence.freshAuthenticode.signerThumbprintSha256 ≠
      artifact.authenticode.signerThumbprintSha256) .invalidInstallationEvidence
  validateTimes (installationTimes evidence capture)

/-- `InstallationEvidence::validate_for_plan_at`. -/
def InstallationEvidence.validateForPlanAt (digests : DriverDigests)
    (evidence : InstallationEvidence) (plan : DryRunDriverPlan)
    (capture : DriverExecutionCapture) (artifact : SignedArtifactDescriptor)
    (freshness : CaptureFreshnessPolicy) (nowUtc : String) :
    Except ValidationError Unit := do
  capture.validateForPlanAt digests plan freshness nowUtc
  evidence.validateForCaptureAt capture artifact nowUtc

/-! ## Execution -/

structure AdapterFailure where
  operation : String
  reason : String
  deriving DecidableEq

/-- The injected adapters of a removal. -/
structure DriverAdapters (σ : Type) where
  currentUtc : Prog σ AdapterFailure String
  observeSafeMode : ExactGpuIdentity → Prog σ AdapterFailure SafeModeObservation
  removePublishedPackage : ExactGpuIdentity → OemPublishedName →
    Prog σ AdapterFailure PackageRemovalOutcome
  inspectPublishedPackages : ExactGpuIdentity →
    Prog σ AdapterFailure (List PublishedDriverPackage)

section

variable {σ α : Type}

/-- A validation as a step of an operation. -/
def validated (operation : String) (r : Except ValidationError α) : Prog σ AdapterFailure α :=
  relabel (fun error => ⟨operation, error.message⟩) (ofExcept r)

/-- `capture_driver_execution`. -/
def captureDriverExecution (digests : DriverDigests) (adapters : DriverAdapters σ)
    (plan : DryRunDriverPlan) (freshness : CaptureFreshnessPolicy) :
    Prog σ AdapterFailure DriverExecutionCapture := do
  validated "capture driver execution" plan.validate
  let safeMode ← adapters.observeSafeMode plan.targetGpu
  let packages ← adapters.inspectPublishedPackages plan.targetGpu
  let installedPackages ← validated "capture driver execution"
    (CanonicalPackageSet.fromUnsorted plan.targetGpu packages)
  let capturedAtUtc ← adapters.currentUtc
  let packageSetSha256 ← validated "capture driver execution"
    (installedPackages.fingerprint digests)
  let capture : DriverExecutionCapture :=
    { schemaVersion := DRIVER_SCHEMA_VERSION
      planSha256 := plan.inputSha256
      targetGpu := plan.targetGpu
      safeMode := safeMode
      installedPackages := installedPackages
      packageSetSha256 := packageSetSha256
      capturedAtUtc := capturedAtUtc }
  validated "capture driver execution"
    (capture.validateForPlanAt digests plan freshness capturedAtUtc)
  return capture

/-- `remove_captured_packages`. -/
def removeCapturedPackages (digests : DriverDigests) (adapters : DriverAdapters σ)
    (plan : DryRunDriverPlan) (capture : DriverExecutionCapture)
    (freshness : CaptureFreshnessPolicy) :
    Prog σ AdapterFailure RemovalExecutionEvidence := do
  let now ← adapters.currentUtc
  validated "remove driver packages" (capture.validateForPlanAt digests plan freshness now)
  let outcomes ← mapEach (fun package =>
    adapters.removePublishedPackage capture.targetGpu
      (PublishedDriverPackage.publishedName package)) capture.installedPackages.packages
  let packages ← adapters.inspectPublishedPackages capture.targetGpu
  let postRemovalPackages ← validated "read back driver removal"
    (CanonicalPackageSet.fromUnsorted capture.targetGpu packages)
  let observedAtUtc ← adapters.currentUtc
  let evidence : RemovalExecutionEvidence :=
    { capture := capture
      outcomes := outcomes
      postRemovalPackages := postRemovalPackages
      observedAtUtc := observedAtUtc }
  let now ← adapters.currentUtc
  validated "verify driver removal"
    (evidence.validateForPlanAt digests plan freshness now)
  return evidence

end

end FrametimeCfg.Domain
