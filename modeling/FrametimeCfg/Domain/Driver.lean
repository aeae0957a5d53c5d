import FrametimeCfg.Domain.Evidence
import FrametimeCfg.Lib.Checks
import Mathlib.Data.Finset.Card
import Mathlib.Data.List.Sort

/-!
# Driver plans

A dry-run plan describes the clean installation of one GPU driver: the exact
GPU, the packages that are installed for it, the packages that would be removed,
and the signed artifact that would be installed.  It carries the digest of the
input it was made from, and it never executes anything.

The digests (SHA-256 over the serialized record) are code outside the
repository, so the functions that compute one take them as a parameter.
-/

namespace FrametimeCfg.Domain

open FrametimeCfg.Lib.Checks
open FrametimeCfg.Lib.OrderedMap
open FrametimeCfg.Lib.Text

/-! ## Errors -/

inductive ValidationError where
  | required (field : String)
  | invalid (field : String)
  | vendorMismatch
  | packageGpuMismatch
  | duplicatePublishedName
  | invalidSignatureEvidence
  | notReadOnly
  | missingArtifact
  | artifactGpuMismatch
  | receiptPlanMismatch
  | incompleteReceipt
  | nonCanonicalPackageSet
  | packageSetFingerprintMismatch
  | safeModeNotConfirmed
  | capturePlanMismatch
  | staleCapture
  | artifactIdentityMismatch
  | authorizationMismatch
  | authorizationExpired
  | invalidRemovalEvidence
  | invalidInstallationEvidence
  deriving DecidableEq

/-- The text of a validation error. -/
def ValidationError.message : ValidationError → String
  | .required field => field ++ " is required"
  | .invalid field => field ++ " has an invalid value"
  | .vendorMismatch => "GPU vendor and PCI vendor ID do not agree"
  | .packageGpuMismatch => "published package does not belong to the exact target GPU"
  | .duplicatePublishedName => "published package list contains a duplicate OEM name"
  | .invalidSignatureEvidence =>
      "the artifact evidence is not a valid signature observation"
  | .notReadOnly => "the requested action is not read-only"
  | .missingArtifact => "the plan must include an artifact for the installation stage"
  | .artifactGpuMismatch => "artifact target does not match the exact target GPU"
  | .receiptPlanMismatch => "capture receipt does not bind to this plan"
  | .incompleteReceipt => "capture receipt is incomplete"
  | .nonCanonicalPackageSet => "the package inventory is not a complete canonical set"
  | .packageSetFingerprintMismatch =>
      "the package-set fingerprint does not bind to the inventory"
  | .safeModeNotConfirmed => "Safe Mode was not positively observed"
  | .capturePlanMismatch => "the execution capture does not bind to this plan"
  | .staleCapture => "the execution capture is stale or from the future"
  | .artifactIdentityMismatch =>
      "the artifact identity does not match the signed descriptor"
  | .authorizationMismatch => "the artifact authorization does not bind to this capture"
  | .authorizationExpired => "the artifact authorization is expired or not yet valid"
  | .invalidRemovalEvidence => "removal evidence is partial, ambiguous, or inconsistent"
  | .invalidInstallationEvidence =>
      "installation evidence is partial, ambiguous, or inconsistent"

/-! ## Texts -/

/-- `require_text`. -/
def requireText (value field : String) : Except ValidationError Unit :=
  reject (!isPlainText value) (.invalid field)

/-- `validate_leaf`. -/
def validateLeaf (value field : String) : Except ValidationError Unit := do
  reject value.isEmpty (.invalid field)
  reject (128 < byteLen value) (.invalid field)
  reject (value = ".") (.invalid field)
  reject (value = "..") (.invalid field)
  reject (value.toList.any fun c => c = '/' || c = '\\' || c = ':') (.invalid field)
  reject (value.toList.any isControl) (.invalid field)

/-- `validate_token`. -/
def validateToken (value field : String) : Except ValidationError Unit :=
  reject (value.isEmpty || 128 < byteLen value ||
    !value.toList.all fun c => c.isAlphanum || c = '.' || c = '_' || c = '-')
    (.invalid field)

/-- The text passes its checks. -/
def passes (r : Except ValidationError Unit) : Bool := r = .ok ()

/-- The digits of `oem<N>.inf`. -/
def oemDigits (value : List Char) : Option (List Char) :=
  (stripPrefix "oem".toList value).bind fun suffix =>
    (stripPrefix ".inf".toList.reverse suffix.reverse).map List.reverse

/-- The names that `OemPublishedName::parse` accepts. -/
def isOemPublishedName (value : String) : Bool :=
  passes (validateLeaf value "publishedName") &&
    (oemDigits value.toList).any fun digits => !digits.isEmpty && digits.all Char.isDigit

/-- A published package name. -/
structure OemPublishedName where
  value : String
  valid : isOemPublishedName value = true
  deriving DecidableEq

/-- The digests that `Sha256Digest::parse` accepts. -/
def isSha256Digest (value : String) : Bool :=
  byteLen value = 64 && value.toList.all isLowerHexDigit

structure Sha256Digest where
  value : String
  valid : isSha256Digest value = true
  deriving DecidableEq

/-! ## Identities -/

inductive GpuVendor where
  | nvidia
  | amd
  | intel
  deriving DecidableEq, Repr

/-- `GpuVendor::pci_vendor_id`. -/
def GpuVendor.pciVendorId : GpuVendor → UInt16
  | .nvidia => 0x10de
  | .amd => 0x1002
  | .intel => 0x8086

structure ExactGpuIdentity where
  vendor : GpuVendor
  pciVendorId : UInt16
  pciDeviceId : UInt16
  subsystemVendorId : UInt16
  subsystemDeviceId : UInt16
  revisionId : UInt8
  extensions : BTreeMap Value := ∅
  deriving DecidableEq

/-- `ExactGpuIdentity::validate`. -/
def ExactGpuIdentity.validate (gpu : ExactGpuIdentity) : Except ValidationError Unit :=
  reject (gpu.pciVendorId ≠ gpu.vendor.pciVendorId) .vendorMismatch

structure PublishedDriverPackage where
  targetGpu : ExactGpuIdentity
  publishedName : OemPublishedName
  originalInfName : String
  providerName : String
  driverVersion : String
  extensions : BTreeMap Value := ∅
  deriving DecidableEq

/-- `PublishedDriverPackage::validate_for`. -/
def PublishedDriverPackage.validateFor (package : PublishedDriverPackage)
    (targetGpu : ExactGpuIdentity) : Except ValidationError Unit := do
  package.targetGpu.validate
  reject (package.targetGpu ≠ targetGpu) .packageGpuMismatch
  validateLeaf package.originalInfName "originalInfName"
  reject (!".inf".toList.reverse.isPrefixOf package.originalInfName.toList.reverse)
    (.invalid "originalInfName")
  requireText package.providerName "providerName"
  requireText package.driverVersion "driverVersion"

/-! ## Artifacts -/

inductive AuthenticodeStatus where
  | valid
  | invalid
  | notPresent
  | indeterminate
  deriving DecidableEq, Repr

structure AuthenticodeEvidence where
  status : AuthenticodeStatus
  signerSubject : String
  signerThumbprintSha256 : Sha256Digest
  observedAtUtc : String
  extensions : BTreeMap Value := ∅
  deriving DecidableEq

/-- `AuthenticodeEvidence::validate`. -/
def AuthenticodeEvidence.validate (evidence : AuthenticodeEvidence) :
    Except ValidationError Unit := do
  reject (evidence.status ≠ .valid) .invalidSignatureEvidence
  requireText evidence.signerSubject "signerSubject"
  requireText evidence.observedAtUtc "observedAtUtc"

structure ArtifactLocator where
  artifactId : String
  artifactFileName : String
  extensions : BTreeMap Value := ∅
  deriving DecidableEq

/-- `ArtifactLocator::validate`. -/
def ArtifactLocator.validate (locator : ArtifactLocator) : Except ValidationError Unit := do
  validateToken locator.artifactId "artifactId"
  validateLeaf locator.artifactFileName "artifactFileName"

structure SignedArtifactDescriptor where
  locator : ArtifactLocator
  targetGpu : ExactGpuIdentity
  payloadSha256 : Sha256Digest
  authenticode : AuthenticodeEvidence
  extensions : BTreeMap Value := ∅
  deriving DecidableEq

/-- `SignedArtifactDescriptor::validate_for`. -/
def SignedArtifactDescriptor.validateFor (artifact : SignedArtifactDescriptor)
    (targetGpu : ExactGpuIdentity) : Except ValidationError Unit := do
  artifact.locator.validate
  artifact.targetGpu.validate
  reject (artifact.targetGpu ≠ targetGpu) .artifactGpuMismatch
  artifact.authenticode.validate

/-! ## Plans -/

def DRIVER_SCHEMA_VERSION : UInt32 := 1

inductive DriverPlanStep where
  | p1_18
  | p1_19
  | p2_2
  | p3_1
  deriving DecidableEq, Repr

inductive PlannedDriverAction where
  | inspectExactGpu (targetGpu : ExactGpuIdentity)
  | recordExactPackages (packages : List PublishedDriverPackage)
  | proposePackageCleanup (publishedNames : List OemPublishedName)
  | proposeSignedArtifactInstall (artifact : SignedArtifactDescriptor)
  deriving DecidableEq

structure DryRunDriverPlanEntry where
  step : DriverPlanStep
  action : PlannedDriverAction
  extensions : BTreeMap Value := ∅
  deriving DecidableEq

structure DriverPlanInput where
  targetGpu : ExactGpuIdentity
  installedPackages : List PublishedDriverPackage
  artifact : SignedArtifactDescriptor
  extensions : BTreeMap Value := ∅
  deriving DecidableEq

structure DryRunDriverPlan where
  schemaVersion : UInt32
  readOnly : Bool
  targetGpu : ExactGpuIdentity
  inputSha256 : Sha256Digest
  entries : List DryRunDriverPlanEntry
  extensions : BTreeMap Value := ∅
  deriving DecidableEq

/-- The loop over the packages of an input; `names` holds the earlier ones. -/
def validateInputPackages (targetGpu : ExactGpuIdentity) (names : List OemPublishedName) :
    List PublishedDriverPackage → Except ValidationError Unit
  | [] => .ok ()
  | package :: rest => do
      package.validateFor targetGpu
      reject (package.publishedName ∈ names) .duplicatePublishedName
      validateInputPackages targetGpu (package.publishedName :: names) rest

/-- `DriverPlanInput::validate`. -/
def DriverPlanInput.validate (input : DriverPlanInput) : Except ValidationError Unit := do
  input.targetGpu.validate
  reject input.installedPackages.isEmpty (.required "installedPackages")
  validateInputPackages input.targetGpu [] input.installedPackages
  input.artifact.validateFor input.targetGpu

/-- `DryRunDriverPlan::validate`. -/
def DryRunDriverPlan.validate (plan : DryRunDriverPlan) : Except ValidationError Unit := do
  reject (plan.schemaVersion ≠ DRIVER_SCHEMA_VERSION) (.invalid "schemaVersion")
  reject (!plan.readOnly) .notReadOnly
  plan.targetGpu.validate
  reject (plan.entries.map DryRunDriverPlanEntry.step ≠ [.p1_18, .p1_19, .p2_2, .p3_1])
    (.invalid "entries")

/-- The packages in the order of their names. -/
def sortPackages (packages : List PublishedDriverPackage) : List PublishedDriverPackage :=
  packages.insertionSort fun left right => left.publishedName.value ≤ right.publishedName.value

/-- `generate_dry_run_plan`. -/
def generateDryRunPlan (digest : DriverPlanInput → Sha256Digest) (input : DriverPlanInput) :
    Except ValidationError DryRunDriverPlan := do
  input.validate
  let packages := sortPackages input.installedPackages
  return {
    schemaVersion := DRIVER_SCHEMA_VERSION
    readOnly := true
    targetGpu := input.targetGpu
    inputSha256 := digest { input with installedPackages := packages }
    entries := [
      { step := .p1_18, action := .inspectExactGpu input.targetGpu },
      { step := .p1_19, action := .recordExactPackages packages },
      { step := .p2_2
        action := .proposePackageCleanup (packages.map PublishedDriverPackage.publishedName) },
      { step := .p3_1, action := .proposeSignedArtifactInstall input.artifact }] }

end FrametimeCfg.Domain
