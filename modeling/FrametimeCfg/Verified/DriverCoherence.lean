import FrametimeCfg.Verified.DriverDurability
import FrametimeCfg.Verified.PackageSets

/-!
# What a validated driver transaction binds

The preparation of a driver change makes the plan from the inspected packages and the
acquired artifact, and the authorization from the plan and the artifact: the record it
writes is coherent.  The validation of the record compares the plan and the artifact
with the copies that it has just made of them, so it says nothing of what the entries of
the plan contain, and the artifact and the package set of the authorization are looked
at in an installation only.  A validated record is coherent exactly when it holds what
the preparation would have put together, and each of its parts can be exchanged.
-/

namespace FrametimeCfg.Verified.DriverCoherence

open FrametimeCfg.Domain
open FrametimeCfg.Lib.Checks
open FrametimeCfg.Windows
open FrametimeCfg.Verified.DriverDurability
open FrametimeCfg.Verified.PackageSets

/-! ## The entries of a plan -/

/-- The GPU that a plan inspects at P1:18. -/
def inspectedGpu (plan : DryRunDriverPlan) : Option ExactGpuIdentity :=
  match plan.entries[0]?.map DryRunDriverPlanEntry.action with
  | some (.inspectExactGpu gpu) => some gpu
  | _ => none

/-- The packages that a plan would remove at P2:2. -/
def proposedCleanup (plan : DryRunDriverPlan) : Option (List OemPublishedName) :=
  match plan.entries[2]?.map DryRunDriverPlanEntry.action with
  | some (.proposePackageCleanup names) => some names
  | _ => none

/-- The artifact that a plan would install at P3:1. -/
def proposedArtifact (plan : DryRunDriverPlan) : Option SignedArtifactDescriptor :=
  match plan.entries[3]?.map DryRunDriverPlanEntry.action with
  | some (.proposeSignedArtifactInstall artifact) => some artifact
  | _ => none

/-- **A coherent transaction**: its plan is a generated one, for its own GPU, packages and
artifact, and its artifact and authorization are those of the plan. -/
structure Coherent (digests : DriverDigests) (transaction : DriverTransaction) : Prop where
  generated : ∃ input, generateDryRunPlan digests.planInput input = .ok transaction.plan
  digest : ∃ packages artifact, recordedPackages transaction.plan = some packages ∧
    proposedArtifact transaction.plan = some artifact ∧
    transaction.plan.inputSha256 = digests.planInput
      { targetGpu := transaction.plan.targetGpu, installedPackages := packages
        artifact := artifact }
  gpu : inspectedGpu transaction.plan = some transaction.plan.targetGpu
  names : proposedCleanup transaction.plan =
    (recordedPackages transaction.plan).map namesOf
  artifact : proposedArtifact transaction.plan = some transaction.artifact
  identity : ArtifactIdentity.fromDescriptor transaction.artifact =
    .ok transaction.authorization.artifact
  packageSet : ∃ packages, recordedPackages transaction.plan = some packages ∧
    CanonicalPackageSet.fingerprint digests ⟨transaction.plan.targetGpu, packages⟩ =
      .ok transaction.authorization.packageSetSha256

/-- What the validation should have compared: the plan, the artifact and what the
authorization says of them are those of one preparation. -/
def FromPreparation (digests : DriverDigests) (transaction : DriverTransaction) : Prop :=
  ∃ targetGpu installedPackages artifact authorizationId authorizedAtUtc expiresAtUtc prepared,
    prepareNvidiaDriver digests targetGpu installedPackages artifact authorizationId
      authorizedAtUtc expiresAtUtc = .ok prepared ∧
    transaction.plan = prepared.plan ∧ transaction.artifact = prepared.artifact ∧
    transaction.authorization.artifact = prepared.authorization.artifact ∧
    transaction.authorization.packageSetSha256 = prepared.authorization.packageSetSha256

/-! ## Generated plans -/

theorem asText_eq_ok {α : Type} {r : Except ValidationError α} {a : α} :
    asText r = .ok a ↔ r = .ok a :=
  mapError_eq_ok

/-- The plan of a valid input. -/
def planOf (digest : DriverPlanInput → Sha256Digest) (input : DriverPlanInput) :
    DryRunDriverPlan where
  schemaVersion := DRIVER_SCHEMA_VERSION
  readOnly := true
  targetGpu := input.targetGpu
  inputSha256 := digest { input with installedPackages := sortPackages input.installedPackages }
  entries := [
    { step := .p1_18, action := .inspectExactGpu input.targetGpu },
    { step := .p1_19, action := .recordExactPackages (sortPackages input.installedPackages) },
    { step := .p2_2
      action := .proposePackageCleanup (namesOf (sortPackages input.installedPackages)) },
    { step := .p3_1, action := .proposeSignedArtifactInstall input.artifact }]

theorem generate_eq_ok {digest : DriverPlanInput → Sha256Digest} {input : DriverPlanInput}
    {plan : DryRunDriverPlan} :
    generateDryRunPlan digest input = .ok plan ↔
      input.validate = .ok () ∧ planOf digest input = plan := by
  rw [generateDryRunPlan, check_bind_eq_ok]
  apply and_congr_right
  intro _
  show Except.ok (planOf digest input) = Except.ok plan ↔ _
  rw [Except.ok.injEq]

/-- What the validation of an input decides. -/
theorem input_validate_eq_ok {input : DriverPlanInput} :
    input.validate = .ok () ↔ input.targetGpu.validate = .ok () ∧
      input.installedPackages.isEmpty = false ∧
      ((∀ package ∈ input.installedPackages, package.validateFor input.targetGpu = .ok ()) ∧
        (namesOf input.installedPackages).Nodup) ∧
      input.artifact.validateFor input.targetGpu = .ok () := by
  rw [DriverPlanInput.validate, check_bind_eq_ok, check_bind_eq_ok, check_bind_eq_ok,
    reject_eq_ok, validateInputPackages_eq_ok]
  simp

/-- The packages of a generated plan are a canonical set. -/
theorem canonical_of_generated {input : DriverPlanInput} (h : input.validate = .ok ()) :
    CanonicalPackageSet.validate
      ⟨input.targetGpu, sortPackages input.installedPackages⟩ = .ok () := by
  obtain ⟨hgpu, -, ⟨hvalid, hnodup⟩, -⟩ := input_validate_eq_ok.mp h
  rw [validate_eq_ok]
  exact ⟨hgpu, fun package hmem => hvalid package (mem_sortPackages.mp hmem),
    pairwise_sortPackages hnodup⟩

theorem fromUnsorted_eq_ok {gpu : ExactGpuIdentity} {packages : List PublishedDriverPackage}
    {set : CanonicalPackageSet} :
    CanonicalPackageSet.fromUnsorted gpu packages = .ok set ↔
      CanonicalPackageSet.validate ⟨gpu, sortPackages packages⟩ = .ok () ∧
        ⟨gpu, sortPackages packages⟩ = set := by
  rw [CanonicalPackageSet.fromUnsorted, check_bind_eq_ok]
  apply and_congr_right
  intro _
  show Except.ok (CanonicalPackageSet.mk gpu (sortPackages packages)) = Except.ok set ↔ _
  rw [Except.ok.injEq]

theorem fingerprint_eq_ok {digests : DriverDigests} {set : CanonicalPackageSet}
    {digest : Sha256Digest} :
    set.fingerprint digests = .ok digest ↔
      set.validate = .ok () ∧ digests.packageSet set = digest := by
  rw [CanonicalPackageSet.fingerprint, check_bind_eq_ok]
  apply and_congr_right
  intro _
  show Except.ok (digests.packageSet set) = Except.ok digest ↔ _
  rw [Except.ok.injEq]

/-! ## The preparation -/

section

variable {digests : DriverDigests} {transaction : DriverTransaction}

theorem prepared_eq_ok {plan : DryRunDriverPlan} {artifact : SignedArtifactDescriptor}
    {authorization : ArtifactAcquisitionAuthorization} {prepared : DriverTransaction} :
    DriverTransaction.prepared plan artifact authorization = .ok prepared ↔
      plan.validate = .ok () ∧ artifact.validateFor plan.targetGpu = .ok () ∧
      (authorization.planSha256 = plan.inputSha256 ∧
        authorization.targetGpu = plan.targetGpu) ∧
      ⟨DRIVER_TRANSACTION_SCHEMA, plan, artifact, authorization, none, none, none⟩ =
        prepared := by
  rw [DriverTransaction.prepared, check_bind_eq_ok, check_bind_eq_ok, check_bind_eq_ok,
    asText_eq_ok, asText_eq_ok, reject_eq_ok, Bool.or_eq_false_iff,
    decide_eq_false_iff_not, decide_eq_false_iff_not, not_not, not_not]
  apply and_congr_right
  intro _
  apply and_congr_right
  intro _
  apply and_congr_right
  intro _
  show Except.ok _ = Except.ok prepared ↔ _
  rw [Except.ok.injEq]

/-- A generated plan passes its own validation. -/
theorem validate_planOf {digest : DriverPlanInput → Sha256Digest} {input : DriverPlanInput}
    (h : input.validate = .ok ()) : (planOf digest input).validate = .ok () := by
  obtain ⟨hgpu, -⟩ := input_validate_eq_ok.mp h
  rw [DryRunDriverPlan.validate, check_bind_eq_ok, check_bind_eq_ok, check_bind_eq_ok]
  exact ⟨rfl, rfl, hgpu, rfl⟩

/-- **The preparation**, on an input: it fails or gives the plan, the artifact, the
identity of the artifact and the fingerprint of the packages. -/
theorem prepareNvidiaDriver_eq_ok {targetGpu : ExactGpuIdentity}
    {installedPackages : List PublishedDriverPackage} {artifact : SignedArtifactDescriptor}
    {authorizationId authorizedAtUtc expiresAtUtc : String} {prepared : DriverTransaction} :
    prepareNvidiaDriver digests targetGpu installedPackages artifact authorizationId
        authorizedAtUtc expiresAtUtc = .ok prepared ↔
      ∃ identity,
        DriverPlanInput.validate ⟨targetGpu, installedPackages, artifact, ∅⟩ = .ok () ∧
        ArtifactIdentity.fromDescriptor artifact = .ok identity ∧
        prepared = ⟨DRIVER_TRANSACTION_SCHEMA,
          planOf digests.planInput ⟨targetGpu, installedPackages, artifact, ∅⟩, artifact,
          { schemaVersion := DRIVER_SCHEMA_VERSION
            authorizationId := authorizationId
            planSha256 := (planOf digests.planInput
              ⟨targetGpu, installedPackages, artifact, ∅⟩).inputSha256
            targetGpu := targetGpu
            packageSetSha256 :=
              digests.packageSet ⟨targetGpu, sortPackages installedPackages⟩
            artifact := identity
            authorizedAtUtc := authorizedAtUtc
            expiresAtUtc := expiresAtUtc }, none, none, none⟩ := by
  have hresorted : ∀ input : DriverPlanInput, input.validate = .ok () →
      sortPackages (sortPackages input.installedPackages) =
        sortPackages input.installedPackages := by
    intro input hinput
    exact sortPackages_eq_self
      (pairwise_sortPackages (input_validate_eq_ok.mp hinput).2.2.1.2)
  constructor
  · intro h
    obtain ⟨plan, hplan, h⟩ := bind_eq_ok.mp h
    obtain ⟨hinput, rfl⟩ := generate_eq_ok.mp (asText_eq_ok.mp hplan)
    obtain ⟨packages, hpackages, h⟩ := bind_eq_ok.mp h
    obtain rfl : sortPackages installedPackages = packages :=
      Option.some.inj (okOr_eq_ok.mp hpackages)
    obtain ⟨set, hset, h⟩ := bind_eq_ok.mp h
    obtain ⟨-, rfl⟩ := fromUnsorted_eq_ok.mp (asText_eq_ok.mp hset)
    obtain ⟨fingerprint, hfingerprint, h⟩ := bind_eq_ok.mp h
    obtain ⟨-, rfl⟩ := fingerprint_eq_ok.mp (asText_eq_ok.mp hfingerprint)
    obtain ⟨identity, hidentity, h⟩ := bind_eq_ok.mp h
    obtain ⟨-, -, -, rfl⟩ := prepared_eq_ok.mp h
    refine ⟨identity, hinput, asText_eq_ok.mp hidentity, ?_⟩
    rw [hresorted _ hinput]
  · intro ⟨identity, hinput, hidentity, hprepared⟩
    have hcanonical := canonical_of_generated hinput
    have hset : CanonicalPackageSet.fromUnsorted targetGpu (sortPackages installedPackages) =
        .ok ⟨targetGpu, sortPackages installedPackages⟩ := by
      rw [fromUnsorted_eq_ok, hresorted _ hinput]
      exact ⟨hcanonical, rfl⟩
    obtain ⟨hgpu, -, -, hartifact⟩ := input_validate_eq_ok.mp hinput
    refine bind_eq_ok.mpr ⟨_, asText_eq_ok.mpr (generate_eq_ok.mpr ⟨hinput, rfl⟩), ?_⟩
    refine bind_eq_ok.mpr ⟨_, okOr_eq_ok.mpr rfl, ?_⟩
    refine bind_eq_ok.mpr ⟨_, asText_eq_ok.mpr hset, ?_⟩
    refine bind_eq_ok.mpr ⟨_, asText_eq_ok.mpr (fingerprint_eq_ok.mpr ⟨hcanonical, rfl⟩), ?_⟩
    refine bind_eq_ok.mpr ⟨identity, asText_eq_ok.mpr hidentity, ?_⟩
    exact prepared_eq_ok.mpr
      ⟨validate_planOf hinput, hartifact, ⟨rfl, rfl⟩, hprepared.symm⟩

/-! ## Validated transactions -/

/-- The validation begins with the checks of a prepared transaction. -/
theorem checks_of_validate {now : String} {freshness : CaptureFreshnessPolicy}
    (h : transaction.validate digests now freshness = .ok ()) :
    transaction.plan.validate = .ok () ∧
      transaction.artifact.validateFor transaction.plan.targetGpu = .ok () ∧
      transaction.authorization.planSha256 = transaction.plan.inputSha256 ∧
      transaction.authorization.targetGpu = transaction.plan.targetGpu := by
  obtain ⟨-, h⟩ := check_bind_eq_ok.mp h
  obtain ⟨expected, hexpected, -⟩ := bind_eq_ok.mp h
  obtain ⟨hplan, hartifact, ⟨hsha, hgpu⟩, -⟩ := prepared_eq_ok.mp hexpected
  exact ⟨hplan, hartifact, hsha, hgpu⟩

/-- A coherent transaction holds what a preparation from its own parts gives. -/
theorem fromPreparation_of_coherent (h : Coherent digests transaction)
    (hartifact : transaction.artifact.validateFor transaction.plan.targetGpu = .ok ()) :
    FromPreparation digests transaction := by
  obtain ⟨input, hgenerated⟩ := h.generated
  obtain ⟨hinput, hplan⟩ := generate_eq_ok.mp hgenerated
  obtain ⟨hgpu, hpackages, ⟨hvalid, hnodup⟩, -⟩ := input_validate_eq_ok.mp hinput
  have hpackagesOf : recordedPackages transaction.plan =
      some (sortPackages input.installedPackages) := by rw [← hplan]; rfl
  have hartifactOf : input.artifact = transaction.artifact := by
    have hproposed := h.artifact
    rw [← hplan] at hproposed
    exact Option.some.inj hproposed
  have hgpuOf : input.targetGpu = transaction.plan.targetGpu := by rw [← hplan]; rfl
  -- the digest speaks of an input without extensions
  have hsame : planOf digests.planInput
      ⟨input.targetGpu, input.installedPackages, input.artifact, ∅⟩ = transaction.plan := by
    obtain ⟨packages, artifact, hrecorded, hproposed, hdigest⟩ := h.digest
    rw [hpackagesOf] at hrecorded
    obtain rfl := Option.some.inj hrecorded
    rw [h.artifact] at hproposed
    obtain rfl := Option.some.inj hproposed
    rw [← hgpuOf, ← hartifactOf] at hdigest
    have hsha : (planOf digests.planInput input).inputSha256 =
        transaction.plan.inputSha256 := by rw [hplan]
    rw [hdigest] at hsha
    rw [← hplan]
    unfold planOf at hsha ⊢
    rw [DryRunDriverPlan.mk.injEq]
    exact ⟨rfl, rfl, rfl, hsha.symm, rfl, rfl⟩
  have hbare : DriverPlanInput.validate
      ⟨input.targetGpu, input.installedPackages, input.artifact, ∅⟩ = .ok () := by
    rw [input_validate_eq_ok]
    rw [← hgpuOf, ← hartifactOf] at hartifact
    exact ⟨hgpu, hpackages, ⟨hvalid, hnodup⟩, hartifact⟩
  have hidentity : ArtifactIdentity.fromDescriptor input.artifact =
      .ok transaction.authorization.artifact := by
    rw [hartifactOf]
    exact h.identity
  refine ⟨input.targetGpu, input.installedPackages, input.artifact, "", "", "", _,
    prepareNvidiaDriver_eq_ok.mpr ⟨_, hbare, hidentity, rfl⟩, hsame.symm, hartifactOf.symm,
    rfl, ?_⟩
  obtain ⟨packages, hrecorded, hfingerprint⟩ := h.packageSet
  rw [hpackagesOf] at hrecorded
  obtain rfl := Option.some.inj hrecorded
  rw [← hgpuOf] at hfingerprint
  exact (fingerprint_eq_ok.mp hfingerprint).2.symm

/-- What a preparation gives is coherent. -/
theorem coherent_of_fromPreparation (h : FromPreparation digests transaction) :
    Coherent digests transaction := by
  obtain ⟨gpu, packages, artifact, id, authorizedAt, expiresAt, prepared, hprepared, hplan,
    hartifact, hidentity, hfingerprint⟩ := h
  obtain ⟨identity, hinput, hfrom, rfl⟩ := prepareNvidiaDriver_eq_ok.mp hprepared
  have hcanonical := canonical_of_generated hinput
  exact {
    generated := ⟨_, generate_eq_ok.mpr ⟨hinput, hplan.symm⟩⟩
    digest := by
      rw [hplan]
      exact ⟨sortPackages packages, artifact, rfl, rfl, rfl⟩
    gpu := by rw [hplan]; rfl
    names := by rw [hplan]; rfl
    artifact := by rw [hplan, hartifact]; rfl
    identity := by rw [hartifact, hidentity]; exact hfrom
    packageSet := by
      rw [hplan, hfingerprint]
      exact ⟨sortPackages packages, rfl, fingerprint_eq_ok.mpr ⟨hcanonical, rfl⟩⟩ }

/-! ## Exchanges -/

/-- Two plans with the same header, the same steps and the same names at P1:19; their
entries may say anything else. -/
structure SameOutline (plan other : DryRunDriverPlan) : Prop where
  schemaVersion : other.schemaVersion = plan.schemaVersion
  readOnly : other.readOnly = plan.readOnly
  targetGpu : other.targetGpu = plan.targetGpu
  inputSha256 : other.inputSha256 = plan.inputSha256
  steps : other.entries.map DryRunDriverPlanEntry.step =
    plan.entries.map DryRunDriverPlanEntry.step
  names : plannedNames other = plannedNames plan

section

variable {plan other : DryRunDriverPlan} {now : String} {freshness : CaptureFreshnessPolicy}

theorem SameOutline.validate (h : SameOutline plan other) : other.validate = plan.validate := by
  unfold DryRunDriverPlan.validate
  rw [h.schemaVersion, h.readOnly, h.targetGpu, h.steps]

/-- A capture sees the outline of the plan. -/
theorem SameOutline.capture (h : SameOutline plan other) (capture : DriverExecutionCapture) :
    capture.validateForPlanAt digests other freshness now =
      capture.validateForPlanAt digests plan freshness now := by
  unfold DriverExecutionCapture.validateForPlanAt
  rw [h.validate, h.inputSha256, h.targetGpu, h.names]

theorem SameOutline.validateCapture (h : SameOutline plan other)
    (capture : Option DriverExecutionCapture) :
    validateCapture digests other now freshness capture =
      validateCapture digests plan now freshness capture := by
  cases capture with
  | none => rfl
  | some capture => exact congrArg asText (h.capture capture)

theorem SameOutline.validateRemoval (h : SameOutline plan other)
    (capture : Option DriverExecutionCapture) (removal : Option RemovalExecutionEvidence) :
    validateRemoval digests other now freshness capture removal =
      validateRemoval digests plan now freshness capture removal := by
  cases removal with
  | none => rfl
  | some removal =>
      simp only [Windows.validateRemoval, RemovalExecutionEvidence.validateForPlanAt, h.capture]

theorem SameOutline.validateInstallation {transaction : DriverTransaction}
    (h : SameOutline transaction.plan other) (installation : Option InstallationEvidence) :
    validateInstallation digests { transaction with plan := other } now freshness
        installation =
      validateInstallation digests transaction now freshness installation := by
  cases installation with
  | none => rfl
  | some installation =>
      simp only [Windows.validateInstallation, InstallationEvidence.validateForPlanAt,
        h.capture]

theorem SameOutline.prepared (h : SameOutline plan other)
    {artifact : SignedArtifactDescriptor}
    {authorization : ArtifactAcquisitionAuthorization} {p : DriverTransaction}
    (hprepared : DriverTransaction.prepared plan artifact authorization = .ok p) :
    DriverTransaction.prepared other artifact authorization = .ok { p with plan := other } := by
  obtain ⟨hplan, hartifact, ⟨hsha, hgpu⟩, rfl⟩ := prepared_eq_ok.mp hprepared
  rw [prepared_eq_ok, h.validate, h.targetGpu, h.inputSha256]
  exact ⟨hplan, hartifact, ⟨hsha, hgpu⟩, rfl⟩

/-- **The validation of a transaction**, check by check. -/
theorem validate_eq_ok {transaction : DriverTransaction} :
    transaction.validate digests now freshness = .ok () ↔
      transaction.schemaVersion = DRIVER_TRANSACTION_SCHEMA ∧
      (∃ prepared, DriverTransaction.prepared transaction.plan transaction.artifact
        transaction.authorization = .ok prepared) ∧
      validateCapture digests transaction.plan now freshness transaction.capture = .ok () ∧
      validateRemoval digests transaction.plan now freshness transaction.capture
        transaction.removal = .ok () ∧
      validateInstallation digests transaction now freshness transaction.installation =
        .ok () := by
  rw [DriverTransaction.validate, check_bind_eq_ok, reject_eq_ok, decide_eq_false_iff_not,
    not_not]
  apply and_congr_right
  intro _
  constructor
  · intro h
    obtain ⟨prepared, hprepared, h⟩ := bind_eq_ok.mp h
    obtain ⟨-, h⟩ := check_bind_eq_ok.mp h
    obtain ⟨hcapture, h⟩ := check_bind_eq_ok.mp h
    obtain ⟨hremoval, hinstallation⟩ := check_bind_eq_ok.mp h
    exact ⟨⟨prepared, hprepared⟩, hcapture, hremoval, hinstallation⟩
  · intro ⟨⟨prepared, hprepared⟩, hcapture, hremoval, hinstallation⟩
    refine bind_eq_ok.mpr ⟨prepared, hprepared, check_bind_eq_ok.mpr ⟨?_, ?_⟩⟩
    · -- the comparison is with the copy that was just made
      obtain ⟨-, -, -, rfl⟩ := prepared_eq_ok.mp hprepared
      simp
    · exact check_bind_eq_ok.mpr ⟨hcapture, check_bind_eq_ok.mpr ⟨hremoval, hinstallation⟩⟩

/-- The contents of the entries can be exchanged. -/
theorem validate_exchanged_plan {transaction : DriverTransaction}
    (h : transaction.validate digests now freshness = .ok ())
    (hplan : SameOutline transaction.plan other) :
    DriverTransaction.validate digests { transaction with plan := other } now freshness =
      .ok () := by
  obtain ⟨hschema, ⟨prepared, hprepared⟩, hcapture, hremoval, hinstallation⟩ :=
    validate_eq_ok.mp h
  refine validate_eq_ok.mpr ⟨hschema, ⟨_, hplan.prepared hprepared⟩, ?_, ?_, ?_⟩
  · rwa [hplan.validateCapture]
  · rwa [hplan.validateRemoval]
  · rwa [hplan.validateInstallation]

/-- Without an installation, the artifact can be exchanged. -/
theorem validate_exchanged_artifact {transaction : DriverTransaction}
    (h : transaction.validate digests now freshness = .ok ())
    (hnone : transaction.installation = none) {artifact : SignedArtifactDescriptor}
    (hartifact : artifact.validateFor transaction.plan.targetGpu = .ok ()) :
    DriverTransaction.validate digests { transaction with artifact := artifact } now freshness =
      .ok () := by
  obtain ⟨hschema, ⟨prepared, hprepared⟩, hcapture, hremoval, -⟩ := validate_eq_ok.mp h
  obtain ⟨hplan, -, hbound, -⟩ := prepared_eq_ok.mp hprepared
  refine validate_eq_ok.mpr ⟨hschema, ⟨_, prepared_eq_ok.mpr ⟨hplan, hartifact, hbound, rfl⟩⟩,
    hcapture, hremoval, ?_⟩
  rw [hnone]
  rfl

/-- Without an installation, the authorization can be exchanged for any other of the
plan and the GPU. -/
theorem validate_exchanged_authorization {transaction : DriverTransaction}
    (h : transaction.validate digests now freshness = .ok ())
    (hnone : transaction.installation = none)
    {authorization : ArtifactAcquisitionAuthorization}
    (hsha : authorization.planSha256 = transaction.plan.inputSha256)
    (hgpu : authorization.targetGpu = transaction.plan.targetGpu) :
    DriverTransaction.validate digests { transaction with authorization := authorization } now
      freshness = .ok () := by
  obtain ⟨hschema, ⟨prepared, hprepared⟩, hcapture, hremoval, -⟩ := validate_eq_ok.mp h
  obtain ⟨hplan, hartifact, -, -⟩ := prepared_eq_ok.mp hprepared
  refine validate_eq_ok.mpr ⟨hschema,
    ⟨_, prepared_eq_ok.mpr ⟨hplan, hartifact, ⟨hsha, hgpu⟩, rfl⟩⟩, hcapture, hremoval, ?_⟩
  rw [hnone]
  rfl

end

def testInput : DriverPlanInput where
  targetGpu := testGpu
  installedPackages := [testPackage]
  artifact := testArtifact

/-- Another artifact for the same GPU. -/
def otherArtifact : SignedArtifactDescriptor :=
  { testArtifact with locator := { artifactId := "other", artifactFileName := "other.exe" } }

/-- What a preparation gives, but with the other artifact in place of the one it
acquired. -/
def exchangedTransaction (digests : DriverDigests) : DriverTransaction where
  schemaVersion := DRIVER_TRANSACTION_SCHEMA
  plan := planOf digests.planInput testInput
  artifact := otherArtifact
  authorization :=
    { testAuthorization with
      planSha256 := (planOf digests.planInput testInput).inputSha256
      packageSetSha256 := digests.packageSet ⟨testGpu, [testPackage]⟩ }

/-- Whatever the digests are, the record with the other artifact is valid at any time,
although neither its plan nor its authorization is for that artifact. -/
theorem exchangedTransaction_valid :
    ∀ (digests : DriverDigests) (now : String) (freshness : CaptureFreshnessPolicy),
      (exchangedTransaction digests).validate digests now freshness = .ok () ∧
      ¬ Coherent digests (exchangedTransaction digests) := by
  intro digests now freshness
  constructor
  · have hinput : testInput.validate = .ok () := by decide +kernel
    have hartifact : otherArtifact.validateFor testGpu = .ok () := by decide +kernel
    rw [validate_eq_ok]
    exact ⟨rfl, ⟨_, prepared_eq_ok.mpr
      ⟨validate_planOf hinput, hartifact, ⟨rfl, rfl⟩, rfl⟩⟩, rfl, rfl, rfl⟩
  · intro h
    have hsame : testArtifact = otherArtifact := Option.some.inj h.artifact
    have hlocator := congrArg (fun artifact => artifact.locator.artifactId) hsame
    exact absurd hlocator (by decide)

end

end FrametimeCfg.Verified.DriverCoherence
