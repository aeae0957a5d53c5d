import FrametimeCfg.Windows.DriverTransaction

/-!
# Driver evidence is never durable

The evidence records its times as `YYYY-MM-DDTHH:MM:SSZ`, and its validation
parses the current time in that form.  The file is validated at the local time of
the suite, which is written with a space and without a `Z`: no such text is a
time of the evidence.  So a transaction that holds a capture is refused when it is
written, when it is read back and when it is loaded, and the removal of P2:2 never
returns, whatever the adapters did to the packages before.
-/

namespace FrametimeCfg.Verified.DriverDurability

open FrametimeCfg.Domain
open FrametimeCfg.Lib
open FrametimeCfg.Lib.Effect
open FrametimeCfg.Windows

/-! ## The local time is no time of the evidence -/

/-- The characters of a local time. -/
def Plain (c : Char) : Prop := c.isDigit = true ∨ c = '-' ∨ c = ' ' ∨ c = ':'

theorem plain_padded (width n : Nat) : ∀ c ∈ padded width n, Plain c := by
  intro c hc
  unfold padded at hc
  rcases List.mem_append.mp hc with hzero | hdigit
  · rw [List.eq_of_mem_replicate hzero]
    exact .inl rfl
  · exact .inl (Nat.isDigit_of_mem_toDigits (by decide) (by decide) hdigit)

theorem plain_timestamp (t : LocalTime) : ∀ c ∈ (timestamp t).toList, Plain c := by
  intro c hc
  unfold timestamp at hc
  rw [String.toList_ofList] at hc
  have hdash : Plain '-' := .inr (.inl rfl)
  have hspace : Plain ' ' := .inr (.inr (.inl rfl))
  have hcolon : Plain ':' := .inr (.inr (.inr rfl))
  have hsign : ∀ c ∈ (if t.year < 0 then ['-'] else []), Plain c := by
    intro c hc
    split at hc
    · rw [List.mem_singleton.mp hc]
      exact hdash
    · cases hc
  simp only [List.append_assoc, List.cons_append, List.mem_append, List.mem_cons] at hc
  rcases hc with h | h | rfl | h | rfl | h | rfl | h | rfl | h | rfl | h
  · exact hsign c h
  · exact plain_padded _ _ c h
  · exact hdash
  · exact plain_padded _ _ c h
  · exact hdash
  · exact plain_padded _ _ c h
  · exact hspace
  · exact plain_padded _ _ c h
  · exact hcolon
  · exact plain_padded _ _ c h
  · exact hcolon
  · exact plain_padded _ _ c h

theorem Plain.bound {c : Char} (h : Plain c) : c.toNat < 128 ∧ c ≠ 'T' := by
  rcases h with hdigit | rfl | rfl | rfl
  · have hrange : 48 ≤ c.toNat ∧ c.toNat ≤ 57 := by
      simpa [Char.isDigit, UInt32.le_iff_toNat_le] using hdigit
    refine ⟨by omega, ?_⟩
    rintro rfl
    exact absurd hrange.2 (by decide)
  · decide
  · decide
  · decide

/-- No byte of a local time is a `T`. -/
theorem t_not_mem_timestamp (t : LocalTime) : 84 ∉ (timestamp t).toUTF8.data.toList := by
  have hplain := plain_timestamp t
  intro hmem
  rw [← String.ofList_toList (s := timestamp t)] at hmem
  rw [Text.toUTF8_ascii fun c hc => (hplain c hc).bound.1] at hmem
  obtain ⟨c, hc, hbyte⟩ := List.mem_map.mp hmem
  obtain ⟨hlt, hne⟩ := (hplain c hc).bound
  have hcode : c.val.toNat % 256 = 84 := congrArg UInt8.toNat hbyte
  have hval : c.toNat = 84 := by
    have hsame : c.val.toNat = c.toNat := rfl
    omega
  have hchar : c = 'T' := by
    rw [← Char.ofNat_toNat c, hval]
  exact hne hchar

/-- The parser of the evidence refuses a local time. -/
theorem evidenceTime_timestamp (t : LocalTime) (field : String) :
    evidenceTime (timestamp t) field = .error (.invalid field) := by
  have hshape : timeShape (timestamp t).toUTF8.data.toList = false := by
    rw [Bool.eq_false_iff]
    intro hshape
    unfold timeShape at hshape
    rw [Bool.and_eq_true, List.all_eq_true] at hshape
    have hplace := hshape.2 (10, 84) (by decide)
    have hbyte : (timestamp t).toUTF8.data.toList[10]? = some 84 := by simpa using hplace
    exact t_not_mem_timestamp t (List.mem_of_getElem? hbyte)
  unfold evidenceTime parseTime
  rw [hshape]
  rfl

/-! ## Validation at a local time -/

section

variable {digests : DriverDigests} {plan : DryRunDriverPlan} {t : LocalTime}
  {freshness : CaptureFreshnessPolicy}

theorem asText_ne_ok {r : Except ValidationError Unit} (h : r ≠ .ok ()) :
    asText r ≠ .ok () := by
  cases r with
  | ok _ => exact absurd rfl h
  | error e =>
      intro hok
      cases hok

/-- A sequence does not return where its last part does not. -/
theorem bind_ne_ok {ε α : Type} {m : Except ε α} {k : α → Except ε Unit}
    (h : ∀ a, k a ≠ .ok ()) : (m >>= k) ≠ .ok () := by
  intro hok
  obtain ⟨a, -, hk⟩ := Checks.bind_eq_ok.mp hok
  exact h a hk

/-- A sequence does not return where its first part does not. -/
theorem bind_ne_ok_left {ε : Type} {m : Except ε Unit} {k : Unit → Except ε Unit}
    (h : m ≠ .ok ()) : (m >>= k) ≠ .ok () := by
  intro hok
  obtain ⟨_, hm, -⟩ := Checks.bind_eq_ok.mp hok
  exact h hm

theorem validateCaptureAt_timestamp (captured : String) :
    freshness.validateCaptureAt captured (timestamp t) ≠ .ok () := by
  refine bind_ne_ok fun _ => bind_ne_ok fun _ => ?_
  rw [evidenceTime_timestamp]
  intro h
  cases h

/-- A capture is fresh at no local time. -/
theorem capture_timestamp (capture : DriverExecutionCapture) :
    capture.validateForPlanAt digests plan freshness (timestamp t) ≠ .ok () := by
  -- the freshness is the last of the checks
  iterate 14 refine bind_ne_ok fun _ => ?_
  exact validateCaptureAt_timestamp capture.capturedAtUtc

/-- **No evidence is valid at a local time**: neither a capture nor a removal. -/
theorem validate_timestamp {transaction : DriverTransaction}
    (h : transaction.capture.isSome = true ∨ transaction.removal.isSome = true) :
    transaction.validate digests (timestamp t) freshness ≠ .ok () := by
  refine bind_ne_ok fun _ => bind_ne_ok fun _ => bind_ne_ok fun _ => ?_
  rcases h with hcapture | hremoval
  · obtain ⟨capture, hsome⟩ := Option.isSome_iff_exists.mp hcapture
    refine bind_ne_ok_left ?_
    rw [hsome]
    exact asText_ne_ok (capture_timestamp capture)
  · obtain ⟨removal, hsome⟩ := Option.isSome_iff_exists.mp hremoval
    refine bind_ne_ok fun _ => bind_ne_ok_left ?_
    rw [hsome]
    exact bind_ne_ok_left (asText_ne_ok (bind_ne_ok_left (capture_timestamp removal.capture)))

end

/-! ## The file and the removal -/

section

variable {M : Type} {digests : DriverDigests} {transaction : DriverTransaction}
  {s t : DriverHost M}

/-- The two records of the file that no local time accepts. -/
def HoldsEvidence (transaction : DriverTransaction) : Prop :=
  transaction.capture.isSome = true ∨ transaction.removal.isSome = true

theorem storeCall_file {operation : String} {r : Except String Unit}
    (h : storeCall operation s = (r, t)) : t.file = s.file := by
  unfold storeCall at h
  split at h <;> obtain ⟨-, rfl⟩ := Prod.mk.inj h <;> rfl

theorem validateNow_file {r : Except String Unit}
    (hrun : validateNow digests transaction s = (r, t)) : t.file = s.file := by
  obtain ⟨-, rfl⟩ := Prod.mk.inj (show (transaction.validate digests
    (timestamp (s.clock s.readings)) DURABLE_FRESHNESS, { s with readings := s.readings + 1 }) =
      (r, t) from hrun)
  rfl

theorem validateNow_evidence (h : HoldsEvidence transaction) {r : Except String Unit}
    (hrun : validateNow digests transaction s = (r, t)) :
    (∃ e, r = .error e) ∧ t.file = s.file := by
  obtain ⟨hr, rfl⟩ := Prod.mk.inj (show (transaction.validate digests
    (timestamp (s.clock s.readings)) DURABLE_FRESHNESS, { s with readings := s.readings + 1 }) =
      (r, t) from hrun)
  refine ⟨?_, rfl⟩
  cases r with
  | error e => exact ⟨e, rfl⟩
  | ok _ => exact absurd hr (validate_timestamp h)

/-- A record with evidence is not written. -/
theorem persist_evidence (h : HoldsEvidence transaction)
    {r : Except String DriverTransaction}
    (hrun : persistDriverTransaction digests transaction s = (r, t)) :
    (∃ e, r = .error e) ∧ t.file = s.file := by
  rcases bind_cases hrun with ⟨e, hacquire, rfl⟩ | ⟨_, s₁, hacquire, hrun⟩
  · exact ⟨⟨e, rfl⟩, storeCall_file hacquire⟩
  have hfile₁ := storeCall_file hacquire
  rcases bind_cases hrun with ⟨e, hlock, rfl⟩ | ⟨_, s₂, hlock, hrun⟩
  · exact ⟨⟨e, rfl⟩, (storeCall_file hlock).trans hfile₁⟩
  have hfile₂ := (storeCall_file hlock).trans hfile₁
  rcases bind_cases hrun with ⟨e, hvalid, rfl⟩ | ⟨_, s₃, hvalid, -⟩
  · exact ⟨⟨e, rfl⟩, (validateNow_evidence h hvalid).2.trans hfile₂⟩
  · obtain ⟨⟨e, herror⟩, -⟩ := validateNow_evidence h hvalid
    cases herror

/-- Loading keeps the file, and gives no record with evidence. -/
theorem load_cases {r : Except String (Option DriverTransaction)}
    (hrun : loadDriverTransactionAt digests s = (r, t)) :
    t.file = s.file ∧ ∀ transaction, r = .ok (some transaction) →
      s.file = some transaction ∧ ¬ HoldsEvidence transaction := by
  rcases bind_cases hrun with ⟨e, hacquire, rfl⟩ | ⟨_, s₁, hacquire, hrun⟩
  · exact ⟨storeCall_file hacquire, fun _ h => by cases h⟩
  have hfile₁ := storeCall_file hacquire
  have hrun' : (if s₁.file.isNone then pure none else loadExisting digests :
      Prog (DriverHost M) String (Option DriverTransaction)) s₁ = (r, t) := hrun
  cases hfile : s₁.file with
  | none =>
      rw [hfile] at hrun'
      obtain ⟨rfl, rfl⟩ := Prod.mk.inj hrun'
      exact ⟨hfile₁, fun _ h => by cases h⟩
  | some transaction =>
      rw [hfile] at hrun'
      rcases bind_cases hrun' with ⟨e, hread, rfl⟩ | ⟨_, s₂, hread, hrun'⟩
      · exact ⟨(storeCall_file hread).trans hfile₁, fun _ h => by cases h⟩
      have hfile₂ := storeCall_file hread
      obtain ⟨transaction', s₃, hget, hrun'⟩ : ∃ transaction' s₃,
          readFile s₂ = (.ok transaction', s₃) ∧ _ := by
        rcases bind_cases hrun' with ⟨e, hget, -⟩ | hrest
        · rw [readFile, hfile₂, hfile] at hget
          cases (Prod.mk.inj hget).1
        · exact hrest
      obtain ⟨hok, rfl⟩ := Prod.mk.inj hget
      rw [hfile₂, hfile] at hok
      obtain rfl := Except.ok.inj hok
      rcases bind_cases hrun' with ⟨e, hvalid, rfl⟩ | ⟨_, s₄, hvalid, hrun'⟩
      · refine ⟨?_, fun _ h => by cases h⟩
        exact (validateNow_file hvalid).trans (hfile₂.trans hfile₁)
      · obtain ⟨rfl, rfl⟩ := Prod.mk.inj hrun'
        refine ⟨(validateNow_file hvalid).trans (hfile₂.trans hfile₁), fun other hother => ?_⟩
        obtain rfl := Option.some.inj (Except.ok.inj hother)
        refine ⟨hfile₁ ▸ hfile, fun hholds => ?_⟩
        obtain ⟨⟨e, herror⟩, -⟩ := validateNow_evidence hholds hvalid
        cases herror

theorem onMachine_file {α : Type} {m : Prog M AdapterFailure α} {r : Except String α}
    (hrun : onMachine m s = (r, t)) : t.file = s.file := by
  unfold onMachine at hrun
  split at hrun <;> obtain ⟨-, rfl⟩ := Prod.mk.inj hrun <;> rfl

theorem removeAndRecord_fails {adapters : DriverAdapters M}
    {r : Except String DriverTransaction}
    (hrun : removeAndRecord digests adapters transaction s = (r, t)) :
    (∃ e, r = .error e) ∧ t.file = s.file := by
  rcases bind_cases hrun with ⟨e, hcapture, rfl⟩ | ⟨capture, s₁, hcapture, hrun⟩
  · exact ⟨⟨e, rfl⟩, onMachine_file hcapture⟩
  have hfile₁ := onMachine_file hcapture
  rcases bind_cases hrun with ⟨e, hnow, rfl⟩ | ⟨now, s₂, hnow, hrun⟩
  · exact ⟨⟨e, rfl⟩, (onMachine_file hnow).trans hfile₁⟩
  have hfile₂ := (onMachine_file hnow).trans hfile₁
  rcases bind_cases hrun with ⟨e, hauthorized, rfl⟩ | ⟨_, s₃, hauthorized, hrun⟩
  · obtain ⟨-, rfl⟩ := Prod.mk.inj hauthorized
    exact ⟨⟨e, rfl⟩, hfile₂⟩
  obtain ⟨-, rfl⟩ := Prod.mk.inj hauthorized
  rcases bind_cases hrun with ⟨e, hremoval, rfl⟩ | ⟨removal, s₄, hremoval, hrun⟩
  · exact ⟨⟨e, rfl⟩, (onMachine_file hremoval).trans hfile₂⟩
  have hfile₄ := (onMachine_file hremoval).trans hfile₂
  obtain ⟨herror, hfile⟩ := persist_evidence (.inl rfl) hrun
  exact ⟨herror, hfile.trans hfile₄⟩

/-- **The removal of P2:2 never returns**, and it never changes the file. -/
theorem removePrepared_fails {adapters : DriverAdapters M}
    {r : Except String DriverTransaction}
    (hrun : removePreparedNvidiaDriver digests adapters s = (r, t)) :
    (∃ e, r = .error e) ∧ t.file = s.file := by
  rcases bind_cases hrun with ⟨e, hacquire, rfl⟩ | ⟨_, s₁, hacquire, hrun⟩
  · exact ⟨⟨e, rfl⟩, storeCall_file hacquire⟩
  have hfile₁ := storeCall_file hacquire
  rcases bind_cases hrun with ⟨e, hload, rfl⟩ | ⟨loaded, s₂, hload, hrun⟩
  · exact ⟨⟨e, rfl⟩, (load_cases hload).1.trans hfile₁⟩
  obtain ⟨hfile, hloaded⟩ := load_cases hload
  have hfile₂ := hfile.trans hfile₁
  cases loaded with
  | none =>
      obtain ⟨rfl, rfl⟩ := Prod.mk.inj hrun
      exact ⟨⟨_, rfl⟩, hfile₂⟩
  | some transaction =>
      obtain ⟨-, hnone⟩ := hloaded transaction rfl
      have hremoval : transaction.removal.isSome = false := by
        rw [Bool.eq_false_iff]
        exact fun hsome => hnone (.inr hsome)
      have hrun' : (if transaction.removal.isSome then pure transaction
        else removeAndRecord digests adapters transaction) s₂ = (r, t) := hrun
      rw [hremoval] at hrun'
      obtain ⟨herror, hkept⟩ := removeAndRecord_fails hrun'
      exact ⟨herror, hkept.trans hfile₂⟩

/-- **Driver evidence is never durable.**  A transaction that holds a capture, with
or without a removal and an installation, is valid at no local time; writing it
fails and leaves the file alone; it is not loaded from a file that has it; and the
operation that would record a removal fails for every file, every adapter and
every clock. -/
theorem driverEvidence (digests : DriverDigests) (schemaVersion : UInt32)
    (plan : DryRunDriverPlan) (artifact : SignedArtifactDescriptor)
    (authorization : ArtifactAcquisitionAuthorization) (capture : DriverExecutionCapture)
    (removal : Option RemovalExecutionEvidence)
    (installation : Option InstallationEvidence) :
    let transaction : DriverTransaction :=
      { schemaVersion, plan, artifact, authorization, capture := some capture
        removal, installation }
    (∀ t : LocalTime, ∃ e,
      transaction.validate digests (timestamp t) DURABLE_FRESHNESS = .error e) ∧
    (∀ s : DriverHost M, ∃ e t,
      persistDriverTransaction digests transaction s = (.error e, t) ∧ t.file = s.file) ∧
    (∀ s : DriverHost M, s.file = some transaction → ∀ loaded t,
      loadDriverTransactionAt digests s ≠ (.ok (some loaded), t)) ∧
    ∀ (s : DriverHost M) (adapters : DriverAdapters M), ∃ e t,
      removePreparedNvidiaDriver digests adapters s = (.error e, t) ∧ t.file = s.file := by
  intro transaction
  have hholds : HoldsEvidence transaction := .inl rfl
  refine ⟨fun t => ?_, fun s => ?_, fun s hfile loaded t hload => ?_, fun s adapters => ?_⟩
  · cases h : transaction.validate digests (timestamp t) DURABLE_FRESHNESS with
    | error e => exact ⟨e, rfl⟩
    | ok _ => exact absurd h (validate_timestamp hholds)
  · rcases hrun : persistDriverTransaction digests transaction s with ⟨r, t⟩
    obtain ⟨⟨e, rfl⟩, hfile⟩ := persist_evidence hholds hrun
    exact ⟨e, t, rfl, hfile⟩
  · obtain ⟨hsame, hnone⟩ := (load_cases hload).2 loaded rfl
    rw [hfile] at hsame
    obtain rfl := Option.some.inj hsame
    exact hnone hholds
  · rcases hrun : removePreparedNvidiaDriver digests adapters s with ⟨r, t⟩
    obtain ⟨⟨e, rfl⟩, hfile⟩ := removePrepared_fails hrun
    exact ⟨e, t, rfl, hfile⟩

end

/-! ## Accepted evidence -/

/-- A digest of sixty-four equal digits. -/
def sameDigest : Sha256Digest where
  value := "abababababababababababababababababababababababababababababababab"
  valid := by decide

/-- Digests that do not tell records apart. -/
def sameDigests : DriverDigests where
  planInput _ := sameDigest
  packageSet _ := sameDigest

def testGpu : ExactGpuIdentity where
  vendor := .nvidia
  pciVendorId := 0x10de
  pciDeviceId := 0x2684
  subsystemVendorId := 0x1043
  subsystemDeviceId := 0x88e2
  revisionId := 0xa1

def testPackage : PublishedDriverPackage where
  targetGpu := testGpu
  publishedName := { value := "oem12.inf", valid := by decide }
  originalInfName := "nv_dispi.inf"
  providerName := "NVIDIA"
  driverVersion := "32.0.15.6636"

def testArtifact : SignedArtifactDescriptor where
  locator := { artifactId := "geforce-566.36", artifactFileName := "566.36.exe" }
  targetGpu := testGpu
  payloadSha256 := sameDigest
  authenticode :=
    { status := .valid
      signerSubject := "NVIDIA Corporation"
      signerThumbprintSha256 := sameDigest
      observedAtUtc := "2026-03-01T11:00:00Z" }

/-- The plan for that package and that artifact. -/
def testPlan : DryRunDriverPlan where
  schemaVersion := 1
  readOnly := true
  targetGpu := testGpu
  inputSha256 := sameDigest
  entries := [
    { step := .p1_18, action := .inspectExactGpu testGpu },
    { step := .p1_19, action := .recordExactPackages [testPackage] },
    { step := .p2_2, action := .proposePackageCleanup [testPackage.publishedName] },
    { step := .p3_1, action := .proposeSignedArtifactInstall testArtifact }]

def testAuthorization : ArtifactAcquisitionAuthorization where
  schemaVersion := 1
  authorizationId := "nvidia-geforce-566.36"
  planSha256 := sameDigest
  targetGpu := testGpu
  packageSetSha256 := sameDigest
  artifact :=
    { artifactId := "geforce-566.36"
      artifactFileName := "566.36.exe"
      payloadSha256 := sameDigest
      signerThumbprintSha256 := sameDigest }
  authorizedAtUtc := "2026-03-01T11:00:00Z"
  expiresAtUtc := "2026-03-02T11:00:00Z"

/-- A machine in Safe Mode that is its installed packages; its clock stands. -/
def testAdapters : DriverAdapters (List PublishedDriverPackage) where
  currentUtc := pure "2026-03-01T12:00:00Z"
  observeSafeMode targetGpu := pure
    { targetGpu := targetGpu
      state := .confirmed
      observedAtUtc := "2026-03-01T12:00:00Z"
      bootSessionId := "boot-7" }
  removePublishedPackage _ publishedName := do
    update (List.filter fun package => package.publishedName ≠ publishedName)
    return {
      publishedName := publishedName
      disposition := .removed
      observedAtUtc := "2026-03-01T12:00:00Z" }
  inspectPublishedPackages _ := gets id

/-- Noon of that day. -/
def testNoon : LocalTime where
  year := 2026
  month := 3
  day := 1
  hour := 12
  minute := 0
  second := 0
  yearRange := by decide
  monthRange := by decide
  dayRange := by decide
  timeRange := by decide

/-- The capture on that machine. -/
def testCapture : DriverExecutionCapture where
  schemaVersion := 1
  planSha256 := sameDigest
  targetGpu := testGpu
  safeMode :=
    { targetGpu := testGpu
      state := .confirmed
      observedAtUtc := "2026-03-01T12:00:00Z"
      bootSessionId := "boot-7" }
  installedPackages := { targetGpu := testGpu, packages := [testPackage] }
  packageSetSha256 := sameDigest
  capturedAtUtc := "2026-03-01T12:00:00Z"

/-- The removal after it. -/
def testRemoval : RemovalExecutionEvidence where
  capture := testCapture
  outcomes := [
    { publishedName := testPackage.publishedName
      disposition := .removed
      observedAtUtc := "2026-03-01T12:00:00Z" }]
  postRemovalPackages := { targetGpu := testGpu, packages := [] }
  observedAtUtc := "2026-03-01T12:00:00Z"

/-- A capture and a removal that the adapters and their checks accepted, the package
being gone, in a record that is refused at the same hour. -/
theorem driverEvidence_lost :
    generateDryRunPlan (fun _ => sameDigest)
      { targetGpu := testGpu, installedPackages := [testPackage], artifact := testArtifact } =
      .ok testPlan ∧
    captureDriverExecution sameDigests testAdapters testPlan REMOVAL_FRESHNESS [testPackage] =
      (.ok testCapture, [testPackage]) ∧
    validateDriverAuthorization ⟨1, testPlan, testArtifact, testAuthorization, none, none, none⟩
      testCapture "2026-03-01T12:00:00Z" = .ok () ∧
    removeCapturedPackages sameDigests testAdapters testPlan testCapture REMOVAL_FRESHNESS
      [testPackage] = (.ok testRemoval, []) ∧
    DriverTransaction.validate sameDigests
      ⟨1, testPlan, testArtifact, testAuthorization, some testCapture, some testRemoval, none⟩
      (timestamp testNoon) DURABLE_FRESHNESS =
      .error (ValidationError.message (.invalid "nowUtc")) := by
  refine ⟨?_, ?_, ?_, ?_, ?_⟩
  · decide +kernel
  · decide +kernel
  · decide +kernel
  · decide +kernel
  · decide +kernel

end FrametimeCfg.Verified.DriverDurability
