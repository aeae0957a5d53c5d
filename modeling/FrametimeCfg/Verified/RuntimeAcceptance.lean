import FrametimeCfg.Windows.RuntimeTrust

/-!
# Acceptance of a runtime, in both layers

The domain and the Windows host validate the selected runtime with rules that are written
down twice, and their notions of a valid hash differ: the domain takes digits of either case
where the host takes lowercase ones.  Both come down to the same condition, because each hash
that is checked has to equal one that was computed.

* `validateSelectedRuntime_eq_ok`, `validateRuntimeContract_eq_ok` — both validators accept
  exactly under `Accepted`.
* `isComplete_retainedRecord` — the record of an accepted runtime is complete.
-/

namespace FrametimeCfg.Verified.RuntimeAcceptance

open FrametimeCfg.Domain
open FrametimeCfg.Lib.Checks
open FrametimeCfg.Lib.OrderedMap
open FrametimeCfg.Lib.Text
open FrametimeCfg.Windows
open FrametimeCfg.Windows.RuntimeTrust (selectedGeneration validateRuntimeContract retainedRecord)

/-- **What an accepted runtime is.**  The selector names the generation and binds the
manifest, and the files of the manifest are the compiled ones with the hashes observed. -/
structure Accepted (sha256 : Sha256) (current : RuntimeCurrent) (manifestHash : String)
    (manifest : RuntimeManifest) (payloadHashes : BTreeMap String) (g : String) : Prop where
  schema : current.schemaVersion = RUNTIME_SCHEMA_VERSION
  rooted : stripGenerations current.relativePath = some g
  exactPath : current.relativePath = generationsPrefix ++ g
  generation : validGenerationId g = true
  selector : current.manifestSha256 = some manifestHash
  manifestSchema : manifest.schemaVersion = RUNTIME_SCHEMA_VERSION
  manifestGeneration : manifest.generation = g
  declared : fileSet manifest.files = expectedFiles
  observed : fileSet payloadHashes = expectedFiles
  contract : manifest.payloadContractHash = portablePayloadContractHash sha256
  executablePath : manifest.executable.path = "frametime.exe"
  executable : manifest.files["frametime.exe"]? = some manifest.executable.sha256
  hashes : ∀ path hash : String, manifest.files[path]? = some hash → payloadHashes[path]? = some hash

/-- The hashes of the host are written with lowercase digits. -/
def LowerHex (hashes : BTreeMap String) : Prop :=
  ∀ path hash : String, hashes[path]? = some hash → isSha256Digest hash = true

theorem isHexDigit_of_lower {c : Char} (h : isLowerHexDigit c = true) :
    isHexDigit c = true := by
  unfold isLowerHexDigit at h
  unfold isHexDigit
  rw [h, Bool.true_or]

/-- A digest is a valid hash in the domain too. -/
theorem validSha256_of_digest {value : String} (h : isSha256Digest value = true) :
    Domain.validSha256 value = true := by
  simp only [isSha256Digest, Bool.and_eq_true, List.all_eq_true] at h
  simp only [Domain.validSha256, Bool.and_eq_true, List.all_eq_true]
  exact ⟨h.1, fun c hc => isHexDigit_of_lower (h.2 c hc)⟩

variable {sha256 : Sha256} {current : RuntimeCurrent} {manifest : RuntimeManifest}
  {payloadHashes : BTreeMap String} {g manifestHash : String}

/-- The loop over the files, for any notion of a valid hash that the hashes of the host meet. -/
theorem files_eq_ok (valid : String → Bool) (message : String → String)
    (hvalid : ∀ path hash : String, payloadHashes[path]? = some hash → valid hash = true)
    (files : BTreeMap String) :
    (files.toList.forM fun (path, hash) =>
        reject (!valid hash || payloadHashes[path]? ≠ some hash) (message path)) = .ok () ↔
      ∀ path hash : String, files[path]? = some hash → payloadHashes[path]? = some hash := by
  rw [forM_eq_ok]
  constructor
  · intro h path hash hfile
    have hentry := h (path, hash) (Std.ExtTreeMap.mem_toList_iff_getElem?_eq_some.mpr hfile)
    have hpassed := reject_eq_ok.mp hentry
    simp only [Bool.or_eq_false_iff, decide_eq_false_iff_not, not_not, ne_eq] at hpassed
    exact hpassed.2
  · rintro h ⟨path, hash⟩ hmem
    have hobserved := h path hash (Std.ExtTreeMap.mem_toList_iff_getElem?_eq_some.mp hmem)
    simp [hobserved, hvalid path hash hobserved]

/-- **The domain** accepts exactly the runtimes that are accepted. -/
theorem validateSelectedRuntime_eq_ok {manifestBytes : List UInt8}
    (hlower : LowerHex payloadHashes) :
    validateSelectedRuntime sha256 current manifestBytes manifest payloadHashes = .ok g ↔
      Accepted sha256 current (sha256 manifestBytes).value manifest payloadHashes g := by
  have hfiles := files_eq_ok Domain.validSha256
    (fun path => "runtime hash mismatch: " ++ path)
    (fun path hash h => validSha256_of_digest (hlower path hash h)) manifest.files
  simp only [validateSelectedRuntime, bind_eq_ok, reject_eq_ok, okOr_eq_ok, exists_const,
    Option.filter_eq_some_iff, Bool.or_eq_false_iff, decide_eq_false_iff_not, not_not, ne_eq,
    decide_eq_true_eq, Bool.not_eq_false']
  constructor
  · rintro ⟨hschema, g', ⟨⟨hrooted, hexact⟩, hgeneration⟩, _, ⟨hselector, _⟩, rfl,
      ⟨hmanifestSchema, hmanifestGeneration⟩, ⟨hdeclared, hobserved⟩,
      ⟨⟨⟨hcontract, hpath⟩, hexecutable⟩, _⟩, _, hloop, hg⟩
    obtain rfl := Except.ok.inj hg
    exact { schema := hschema, rooted := hrooted, exactPath := hexact,
            generation := hgeneration, selector := hselector,
            manifestSchema := hmanifestSchema, manifestGeneration := hmanifestGeneration,
            declared := hdeclared, observed := hobserved, contract := hcontract,
            executablePath := hpath, executable := hexecutable, hashes := hfiles.mp hloop }
  · intro h
    have hexecutable := hlower _ _ (h.hashes _ _ h.executable)
    refine ⟨h.schema, g, ⟨⟨h.rooted, h.exactPath⟩, h.generation⟩, _,
      ⟨h.selector, validSha256_of_digest (sha256 manifestBytes).valid⟩, rfl,
      ⟨h.manifestSchema, h.manifestGeneration⟩, ⟨h.declared, h.observed⟩,
      ⟨⟨⟨h.contract, h.executablePath⟩, h.executable⟩, validSha256_of_digest hexecutable⟩,
      (), hfiles.mpr h.hashes, rfl⟩

/-- **The host** accepts exactly the runtimes that are accepted. -/
theorem validateRuntimeContract_eq_ok (hlower : LowerHex payloadHashes)
    (hmanifest : isSha256Digest manifestHash = true) :
    validateRuntimeContract sha256 current manifestHash manifest payloadHashes = .ok g ↔
      Accepted sha256 current manifestHash manifest payloadHashes g := by
  have hfiles := files_eq_ok RuntimeTrust.validSha256
    (fun path => "runtime payload hash mismatch: " ++ path) hlower manifest.files
  simp only [validateRuntimeContract, selectedGeneration, bind_eq_ok, reject_eq_ok,
    okOr_eq_ok, exists_const, Bool.or_eq_false_iff, decide_eq_false_iff_not, not_not, ne_eq,
    Bool.not_eq_false']
  constructor
  · rintro ⟨g', ⟨hschema, _, hrooted, ⟨hexact, hgeneration⟩, _, hselected⟩,
      ⟨⟨hselector, hmanifestSchema⟩, hmanifestGeneration⟩,
      ⟨⟨⟨⟨⟨hdeclared, hobserved⟩, hcontract⟩, hpath⟩, hexecutable⟩, _⟩, _, hloop, hg⟩
    obtain rfl := Except.ok.inj hselected
    obtain rfl := Except.ok.inj hg
    exact { schema := hschema, rooted := hrooted, exactPath := hexact,
            generation := hgeneration, selector := hselector,
            manifestSchema := hmanifestSchema, manifestGeneration := hmanifestGeneration,
            declared := hdeclared, observed := hobserved, contract := hcontract,
            executablePath := hpath, executable := hexecutable, hashes := hfiles.mp hloop }
  · intro h
    have hselector : current.manifestSha256.any RuntimeTrust.validSha256 = true := by
      rw [h.selector]
      exact hmanifest
    have hexecutable := hlower _ _ (h.hashes _ _ h.executable)
    exact ⟨g, ⟨h.schema, g, h.rooted, ⟨h.exactPath, h.generation⟩, hselector, rfl⟩,
      ⟨⟨h.selector, h.manifestSchema⟩, h.manifestGeneration⟩,
      ⟨⟨⟨⟨⟨h.declared, h.observed⟩, h.contract⟩, h.executablePath⟩, h.executable⟩, hexecutable⟩,
      (), hfiles.mpr h.hashes, rfl⟩

/-- **The record of an accepted runtime is complete.** -/
theorem isComplete_retainedRecord (hlower : LowerHex payloadHashes)
    (hmanifest : isSha256Digest manifestHash = true)
    (h : Accepted sha256 current manifestHash manifest payloadHashes g) :
    (retainedRecord g manifestHash manifest).isComplete = true := by
  have hexecutable := hlower _ _ (h.hashes _ _ h.executable)
  have hcontract : Domain.validSha256 manifest.payloadContractHash = true := by
    rw [h.contract]
    exact validSha256_of_digest (sha256 _).valid
  have hpath : validRelativePath manifest.executable.path = true := by
    rw [h.executablePath]
    decide +kernel
  simp only [RuntimeRecord.isComplete, retainedRecord, Bool.and_eq_true]
  exact ⟨⟨⟨⟨h.generation, validSha256_of_digest hmanifest⟩, hcontract⟩, hpath⟩,
    validSha256_of_digest hexecutable⟩

/-- **Acceptance is coherent across the layers.**  For hashes as the host computes them, both
validators accept the same runtimes; and the record that the host builds of an accepted one
is complete, so that every transaction that is otherwise in order is authorized with it. -/
theorem runtimeAcceptance (sha256 : Sha256) (current : RuntimeCurrent)
    (manifestBytes : List UInt8) (manifest : RuntimeManifest)
    (payloadHashes : BTreeMap String) (hlower : LowerHex payloadHashes) (g : String) :
    (validateSelectedRuntime sha256 current manifestBytes manifest payloadHashes = .ok g ↔
      validateRuntimeContract sha256 current (sha256 manifestBytes).value manifest
        payloadHashes = .ok g) ∧
    (validateSelectedRuntime sha256 current manifestBytes manifest payloadHashes = .ok g →
      (retainedRecord g (sha256 manifestBytes).value manifest).isComplete = true ∧
      ∀ t : RebootTransaction, t.schemaVersion = REBOOT_TRANSACTION_SCHEMA_VERSION →
        t.transactionId.isSome = true → t.initiatorUserSid.any validUserSid = true →
        ({ t with runtime := some (retainedRecord g (sha256 manifestBytes).value manifest) } :
          RebootTransaction).isAuthorizedAt t.stage = true) := by
  have hdigest := (sha256 manifestBytes).valid
  constructor
  · rw [validateSelectedRuntime_eq_ok hlower, validateRuntimeContract_eq_ok hlower hdigest]
  · intro h
    have hcomplete := isComplete_retainedRecord hlower hdigest
      ((validateSelectedRuntime_eq_ok hlower).mp h)
    refine ⟨hcomplete, fun t hschema hid hsid => ?_⟩
    exact (RebootTransaction.isAuthorizedAt_iff _ _).mpr ⟨hschema, hid, hsid, hcomplete, rfl⟩

/-- The digests of `{}`, of the compiled paths, and of an empty file. -/
def sampleSha256 : Sha256 := fun bytes =>
  if bytes = [123, 125] then
    ⟨"44136fa355b3678a1146ad16f7e8649e94fb4fc21fe77e8310c060f61caaff8a", by decide +kernel⟩
  else if bytes = [] then
    ⟨"e3b0c44298fc1c149afbf4c8996fb92427ae41e4649b934ca495991b7852b855", by decide +kernel⟩
  else
    ⟨"47771efd4b7c3a7199d3b2690865f30726474c453fc16ad3883160a2cf569351", by decide +kernel⟩

/-- Every file of the payload, empty. -/
def sampleFiles : BTreeMap String :=
  Std.ExtTreeMap.ofList (RUNTIME_PAYLOAD_PATHS.map fun path => (path, (sampleSha256 []).value))

def sampleManifest : RuntimeManifest where
  schemaVersion := 1
  generation := sampleTransactionId.text
  files := sampleFiles
  payloadContractHash := portablePayloadContractHash sampleSha256
  executable := { path := "frametime.exe", sha256 := (sampleSha256 []).value }

def sampleCurrent : RuntimeCurrent where
  schemaVersion := 1
  relativePath := generationsPrefix ++ sampleTransactionId.text
  manifestSha256 := some (sampleSha256 [123, 125]).value

private theorem getElem?_insertMany_const {c : String} (paths : List String) :
    ∀ {files : BTreeMap String}, (∀ path hash : String, files[path]? = some hash → hash = c) →
      ∀ path hash : String,
        (files.insertMany (paths.map fun path => (path, c)))[path]? = some hash → hash = c := by
  induction paths with
  | nil => simp
  | cons first rest ih =>
    intro files hfiles
    rw [List.map_cons, Std.ExtTreeMap.insertMany_cons]
    refine ih fun path hash h => ?_
    rw [Std.ExtTreeMap.getElem?_insert] at h
    split at h
    · exact (Option.some.inj h).symm
    · exact hfiles path hash h

theorem sampleFiles_eq {path hash : String} (h : sampleFiles[path]? = some hash) :
    hash = (sampleSha256 []).value := by
  rw [sampleFiles, Std.ExtTreeMap.ofList_eq_insertMany_empty] at h
  exact getElem?_insertMany_const RUNTIME_PAYLOAD_PATHS (by simp) path hash h

theorem runtimeAcceptance_sample :
    validateRuntimeContract sampleSha256 sampleCurrent (sampleSha256 [123, 125]).value
        sampleManifest sampleFiles = .ok sampleTransactionId.text ∧
      (retainedRecord sampleTransactionId.text (sampleSha256 [123, 125]).value
        sampleManifest).isComplete = true := by
  have hlower : LowerHex sampleFiles := by
    intro path hash h
    rw [sampleFiles_eq h]
    exact (sampleSha256 []).valid
  have haccept := runtimeAcceptance sampleSha256 sampleCurrent [123, 125] sampleManifest
    sampleFiles hlower sampleTransactionId.text
  have hdomain : validateSelectedRuntime sampleSha256 sampleCurrent [123, 125] sampleManifest
      sampleFiles = .ok sampleTransactionId.text := by
    decide +kernel
  exact ⟨haccept.1.mp hdomain, (haccept.2 hdomain).1⟩

end FrametimeCfg.Verified.RuntimeAcceptance
