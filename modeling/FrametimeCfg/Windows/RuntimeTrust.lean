import FrametimeCfg.Domain.Runtime

/-!
# Trust in the selected runtime

The Windows host validates the selector and the manifest a second time, against the hashes of
the files it holds open, and builds the record that a reboot transaction carries.
-/

namespace FrametimeCfg.Windows.RuntimeTrust

open FrametimeCfg.Domain
open FrametimeCfg.Lib.Checks
open FrametimeCfg.Lib.OrderedMap
open FrametimeCfg.Lib.Text

/-- `valid_generation`. -/
def validGeneration (value : String) : Bool :=
  byteLen value = 32 && value.toList.all isLowerHexDigit

/-- `valid_sha256` of the host, which takes lowercase digits only. -/
def validSha256 (value : String) : Bool :=
  byteLen value = 64 && value.toList.all isLowerHexDigit

/-- `selected_generation`. -/
def selectedGeneration (current : RuntimeCurrent) : Except String String := do
  reject (current.schemaVersion ≠ RUNTIME_SCHEMA_VERSION)
    "unsupported runtime selector schema"
  let generation ← okOr (stripGenerations current.relativePath)
    "runtime selector is not rooted in runtime-generations"
  reject (current.relativePath ≠ generationsPrefix ++ generation ||
      !validGeneration generation)
    "runtime selector generation is not exact lower-hex"
  reject (!current.manifestSha256.any validSha256)
    "runtime selector is missing a valid manifest hash"
  return generation

/-- `validate_runtime_contract`. -/
def validateRuntimeContract (sha256 : Sha256) (current : RuntimeCurrent)
    (manifestHash : String) (manifest : RuntimeManifest) (payloadHashes : BTreeMap String) :
    Except String String := do
  let generation ← selectedGeneration current
  reject (current.manifestSha256 ≠ some manifestHash ||
      manifest.schemaVersion ≠ RUNTIME_SCHEMA_VERSION || manifest.generation ≠ generation)
    "runtime selector and manifest differ"
  reject (fileSet manifest.files ≠ expectedFiles || fileSet payloadHashes ≠ expectedFiles ||
      manifest.payloadContractHash ≠ portablePayloadContractHash sha256 ||
      manifest.executable.path ≠ "frametime.exe" ||
      manifest.files["frametime.exe"]? ≠ some manifest.executable.sha256 ||
      !validSha256 manifest.executable.sha256)
    "runtime payload contract is invalid"
  manifest.files.toList.forM fun (path, declaredHash) =>
    reject (!validSha256 declaredHash || payloadHashes[path]? ≠ some declaredHash)
      ("runtime payload hash mismatch: " ++ path)
  return generation

/-- The record that `retain_selected_runtime_at` builds of what was inspected. -/
def retainedRecord (generation manifestSha256 : String) (manifest : RuntimeManifest) :
    RuntimeRecord where
  generation := generation
  manifestSha256 := manifestSha256
  payloadContractHash := manifest.payloadContractHash
  executablePath := manifest.executable.path
  executableSha256 := manifest.executable.sha256

end FrametimeCfg.Windows.RuntimeTrust
