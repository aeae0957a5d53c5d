import FrametimeCfg.Domain.Driver
import FrametimeCfg.Domain.Handoff
import FrametimeCfg.Lib.OrderedSet

/-!
# The selected runtime

A selector names one generation of the runtime by its directory and binds the bytes of its
manifest by their hash.  The manifest binds the hash of every file.  What is accepted is a
generation whose files are exactly the compiled payload, each with its declared hash.

The digest is a parameter: all that is used of it is that it is written as 64 lowercase
hexadecimal digits.
-/

namespace FrametimeCfg.Domain

open FrametimeCfg.Lib.Checks
open FrametimeCfg.Lib.OrderedMap
open FrametimeCfg.Lib.OrderedSet
open FrametimeCfg.Lib.Text

def RUNTIME_SCHEMA_VERSION : UInt8 := 1

def RUNTIME_GENERATIONS_DIR : String := "runtime-generations"

def RUNTIME_PAYLOAD_PATHS : List String := [
  "frametime.exe",
  "frametime.toml",
  "assets/video.txt",
  "assets/cfgs/audio_eq_crisp.cfg",
  "assets/cfgs/audio_eq_smooth.cfg",
  "assets/cfgs/audio_legacy_lr_isolation.cfg",
  "assets/cfgs/audio_lowlatency_001.cfg",
  "assets/cfgs/audio_lowlatency_025.cfg",
  "assets/cfgs/audio_stable.cfg",
  "assets/cfgs/autoexec.cfg.example",
  "assets/cfgs/competitive_2026.cfg",
  "assets/cfgs/debug_hud.cfg",
  "assets/cfgs/debug_hud_off.cfg",
  "assets/cfgs/frame_baseline_400.cfg",
  "assets/cfgs/frame_raw_uncapped.cfg",
  "assets/cfgs/net_bad.cfg",
  "assets/cfgs/net_highping.cfg",
  "assets/cfgs/net_stable.cfg",
  "assets/cfgs/net_unstable.cfg",
  "assets/cfgs/optimization.cfg.template",
  "assets/cfgs/valve-latency-targets.json",
  "docs/native/nvidia-drs-settings.md",
  "licenses/LICENSE",
  "licenses/THIRD_PARTY_NOTICES.md"]

structure RuntimeExecutableRecord where
  path : String
  sha256 : String
  unknown : BTreeMap Value := ∅
  deriving DecidableEq

structure RuntimeManifest where
  schemaVersion : UInt8
  generation : String
  files : BTreeMap String
  payloadContractHash : String
  executable : RuntimeExecutableRecord
  unknown : BTreeMap Value := ∅
  deriving DecidableEq

structure RuntimeCurrent where
  schemaVersion : UInt8
  relativePath : String
  publishedUtc : Option String := none
  manifestSha256 : Option String := none
  unknown : BTreeMap Value := ∅
  deriving DecidableEq

/-- The digest of a byte string. -/
abbrev Sha256 : Type := List UInt8 → Sha256Digest

/-- `RUNTIME_GENERATIONS_DIR` with a slash. -/
def generationsPrefix : String := RUNTIME_GENERATIONS_DIR ++ "/"

/-- What follows the directory of the generations, where the path starts with it. -/
def stripGenerations (relativePath : String) : Option String :=
  (stripPrefix generationsPrefix.toList relativePath.toList).map String.ofList

/-- The compiled file set. -/
def expectedFiles : BTreeSet := BTreeSet.ofList RUNTIME_PAYLOAD_PATHS

/-- The keys of a map of files. -/
def fileSet (files : BTreeMap String) : BTreeSet := BTreeSet.ofList files.keys

/-- `portable_payload_contract_hash`. -/
def portablePayloadContractHash (sha256 : Sha256) : String :=
  (sha256 (utf8 ("\n".intercalate expectedFiles.toList))).value

/-- `validate_selected_runtime`. -/
def validateSelectedRuntime (sha256 : Sha256) (current : RuntimeCurrent)
    (manifestBytes : List UInt8) (manifest : RuntimeManifest)
    (payloadHashes : BTreeMap String) : Except String String := do
  reject (current.schemaVersion ≠ RUNTIME_SCHEMA_VERSION)
    "unsupported runtime selector schema"
  let generation ← okOr
    (((stripGenerations current.relativePath).filter fun value =>
      current.relativePath = generationsPrefix ++ value).filter validGenerationId)
    "unsafe selected runtime generation"
  let selectorHash ← okOr (current.manifestSha256.filter validSha256)
    "runtime selector missing manifest hash"
  reject ((sha256 manifestBytes).value ≠ selectorHash)
    "runtime selector manifest hash mismatch"
  reject (manifest.schemaVersion ≠ RUNTIME_SCHEMA_VERSION || manifest.generation ≠ generation)
    "runtime selector and manifest generation differ"
  reject (fileSet manifest.files ≠ expectedFiles || fileSet payloadHashes ≠ expectedFiles)
    "runtime file set differs from compiled payload contract"
  reject (manifest.payloadContractHash ≠ portablePayloadContractHash sha256 ||
      manifest.executable.path ≠ "frametime.exe" ||
      manifest.files["frametime.exe"]? ≠ some manifest.executable.sha256 ||
      !validSha256 manifest.executable.sha256)
    "runtime executable record is invalid"
  manifest.files.toList.forM fun (path, hash) =>
    reject (!validSha256 hash || payloadHashes[path]? ≠ some hash)
      ("runtime hash mismatch: " ++ path)
  return generation

end FrametimeCfg.Domain
