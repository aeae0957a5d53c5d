import FrametimeCfg.Domain.JsonText
import FrametimeCfg.Lib.Checks
import FrametimeCfg.Lib.OrderedSet
import FrametimeCfg.Lib.Scan

/-!
# The package manifest

A manifest is scanned for repeated keys before `serde_json` reads it, as `serde_json` keeps
the last entry of a key without a word.  What it reads must then name the files of the
compiled payload layout, one for one.

The scanner ends because its offset moves on at every bracket and comma; that no part of it
moves back is what its results carry.
-/

namespace FrametimeCfg.Windows.PackageContract

open FrametimeCfg.Domain
open FrametimeCfg.Lib.Checks
open FrametimeCfg.Lib.OrderedMap
open FrametimeCfg.Lib.OrderedSet
open FrametimeCfg.Lib.Scan
open FrametimeCfg.Lib.Text

/-! ## The scanner -/

/-- `ManifestScanner::gap`. -/
def gap (bytes : List UInt8) (offset : Nat) : Nat := skipWhile isAsciiWhitespace bytes offset

theorem le_gap (bytes : List UInt8) (offset : Nat) : offset ≤ gap bytes offset :=
  skipWhile_bounds.1

/-- The loop of `ManifestScanner::string`: where the literal ends. -/
def literalEnd (bytes : List UInt8) (escaped : Bool) (offset : Nat) : Option Nat :=
  if h : offset < bytes.length then
    if escaped then literalEnd bytes false (offset + 1)
    else if bytes[offset] = 0x5c then literalEnd bytes true (offset + 1)
    else if bytes[offset] = 0x22 then some (offset + 1)
    else literalEnd bytes false (offset + 1)
  else none
termination_by bytes.length - offset

theorem lt_literalEnd {bytes : List UInt8} {escaped : Bool} {offset stop : Nat}
    (h : literalEnd bytes escaped offset = some stop) : offset < stop := by
  fun_induction literalEnd bytes escaped offset with
  | case1 offset hlt ih => exact Nat.lt_of_succ_lt (ih h)
  | case2 escaped offset hlt hescaped hslash ih => exact Nat.lt_of_succ_lt (ih h)
  | case3 escaped offset hlt hescaped hslash hquote =>
    cases h
    exact Nat.lt_succ_self offset
  | case4 escaped offset hlt hescaped hslash hquote ih => exact Nat.lt_of_succ_lt (ih h)
  | case5 escaped offset hlt => cases h

/-- An offset that moved on from another. -/
abbrev After (offset : Nat) : Type := { next : Nat // offset < next }

/-- An offset that did not move back behind another. -/
abbrev From (offset : Nat) : Type := { next : Nat // offset ≤ next }

/-- `ManifestScanner::string`. -/
def scanString (serde : SerdeJson) (bytes : List UInt8) (offset : Nat) :
    Except String (String × After offset) :=
  if bytes[offset]? ≠ some 0x22 then .error "invalid JSON string"
  else
    match h : literalEnd bytes false (offset + 1) with
    | none => .error "unterminated JSON string"
    | some stop =>
        match serde.string ((bytes.drop offset).take (stop - offset)) with
        | none => .error "invalid JSON string"
        | some text => .ok (text, ⟨stop, Nat.lt_of_succ_lt (lt_literalEnd h)⟩)

/-- A byte at which a scalar ends. -/
def isScalarEnd (b : UInt8) : Bool :=
  b = 0x2c || b = 0x5d || b = 0x7d || b = 0x20 || b = 0x0a || b = 0x0d || b = 0x09

section Scanner

variable (serde : SerdeJson) (bytes : List UInt8)

mutual

/-- `ManifestScanner::value`. -/
def scanValue (offset : Nat) : Except String (From offset) :=
  have hstart := le_gap bytes offset
  match hbyte : bytes[gap bytes offset]? with
  | none => .error "missing JSON value"
  | some byte =>
      if byte = 0x7b then
        match scanObject ∅ (gap bytes offset + 1) with
        | .error e => .error e
        | .ok ⟨next, h⟩ => .ok ⟨next, by omega⟩
      else if byte = 0x5b then
        match scanArray (gap bytes offset + 1) with
        | .error e => .error e
        | .ok ⟨next, h⟩ => .ok ⟨next, by omega⟩
      else if byte = 0x22 then
        match scanString serde bytes (gap bytes offset) with
        | .error e => .error e
        | .ok (_, ⟨next, h⟩) => .ok ⟨next, by omega⟩
      else
        let start := gap bytes offset
        let stop := skipWhile (fun b => !isScalarEnd b) bytes start
        have hstop : start ≤ stop := skipWhile_bounds.1
        match serde.value ((bytes.drop start).take (stop - start)) with
        | .error _ => .error "invalid JSON scalar"
        | .ok _ => .ok ⟨stop, Nat.le_trans hstart hstop⟩
termination_by (bytes.length - offset, 0)
decreasing_by
  all_goals
    have hinside := (List.getElem?_eq_some_iff.mp hbyte).1
    exact Prod.Lex.left _ _ (by omega)

/-- `ManifestScanner::object`, after the brace or a comma, with the keys that were seen. -/
def scanObject (keys : BTreeSet) (offset : Nat) : Except String (From offset) :=
  have hstart := le_gap bytes offset
  if bytes[gap bytes offset]? = some 0x7d then .ok ⟨gap bytes offset + 1, by omega⟩
  else
    match hname : scanString serde bytes (gap bytes offset) with
    | .error e => .error e
    | .ok (key, ⟨name, hmoved⟩) =>
        have hcolon := le_gap bytes name
        if keys.contains key then .error "package manifest has duplicate JSON field"
        else if hsep : bytes[gap bytes name]? ≠ some 0x3a then .error "invalid JSON object"
        else
          match scanValue (gap bytes name + 1) with
          | .error e => .error e
          | .ok ⟨next, hnext⟩ =>
              have hstop := le_gap bytes next
              match hbyte : bytes[gap bytes next]? with
              | some 0x2c =>
                  match scanObject (keys.insert key) (gap bytes next + 1) with
                  | .error e => .error e
                  | .ok ⟨stop, h⟩ => .ok ⟨stop, by omega⟩
              | some 0x7d => .ok ⟨gap bytes next + 1, by omega⟩
              | _ => .error "invalid JSON object"
termination_by (bytes.length - offset, 0)
decreasing_by
  · have hinside := (List.getElem?_eq_some_iff.mp (not_not.mp hsep)).1
    exact Prod.Lex.left _ _ (by omega)
  · have hinside := (List.getElem?_eq_some_iff.mp hbyte).1
    exact Prod.Lex.left _ _ (by omega)

/-- `ManifestScanner::array`, after the bracket or a comma. -/
def scanArray (offset : Nat) : Except String (From offset) :=
  have hstart := le_gap bytes offset
  if bytes[gap bytes offset]? = some 0x5d then .ok ⟨gap bytes offset + 1, by omega⟩
  else
    match scanValue (gap bytes offset) with
    | .error e => .error e
    | .ok ⟨next, hnext⟩ =>
        have hstop := le_gap bytes next
        match hbyte : bytes[gap bytes next]? with
        | some 0x2c =>
            match scanArray (gap bytes next + 1) with
            | .error e => .error e
            | .ok ⟨stop, h⟩ => .ok ⟨stop, by omega⟩
        | some 0x5d => .ok ⟨gap bytes next + 1, by omega⟩
        | _ => .error "invalid JSON array"
termination_by (bytes.length - offset, 1)
decreasing_by
  · have hle : bytes.length - gap bytes offset ≤ bytes.length - offset := by omega
    rcases Nat.lt_or_eq_of_le hle with hlt | heq
    · exact Prod.Lex.left _ _ hlt
    · rw [heq]
      exact Prod.Lex.right _ Nat.zero_lt_one
  · have hinside := (List.getElem?_eq_some_iff.mp hbyte).1
    exact Prod.Lex.left _ _ (by omega)

end

/-- `reject_duplicate_keys`. -/
def rejectDuplicateKeys : Except String Unit :=
  match scanValue serde bytes 0 with
  | .error e => .error e
  | .ok ⟨next, _⟩ =>
      if gap bytes next = bytes.length then .ok () else .error "trailing package manifest bytes"

end Scanner

/-! ## The manifest -/

def MAX_MANIFEST_BYTES : Nat := 1024 * 1024

/-- The lines of `PAYLOAD_LAYOUT`. -/
def payloadLayout : List String := [
  "frametime.exe",
  "frametime-gui.exe",
  "frametime.toml",
  "README.md",
  "assets/video.txt",
  "assets/cfgs/audio_eq_crisp.cfg",
  "assets/cfgs/audio_eq_smooth.cfg",
  "assets/cfgs/audio_legacy_lr_isolation.cfg",
  "assets/cfgs/audio_lowlatency_001.cfg",
  "assets/cfgs/audio_lowlatency_025.cfg",
  "assets/cfgs/audio_stable.cfg",
  "assets/cfgs/autoexec.cfg.example",
  "assets/cfgs/competitive_2026.cfg",
  "assets/cfgs/debug_hud.cfg",
  "assets/cfgs/debug_hud_off.cfg",
  "assets/cfgs/frame_baseline_400.cfg",
  "assets/cfgs/frame_raw_uncapped.cfg",
  "assets/cfgs/net_bad.cfg",
  "assets/cfgs/net_highping.cfg",
  "assets/cfgs/net_stable.cfg",
  "assets/cfgs/net_unstable.cfg",
  "assets/cfgs/optimization.cfg.template",
  "assets/cfgs/valve-latency-targets.json",
  "docs/native/compatibility.md",
  "docs/native/gui.md",
  "docs/native/integrations.md",
  "docs/native/nvidia-drs-settings.md",
  "docs/native/operations.md",
  "docs/native/recovery.md",
  "licenses/LICENSE",
  "licenses/LICENSE-APACHE-2.0",
  "licenses/LICENSE-MIT",
  "licenses/THIRD_PARTY_NOTICES.md"]

/-- `PAYLOAD_LAYOUT`. -/
def PAYLOAD_LAYOUT : String := String.join (payloadLayout.map (· ++ "\n"))

structure PackageFile where
  path : String
  size : UInt64
  sha256 : String
  deriving DecidableEq

structure PackageManifest where
  version : String
  files : List PackageFile
  deriving DecidableEq

/-- `expected_payload_paths`. -/
def expectedPayloadPaths : BTreeSet :=
  BTreeSet.ofList ((lines PAYLOAD_LAYOUT.toList).map fun line =>
    asciiLower (String.ofList (trim line)))

/-- `exact_keys`. -/
def exactKeys (object : BTreeMap Value) (expected : List String) : Except String Unit :=
  reject (object.size ≠ expected.length || expected.any fun key => !object.contains key)
    "package manifest contains unknown or missing fields"

/-- `u8::is_ascii_graphic`. -/
def isAsciiGraphic (c : Char) : Bool := 0x21 ≤ c.toNat && c.toNat ≤ 0x7e

/-- `validate_relative_path`.  The two executables pass like every other path. -/
def validateRelativePath (path : String) : Except String Unit :=
  let text := path.toList
  reject (text = [] || byteLen path > 240 || text.contains '\\' || text.head? = some '/' ||
      text.contains ':' ||
      (FrametimeCfg.Lib.Text.splitAt (· = '/') text).any (fun part =>
        part = [] || part = ['.'] || part = ['.', '.']) ||
      !text.all (fun c => isAsciiGraphic c && c ≠ '\\'))
    "package manifest path is not a normalized forward relative path"

/-- `valid_hex`. -/
def validHex (value : String) : Bool := byteLen value = 64 && value.toList.all isHexDigit

/-- One file of the manifest, in `parse_manifest`. -/
def addFile (byPath : BTreeMap PackageFile) (value : Value) :
    Except String (BTreeMap PackageFile) := do
  let object ← okOr value.asObject "package manifest file must be an object"
  exactKeys object ["path", "size", "sha256"]
  let path ← okOr (object["path"]?.bind Value.asStr) "package manifest file path is invalid"
  validateRelativePath path
  let size ← okOr (object["size"]?.bind Value.asU64) "package manifest file size is invalid"
  let sha256 ← okOr ((object["sha256"]?.bind Value.asStr).filter validHex)
    "package manifest file SHA-256 is invalid"
  reject (byPath.contains (asciiLower path)) "package manifest has case-colliding paths"
  return byPath.insert (asciiLower path) { path, size, sha256 := asciiLower sha256 }

/-- `parse_manifest`. -/
def parseManifest (serde : SerdeJson) (bytes : List UInt8) : Except String PackageManifest := do
  reject (bytes = [] || bytes.length > MAX_MANIFEST_BYTES)
    "package manifest exceeds bounded size"
  rejectDuplicateKeys serde bytes
  let value ← (serde.value bytes).mapError ("parse package manifest: " ++ ·)
  let object ← okOr value.asObject "package manifest must be an object"
  exactKeys object ["schema_version", "version", "files"]
  reject (object["schema_version"]?.bind Value.asU64 ≠ some 1)
    "package manifest schema_version must be 1"
  let version ← okOr ((object["version"]?.bind Value.asStr).filter fun version =>
    version ≠ "" && byteLen version ≤ 128) "package manifest version is invalid"
  let values ← okOr (object["files"]?.bind Value.asArray)
    "package manifest files must be an array"
  let expected := expectedPayloadPaths
  reject (values.length ≠ expected.size)
    "package manifest file count differs from fixed payload layout"
  let byPath ← values.foldlM addFile ∅
  reject (BTreeSet.ofList byPath.keys ≠ expected)
    "package manifest paths differ from fixed payload layout"
  return { version, files := byPath.toList.map Prod.snd }

end FrametimeCfg.Windows.PackageContract
