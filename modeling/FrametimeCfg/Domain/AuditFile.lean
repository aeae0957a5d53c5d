import FrametimeCfg.Domain.Audit
import FrametimeCfg.Lib.Checks

/-!
# The audit document

The audit file lists the recovery records of the work directory.  A record of
one of the three known kinds is read into its type, and any other record is
kept as it is.

Each typed record has two flattened parts: its outcome, whose variant is named
by the entry `state`, and the rest of its entries.  The outcome is read from
the entries that the named fields leave over, and it does not take them away:
the rest keeps every one of them, `state` included.
-/

namespace FrametimeCfg.Domain

open FrametimeCfg.Lib.Checks
open FrametimeCfg.Lib.OrderedMap

/-! ## Reading parts of a record -/

/-- A required field of a derived record. -/
def requiredField {α : Type} (field : String) (decode : Value → Except String α)
    (fields : BTreeMap Value) : Except String α :=
  match fields[field]? with
  | none => .error ("missing field " ++ field)
  | some value => decode value

/-- The variant of an enumeration without fields: its name, or an object that
maps the name to `null` and has no other entry. -/
def unitVariant (value : Value) : Option String :=
  match value with
  | .string name => some name
  | value => (value.asObject.bind fun fields => sole fields.toList).bind fun
      | (name, .null) => some name
      | _ => none

/-- The variant that a flattened tag names, by its name or by its position. -/
def taggedVariant (names : List String) : Value → Option Nat
  | .string name => names.findIdx? (· = name)
  | .number (.unsigned n) => if n.toNat < names.length then some n.toNat else none
  | _ => none

/-- The position of the variant that the entry `state` names. -/
def decodeState (names : List String) (fields : BTreeMap Value) :
    Except String Nat := do
  let tag ← okOr fields["state"]? "missing field state"
  okOr (taggedVariant names tag) "unknown variant of state"

/-- A fixed record type. -/
def decodeRecordType (name : String) (value : Value) : Except String Unit :=
  reject (unitVariant value ≠ some name) "unknown variant of type"

/-! ## The parts -/

namespace RebuildableTarget

def asStr : RebuildableTarget → String
  | .cs2ShaderCache => "cs2_shader_cache"
  | .nvidiaDxCache => "nvidia_dx_cache"
  | .nvidiaGlCache => "nvidia_gl_cache"
  | .directxD3dCache => "directx_d3d_cache"

/-- `RebuildableTarget::deserialize`. -/
def decode (value : Value) : Except String RebuildableTarget :=
  okOr (P1_3_REBUILDABLE_TARGETS.find? fun target =>
    unitVariant value = some target.asStr) "unknown variant"

def encode (target : RebuildableTarget) : Value := .string target.asStr

theorem decode_encode (target : RebuildableTarget) :
    decode target.encode = .ok target := by
  cases target <;> decide +kernel

end RebuildableTarget

namespace ManualRecoveryTarget

def asStr : ManualRecoveryTarget → String
  | .appxRemovals => "appx_removals"
  | .exactDriverPackageRemoval => "exact_driver_package_removal"
  | .driverInstallation => "driver_installation"

/-- `ManualRecoveryTarget::deserialize`. -/
def decode (value : Value) : Except String ManualRecoveryTarget :=
  okOr ([appxRemovals, exactDriverPackageRemoval, driverInstallation].find?
    fun target => unitVariant value = some target.asStr) "unknown variant"

def encode (target : ManualRecoveryTarget) : Value := .string target.asStr

theorem decode_encode (target : ManualRecoveryTarget) :
    decode target.encode = .ok target := by
  cases target <;> decide +kernel

end ManualRecoveryTarget

namespace AppxRemovalSubject

/-- The variant that a text names. -/
def ofKind (kind : String) (name : String → Except String String) :
    Except String AppxRemovalSubject := do
  if kind = "installed" then
    return .installed (← name "full_name")
  else if kind = "provisioned" then
    return .provisioned (← name "package_name")
  else .error "unknown variant of kind"

/-- `AppxRemovalSubject::deserialize`: an object with the tag `kind`, or the
tag followed by the name. -/
def decode (value : Value) : Except String AppxRemovalSubject :=
  match value with
  | .array [.string kind, .string name] => ofKind kind fun _ => .ok name
  | value => do
      let fields ← okOr value.asObject "invalid type: expected an object"
      let kind ← requiredString "kind" fields
      ofKind kind fun field => requiredString field fields

/-- `AppxRemovalSubject::serialize`. -/
def encode : AppxRemovalSubject → Value
  | .installed fullName =>
      .ofRecord
        [("kind", some (.string "installed")), ("full_name", some (.string fullName))] ∅
  | .provisioned packageName =>
      .ofRecord
        [("kind", some (.string "provisioned")),
          ("package_name", some (.string packageName))] ∅

end AppxRemovalSubject

/-- A sequence of items. -/
def decodeItems {α : Type} (decode : Value → Except String α) (value : Value) :
    Except String (List α) := do
  let items ← okOr value.asArray "invalid type: expected a sequence"
  items.mapM decode

namespace RebuildableAuditOutcome

/-- `RebuildableAuditOutcome::deserialize`, from the entries that the named
fields leave over. -/
def decode (fields : BTreeMap Value) : Except String RebuildableAuditOutcome := do
  match ← decodeState ["pending", "verified"] fields with
  | 0 => return .pending
  | _ => return .verified (← requiredString "finalizedAt" fields)

/-- The entries the outcome is written as. -/
def entries : RebuildableAuditOutcome → List (String × Option Value)
  | .pending => [("state", some (.string "pending")), ("finalizedAt", none)]
  | .verified finalizedAt =>
      [("state", some (.string "verified")), ("finalizedAt", some (.string finalizedAt))]

end RebuildableAuditOutcome

namespace ManualRecoveryAuditOutcome

/-- `ManualRecoveryAuditOutcome::deserialize`, from the entries that the named
fields leave over. -/
def decode (fields : BTreeMap Value) : Except String ManualRecoveryAuditOutcome := do
  match ← decodeState ["pending", "verified", "failed"] fields with
  | 0 => return .pending
  | 1 => return .verified (← requiredString "finalizedAt" fields)
  | _ => return .failed (← requiredString "failedAt" fields)

/-- The entries the outcome is written as. -/
def entries : ManualRecoveryAuditOutcome → List (String × Option Value)
  | .pending =>
      [("state", some (.string "pending")), ("finalizedAt", none), ("failedAt", none)]
  | .verified finalizedAt =>
      [("state", some (.string "verified")), ("finalizedAt", some (.string finalizedAt)),
        ("failedAt", none)]
  | .failed failedAt =>
      [("state", some (.string "failed")), ("finalizedAt", none),
        ("failedAt", some (.string failedAt))]

end ManualRecoveryAuditOutcome

/-! ## The records -/

namespace RebuildableAudit

def RECORD_TYPE : String := "rebuildable_mutation"

/-- The named fields. -/
def knownKeys : List String := ["type", "step", "capturedAt", "targets"]

/-- `RebuildableAudit::deserialize`. -/
def decode (value : Value) : Except String RebuildableAudit := do
  let fields ← okOr value.asObject "invalid type: expected struct RebuildableAudit"
  requiredField "type" (decodeRecordType RECORD_TYPE) fields
  let step ← requiredString "step" fields
  let capturedAt ← requiredString "capturedAt" fields
  let targets ← requiredField "targets" (decodeItems RebuildableTarget.decode) fields
  let rest := BTreeMap.without fields knownKeys
  let outcome ← RebuildableAuditOutcome.decode rest
  return {
    step := step
    capturedAt := capturedAt
    targets := targets
    outcome := outcome
    unknown := rest }

/-- The entries of the named fields. -/
def namedEntries (a : RebuildableAudit) : List (String × Option Value) :=
  [("type", some (.string RECORD_TYPE)),
    ("step", some (.string a.step)),
    ("capturedAt", some (.string a.capturedAt)),
    ("targets", some (.array (a.targets.map RebuildableTarget.encode)))]

@[simp] theorem keys_namedEntries (a : RebuildableAudit) :
    a.namedEntries.map Prod.fst = knownKeys := rfl

/-- The entries of the typed part. -/
def entries (a : RebuildableAudit) : List (String × Option Value) :=
  a.namedEntries ++ a.outcome.entries

/-- `RebuildableAudit::serialize`. -/
def encode (a : RebuildableAudit) : Value := .ofRecord a.entries a.unknown

end RebuildableAudit

namespace ManualRecoveryAudit

def RECORD_TYPE : String := "manual_recovery_mutation"

/-- The named fields. -/
def knownKeys : List String := ["type", "step", "capturedAt", "target"]

/-- `ManualRecoveryAudit::deserialize`. -/
def decode (value : Value) : Except String ManualRecoveryAudit := do
  let fields ← okOr value.asObject "invalid type: expected struct ManualRecoveryAudit"
  requiredField "type" (decodeRecordType RECORD_TYPE) fields
  let step ← requiredString "step" fields
  let capturedAt ← requiredString "capturedAt" fields
  let target ← requiredField "target" ManualRecoveryTarget.decode fields
  let rest := BTreeMap.without fields knownKeys
  let outcome ← ManualRecoveryAuditOutcome.decode rest
  return {
    step := step
    capturedAt := capturedAt
    target := target
    outcome := outcome
    unknown := rest }

/-- The entries of the named fields. -/
def namedEntries (a : ManualRecoveryAudit) : List (String × Option Value) :=
  [("type", some (.string RECORD_TYPE)),
    ("step", some (.string a.step)),
    ("capturedAt", some (.string a.capturedAt)),
    ("target", some a.target.encode)]

@[simp] theorem keys_namedEntries (a : ManualRecoveryAudit) :
    a.namedEntries.map Prod.fst = knownKeys := rfl

/-- The entries of the typed part. -/
def entries (a : ManualRecoveryAudit) : List (String × Option Value) :=
  a.namedEntries ++ a.outcome.entries

/-- `ManualRecoveryAudit::serialize`. -/
def encode (a : ManualRecoveryAudit) : Value := .ofRecord a.entries a.unknown

end ManualRecoveryAudit

namespace MixedRecoveryAudit

def RECORD_TYPE : String := "mixed_recovery_mutation"

/-- The named fields. -/
def knownKeys : List String :=
  ["type", "step", "capturedAt", "target", "manualRecoverySubjects"]

/-- `manual_recovery_subjects`: absent when there are none. -/
def decodeSubjects (fields : BTreeMap Value) :
    Except String (List AppxRemovalSubject) :=
  match fields["manualRecoverySubjects"]? with
  | none => .ok []
  | some value => decodeItems AppxRemovalSubject.decode value

/-- `MixedRecoveryAudit::deserialize`. -/
def decode (value : Value) : Except String MixedRecoveryAudit := do
  let fields ← okOr value.asObject "invalid type: expected struct MixedRecoveryAudit"
  requiredField "type" (decodeRecordType RECORD_TYPE) fields
  let step ← requiredString "step" fields
  let capturedAt ← requiredString "capturedAt" fields
  let target ← requiredField "target" ManualRecoveryTarget.decode fields
  let subjects ← decodeSubjects fields
  let rest := BTreeMap.without fields knownKeys
  let outcome ← ManualRecoveryAuditOutcome.decode rest
  return {
    step := step
    capturedAt := capturedAt
    target := target
    manualRecoverySubjects := subjects
    outcome := outcome
    unknown := rest }

/-- The entries of the named fields. -/
def namedEntries (a : MixedRecoveryAudit) : List (String × Option Value) :=
  [("type", some (.string RECORD_TYPE)),
    ("step", some (.string a.step)),
    ("capturedAt", some (.string a.capturedAt)),
    ("target", some a.target.encode),
    ("manualRecoverySubjects", if a.manualRecoverySubjects.isEmpty then none
      else some (.array (a.manualRecoverySubjects.map AppxRemovalSubject.encode)))]

@[simp] theorem keys_namedEntries (a : MixedRecoveryAudit) :
    a.namedEntries.map Prod.fst = knownKeys := rfl

/-- The entries of the typed part. -/
def entries (a : MixedRecoveryAudit) : List (String × Option Value) :=
  a.namedEntries ++ a.outcome.entries

/-- `MixedRecoveryAudit::serialize`. -/
def encode (a : MixedRecoveryAudit) : Value := .ofRecord a.entries a.unknown

end MixedRecoveryAudit

/-! ## The document -/

/-- Known recovery records, and future records retained without
interpretation. -/
inductive AuditEntry where
  | rebuildable (audit : RebuildableAudit)
  | manual (audit : ManualRecoveryAudit)
  | mixed (audit : MixedRecoveryAudit)
  | unknown (value : Value)
  deriving DecidableEq

/-- A persisted audit document. -/
structure AuditFile where
  entries : List AuditEntry := []
  created : String
  unknown : BTreeMap Value := ∅
  deriving DecidableEq

/-- `value.get("type").and_then(Value::as_str)`. -/
def recordTypeOf (value : Value) : Option String :=
  tolerantString (value.asObject.bind fun fields => fields["type"]?)

namespace AuditEntry

/-- `AuditEntry::deserialize`. -/
def decode (value : Value) : Except String AuditEntry :=
  if recordTypeOf value = some RebuildableAudit.RECORD_TYPE then
    AuditEntry.rebuildable <$> RebuildableAudit.decode value
  else if recordTypeOf value = some ManualRecoveryAudit.RECORD_TYPE then
    AuditEntry.manual <$> ManualRecoveryAudit.decode value
  else if recordTypeOf value = some MixedRecoveryAudit.RECORD_TYPE then
    AuditEntry.mixed <$> MixedRecoveryAudit.decode value
  else .ok (.unknown value)

/-- `AuditEntry::serialize`. -/
def encode : AuditEntry → Value
  | .rebuildable audit => audit.encode
  | .manual audit => audit.encode
  | .mixed audit => audit.encode
  | .unknown value => value

/-- `audit_entry`. -/
def ofIrreversible : IrreversibleAudit → AuditEntry
  | .manual record => .manual record
  | .mixed record => .mixed record

/-- `entry_irreversible_audit`. -/
def irreversible : AuditEntry → Option IrreversibleAudit
  | .manual record => some (.manual record)
  | .mixed record => some (.mixed record)
  | .rebuildable _ | .unknown _ => none

end AuditEntry

/-- A field of a record that is read from a text, where a repeated field is
refused. -/
def uniqueField (field : String) (fields : List (String × Value)) :
    Except String (Option Value) :=
  match fields.filter fun entry => entry.1 = field with
  | [] => .ok none
  | [entry] => .ok (some entry.2)
  | _ => .error ("duplicate field " ++ field)

namespace AuditFile

/-- `entries`: absent when there are none. -/
def decodeEntries : Option Value → Except String (List AuditEntry)
  | none => .ok []
  | some entries => decodeItems AuditEntry.decode entries

/-- `AuditFile::deserialize`. -/
def decode (value : Value) : Except String AuditFile :=
  match value with
  | .object fields => do
      let entries ← uniqueField "entries" fields
      let created ← uniqueField "created" fields
      let entries ← decodeEntries entries
      let created ← okOr created "missing field created"
      let created ← okOr created.asStr "invalid type: expected a string"
      return {
        entries := entries
        created := created
        unknown := BTreeMap.without (Std.ExtTreeMap.ofList fields) ["entries", "created"] }
  | _ => .error "invalid type: expected struct AuditFile"

/-- `AuditFile::serialize`. -/
def encode (file : AuditFile) : Value :=
  .ofRecord
    [("entries", some (.array (file.entries.map AuditEntry.encode))),
      ("created", some (.string file.created))]
    file.unknown

end AuditFile

end FrametimeCfg.Domain
