import FrametimeCfg.Domain.Json
import FrametimeCfg.Lib.Text

/-!
# The reboot transaction

The optimization spans two restarts.  What ties its parts together is the
`RebootTransaction` record inside `state.json`: an identifier, the user who
started it, the runtime that may continue it and a stage.  A stage that the
core does not recognise is kept as it was read, and authorizes nothing.

The decoder accepts any object: a field that is missing or malformed reads as
absent, so a damaged record is a record without authority
(`RebootTransaction.isAuthorizedAt`).
-/

namespace FrametimeCfg.Domain

open FrametimeCfg.Lib.OrderedMap
open FrametimeCfg.Lib.Text

/-! ## Identifiers -/

/-- 32 lowercase hexadecimal characters. -/
def validGenerationId (value : String) : Bool :=
  byteLen value = 32 && value.toList.all isLowerHexDigit

/-- A transaction identifier; only well-formed ones exist. -/
structure TransactionId where
  text : String
  wellFormed : validGenerationId text = true
  deriving DecidableEq

/-- `TransactionId::parse`. -/
def TransactionId.parse (value : String) : Except String TransactionId :=
  if h : validGenerationId value = true then .ok ⟨value, h⟩
  else .error "transaction id must be 32 lowercase hexadecimal characters"

@[simp] theorem TransactionId.parse_text (id : TransactionId) :
    TransactionId.parse id.text = .ok id := by
  simp [TransactionId.parse, id.wellFormed]

/-! ## Stages -/

inductive RebootStage where
  | phaseOneSafeModeArmed
  | phaseTwoSafeMode
  | phaseThreeArmed
  | phaseThreeComplete
  | recoveryRequired
  | unknown (value : String)
  deriving DecidableEq

namespace RebootStage

def parse (value : String) : RebootStage :=
  if value = "phase1SafeModeArmed" then .phaseOneSafeModeArmed
  else if value = "phase2SafeMode" then .phaseTwoSafeMode
  else if value = "phase3Armed" then .phaseThreeArmed
  else if value = "phase3Complete" then .phaseThreeComplete
  else if value = "recoveryRequired" then .recoveryRequired
  else .unknown value

def asStr : RebootStage → String
  | .phaseOneSafeModeArmed => "phase1SafeModeArmed"
  | .phaseTwoSafeMode => "phase2SafeMode"
  | .phaseThreeArmed => "phase3Armed"
  | .phaseThreeComplete => "phase3Complete"
  | .recoveryRequired => "recoveryRequired"
  | .unknown value => value

/-- `RebootStage::allows_transition_to`. -/
def allowsTransitionTo : RebootStage → RebootStage → Bool
  | .phaseOneSafeModeArmed, .phaseTwoSafeMode => true
  | .phaseTwoSafeMode, .phaseThreeArmed => true
  | .phaseThreeArmed, .phaseThreeComplete => true
  | _, .recoveryRequired => true
  | _, _ => false

end RebootStage

/-! ## Records -/

/-- The runtime that may continue a transaction. -/
structure RuntimeRecord where
  generation : String
  manifestSha256 : String
  payloadContractHash : String
  executablePath : String
  executableSha256 : String
  unknown : BTreeMap Value := ∅
  deriving DecidableEq

def validSha256 (value : String) : Bool :=
  byteLen value = 64 && value.toList.all isHexDigit

def validRelativePath (value : String) : Bool :=
  !value.isEmpty &&
    !(value.toList.head? = some '/' || value.toList.head? = some '\\') &&
    !value.toList.any (fun c => c = '\\' || c = ':' || c = '\x00') &&
    (splitAt (· = '/') value.toList).all fun part =>
      part ≠ [] && part ≠ ['.'] && part ≠ ['.', '.']

/-- `RuntimeRecord::is_complete`. -/
def RuntimeRecord.isComplete (r : RuntimeRecord) : Bool :=
  validGenerationId r.generation && validSha256 r.manifestSha256 &&
    validSha256 r.payloadContractHash && validRelativePath r.executablePath &&
    validSha256 r.executableSha256

structure DriverPackageRecord where
  publishedName : String
  provider : Option String
  classGuid : Option String
  version : Option String
  unknown : BTreeMap Value := ∅
  deriving DecidableEq

/-- The transaction record inside `state.json`. -/
structure RebootTransaction where
  schemaVersion : UInt8 := 1
  transactionId : Option TransactionId := none
  initiatorUserSid : Option String := none
  stage : RebootStage := .unknown "missing"
  runtime : Option RuntimeRecord := none
  driverPackage : Option DriverPackageRecord := none
  createdUtc : Option String := none
  updatedUtc : Option String := none
  unknown : BTreeMap Value := ∅
  deriving DecidableEq

def REBOOT_TRANSACTION_SCHEMA_VERSION : UInt8 := 1

def canonicalDecimal (value : List Char) : Bool :=
  value ≠ [] && value.all Char.isDigit && (value = ['0'] || value.head? ≠ some '0')

/-- A canonical decimal below `bound`. -/
def decimalBelow (bound : Nat) (value : List Char) : Bool :=
  canonicalDecimal value &&
    match parseDecimalNat value with
    | some n => n < bound
    | none => false

/-- `valid_user_sid`: `S-1-` an authority and one to fifteen
sub-authorities. -/
def validUserSid (value : String) : Bool :=
  match splitAt (· = '-') value.toList with
  | ['S'] :: ['1'] :: authority :: subauthorities =>
      decimalBelow (2 ^ 64) authority &&
        (1 ≤ subauthorities.length && subauthorities.length ≤ 15) &&
        subauthorities.all (decimalBelow (2 ^ 32))
  | _ => false

namespace RebootTransaction

/-- `RebootTransaction::is_authorized_at`. -/
def isAuthorizedAt (t : RebootTransaction) (expectedStage : RebootStage) : Bool :=
  t.schemaVersion = REBOOT_TRANSACTION_SCHEMA_VERSION &&
    t.transactionId.isSome &&
    t.initiatorUserSid.any validUserSid &&
    t.runtime.any RuntimeRecord.isComplete &&
    t.stage = expectedStage

/-- `RebootTransaction::transition_to`. -/
def transitionTo (t : RebootTransaction) (next : RebootStage) :
    Except String RebootTransaction :=
  if t.stage.allowsTransitionTo next then .ok { t with stage := next }
  else .error "reboot transaction transition is not allowed"

/-- What authority at a stage means, field by field. -/
theorem isAuthorizedAt_iff (t : RebootTransaction) (s : RebootStage) :
    t.isAuthorizedAt s = true ↔
      t.schemaVersion = 1 ∧ t.transactionId.isSome = true ∧
      t.initiatorUserSid.any validUserSid = true ∧
      t.runtime.any RuntimeRecord.isComplete = true ∧ t.stage = s := by
  simp only [isAuthorizedAt, Bool.and_eq_true, decide_eq_true_eq, and_assoc]
  exact Iff.rfl

theorem stage_of_isAuthorizedAt {t : RebootTransaction} {s : RebootStage}
    (h : t.isAuthorizedAt s = true) : t.stage = s :=
  ((isAuthorizedAt_iff t s).mp h).2.2.2.2

/-- Authority does not depend on the stage beyond naming it: moving the stage
moves the authority. -/
theorem isAuthorizedAt_withStage {t : RebootTransaction} {s : RebootStage}
    (h : t.isAuthorizedAt s = true) (s' : RebootStage) :
    ({ t with stage := s' } : RebootTransaction).isAuthorizedAt s' = true := by
  rw [isAuthorizedAt_iff] at h ⊢
  exact ⟨h.1, h.2.1, h.2.2.1, h.2.2.2.1, rfl⟩

end RebootTransaction

/-! ## A transaction with authority -/

def sampleTransactionId : TransactionId :=
  ⟨"0123456789abcdef0123456789abcdef", by decide +kernel⟩

def sampleReceiptId : TransactionId :=
  ⟨"fedcba9876543210fedcba9876543210", by decide +kernel⟩

def sampleHash : String :=
  "0123456789abcdef0123456789abcdef0123456789abcdef0123456789abcdef"

def sampleRuntime : RuntimeRecord where
  generation := sampleTransactionId.text
  manifestSha256 := sampleHash
  payloadContractHash := sampleHash
  executablePath := "frametime.exe"
  executableSha256 := sampleHash

/-- A complete transaction record at the given stage. -/
def sampleTransaction (stage : RebootStage) : RebootTransaction where
  transactionId := some sampleTransactionId
  initiatorUserSid := some "S-1-5-21-1"
  stage := stage
  runtime := some sampleRuntime

/-- The record has authority at its own stage. -/
theorem sampleTransaction_isAuthorizedAt (stage : RebootStage) :
    (sampleTransaction stage).isAuthorizedAt stage = true := by
  have hsid : validUserSid "S-1-5-21-1" = true := by decide +kernel
  have hruntime : sampleRuntime.isComplete = true := by decide +kernel
  exact (RebootTransaction.isAuthorizedAt_iff _ _).mpr
    ⟨rfl, rfl, hsid, hruntime, rfl⟩

/-! ## Encoding and decoding -/

/-- `RuntimeRecord::deserialize`. -/
def RuntimeRecord.decode (value : Value) : Except String RuntimeRecord :=
  match value.asObject with
  | none => .error "invalid type: expected struct RuntimeRecord"
  | some fields => do
      let generation ← requiredString "generation" fields
      let manifestSha256 ← requiredString "manifestSha256" fields
      let payloadContractHash ← requiredString "payloadContractHash" fields
      let executablePath ← requiredString "executablePath" fields
      let executableSha256 ← requiredString "executableSha256" fields
      return {
        generation := generation
        manifestSha256 := manifestSha256
        payloadContractHash := payloadContractHash
        executablePath := executablePath
        executableSha256 := executableSha256
        unknown := BTreeMap.without fields
          ["generation", "manifestSha256", "payloadContractHash",
            "executablePath", "executableSha256"] }

/-- `RuntimeRecord::serialize`. -/
def RuntimeRecord.encode (r : RuntimeRecord) : Value :=
  .ofRecord
    [("generation", some (.string r.generation)),
      ("manifestSha256", some (.string r.manifestSha256)),
      ("payloadContractHash", some (.string r.payloadContractHash)),
      ("executablePath", some (.string r.executablePath)),
      ("executableSha256", some (.string r.executableSha256))]
    r.unknown

/-- `DriverPackageRecord::deserialize`. -/
def DriverPackageRecord.decode (value : Value) :
    Except String DriverPackageRecord :=
  match value.asObject with
  | none => .error "invalid type: expected struct DriverPackageRecord"
  | some fields => do
      let publishedName ← requiredString "publishedName" fields
      let provider ← optionalString fields["provider"]?
      let classGuid ← optionalString fields["classGuid"]?
      let version ← optionalString fields["version"]?
      return {
        publishedName := publishedName
        provider := provider
        classGuid := classGuid
        version := version
        unknown := BTreeMap.without fields
          ["publishedName", "provider", "classGuid", "version"] }

/-- `DriverPackageRecord::serialize`. -/
def DriverPackageRecord.encode (r : DriverPackageRecord) : Value :=
  .ofRecord
    [("publishedName", some (.string r.publishedName)),
      ("provider", r.provider.map .string),
      ("classGuid", r.classGuid.map .string),
      ("version", r.version.map .string)]
    r.unknown

/-- The keys of a transaction record. -/
def RebootTransaction.knownKeys : List String :=
  ["transactionId", "initiatorUserSid", "stage", "runtime", "driverPackage",
    "schemaVersion", "createdUtc", "updatedUtc"]

/-- `RebootTransaction::deserialize`. -/
def RebootTransaction.decode (value : Value) : Except String RebootTransaction :=
  match value.asObject with
  | none => .error "invalid type: expected a map"
  | some fields =>
      .ok {
        schemaVersion := (tolerantU8 fields["schemaVersion"]?).getD 0
        transactionId := (tolerantString fields["transactionId"]?).bind
          fun text => (TransactionId.parse text).toOption
        initiatorUserSid := tolerantString fields["initiatorUserSid"]?
        stage := ((tolerantString fields["stage"]?).map RebootStage.parse).getD
          (.unknown "missing")
        runtime := (fields["runtime"]?).bind
          fun value => (RuntimeRecord.decode value).toOption
        driverPackage := (fields["driverPackage"]?).bind
          fun value => (DriverPackageRecord.decode value).toOption
        createdUtc := tolerantString fields["createdUtc"]?
        updatedUtc := tolerantString fields["updatedUtc"]?
        unknown := BTreeMap.without fields RebootTransaction.knownKeys }

/-- The known entries of a written transaction. -/
def RebootTransaction.entries (t : RebootTransaction) : List (String × Option Value) :=
  [("schemaVersion", some (.ofU64 t.schemaVersion.toUInt64)),
    ("transactionId", some ((t.transactionId.map fun id =>
      Value.string id.text).getD .null)),
    ("initiatorUserSid", t.initiatorUserSid.map .string),
    ("stage", some (.string t.stage.asStr)),
    ("runtime", t.runtime.map RuntimeRecord.encode),
    ("driverPackage", t.driverPackage.map DriverPackageRecord.encode),
    ("createdUtc", t.createdUtc.map .string),
    ("updatedUtc", t.updatedUtc.map .string)]

/-- `RebootTransaction::serialize`. -/
def RebootTransaction.encode (t : RebootTransaction) : Value :=
  .ofRecord t.entries t.unknown

end FrametimeCfg.Domain
