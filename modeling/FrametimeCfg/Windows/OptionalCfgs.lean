import FrametimeCfg.Domain.Cs2ConfigBackup

/-!
# Deploying optional CFG files

A deployment captures the selected targets in a record, puts the record into
`backup.json` and then writes the embedded assets.  `backup.json` keeps the first
record of an identity: another one of the same step, install and selection is
dropped.

A deployment is called with what its surroundings answer: whether the gates before
the capture pass, which install was discovered, how the write of `backup.json`
ends, whether the install is found again, and the faults of the file calls.
-/

namespace FrametimeCfg.Windows

open FrametimeCfg.Domain
open FrametimeCfg.Lib.Checks
open FrametimeCfg.Lib.Effect
open FrametimeCfg.Lib.FileCalls

/-! ## The records of the backup file -/

/-- The entry as `dedupe_identity` reads it. -/
def Cs2ConfigTransaction.entry (transaction : Cs2ConfigTransaction) : BackupEntry :=
  .cs2ConfigTransaction transaction.step transaction.timestamp
    transaction.installIdentity.installFingerprint (transaction.targets.map (·.target))

/-- A record of `backup.json`: a CFG transaction in full, or another entry. -/
inductive StoredEntry where
  | cfg (transaction : Cs2ConfigTransaction)
  | other (entry : BackupEntry)

def StoredEntry.entry : StoredEntry → BackupEntry
  | .cfg transaction => Cs2ConfigTransaction.entry transaction
  | .other entry => entry

/-- `BackupFile::push_first_value`. -/
def pushFirstValue (entries : List StoredEntry) (entry : StoredEntry) : List StoredEntry :=
  let identity := dedupeIdentity entry.entry
  if identity = none ∨
      ¬ entries.any (fun existing => dedupeIdentity existing.entry = identity) then
    entries ++ [entry]
  else entries

/-- `backup.json`. -/
inductive StoredBackup where
  | absent
  | unreadable
  | holds (entries : List StoredEntry)

def StoredBackup.entries : StoredBackup → List StoredEntry
  | .holds entries => entries
  | .absent | .unreadable => []

structure OptionalHost where
  files : Files FilePath
  backup : StoredBackup

/-! ## The deployment -/

/-- How a write of `backup.json` ends; an error may come after the replacement. -/
inductive PersistAnswer where
  | stored
  | storedWithError
  | refused
  deriving DecidableEq, Repr

/-- A call, with the answers of its surroundings. -/
structure DeployCall where
  assets : List OptionalCfgAsset
  /-- The work directory, the elevation and the lock. -/
  gates : Bool
  discovered : Option Cs2ConfigController
  timestamp : String
  persist : PersistAnswer
  reobserved : Bool
  faults : List (Option Fault)

inductive DeployError where
  | emptySelection
  | gate
  | noInstall
  | capture (source : Cs2ConfigBackupError)
  | readBackup
  | persistBackup
  | installChanged
  | deploy (source : Cs2ConfigBackupError)
  | verify (source : Cs2ConfigError)
  deriving DecidableEq, Repr

abbrev DeployProg := Prog OptionalHost DeployError

/-- A program on the files of the host. -/
def onFiles {ε α : Type} (f : ε → DeployError) (m : Prog (Files FilePath) ε α) :
    DeployProg α := fun s =>
  match m s.files with
  | (.ok a, files) => (.ok a, { s with files := files })
  | (.error e, files) => (.error (f e), { s with files := files })

/-- The entries before the call; a missing file has none. -/
def readBackup : DeployProg (List StoredEntry) := fun s =>
  match s.backup with
  | .absent => (.ok [], s)
  | .holds entries => (.ok entries, s)
  | .unreadable => (.error .readBackup, s)

/-- The atomic replacement of `backup.json`. -/
def persistBackup (answer : PersistAnswer) (entries : List StoredEntry) : DeployProg Unit :=
  fun s =>
    match answer with
    | .stored => (.ok (), { s with backup := .holds entries })
    | .storedWithError => (.error .persistBackup, { s with backup := .holds entries })
    | .refused => (.error .persistBackup, s)

/-- `deploy_optional_cs2_cfgs`. -/
def deployOptionalCs2Cfgs (digests : CfgDigests) (bytes : CfgAssets) (call : DeployCall) :
    DeployProg (List FilePath) := do
  let selected := call.assets.toFinset
  ofExcept (reject (selected = ∅) .emptySelection)
  ofExcept (reject (¬ call.gates) .gate)
  let controller ← ofExcept (okOr call.discovered .noInstall)
  let entry ← onFiles .capture (Cs2ConfigTransaction.captureOptional digests
    controller.install selected call.timestamp)
  let entries ← readBackup
  persistBackup call.persist (pushFirstValue entries (.cfg entry))
  ofExcept (reject (¬ call.reobserved) .installChanged)
  let written ← onFiles .deploy (entry.applyOptional digests bytes controller.install)
  onFiles .verify (controller.verifyOptionalAssets bytes selected)
  return written

/-! ## Steps of the host -/

/-- What happens to the host: the user changes a file, a deployment is called, or
recovery restores entries and changes the files it restores. -/
inductive OptionalStep where
  | edit (path : FilePath) (content : Option Bytes)
  | deploy (call : DeployCall)
  | recover (restored : StoredEntry → Bool) (content : FilePath → Option Bytes)

/-- The host after one step. -/
def optionalStep (digests : CfgDigests) (bytes : CfgAssets) (s : OptionalHost) :
    OptionalStep → OptionalHost
  | .edit path content => { s with files := s.files.put path content }
  | .deploy call =>
      (deployOptionalCs2Cfgs digests bytes call
        { s with files := s.files.armed call.faults }).2
  | .recover restored content =>
      match s.backup with
      | .holds entries =>
          { files := { s.files with content := content }
            backup := .holds (entries.filter fun entry => ¬ restored entry) }
      | _ => s

end FrametimeCfg.Windows
