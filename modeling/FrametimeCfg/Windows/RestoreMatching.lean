import FrametimeCfg.Domain.BackupRecords
import FrametimeCfg.Windows.OptionalCfgs

/-!
# Restoring the records of the backup file

Recovery reads `backup.json`, restores the selected records in reverse order, and
replaces the file by one that holds the records that were not selected or could not be
restored.

How one record is restored is a program on the system, and the same record can be
restored with another outcome a second time.  The gates before the file is read and the
end of the write are answers of the surroundings.
-/

namespace FrametimeCfg.Windows

open FrametimeCfg.Domain
open FrametimeCfg.Domain.Serde
open FrametimeCfg.Lib.Checks
open FrametimeCfg.Lib.Effect

/-- The backup file, as the JSON it holds, and the system. -/
structure RecoveryHost (σ : Type) where
  backup : Option Value
  system : σ

/-- A call of the recovery. -/
structure RecoveryCall (σ : Type) where
  /-- The work directory, the elevation and the lock. -/
  gates : Except String Unit
  selected : BackupRecord → Bool
  /-- `restore_entry`. -/
  restoreEntry : BackupRecord → Prog σ String Unit
  persist : PersistAnswer

variable {σ : Type}

/-- `read_json_trusted` of the backup file. -/
def readBackupDocument : Prog (RecoveryHost σ) String BackupDocument := fun s =>
  match s.backup.bind BackupDocument.record.codec.read with
  | some document => (.ok document, s)
  | none => (.error "read backup", s)

/-- `write_json_atomic_trusted` of the backup file. -/
def writeBackupDocument (answer : PersistAnswer) (document : BackupDocument) :
    Prog (RecoveryHost σ) String Unit := fun s =>
  let replaced :=
    { s with backup := some (BackupDocument.record.codec.write document) }
  match answer with
  | .stored => (.ok (), replaced)
  | .storedWithError => (.error "persist restored backup", replaced)
  | .refused => (.error "persist restored backup", s)

/-- The loop over the records, with the retained ones and the failures so far. -/
def restoreEntries (call : RecoveryCall σ) :
    List BackupRecord → List BackupRecord × List String →
      Prog (RecoveryHost σ) String (List BackupRecord × List String)
  | [], found => pure found
  | entry :: rest, (retained, failures) => fun s =>
      if ¬ call.selected entry then
        restoreEntries call rest (retained ++ [entry], failures) s
      else
        match call.restoreEntry entry s.system with
        | (.ok (), system) =>
            restoreEntries call rest (retained, failures) { s with system := system }
        | (.error error, system) =>
            restoreEntries call rest (retained ++ [entry], failures ++ [error])
              { s with system := system }

/-- `restore_matching`. -/
def restoreMatching (call : RecoveryCall σ) : Prog (RecoveryHost σ) String Unit := do
  ofExcept call.gates
  let backup ← readBackupDocument
  let (retained, failures) ← restoreEntries call backup.restoreOrder ([], [])
  writeBackupDocument call.persist { backup with entries := retained.reverse }
  ofExcept (reject (failures ≠ [])
    (toString failures.length ++ " recovery entries retained: " ++
      "; ".intercalate failures))

/-- `restore_selected_from_package`, and `restore_all_from_package` without a title. -/
def restoreSelected (call : RecoveryCall σ) : Option String →
    Prog (RecoveryHost σ) String Unit
  | none => restoreMatching { call with selected := fun _ => true }
  | some stepTitle => do
      ofExcept (reject (stepTitle = "" || 128 < Lib.Text.byteLen stepTitle)
        "restore step title is invalid")
      restoreMatching { call with selected := fun entry => entry.step = some stepTitle }

end FrametimeCfg.Windows
