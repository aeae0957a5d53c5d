import FrametimeCfg.Domain.AuditFile
import FrametimeCfg.Lib.Effect

/-!
# The store of irreversible audits

The audit document as the live backend reads and writes it.  The document is held here as
the list of its entries; what its codec makes of a record is a matter of its own.

Every call may fail: the lock may be taken, the document may not be read, its write may fail
and leave what was there, and what was written may not be read back.
-/

namespace FrametimeCfg.Windows.AuditDocument

open FrametimeCfg.Domain
open FrametimeCfg.Lib.Checks
open FrametimeCfg.Lib.Effect

/-- The document, where there is one, and whether `transaction_lock` is held. -/
structure AuditStore where
  file : Option AuditFile
  locked : Bool

/-- What goes wrong in one call. -/
inductive StoreFault where
  | lock (message : String)
  | read (message : String)
  | write (message : String)
  | readback (message : String)

abbrev AuditProg := Prog AuditStore String

/-- `load_audit_file`. -/
def loadAuditFile (fault : Option StoreFault) (now : String) : AuditProg AuditFile := fun s =>
  match fault with
  | some (.read message) => (.error ("read audit: " ++ message), s)
  | _ => (.ok (s.file.getD { created := now }), s)

/-- `persist_audit_file`. -/
def persistAuditFile (fault : Option StoreFault) (file : AuditFile) : AuditProg Unit := fun s =>
  match fault with
  | some (.write message) => (.error ("persist audit: " ++ message), s)
  | some (.readback message) =>
      (.error ("read back audit: " ++ message), { s with file := some file })
  | _ => (.ok (), { s with file := some file })

/-- `irreversible_target`. -/
def irreversibleTarget (step : String) : Except String ManualRecoveryTarget :=
  okOr (expectedManualTarget step) (step ++ " has no fixed irreversible recovery target")

/-- `pending_entry_identity`: the step and the time of a pending irreversible record. -/
def pendingEntryIdentity : AuditEntry → Option (String × String)
  | .manual record =>
      if record.outcome = .pending then some (record.step, record.capturedAt) else none
  | .mixed record =>
      if record.outcome = .pending then some (record.step, record.capturedAt) else none
  | .rebuildable _ | .unknown _ => none

/-- The pending irreversible records of a step. -/
def pendingAudits (entries : List AuditEntry) (step : String) :
    List IrreversibleAudit :=
  (entries.filterMap AuditEntry.irreversible).filter fun audit =>
    audit.step = step && audit.outcome = .pending

/-- `pending_irreversible_audit`. -/
def pendingIrreversibleAudit (file : AuditFile) (step : String) :
    Except String (Option IrreversibleAudit) := do
  reject (!file.unknown.isEmpty) "audit document has unrecognized root fields"
  match pendingAudits file.entries step with
  | [] => .ok none
  | [audit] => .ok (some audit)
  | pending =>
      .error (step ++ " audit contains " ++ toString pending.length ++
        " pending records; retry is ambiguous")

/-! ## Capture -/

/-- A manual capture takes the lock, and a mixed one finds it held. -/
def takeLock (fault : Option StoreFault) (step : String) (requirement : RecoveryRequirement) :
    AuditProg Unit := fun s =>
  if requirement = .manualRecoveryAudit then
    if s.locked then
      (.error (step ++ " manual audit capture found an unrelated active transaction"), s)
    else
      match fault with
      | some (.lock message) => (.error message, s)
      | _ => (.ok (), { s with locked := true })
  else if requirement ≠ .mixed then
    (.error (step ++ " does not declare irreversible recovery"), s)
  else if ¬ s.locked then
    (.error (step ++ " mixed audit capture requires the retained backup transaction lock"), s)
  else (.ok (), s)

/-- The lock of a manual capture is given up where the document could not be used. -/
def releaseOnError {α : Type} (requirement : RecoveryRequirement) (m : AuditProg α) :
    AuditProg α := fun s =>
  match m s with
  | (.error e, t) =>
      (.error e, if requirement = .manualRecoveryAudit then { t with locked := false } else t)
  | (.ok a, t) => (.ok a, t)

/-- The record of `step` that is pending in the document. -/
def loadPending (fault : Option StoreFault) (now step : String) :
    AuditProg (Option IrreversibleAudit) := do
  let file ← loadAuditFile fault now
  ofExcept (pendingIrreversibleAudit file step)

/-- `capture_irreversible_audit`.  A record that is pending is taken up again. -/
def captureIrreversibleAudit (fault : Option StoreFault) (now step : String)
    (requirement : RecoveryRequirement) : AuditProg IrreversibleAudit := do
  let target ← ofExcept (irreversibleTarget step)
  takeLock fault step requirement
  let existing ← releaseOnError requirement (loadPending fault now step)
  match existing, requirement with
  | some audit, _ => pure audit
  | none, .manualRecoveryAudit => pure (.manual (.mkPending step now target))
  | none, .mixed => pure (.mixed (.mkPending step now target))
  | none, _ => raise "irreversible audit recovery requirement changed during capture"

/-! ## Persisting and closing -/

/-- `persist_irreversible_audit`. -/
def persistIrreversibleAudit (fault : Option StoreFault) (now : String)
    (audit : IrreversibleAudit) : AuditProg Unit := do
  let locked ← gets (·.locked)
  ofExcept (reject (!locked)
    "irreversible audit persistence requires the retained work lock")
  ofExcept (reject (!audit.isValidPendingFor audit.requirement audit.step)
    (audit.step ++ " irreversible audit is not exact and pending"))
  let file ← loadAuditFile fault now
  match ← ofExcept (pendingIrreversibleAudit file audit.step) with
  | some existing => do
      ofExcept (reject (existing ≠ audit)
        (audit.step ++ " pending irreversible audit changed during retry"))
      persistAuditFile fault file
  | none =>
      persistAuditFile fault { file with entries := file.entries ++ [.ofIrreversible audit] }

/-- The outcome of an update: closed, and failed exactly where it should be. -/
def outcomeOk (failed : Bool) : ManualRecoveryAuditOutcome → Bool
  | .pending => false
  | .verified _ => !failed
  | .failed _ => failed

/-- The entry is the pending record that `audit` closes. -/
def closedBy (audit : IrreversibleAudit) (entry : AuditEntry) : Bool :=
  pendingEntryIdentity entry = some (audit.step, audit.capturedAt)

/-- `replace_irreversible_audit`. -/
def replaceIrreversibleAudit (fault : Option StoreFault) (now : String)
    (audit : IrreversibleAudit) (failed : Bool) : AuditProg Unit := do
  let locked ← gets (·.locked)
  ofExcept (reject (!locked) "irreversible audit update requires the retained work lock")
  ofExcept (reject (!outcomeOk failed audit.outcome || audit.capturedAt.isEmpty)
    (audit.step ++ " irreversible audit outcome is invalid"))
  let file ← loadAuditFile fault now
  let found := file.entries.countP (closedBy audit)
  ofExcept (reject (found ≠ 1) (audit.step ++
    " expected one pending irreversible audit, found " ++ toString found))
  persistAuditFile fault { file with
    entries := file.entries.map fun entry =>
      if closedBy audit entry then .ofIrreversible audit else entry }

/-- `fail_irreversible_audit` clears the state of the transaction, whatever the outcome. -/
def failIrreversibleAudit (fault : Option StoreFault) (now : String)
    (audit : IrreversibleAudit) : AuditProg Unit := fun s =>
  let (result, t) := replaceIrreversibleAudit fault now audit true s
  (result, { t with locked := false })

end FrametimeCfg.Windows.AuditDocument
