import FrametimeCfg.Domain.Progress
import FrametimeCfg.Domain.State

/-!
# Migration of an older installation

`assess_inventory` decides whether an older installation may be migrated: not while a
reboot mechanism is armed or work of a later phase is recorded, and otherwise after a
confirmation.  It decides on what the two decoders return and on an inventory of the
host.
-/

namespace FrametimeCfg.Domain

/-- What refuses a migration. -/
inductive LegacyHandoff where
  | none
  | phaseTwoArmed
  | phaseThreeArmed
  | safeBootArmed
  | incompleteRuntime
  deriving DecidableEq, Repr

/-- Read-only inventory collected before migration writes anything. -/
structure MigrationInventory where
  phaseTwoRunOnceArmed : Bool := false
  phaseThreeRunArmed : Bool := false
  safeBootArmed : Bool := false
  incompleteRuntime : Bool := false
  deriving DecidableEq, Repr

inductive MigrationDecision where
  | notNeeded
  | confirmIdle
  | confirmPartialPhaseOne (completed skipped : Nat)
  | refuse (reason : LegacyHandoff)
  deriving DecidableEq, Repr

/-- The state holds a transaction, or the one it held is malformed. -/
def phaseOneArmed (state : State) : Bool :=
  state.phase1SafeModeReady || state.activeRebootTransaction.isSome ||
    state.unknown.contains "activeRebootTransaction"

/-- `assess_inventory`. -/
def assessInventory (state : Option State) (progress : Option Progress)
    (inventory : MigrationInventory) : MigrationDecision :=
  if inventory.phaseTwoRunOnceArmed then .refuse .phaseTwoArmed
  else if inventory.phaseThreeRunArmed then .refuse .phaseThreeArmed
  else if inventory.safeBootArmed then .refuse .safeBootArmed
  else if inventory.incompleteRuntime then .refuse .incompleteRuntime
  else if state.isNone && progress.isNone then .notNeeded
  else if progress.any (fun progress =>
      progress.hasResolvedInPhase .two || progress.hasResolvedInPhase .three) ||
      state.any phaseOneArmed then .refuse .incompleteRuntime
  else match progress with
    | .none => .confirmIdle
    | some progress =>
        let completed := (stepCatalog.filter fun step =>
          step.id.phase = .one && progress.isCompleted step.id).length
        let skipped := (stepCatalog.filter fun step =>
          step.id.phase = .one && progress.isSkipped step.id).length
        if completed + skipped = 0 then .confirmIdle
        else .confirmPartialPhaseOne completed skipped

end FrametimeCfg.Domain
