import FrametimeCfg.Lib.Newest
import FrametimeCfg.Lib.OrderedMap
import FrametimeCfg.Lib.Text

/-!
# The action journal

A cleanup writes what it plans into a journal, and what became of it.  An outcome is
entered into the newest entry of the same surface, action and target that is not executed,
or into an entry of its own.

The entries are a list, oldest first.
-/

namespace FrametimeCfg.DriverFoundry

open FrametimeCfg.Lib.Newest
open FrametimeCfg.Lib.OrderedMap

/-! ## Entries -/

structure JournalEntry where
  surface : String
  action : String
  target : String
  executed : Bool
  detail : String
  deriving DecidableEq

/-- The entry is one that an outcome for these may be entered into. -/
def JournalEntry.awaits (surface action target : String) (e : JournalEntry) : Bool :=
  !e.executed && e.surface = surface && e.action = action && e.target = target

/-- The entry is counted as failed. -/
def JournalEntry.failed (e : JournalEntry) : Bool :=
  !e.executed && "failed:".toList.isPrefixOf e.detail.toList

structure ActionJournal where
  entries : List JournalEntry := []
  deriving DecidableEq

namespace ActionJournal

/-- `plan_detail`. -/
def planDetail (surface action target detail : String) (journal : ActionJournal) :
    ActionJournal :=
  { journal with
    entries := journal.entries ++ [{ surface, action, target, executed := false, detail }] }

/-- `plan`. -/
def plan (surface action target : String) (journal : ActionJournal) : ActionJournal :=
  journal.planDetail surface action target ""

/-- `mark_executed`. -/
def markExecuted (surface action target : String) (journal : ActionJournal) : ActionJournal :=
  match updateLast (JournalEntry.awaits surface action target)
      (fun e => { e with executed := true }) journal.entries with
  | some entries => { journal with entries }
  | none => { journal with
      entries := journal.entries ++ [{ surface, action, target, executed := true, detail := "" }] }

/-- `mark_failed`. -/
def markFailed (surface action target detail : String) (journal : ActionJournal) :
    ActionJournal :=
  let detail := "failed: " ++ detail
  match updateLast (JournalEntry.awaits surface action target)
      (fun e => { e with detail }) journal.entries with
  | some entries => { journal with entries }
  | none => { journal with
      entries := journal.entries ++ [{ surface, action, target, executed := false, detail }] }

/-- `count_planned`. -/
def countPlanned (journal : ActionJournal) : Nat := journal.entries.length

/-- `count_executed`. -/
def countExecuted (journal : ActionJournal) : Nat :=
  journal.entries.countP JournalEntry.executed

/-- `count_failed`. -/
def countFailed (journal : ActionJournal) : Nat := journal.entries.countP JournalEntry.failed

/-- `surface_counts`. -/
def surfaceCounts (journal : ActionJournal) : List (String × Nat) :=
  (journal.entries.foldl (fun counts e => counts.insert e.surface (counts[e.surface]?.getD 0 + 1))
    (∅ : BTreeMap Nat)).toList

/-- `failed_actions`, of a cleanup that has run. -/
def failedActions (live : Bool) (journal : ActionJournal) : Nat :=
  if live then journal.countFailed else 0

/-- The exit code of a cleanup that has run. -/
def exitCode (live : Bool) (journal : ActionJournal) : Int32 :=
  if 0 < journal.failedActions live then 1 else 0

end ActionJournal

end FrametimeCfg.DriverFoundry
