import FrametimeCfg.Domain.Benchmark
import FrametimeCfg.Domain.Orchestration
import FrametimeCfg.Lib.Journal
import FrametimeCfg.Windows.ActionCatalog

/-!
# The durable facts

What survives a restart of the suite: the three JSON files of the work
directory, the two registry values that continue the workflow after a restart,
and the boot setting of the current boot entry.  Each of them is replaced by
one atomic write.

The files are kept as the records they decode to.  A write that succeeds is
read back as it was written.
-/

namespace FrametimeCfg.Windows

open FrametimeCfg.Domain
open FrametimeCfg.Lib.Checks
open FrametimeCfg.Lib.Journal
open FrametimeCfg.Lib.Text

/-! ## Facts and writes -/

/-- The two registry values that continue the workflow. -/
inductive HandoffSlot where
  | phaseTwoRunOnce
  | phaseThreeRun
  deriving DecidableEq, Repr

def PHASE2_HANDOFF : String := "*!FRAMETIME_Phase2"
def PHASE3_HANDOFF : String := "FRAMETIME_CFG_FRAMETIME_Phase3"
def RUNONCE_KEY : String := "SOFTWARE\\Microsoft\\Windows\\CurrentVersion\\RunOnce"
def RUN_KEY : String := "SOFTWARE\\Microsoft\\Windows\\CurrentVersion\\Run"

/-- The registry value behind a slot, with the text it should hold. -/
def HandoffSlot.change (slot : HandoffSlot) (value : String) : RegistryChange :=
  match slot with
  | .phaseTwoRunOnce =>
      { hive := .localMachine, key := RUNONCE_KEY, name := PHASE2_HANDOFF
        value := .string value }
  | .phaseThreeRun =>
      { hive := .currentUser, key := RUN_KEY, name := PHASE3_HANDOFF
        value := .string value }

/-- The durable facts. -/
structure Durable where
  state : State := {}
  progress : Progress := {}
  history : List BenchmarkRecord := []
  /-- The registry values of the handoff. -/
  handoff : HandoffSlot → Option RegValue := fun _ => none
  /-- The `safeboot` element of the current boot entry. -/
  safeboot : Option String := none

/-- One atomic write. -/
inductive Write where
  | state (state : State)
  | progress (progress : Progress)
  | history (history : List BenchmarkRecord)
  | handoff (slot : HandoffSlot) (value : Option RegValue)
  | safeboot (value : Option String)

/-- The facts after a write. -/
def Durable.apply (d : Durable) : Write → Durable
  | .state state => { d with state := state }
  | .progress progress => { d with progress := progress }
  | .history history => { d with history := history }
  | .handoff slot value =>
      { d with handoff := fun other => if other = slot then value else d.handoff other }
  | .safeboot value => { d with safeboot := value }

instance : Store Durable Write := ⟨Durable.apply⟩

@[simp] theorem apply_eq (d : Durable) (w : Write) : Store.apply d w = d.apply w := rfl

/-- A procedure over the durable facts. -/
abbrev StoreM (α : Type) : Type := Procedure Durable Write String α

/-- Make one write. -/
def put (w : Write) : StoreM Unit := write w

@[simp] theorem returns_put {w : Write} {d : Durable} {ws : List Write} {u : Unit} :
    Returns (put w) d ws u ↔ ws = [w] := returns_write

/-! ## Reading the files -/

def WINDOWS_WORK_DIR : String := "C:\\FRAMETIME_CFG"

/-- The checks of `read_state_for_handoff` and of its siblings for the
benchmarks. -/
def checkState (s : State) : Except String State := do
  s.validate
  reject (!eqIgnoreAsciiCase s.workDir WINDOWS_WORK_DIR)
    "state workDir must be C:\\FRAMETIME_CFG"
  return s

/-- The state may be read by the checkpoints. -/
structure Readable (s : State) : Prop where
  valid : s.validate = .ok ()
  workDir : eqIgnoreAsciiCase s.workDir WINDOWS_WORK_DIR = true

theorem checkState_eq_ok {s t : State} :
    checkState s = .ok t ↔ Readable s ∧ t = s := by
  rw [checkState, check_bind_eq_ok, check_bind_eq_ok, reject_eq_ok]
  constructor
  · rintro ⟨hvalid, hdir, h⟩
    exact ⟨⟨hvalid, by simpa using hdir⟩, (Except.ok.inj h).symm⟩
  · rintro ⟨⟨hvalid, hdir⟩, rfl⟩
    exact ⟨hvalid, by simp [hdir], rfl⟩

/-- `read_state_for_handoff`, `read_state_for_baseline` and
`read_state_for_final`. -/
def readState : StoreM State := do
  let state ← read Durable.state
  check (checkState state)

/-- `read_progress_for_handoff` and its siblings. -/
def readProgress : StoreM Progress := read Durable.progress

/-- `read_history_for_baseline` and `read_history_for_final`. -/
def readHistory : StoreM (List BenchmarkRecord) := read Durable.history

/-- A state that was read: it may be read, and it is the one in the store. -/
theorem returns_readState {d : Durable} {ws : List Write} {s : State} :
    Returns readState d ws s ↔ Readable d.state ∧ s = d.state ∧ ws = [] := by
  rw [readState, returns_read_bind, returns_check, checkState_eq_ok, and_assoc]

@[simp] theorem returns_readProgress {d : Durable} {ws : List Write} {p : Progress} :
    Returns readProgress d ws p ↔ p = d.progress ∧ ws = [] := returns_read

@[simp] theorem returns_readHistory {d : Durable} {ws : List Write}
    {history : List BenchmarkRecord} :
    Returns readHistory d ws history ↔ history = d.history ∧ ws = [] := returns_read

end FrametimeCfg.Windows
