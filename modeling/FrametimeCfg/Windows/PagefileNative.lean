import FrametimeCfg.Windows.Pagefile

/-!
# The native page file store

`wmiStore` is the store over the CIM classes: a call first resolves the
instance it means and refuses one that is not exactly as expected.  Creating a
setting is followed by an inventory in which the new instance is looked up.

Any native access may fail.  `faults` says which of the accesses to come do,
in the order in which they are made; a failed access has no effect of its own.
The read-back of a creation is an access of its own, so a creation can take
effect and fail.
-/

namespace FrametimeCfg.Windows

open FrametimeCfg.Domain
open FrametimeCfg.Lib
open FrametimeCfg.Lib.Checks
open FrametimeCfg.Lib.Effect
open FrametimeCfg.Lib.OrderedMap
open FrametimeCfg.Lib.Text

/-- The live configuration with the ones before it, the journal of the work
directory, and the accesses that fail. -/
structure PagefileHost where
  live : PagefileInventory
  /-- The configurations the host went through since the start. -/
  past : List PagefileInventory := []
  backup : BackupFile
  faults : List Bool := []
  deriving DecidableEq

/-- One native access. -/
def access : Prog PagefileHost String Unit := fun s =>
  match s.faults with
  | true :: faults => (.error "native access failed", { s with faults := faults })
  | false :: faults => (.ok (), { s with faults := faults })
  | [] => (.ok (), s)

/-- Replace the live configuration. -/
def change (live : PagefileInventory) : Prog PagefileHost String Unit :=
  update fun s => { s with live := live, past := s.past ++ [live] }

/-- The instance with the identity of the setting is exactly the setting. -/
def PagefileInventory.resolves (live : PagefileInventory) (s : PagefileSetting) : Bool :=
  live.settings.find? (·.objectPath = s.objectPath) = some s

/-- The configuration with the automatic management switched. -/
def PagefileInventory.managed (live : PagefileInventory) (value : Bool) :
    PagefileInventory :=
  { live with automaticManaged := value }

/-- The configuration after the sizes of one instance were written. -/
def PagefileInventory.resized (live : PagefileInventory) (s : PagefileSetting)
    (initial maximum : UInt32) : PagefileInventory :=
  { live with
    settings := live.settings.map fun other =>
      if other.objectPath = s.objectPath then
        { other with initialSize := initial, maximumSize := maximum }
      else other }

/-- The configuration after one instance was deleted. -/
def PagefileInventory.deleted (live : PagefileInventory) (t : CreatedPagefileToken) :
    PagefileInventory :=
  { live with settings := live.settings.filter (·.objectPath ≠ t.objectPath) }

/-- The identity the store gives to a new instance: its object path and its
relative path. -/
abbrev Naming : Type := PagefileInventory → String → String × String

/-- The instance that a creation adds. -/
def newSetting (naming : Naming) (live : PagefileInventory) (path : String)
    (initial maximum : UInt32) : PagefileSetting where
  path := path
  initialSize := initial
  maximumSize := maximum
  objectPath := (naming live path).1
  relativePath := (naming live path).2

/-- `WmiStore::inventory`. -/
def wmiInventory : Prog PagefileHost String PagefileInventory := do
  access
  gets PagefileHost.live

/-- `WmiStore::create`. -/
def wmiCreate (naming : Naming) (path : String) (initial maximum : UInt32) :
    Prog PagefileHost String CreatedPagefileToken := do
  access
  let live ← gets PagefileHost.live
  ofExcept (reject (live.settings.any (·.isAt path)) "CREATE_ONLY pagefile")
  change { live with
    settings := live.settings ++ [newSetting naming live path initial maximum] }
  let after ← wmiInventory
  let created ← ofExcept (okOr (sole (after.settings.filter (·.isAt path)))
    "CREATE_ONLY pagefile did not produce one exact instance")
  return created.token

/-- `WmiStore`. -/
def wmiStore (naming : Naming) : PagefileStore PagefileHost where
  inventory := wmiInventory
  setAutomatic objectPath relativePath expected value := do
    access
    let live ← gets PagefileHost.live
    ofExcept (reject (live.computerObjectPath ≠ objectPath ||
        live.computerRelativePath ≠ relativePath ||
        expected.any (· ≠ live.automaticManaged))
      "exact computer-system token no longer resolves to its captured identity or value")
    change (live.managed value)
  update setting initial maximum := do
    access
    let live ← gets PagefileHost.live
    ofExcept (reject (!live.resolves setting)
      "exact pagefile token no longer resolves to its captured class, identity, or values")
    change (live.resized setting initial maximum)
  create := wmiCreate naming
  delete created := do
    access
    let live ← gets PagefileHost.live
    ofExcept (reject (!live.resolves created.setting)
      "exact pagefile token no longer resolves to its captured class, identity, or values")
    change (live.deleted created)

/-! ## What the calls do -/

namespace PagefileHost

/-- The next access fails. -/
def failing (s : PagefileHost) : Bool := s.faults.head? = some true

/-- The host after an access. -/
def pop (s : PagefileHost) : PagefileHost := { s with faults := s.faults.tail }

/-- The host after a change of the configuration. -/
def become (s : PagefileHost) (live : PagefileInventory) : PagefileHost :=
  { s with live := live, past := s.past ++ [live] }

section

variable (s : PagefileHost) (live : PagefileInventory)

@[simp] theorem live_pop : s.pop.live = s.live := rfl
@[simp] theorem past_pop : s.pop.past = s.past := rfl
@[simp] theorem backup_pop : s.pop.backup = s.backup := rfl
@[simp] theorem faults_pop : s.pop.faults = s.faults.tail := rfl
@[simp] theorem live_become : (s.become live).live = live := rfl
@[simp] theorem past_become : (s.become live).past = s.past ++ [live] := rfl
@[simp] theorem backup_become : (s.become live).backup = s.backup := rfl
@[simp] theorem faults_become : (s.become live).faults = s.faults := rfl

end

variable {s : PagefileHost}

/-- Without faults, nothing fails. -/
theorem failing_of_noFaults (h : s.faults = []) : s.failing = false := by
  rw [failing, h]
  rfl

theorem pop_of_noFaults (h : s.faults = []) : s.pop = s := by
  rw [pop, h, List.tail_nil, ← h]

end PagefileHost

section

variable {s : PagefileHost}

theorem access_failing (h : s.failing = true) :
    access s = (.error "native access failed", s.pop) := by
  obtain ⟨live, past, backup, faults⟩ := s
  match faults with
  | [] => cases h
  | false :: faults => cases h
  | true :: faults => rfl

theorem access_passing (h : s.failing = false) : access s = (.ok (), s.pop) := by
  obtain ⟨live, past, backup, faults⟩ := s
  match faults with
  | [] => rfl
  | false :: faults => rfl
  | true :: faults => cases h

variable {naming : Naming}

theorem inventory_passing (h : s.failing = false) :
    (wmiStore naming).inventory s = (.ok s.live, s.pop) := by
  show (access >>= _) s = _
  rw [bind_apply_ok (access_passing h)]
  rfl

theorem inventory_failing (h : s.failing = true) :
    (wmiStore naming).inventory s = (.error "native access failed", s.pop) := by
  show (access >>= _) s = _
  rw [bind_apply_error (access_failing h)]

/-- The identity and the expected value of a switch of the automatic
management. -/
def PagefileInventory.isComputer (live : PagefileInventory)
    (objectPath relativePath : String) (expected : Option Bool) : Bool :=
  live.computerObjectPath = objectPath && live.computerRelativePath = relativePath &&
    expected.all (· = live.automaticManaged)

theorem setAutomatic_passing {objectPath relativePath : String} {expected : Option Bool}
    {value : Bool} (h : s.failing = false)
    (hid : s.live.isComputer objectPath relativePath expected = true) :
    (wmiStore naming).setAutomatic objectPath relativePath expected value s =
      (.ok (), s.pop.become (s.live.managed value)) := by
  have hrefused : (s.live.computerObjectPath ≠ objectPath ||
      s.live.computerRelativePath ≠ relativePath ||
      expected.any (· ≠ s.live.automaticManaged)) = false := by
    simp only [PagefileInventory.isComputer, Bool.and_eq_true, decide_eq_true_eq] at hid
    obtain ⟨⟨hobject, hrelative⟩, hexpected⟩ := hid
    cases expected with
    | none => simp [hobject, hrelative]
    | some value =>
        have hvalue : value = s.live.automaticManaged := by simpa using hexpected
        simp [hobject, hrelative, hvalue]
  show (access >>= _) s = _
  rw [bind_apply_ok (access_passing h)]
  show (Effect.ofExcept (reject _ _) >>= _) s.pop = _
  rw [PagefileHost.live_pop, hrefused]
  rfl

theorem update_passing {setting : PagefileSetting} {initial maximum : UInt32}
    (h : s.failing = false) (hid : s.live.resolves setting = true) :
    (wmiStore naming).update setting initial maximum s =
      (.ok (), s.pop.become (s.live.resized setting initial maximum)) := by
  show (access >>= _) s = _
  rw [bind_apply_ok (access_passing h)]
  show (Effect.ofExcept (reject _ _) >>= _) s.pop = _
  rw [PagefileHost.live_pop, hid]
  rfl

/-- A failed access stops every call before its effect. -/
theorem setAutomatic_failing {objectPath relativePath : String} {expected : Option Bool}
    {value : Bool} (h : s.failing = true) :
    (wmiStore naming).setAutomatic objectPath relativePath expected value s =
      (.error "native access failed", s.pop) :=
  bind_apply_error (access_failing h)

theorem create_failing {path : String} {initial maximum : UInt32} (h : s.failing = true) :
    (wmiStore naming).create path initial maximum s =
      (.error "native access failed", s.pop) :=
  bind_apply_error (access_failing h)

/-- An access that returned. -/
theorem access_returned {t : PagefileHost} {u : Unit} (h : access s = (.ok u, t)) :
    s.failing = false ∧ t = s.pop := by
  cases hf : s.failing with
  | true =>
      rw [access_failing hf] at h
      cases h
  | false =>
      rw [access_passing hf] at h
      obtain ⟨-, rfl⟩ := Prod.mk.inj h
      exact ⟨rfl, rfl⟩

/-- A guarded change of the configuration that returned. -/
theorem guarded_returned {refused : PagefileInventory → Bool} {message : String}
    {next : PagefileInventory → PagefileInventory} {t : PagefileHost} {u : Unit}
    (h : (access >>= fun _ => gets PagefileHost.live >>= fun live =>
      Effect.ofExcept (reject (refused live) message) >>= fun _ =>
        change (next live)) s = (.ok u, t)) :
    s.failing = false ∧ refused s.live = false ∧ t = s.pop.become (next s.live) := by
  obtain ⟨_, s₁, haccess, h⟩ := bind_eq_ok h
  obtain ⟨hpassed, rfl⟩ := access_returned haccess
  obtain ⟨live, s₂, hlive, h⟩ := bind_eq_ok h
  obtain ⟨hvalue, rfl⟩ := Prod.mk.inj hlive
  obtain rfl := Except.ok.inj hvalue
  obtain ⟨_, s₃, hreject, h⟩ := bind_eq_ok h
  obtain ⟨hguard, rfl⟩ := Prod.mk.inj hreject
  obtain ⟨-, rfl⟩ := Prod.mk.inj h
  exact ⟨hpassed, reject_eq_ok.mp hguard, rfl⟩

/-- A switch of the management that returned. -/
theorem setAutomatic_returned {objectPath relativePath : String} {expected : Option Bool}
    {value : Bool} {t : PagefileHost} {u : Unit}
    (h : (wmiStore naming).setAutomatic objectPath relativePath expected value s =
      (.ok u, t)) : t = s.pop.become (s.live.managed value) :=
  (guarded_returned h).2.2

/-- An update that returned meant the instance as it was. -/
theorem update_returned {setting : PagefileSetting} {initial maximum : UInt32}
    {t : PagefileHost} {u : Unit}
    (h : (wmiStore naming).update setting initial maximum s = (.ok u, t)) :
    s.live.resolves setting = true ∧
      t = s.pop.become (s.live.resized setting initial maximum) := by
  obtain ⟨-, hguard, rfl⟩ := guarded_returned h
  exact ⟨by simpa using hguard, rfl⟩

/-- A deletion that returned meant the instance as it was. -/
theorem delete_returned {created : CreatedPagefileToken} {t : PagefileHost} {u : Unit}
    (h : (wmiStore naming).delete created s = (.ok u, t)) :
    s.live.resolves created.setting = true ∧ t = s.pop.become (s.live.deleted created) := by
  obtain ⟨-, hguard, rfl⟩ := guarded_returned h
  exact ⟨by simpa using hguard, rfl⟩

theorem delete_passing {created : CreatedPagefileToken} (h : s.failing = false)
    (hid : s.live.resolves created.setting = true) :
    (wmiStore naming).delete created s =
      (.ok (), s.pop.become (s.live.deleted created)) := by
  show (access >>= _) s = _
  rw [bind_apply_ok (access_passing h)]
  show (Effect.ofExcept (reject _ _) >>= _) s.pop = _
  rw [PagefileHost.live_pop, hid]
  rfl

/-- The configuration after a creation. -/
def PagefileInventory.extended (live : PagefileInventory) (setting : PagefileSetting) :
    PagefileInventory :=
  { live with settings := live.settings ++ [setting] }

/-- A creation at a free path whose read-back works. -/
theorem create_passing {path : String} {initial maximum : UInt32}
    (h : s.failing = false) (hread : s.pop.failing = false)
    (hfree : s.live.settings.any (·.isAt path) = false) :
    (wmiStore naming).create path initial maximum s =
      (.ok (newSetting naming s.live path initial maximum).token,
        (s.pop.become (s.live.extended
          (newSetting naming s.live path initial maximum))).pop) := by
  have hself : (newSetting naming s.live path initial maximum).isAt path = true := by
    simp [PagefileSetting.isAt, newSetting, eqIgnoreAsciiCase]
  have hsole : sole ((s.live.extended
      (newSetting naming s.live path initial maximum)).settings.filter (·.isAt path)) =
      some (newSetting naming s.live path initial maximum) := by
    have hnone : s.live.settings.filter (·.isAt path) = [] := by
      rw [List.filter_eq_nil_iff]
      intro x hx hat
      exact absurd hfree (by simpa using ⟨x, hx, hat⟩)
    have hone : [newSetting naming s.live path initial maximum].filter (·.isAt path) =
        [newSetting naming s.live path initial maximum] := by simp [hself]
    rw [PagefileInventory.extended, List.filter_append, hnone, hone]
    rfl
  have hread' : (s.pop.become (s.live.extended
      (newSetting naming s.live path initial maximum))).failing = false := hread
  show (access >>= _) s = _
  rw [bind_apply_ok (access_passing h)]
  show (Effect.ofExcept (reject _ _) >>= _) s.pop = _
  rw [PagefileHost.live_pop, hfree]
  show ((wmiStore naming).inventory >>= _) (s.pop.become (s.live.extended _)) = _
  rw [bind_apply_ok (inventory_passing hread'), PagefileHost.live_become, hsole]
  rfl

/-- A creation at a free path whose read-back fails: the instance is there. -/
theorem create_unread {path : String} {initial maximum : UInt32}
    (h : s.failing = false) (hread : s.pop.failing = true)
    (hfree : s.live.settings.any (·.isAt path) = false) :
    (wmiStore naming).create path initial maximum s =
      (.error "native access failed",
        (s.pop.become (s.live.extended
          (newSetting naming s.live path initial maximum))).pop) := by
  have hread' : (s.pop.become (s.live.extended
      (newSetting naming s.live path initial maximum))).failing = true := hread
  show (access >>= _) s = _
  rw [bind_apply_ok (access_passing h)]
  show (Effect.ofExcept (reject _ _) >>= _) s.pop = _
  rw [PagefileHost.live_pop, hfree]
  show ((wmiStore naming).inventory >>= _) (s.pop.become (s.live.extended _)) = _
  rw [bind_apply_error (inventory_failing hread')]

end

/-! ## The calls of the live backend -/

/-- How the transaction of P1:8 fails. -/
inductive PagefileError where
  | plain (message : String)
  /-- "target and automatic-management compensation completed" -/
  | compensated (context message : String)
  /-- "compensation also failed" -/
  | uncompensated (context message rollback : String)
  deriving DecidableEq

/-- The text of the error. -/
def PagefileError.text : PagefileError → String
  | .plain message => message
  | .compensated context message =>
      context ++ ": " ++ message ++
        "; target and automatic-management compensation completed"
  | .uncompensated context message rollback =>
      context ++ ": " ++ message ++ "; compensation also failed: " ++ rollback

abbrev PagefileM (α : Type) : Type := Prog PagefileHost PagefileError α

section

variable (naming : Naming)

/-- `native_pagefile_inventory`. -/
def nativePagefileInventory : Prog PagefileHost String PagefileInventory := do
  access
  wmiInventory

/-- `native_pagefile_compensate`. -/
def nativePagefileCompensate (binding : PagefileBinding)
    (created : Option CreatedPagefileToken) : Prog PagefileHost String Unit := do
  access
  compensatePagefileMutation (wmiStore naming) binding created

/-- `compound_pagefile_error`: report a failure after compensating it. -/
def compensateAfter {α : Type} (context : String) (rollback : Prog PagefileHost String Unit)
    (message : String) : PagefileM α := do
  match ← attempt rollback with
  | .ok () => raise (.compensated context message)
  | .error rollback => raise (.uncompensated context message rollback)

/-- `native_pagefile_begin`. -/
def nativePagefileBegin (binding : PagefileBinding) :
    PagefileM (Option CreatedPagefileToken) := do
  relabel .plain access
  match ← attempt (beginPagefileMutation (wmiStore naming) binding) with
  | .ok created => pure created
  | .error message =>
      compensateAfter "P1:8 mutation"
        (compensatePagefileMutation (wmiStore naming) binding none) message

/-- `native_pagefile_verify`. -/
def nativePagefileVerify (binding : PagefileBinding)
    (created : Option CreatedPagefileToken) : Prog PagefileHost String Unit := do
  access
  verifyPagefileMutation (wmiStore naming) binding created

/-! ## The journal -/

/-- The P1:8 transaction of an entry. -/
def pagefileRecord : BackupEntry → Option PagefileTransaction
  | .pagefileTransaction step _ t => if step = "P1:8" then some t else none
  | _ => none

/-- The record was written before the creation and not touched since. -/
def awaitsToken (t : PagefileTransaction) : Bool :=
  t.unknown.isEmpty && t.createdObjectPath.isNone && t.createdRelativePath.isNone &&
    t.createdInitialSize.isNone && t.createdMaximumSize.isNone &&
    t.mutationIntent = some "create_pending"

/-- The record with the created token. -/
def withToken (t : PagefileTransaction) (created : CreatedPagefileToken) :
    PagefileTransaction :=
  { t with
    createdObjectPath := some created.objectPath
    createdRelativePath := some created.relativePath
    createdInitialSize := some created.initialSize.toUInt64
    createdMaximumSize := some created.maximumSize.toUInt64
    mutationIntent := some "created" }

/-- The entry with the token in its P1:8 record. -/
def recordToken (created : CreatedPagefileToken) : BackupEntry → BackupEntry
  | .pagefileTransaction step now t =>
      if step = "P1:8" then .pagefileTransaction step now (withToken t created)
      else .pagefileTransaction step now t
  | entry => entry

/-- The journal that `persist_created_pagefile_token` writes. -/
def journalWithToken (backup : BackupFile) (created : CreatedPagefileToken) :
    Except String BackupFile := do
  let t ← okOr (sole (backup.entries.filterMap pagefileRecord))
    "persisted backup does not contain exactly one P1:8 transaction"
  reject (!awaitsToken t) "persisted P1:8 create journal has unsafe provenance"
  return { backup with entries := backup.entries.map (recordToken created) }

/-- An atomic write of the journal: it may fail before the file is replaced,
and the check after the replacement may fail. -/
def writeJournal (backup : BackupFile) : Prog PagefileHost String Unit := do
  access
  update fun s => { s with backup := backup }
  access

/-- The journal, read. -/
def readJournal : Prog PagefileHost String BackupFile := do
  access
  gets PagefileHost.backup

/-- `persist_created_pagefile_token`. -/
def persistCreatedPagefileToken (created : CreatedPagefileToken) :
    Prog PagefileHost String Unit := do
  ofExcept (reject (created.objectPath.isEmpty || created.relativePath.isEmpty)
    "created pagefile token is incomplete")
  let backup ← readJournal
  let backup ← ofExcept (journalWithToken backup created)
  writeJournal backup

/-! ## One attempt -/

/-- `apply_pagefile_action`. -/
def applyPagefileAction (binding : PagefileBinding) :
    PagefileM (Option CreatedPagefileToken) := do
  match ← nativePagefileBegin naming binding with
  | some created =>
      match ← attempt (persistCreatedPagefileToken created) with
      | .ok () => return some created
      | .error message =>
          compensateAfter "persist exact created pagefile token"
            (nativePagefileCompensate naming binding (some created)) message
  | none => return none

/-- `verify_pagefile_action`. -/
def verifyPagefileAction (binding : PagefileBinding)
    (created : Option CreatedPagefileToken) : PagefileM Unit := do
  match ← attempt (nativePagefileVerify naming binding created) with
  | .ok () => pure ()
  | .error message =>
      compensateAfter "verify P1:8 postconditions"
        (nativePagefileCompensate naming binding created) message

/-- `capture_pagefile_backup`. -/
def capturePagefileBackup (state : State) : PagefileM PagefileBinding := do
  let inventory ← relabel .plain nativePagefileInventory
  relabel .plain (ofExcept (reject
    (state.pagefileMb = 0 && 32 * 1024 ≤ inventory.physicalRamMb)
    "P1:8 is inapplicable with 32 GiB or more physical RAM and no explicit pagefile override"))
  relabel .plain (ofExcept (capturePagefileBinding "P1:8" state inventory))

/-- `persist_backups` for the entry of P1:8. -/
def persistPagefileBackup (now : String) (binding : PagefileBinding) : PagefileM Unit := do
  let backup ← relabel .plain readJournal
  relabel .plain (writeJournal (backup.pushFirstValue (pagefileBackupEntry now binding)))

/-- A complete attempt of P1:8: capture, persist, apply and verify. -/
def attemptPagefile (state : State) (now : String) : PagefileM Unit := do
  let binding ← capturePagefileBackup state
  persistPagefileBackup now binding
  let created ← applyPagefileAction naming binding
  verifyPagefileAction naming binding created

end

end FrametimeCfg.Windows
