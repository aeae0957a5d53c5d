import FrametimeCfg.Windows.PagefileNative
import Mathlib

/-!
# Restoring the page file transaction

Every native call names the sizes it expects.  The mutation leaves the target
with the sizes it wrote, and the restore of a target that existed passes the
captured ones: it is refused unless the two agree.  A created target is deleted
with the sizes it was created with, and the restore goes through.
-/

namespace FrametimeCfg.Verified.PagefileInverse

open FrametimeCfg.Domain
open FrametimeCfg.Lib
open FrametimeCfg.Lib.Effect
open FrametimeCfg.Lib.Text
open FrametimeCfg.Windows

/-! ## Well-formed inventories -/

/-- Two settings share an identity. -/
def clash (a b : PagefileSetting) : Bool :=
  eqIgnoreAsciiCase a.objectPath b.objectPath ||
    eqIgnoreAsciiCase a.relativePath b.relativePath || a.isAt b.path

theorem clash_comm (a b : PagefileSetting) : clash a b = clash b a := by
  simp only [clash, eqIgnoreAsciiCase, PagefileSetting.isAt, eq_comm]

/-- The settings are well formed, and no two of them share an identity. -/
structure Separate (settings : List PagefileSetting) : Prop where
  valid : ∀ s ∈ settings, validatePagefileIdentity s = .ok ()
  apart : settings.Pairwise fun a b => clash a b = false

/-- A list of settings that was validated. -/
theorem validateSettings_eq_ok {seen l : List PagefileSetting} :
    validateSettings seen l = .ok () ↔
      Separate l ∧ ∀ s ∈ l, ∀ other ∈ seen, clash other s = false := by
  induction l generalizing seen with
  | nil =>
      constructor
      · intro _
        exact ⟨⟨by simp, List.Pairwise.nil⟩, by simp⟩
      · intro _
        rfl
  | cons s l ih =>
      rw [validateSettings, Checks.check_bind_eq_ok, Checks.check_bind_eq_ok,
        Checks.reject_eq_ok, ih]
      have hseen : (seen.any fun other =>
          eqIgnoreAsciiCase other.objectPath s.objectPath ||
          eqIgnoreAsciiCase other.relativePath s.relativePath || other.isAt s.path) = false ↔
          ∀ other ∈ seen, clash other s = false := by
        simp [clash]
      rw [hseen]
      constructor
      · rintro ⟨hvalid, hapart, ⟨hl, hlapart⟩, hcons⟩
        refine ⟨⟨?_, ?_⟩, ?_⟩
        · exact List.forall_mem_cons.mpr ⟨hvalid, hl⟩
        · refine List.pairwise_cons.mpr ⟨fun x hx => ?_, hlapart⟩
          exact hcons x hx s List.mem_cons_self
        · refine List.forall_mem_cons.mpr ⟨hapart, fun x hx other hother => ?_⟩
          exact hcons x hx other (List.mem_cons_of_mem _ hother)
      · rintro ⟨⟨hvalid, hpair⟩, hseen⟩
        obtain ⟨hs, hl⟩ := List.forall_mem_cons.mp hvalid
        obtain ⟨hapart, hlapart⟩ := List.pairwise_cons.mp hpair
        obtain ⟨hsseen, hlseen⟩ := List.forall_mem_cons.mp hseen
        refine ⟨hs, hsseen, ⟨hl, hlapart⟩, fun x hx => ?_⟩
        exact List.forall_mem_cons.mpr ⟨hapart x hx, hlseen x hx⟩

/-- An inventory that was validated. -/
theorem validateInventory_eq_ok {inventory : PagefileInventory} :
    validateInventory inventory = .ok () ↔
      (inventory.computerObjectPath.isEmpty || inventory.computerRelativePath.isEmpty ||
        inventory.systemDrive.isEmpty) = false ∧ Separate inventory.settings := by
  rw [validateInventory, Checks.check_bind_eq_ok, Checks.reject_eq_ok,
    validateSettings_eq_ok]
  simp

section

variable {settings : List PagefileSetting}

/-- A setting of a well-formed list is found by its object path. -/
theorem Separate.find_objectPath (h : Separate settings) {s : PagefileSetting}
    (hs : s ∈ settings) : settings.find? (·.objectPath = s.objectPath) = some s := by
  obtain ⟨-, hapart⟩ := h
  induction settings with
  | nil => cases hs
  | cons x l ih =>
      obtain ⟨hx, hl⟩ := List.pairwise_cons.mp hapart
      rcases List.mem_cons.mp hs with rfl | hmem
      · simp
      · have hne : x.objectPath ≠ s.objectPath := by
          intro heq
          have := hx s hmem
          simp [clash, eqIgnoreAsciiCase, heq] at this
        rw [List.find?_cons_of_neg (by simpa using hne)]
        exact ih hmem hl

/-- Two settings of a well-formed list that share an identity are the same. -/
theorem Separate.eq_of_clash (h : Separate settings) {a b : PagefileSetting}
    (ha : a ∈ settings) (hb : b ∈ settings) (hclash : clash a b = true) : a = b := by
  by_contra hne
  have hsymm : Std.Symm fun a b => clash a b = false :=
    ⟨fun x y hxy => (clash_comm y x).trans hxy⟩
  have hall : clash a b = false := h.apart.forall ha hb hne
  rw [hclash] at hall
  cases hall

theorem Separate.sublist {l : List PagefileSetting} (h : Separate settings)
    (hl : l.Sublist settings) : Separate l :=
  ⟨fun s hs => h.valid s (hl.subset hs), h.apart.sublist hl⟩

/-- At most one setting is at a path. -/
theorem Separate.filter_isAt (h : Separate settings) (path : String) :
    settings.filter (·.isAt path) = (settings.find? (·.isAt path)).toList := by
  obtain ⟨-, hapart⟩ := h
  induction settings with
  | nil => rfl
  | cons x l ih =>
      obtain ⟨hx, hl⟩ := List.pairwise_cons.mp hapart
      by_cases hat : x.isAt path = true
      · have hnone : l.filter (·.isAt path) = [] := by
          rw [List.filter_eq_nil_iff]
          intro y hy hyat
          have hclash : clash x y = true := by
            have hpaths : asciiLower x.path = asciiLower y.path := by
              simp only [PagefileSetting.isAt, eqIgnoreAsciiCase, decide_eq_true_eq] at hat hyat
              rw [hat, hyat]
            simp [clash, PagefileSetting.isAt, eqIgnoreAsciiCase, hpaths]
          rw [hx y hy] at hclash
          cases hclash
        simp [hat, hnone]
      · simpa [hat] using ih hl

end

/-! ## The captured binding -/

/-- What a capture has checked. -/
structure Captured (inventory : PagefileInventory) (b : PagefileBinding) : Prop where
  before : b.before = inventory
  valid : validateInventory inventory = .ok ()
  targetPath : pagefileTarget inventory.systemDrive = .ok b.targetPath
  maximumSize : b.maximumSize = b.initialSize
  target : b.target = inventory.settings.find? (·.isAt b.targetPath)

theorem captured_of_capture {step : String} {state : State}
    {inventory : PagefileInventory} {b : PagefileBinding}
    (h : capturePagefileBinding step state inventory = .ok b) :
    b.step = step ∧ Captured inventory b := by
  obtain ⟨hvalid, h⟩ := Checks.check_bind_eq_ok.mp h
  obtain ⟨targetPath, htarget, h⟩ := Checks.bind_eq_ok.mp h
  obtain ⟨initialSize, -, h⟩ := Checks.bind_eq_ok.mp h
  obtain ⟨-, h⟩ := Checks.check_bind_eq_ok.mp h
  obtain ⟨-, h⟩ := Checks.check_bind_eq_ok.mp h
  obtain rfl := Except.ok.inj h
  refine ⟨rfl, ⟨rfl, hvalid, htarget, rfl, ?_⟩⟩
  show (inventory.settings.filter (·.isAt targetPath)).head? = _
  rw [(validateInventory_eq_ok.mp hvalid).2.filter_isAt]
  cases inventory.settings.find? (·.isAt targetPath) <;> rfl

section

variable {inventory : PagefileInventory} {b : PagefileBinding}

theorem Captured.separate (h : Captured inventory b) : Separate inventory.settings :=
  (validateInventory_eq_ok.mp h.valid).2

/-- The target is the setting at the target path. -/
theorem Captured.mem_target (h : Captured inventory b) {t : PagefileSetting}
    (ht : b.target = some t) : t ∈ inventory.settings ∧ t.isAt b.targetPath = true := by
  rw [h.target] at ht
  exact ⟨List.mem_of_find?_eq_some ht, by simpa using List.find?_some ht⟩

/-- Where no target was captured, the target path is free. -/
theorem Captured.free (h : Captured inventory b) (ht : b.target = none) :
    inventory.settings.any (·.isAt b.targetPath) = false := by
  rw [h.target, List.find?_eq_none] at ht
  simpa using ht

/-- A setting of another path is not the target. -/
theorem Captured.foreign (h : Captured inventory b) {s t : PagefileSetting}
    (hs : s ∈ inventory.settings) (hforeign : s.isAt b.targetPath = false)
    (ht : b.target = some t) : s.objectPath ≠ t.objectPath := by
  intro heq
  obtain ⟨hmem, hat⟩ := h.mem_target ht
  have hsame := h.separate.eq_of_clash hs hmem (by simp [clash, eqIgnoreAsciiCase, heq])
  rw [hsame, hat] at hforeign
  cases hforeign

/-- Switching the management keeps every setting. -/
theorem Captured.preserved (h : Captured inventory b) (value : Bool) :
    checkForeignPreservation b (inventory.managed value) = .ok () := by
  have hvalid : validateInventory (inventory.managed value) = .ok () := h.valid
  rw [checkForeignPreservation, hvalid, Checks.bind_ok, Checks.reject_eq_ok, h.before]
  simp only [List.any_eq_false, Bool.and_eq_true, decide_eq_true_eq, not_and, not_not]
  intro s hs _
  exact h.separate.find_objectPath hs

end

/-! ## Beginning the mutation -/

section

variable {naming : Naming} {inventory : PagefileInventory} {b : PagefileBinding}
  {s : PagefileHost}

/-- The write of the target, after the management was switched off. -/
def writeTarget (naming : Naming) (b : PagefileBinding) :
    Prog PagefileHost String (Option CreatedPagefileToken) :=
  match b.target with
  | some target => do
      (wmiStore naming).update target b.initialSize b.maximumSize
      return none
  | none => do
      let created ← (wmiStore naming).create b.targetPath b.initialSize b.maximumSize
      return some created

theorem writeTarget_some {t : PagefileSetting} (ht : b.target = some t) :
    writeTarget naming b =
      ((wmiStore naming).update t b.initialSize b.maximumSize >>= fun _ => pure none) := by
  unfold writeTarget
  rw [ht]

theorem writeTarget_none (ht : b.target = none) :
    writeTarget naming b =
      ((wmiStore naming).create b.targetPath b.initialSize b.maximumSize >>= fun created =>
        pure (some created)) := by
  unfold writeTarget
  rw [ht]

/-- The host after the management was switched off and looked at. -/
def switchedOff (s : PagefileHost) : PagefileHost :=
  (s.pop.become (s.live.managed false)).pop

/-- Switching the management off and looking at the result. -/
theorem begin_switch (h : Captured inventory b) (hlive : s.live = inventory)
    (hset : s.failing = false) (hread : s.pop.failing = false) :
    beginPagefileMutation (wmiStore naming) b s = writeTarget naming b (switchedOff s) := by
  have hid : s.live.isComputer b.before.computerObjectPath b.before.computerRelativePath
      (some b.before.automaticManaged) = true := by
    simp [PagefileInventory.isComputer, hlive, h.before]
  have hread' : (s.pop.become (s.live.managed false)).failing = false := hread
  have hpreserved : checkForeignPreservation b (s.live.managed false) = .ok () := by
    rw [hlive]
    exact h.preserved false
  rw [beginPagefileMutation, bind_apply_ok (setAutomatic_passing hset hid),
    bind_apply_ok (inventory_passing hread')]
  show (Effect.ofExcept (Checks.reject false _) >>= _) (switchedOff s) = _
  rw [Checks.reject_false]
  show (Effect.ofExcept (checkForeignPreservation b (s.live.managed false)) >>= _)
    (switchedOff s) = _
  rw [hpreserved]
  rfl

@[simp] theorem live_switchedOff (s : PagefileHost) :
    (switchedOff s).live = s.live.managed false := rfl

theorem switchedOff_of_noFaults (h : s.faults = []) :
    switchedOff s = s.become (s.live.managed false) := by
  have h' : (s.become (s.live.managed false)).faults = [] := h
  rw [switchedOff, PagefileHost.pop_of_noFaults h, PagefileHost.pop_of_noFaults h']

/-- The target resolves after the management was switched. -/
theorem Captured.resolves (h : Captured inventory b) (value : Bool) {t : PagefileSetting}
    (ht : b.target = some t) : (inventory.managed value).resolves t = true := by
  have hfind := h.separate.find_objectPath (h.mem_target ht).1
  exact decide_eq_true hfind

/-- Beginning with a target that exists: its sizes are written. -/
theorem begin_update (h : Captured inventory b) (hlive : s.live = inventory)
    (hfaults : s.faults = []) {t : PagefileSetting} (ht : b.target = some t) :
    beginPagefileMutation (wmiStore naming) b s =
      (.ok none, (s.become (inventory.managed false)).become
        ((inventory.managed false).resized t b.initialSize b.maximumSize)) := by
  have hpassing := PagefileHost.failing_of_noFaults hfaults
  have hswitched : (s.become (inventory.managed false)).faults = [] := hfaults
  rw [begin_switch h hlive hpassing (by rwa [PagefileHost.pop_of_noFaults hfaults]),
    switchedOff_of_noFaults hfaults, hlive, writeTarget_some ht,
    bind_apply_ok (update_passing (PagefileHost.failing_of_noFaults hswitched)
      (h.resolves false ht)), PagefileHost.pop_of_noFaults hswitched]
  rfl

/-- The instance that the mutation creates. -/
def createdSetting (naming : Naming) (inventory : PagefileInventory) (b : PagefileBinding) :
    PagefileSetting :=
  newSetting naming (inventory.managed false) b.targetPath b.initialSize b.maximumSize

/-- Beginning with a free target path: the setting is created. -/
theorem begin_create (h : Captured inventory b) (hlive : s.live = inventory)
    (hfaults : s.faults = []) (ht : b.target = none) :
    beginPagefileMutation (wmiStore naming) b s =
      (.ok (some (createdSetting naming inventory b).token),
        (s.become (inventory.managed false)).become
          ((inventory.managed false).extended (createdSetting naming inventory b))) := by
  have hpassing := PagefileHost.failing_of_noFaults hfaults
  have hswitched : (s.become (inventory.managed false)).faults = [] := hfaults
  have hpassing' := PagefileHost.failing_of_noFaults hswitched
  have hcreated : ((s.become (inventory.managed false)).become
      ((inventory.managed false).extended (createdSetting naming inventory b))).faults = [] :=
    hfaults
  have hcreate : (wmiStore naming).create b.targetPath b.initialSize b.maximumSize
      (s.become (inventory.managed false)) = _ :=
    create_passing hpassing' (by rwa [PagefileHost.pop_of_noFaults hswitched]) (h.free ht)
  rw [PagefileHost.pop_of_noFaults hswitched] at hcreate
  rw [begin_switch h hlive hpassing (by rwa [PagefileHost.pop_of_noFaults hfaults]),
    switchedOff_of_noFaults hfaults, hlive, writeTarget_none ht, bind_apply_ok hcreate]
  show (Except.ok _, PagefileHost.pop _) = _
  rw [PagefileHost.live_become]
  exact congrArg (Prod.mk _) (PagefileHost.pop_of_noFaults hcreated)

/-- A verification that returned changed nothing and saw a valid inventory. -/
theorem verify_returned {created : Option CreatedPagefileToken} {t : PagefileHost} {u : Unit}
    (hfaults : s.faults = [])
    (h : verifyPagefileMutation (wmiStore naming) b created s = (.ok u, t)) :
    t = s ∧ validateInventory s.live = .ok () := by
  have hpassing := PagefileHost.failing_of_noFaults hfaults
  obtain ⟨after, s₁, hread, h⟩ := bind_eq_ok h
  rw [inventory_passing hpassing, PagefileHost.pop_of_noFaults hfaults] at hread
  obtain ⟨hvalue, rfl⟩ := Prod.mk.inj hread
  obtain rfl := Except.ok.inj hvalue
  obtain ⟨_, s₂, hstep, h⟩ := bind_eq_ok h
  obtain ⟨-, rfl⟩ := Prod.mk.inj hstep
  obtain ⟨_, s₃, hforeign, h⟩ := bind_eq_ok h
  obtain ⟨hchecked, rfl⟩ := Prod.mk.inj hforeign
  obtain ⟨hvalid, -⟩ := Checks.check_bind_eq_ok.mp hchecked
  obtain ⟨target, s₄, hstep, h⟩ := bind_eq_ok h
  obtain ⟨-, rfl⟩ := Prod.mk.inj hstep
  obtain ⟨_, s₅, hstep, h⟩ := bind_eq_ok h
  obtain ⟨-, rfl⟩ := Prod.mk.inj hstep
  obtain ⟨-, rfl⟩ := Prod.mk.inj h
  exact ⟨rfl, hvalid⟩

end

/-! ## The persisted entry -/

private theorem toU32_toUInt64 (n : UInt32) : toU32 n.toUInt64 = some n := by
  have hlt : n.toUInt64.toNat < 2 ^ 32 := by
    rw [UInt32.toNat_toUInt64]
    exact n.toNat_lt
  rw [toU32, if_pos hlt, UInt32.toNat_toUInt64, UInt32.ofNat_toNat]

private theorem utf8Size_toUpper {c : Char} (h : c.isAlpha = true) : c.toUpper.utf8Size = 1 := by
  have hall : ∀ n : Fin 128, (Char.ofNat n.val).toUpper.utf8Size = 1 := by decide
  have hc : c.toNat < 128 := by
    simp only [Char.isAlpha, Char.isUpper, Char.isLower, Bool.or_eq_true,
      Bool.and_eq_true, decide_eq_true_eq] at h
    have : c.val.toNat ≤ 122 := by
      rcases h with h | h
      · have := h.2
        exact Nat.le_trans (UInt32.le_iff_toNat_le.mp this) (by decide)
      · exact UInt32.le_iff_toNat_le.mp h.2
    show c.val.toNat < 128
    omega
  simpa using hall ⟨c.toNat, hc⟩

private theorem firstTwoBytes_target {drive path : String} (h : pagefileTarget drive = .ok path) :
    ∃ d, firstTwoBytes path = some d ∧ d.isEmpty = false := by
  obtain ⟨hdrive, h⟩ := Checks.check_bind_eq_ok.mp h
  obtain rfl := Except.ok.inj h
  have hd : isDriveDesignator drive = true := by simpa [Checks.reject_eq_ok] using hdrive
  unfold isDriveDesignator at hd
  split at hd
  next a b hl =>
    obtain ⟨ha, hb⟩ := Bool.and_eq_true_iff.mp hd
    have hb := of_decide_eq_true hb
    subst hb
    have hlist : (asciiUpper drive ++ "\\pagefile.sys").toList =
        a.toUpper :: ':' :: "\\pagefile.sys".toList := by
      simp [asciiUpper, hl]
    refine ⟨String.ofList [a.toUpper, ':'], ?_, ?_⟩
    · rw [firstTwoBytes, hlist]
      have hcolon : ':'.utf8Size = 1 := by decide
      simp [utf8Size_toUpper ha, hcolon]
    · rw [Bool.eq_false_iff, ne_eq, String.isEmpty_iff]
      intro hempty
      simpa using congrArg String.toList hempty
  next => cases hd

/-- The entry of a binding, with the token of the setting that was created. -/
def persistedEntry (now : String) (b : PagefileBinding) :
    Option CreatedPagefileToken → BackupEntry
  | none => pagefileBackupEntry now b
  | some created => recordToken created (pagefileBackupEntry now b)

section

variable {inventory : PagefileInventory} {b : PagefileBinding}

private theorem restored_backup {s : PagefileSetting}
    (h : validatePagefileIdentity s = .ok ()) : PagefileTransactionSetting.restored s.backup = .ok s := by
  rw [PagefileTransactionSetting.restored, PagefileSetting.backup]
  simp only [toU32_toUInt64, Checks.okOr_some, Checks.bind_ok, h]
  rfl

private theorem restored_settings (h : Separate inventory.settings) :
    (inventory.settings.map PagefileSetting.backup).mapM
      PagefileTransactionSetting.restored = .ok inventory.settings :=
  Checks.mapM_map_eq_ok.mpr fun s hs => restored_backup (h.valid s hs)

/-- The inventory that a restore compares with: the captured one, as far as the
entry holds it. -/
def restoreInventory (inventory : PagefileInventory) (drive : String) : PagefileInventory :=
  { inventory with
    systemDrive := drive
    physicalRamMb := 1
    freeSpaceMb := UInt64.ofNat (2 ^ 64 - 1) }

theorem validate_restoreInventory {drive : String} (hvalid : validateInventory inventory = .ok ())
    (hdrive : drive.isEmpty = false) :
    validateInventory (restoreInventory inventory drive) = .ok () := by
  obtain ⟨hidentity, hseparate⟩ := validateInventory_eq_ok.mp hvalid
  simp only [Bool.or_eq_false_iff] at hidentity
  refine validateInventory_eq_ok.mpr ⟨?_, hseparate⟩
  simp [restoreInventory, hidentity.1.1, hidentity.1.2, hdrive]

/-- What the entry of a binding is read back as. -/
def restoreOf (inventory : PagefileInventory) (b : PagefileBinding) (drive : String)
    (created : Option CreatedPagefileToken) : PagefileRestore where
  before := restoreInventory inventory drive
  created := created
  targetPath := b.targetPath
  targetExisted := b.target.isSome

private theorem missing_some {text : String} (h : text.isEmpty = false) :
    missingIdentity (some text) = false := by
  simp [missingIdentity, h]

/-- The entry of a binding parses, once its deletion authority does. -/
theorem parse_transaction (h : Captured inventory b) {now : String}
    {t : PagefileTransaction} {created : Option CreatedPagefileToken}
    {objectPath relativePath intent : Option String} {initial maximum : Option UInt64}
    (ht : t = { b.transaction with
      createdObjectPath := objectPath
      createdRelativePath := relativePath
      createdInitialSize := initial
      createdMaximumSize := maximum
      mutationIntent := intent })
    (htoken : createdPagefileToken t = .ok created) :
    ∃ drive : String, drive.isEmpty = false ∧
      parsePagefileRestoreBackup (.pagefileTransaction "P1:8" now t) =
        .ok (restoreOf inventory b drive created) := by
  obtain ⟨drive, hdrive, hnonempty⟩ := firstTwoBytes_target h.targetPath
  obtain ⟨hidentity, -⟩ := validateInventory_eq_ok.mp h.valid
  simp only [Bool.or_eq_false_iff] at hidentity
  have htrusted : (decide ("P1:8" ≠ "P1:8") || !t.unknown.isEmpty ||
      missingIdentity t.computerObjectPath || missingIdentity t.computerRelativePath) =
        false := by
    rw [ht, PagefileBinding.transaction, h.before]
    simp only [missing_some hidentity.1.1, missing_some hidentity.1.2]
    rfl
  have hsettings : t.settings.mapM PagefileTransactionSetting.restored =
      .ok inventory.settings := by
    rw [ht, PagefileBinding.transaction, h.before]
    exact restored_settings h.separate
  have hpath : firstTwoBytes t.targetPath = some drive := by
    rw [ht]
    exact hdrive
  refine ⟨drive, hnonempty, ?_⟩
  rw [parsePagefileRestoreBackup, htrusted, htoken, hpath, hsettings]
  simp only [Checks.okOr_some, Checks.bind_ok, Checks.reject_false]
  rw [ht, PagefileBinding.transaction, h.before]
  rfl

/-- The entry of a binding whose target existed parses. -/
theorem parse_updated (h : Captured inventory b) (hstep : b.step = "P1:8")
    {t : PagefileSetting} (ht : b.target = some t) (now : String) :
    ∃ drive : String, drive.isEmpty = false ∧
      parsePagefileRestoreBackup (persistedEntry now b none) =
        .ok (restoreOf inventory b drive none) := by
  rw [persistedEntry, pagefileBackupEntry, hstep]
  refine parse_transaction h rfl ?_
  simp [createdPagefileToken, PagefileBinding.transaction, ht]

/-- The entry of a binding with the created token parses. -/
theorem parse_created (h : Captured inventory b) (hstep : b.step = "P1:8") {now : String}
    (ht : b.target = none) {created : CreatedPagefileToken}
    (hpath : created.path = b.targetPath)
    (hvalid : validatePagefileIdentity created.setting = .ok ()) :
    ∃ drive : String, drive.isEmpty = false ∧
      parsePagefileRestoreBackup (persistedEntry now b (some created)) =
        .ok (restoreOf inventory b drive (some created)) := by
  have hentry : persistedEntry now b (some created) =
      .pagefileTransaction "P1:8" now (withToken b.transaction created) := by
    rw [persistedEntry, pagefileBackupEntry, hstep, recordToken, if_pos rfl]
  rw [hentry]
  refine parse_transaction h rfl ?_
  obtain ⟨hidentity, hsizes⟩ := Checks.check_bind_eq_ok.mp hvalid
  rw [Checks.reject_eq_ok] at hidentity hsizes
  simp only [Bool.or_eq_false_iff] at hidentity
  obtain ⟨⟨⟨-, hobject⟩, hrelative⟩, -⟩ := hidentity
  have hauthority : (decide ((withToken b.transaction created).mutationIntent =
      some "created") && !(withToken b.transaction created).targetExisted &&
      !created.objectPath.isEmpty && !created.relativePath.isEmpty) = true := by
    have hobject' : created.objectPath.isEmpty = false := hobject
    have hrelative' : created.relativePath.isEmpty = false := hrelative
    simp [withToken, PagefileBinding.transaction, ht, hobject', hrelative']
  have hsizes' : decide (created.maximumSize < created.initialSize) = false := hsizes
  show (if _ then _ else _) = _
  rw [if_pos hauthority]
  simp only [withToken, Checks.okOr_some, Checks.bind_ok, toU32_toUInt64, hsizes',
    Checks.reject_false]
  rw [PagefileBinding.transaction, ← hpath]
  rfl

end

/-! ## Restoring -/

section

variable {naming : Naming} {inventory : PagefileInventory} {b : PagefileBinding}
  {drive : String} {created : Option CreatedPagefileToken} {s : PagefileHost}

/-- The checks of a restore on a host of the captured identity. -/
theorem settings_checked (hvalid : validateInventory inventory = .ok ())
    (hdrive : drive.isEmpty = false) (hfaults : s.faults = [])
    (hlive : validateInventory s.live = .ok ())
    (hobject : s.live.computerObjectPath = inventory.computerObjectPath)
    (hrelative : s.live.computerRelativePath = inventory.computerRelativePath) :
    restorePagefileSettings (wmiStore naming) (restoreOf inventory b drive created) s =
      (deleteCreated (wmiStore naming) s.live b.targetPath created >>= fun _ =>
        restoreTarget (wmiStore naming) (restoreOf inventory b drive created)) s := by
  have hbefore := validate_restoreInventory hvalid hdrive
  have hsame : (decide (s.live.computerObjectPath ≠ inventory.computerObjectPath) ||
      decide (s.live.computerRelativePath ≠ inventory.computerRelativePath)) = false := by
    simp [hobject, hrelative]
  rw [restorePagefileSettings]
  show (Effect.ofExcept (validateInventory (restoreInventory inventory drive)) >>= _) s = _
  rw [hbefore]
  show ((wmiStore naming).inventory >>= _) s = _
  rw [bind_apply_ok (inventory_passing (PagefileHost.failing_of_noFaults hfaults)),
    PagefileHost.pop_of_noFaults hfaults]
  show (Effect.ofExcept (validateInventory s.live) >>= _) s = _
  rw [hlive]
  show (Effect.ofExcept (Checks.reject
    (decide (s.live.computerObjectPath ≠ inventory.computerObjectPath) ||
      decide (s.live.computerRelativePath ≠ inventory.computerRelativePath)) _) >>= _) s = _
  rw [hsame]
  rfl

/-- **The last part of a restore.**  A host with the captured settings passes
the verification, and gets the captured management. -/
theorem verify_restored (h : Captured inventory b) (hfaults : s.faults = [])
    (hlive : s.live = inventory.managed false)
    (hgone : createdRemains (inventory.managed false) created = false) :
    verifyPagefileRestoration (wmiStore naming) (restoreOf inventory b drive created) s =
      (.ok (), s.become inventory) := by
  have hpassing := PagefileHost.failing_of_noFaults hfaults
  have hnone : inventory.settings.find? (notRestored (inventory.managed false)) = none := by
    rw [List.find?_eq_none]
    intro x hx
    have hfound := h.separate.find_objectPath hx
    simp [notRestored, PagefileInventory.managed, hfound]
  have hid : s.live.isComputer inventory.computerObjectPath
      inventory.computerRelativePath none = true := by
    simp [PagefileInventory.isComputer, hlive, PagefileInventory.managed]
  have hback : s.live.managed inventory.automaticManaged = inventory := by
    rw [hlive]
    rfl
  have hset : (wmiStore naming).setAutomatic inventory.computerObjectPath
      inventory.computerRelativePath none inventory.automaticManaged s = _ :=
    setAutomatic_passing hpassing hid
  rw [hback, PagefileHost.pop_of_noFaults hfaults] at hset
  have hfinal : (s.become inventory).faults = [] := hfaults
  rw [verifyPagefileRestoration, bind_apply_ok (inventory_passing hpassing),
    PagefileHost.pop_of_noFaults hfaults, hlive]
  show (match inventory.settings.find? (notRestored (inventory.managed false)) with
    | some setting => _
    | none => _ : Prog PagefileHost String Unit) s = _
  rw [hnone]
  show (Effect.ofExcept (Checks.reject (createdRemains (inventory.managed false) created) _)
    >>= _) s = _
  rw [hgone]
  show ((wmiStore naming).setAutomatic inventory.computerObjectPath
    inventory.computerRelativePath none inventory.automaticManaged >>= _) s = _
  rw [bind_apply_ok hset,
    bind_apply_ok (inventory_passing (PagefileHost.failing_of_noFaults hfinal)),
    PagefileHost.pop_of_noFaults hfinal]
  show (Effect.ofExcept (Checks.reject (decide
    (inventory.automaticManaged ≠ inventory.automaticManaged)) _)) _ = _
  simp

/-- The created setting is told apart from the captured ones. -/
private theorem created_apart
    (hlive : Separate (inventory.settings ++ [createdSetting naming inventory b]))
    {x : PagefileSetting} (hx : x ∈ inventory.settings) :
    x.objectPath ≠ (createdSetting naming inventory b).objectPath ∧
      x.relativePath ≠ (createdSetting naming inventory b).relativePath := by
  have hclash : clash x (createdSetting naming inventory b) = false :=
    (List.pairwise_append.mp hlive.apart).2.2 x hx _ List.mem_cons_self
  simp only [clash, Bool.or_eq_false_iff] at hclash
  obtain ⟨⟨hobject, hrelative⟩, -⟩ := hclash
  constructor
  · intro heq
    simp [eqIgnoreAsciiCase, heq] at hobject
  · intro heq
    simp [eqIgnoreAsciiCase, heq] at hrelative

/-- The created setting is found by its token. -/
private theorem checked_created (h : Captured inventory b) (ht : b.target = none) :
    checkCreatedToken ((inventory.managed false).extended (createdSetting naming inventory b))
      b.targetPath (createdSetting naming inventory b).token = .ok () := by
  have hself : (createdSetting naming inventory b).isAt b.targetPath = true := by
    simp [PagefileSetting.isAt, createdSetting, newSetting, eqIgnoreAsciiCase]
  have hnone : inventory.settings.filter (fun setting =>
      decide (setting.objectPath = (createdSetting naming inventory b).token.objectPath) &&
      decide (setting.relativePath = (createdSetting naming inventory b).token.relativePath) &&
      setting.isAt b.targetPath) = [] := by
    rw [List.filter_eq_nil_iff]
    intro x hx hat
    have hany : inventory.settings.any (·.isAt b.targetPath) = true := by
      rw [List.any_eq_true]
      exact ⟨x, hx, (Bool.and_eq_true_iff.mp hat).2⟩
    rw [h.free ht] at hany
    cases hany
  rw [checkCreatedToken]
  show (Checks.okOr (Checks.sole ((inventory.settings ++ [createdSetting naming inventory b]).filter
    _)) _ >>= _) = _
  rw [List.filter_append, hnone]
  simp [PagefileSetting.token, hself, Checks.sole]

/-- **The created branch.**  The created setting is deleted, and the captured
configuration is back. -/
theorem restore_created (h : Captured inventory b) (hstep : b.step = "P1:8")
    (hfaults : s.faults = []) (ht : b.target = none) (now : String)
    (hlive : s.live =
      (inventory.managed false).extended (createdSetting naming inventory b))
    (hvalid : validateInventory s.live = .ok ()) :
    restorePagefileTransaction (wmiStore naming)
        (persistedEntry now b (some (createdSetting naming inventory b).token)) s =
      (.ok (), (s.become (inventory.managed false)).become inventory) := by
  have hseparate : Separate (inventory.settings ++ [createdSetting naming inventory b]) := by
    have := (validateInventory_eq_ok.mp hvalid).2
    rwa [hlive] at this
  have hmem : createdSetting naming inventory b ∈
      inventory.settings ++ [createdSetting naming inventory b] := by simp
  obtain ⟨drive, hdrive, hparse⟩ : ∃ drive : String, drive.isEmpty = false ∧
      parsePagefileRestoreBackup
          (persistedEntry now b (some (createdSetting naming inventory b).token)) =
        .ok (restoreOf inventory b drive (some (createdSetting naming inventory b).token)) :=
    parse_created h hstep ht rfl (hseparate.valid _ hmem)
  have hpassing := PagefileHost.failing_of_noFaults hfaults
  have hresolves : s.live.resolves (createdSetting naming inventory b).token.setting = true := by
    rw [hlive]
    exact decide_eq_true (hseparate.find_objectPath hmem)
  have hdeleted : s.live.deleted (createdSetting naming inventory b).token =
      inventory.managed false := by
    have hkept : inventory.settings.filter (fun x =>
        decide (x.objectPath ≠ (createdSetting naming inventory b).token.objectPath)) =
        inventory.settings := by
      rw [List.filter_eq_self]
      intro x hx
      exact decide_eq_true (created_apart hseparate hx).1
    rw [hlive, PagefileInventory.deleted, PagefileInventory.extended]
    simp only [List.filter_append, PagefileInventory.managed, hkept]
    simp [PagefileSetting.token]
  have hdelete : deleteCreated (wmiStore naming) s.live b.targetPath
      (some (createdSetting naming inventory b).token) s =
      (.ok (), s.become (inventory.managed false)) := by
    rw [deleteCreated, hlive, checked_created h ht]
    show (wmiStore naming).delete _ s = _
    rw [delete_passing hpassing hresolves, PagefileHost.pop_of_noFaults hfaults, hdeleted]
  have hgone : createdRemains (inventory.managed false)
      (some (createdSetting naming inventory b).token) = false := by
    show (inventory.settings.any fun x =>
      decide (x.objectPath = (createdSetting naming inventory b).objectPath) ||
      decide (x.relativePath = (createdSetting naming inventory b).relativePath)) = false
    rw [List.any_eq_false]
    intro x hx
    obtain ⟨hobject, hrelative⟩ := created_apart hseparate hx
    simp [hobject, hrelative]
  have hidentity : s.live.computerObjectPath = inventory.computerObjectPath ∧
      s.live.computerRelativePath = inventory.computerRelativePath := by
    rw [hlive]
    exact ⟨rfl, rfl⟩
  have htarget : restoreTarget (wmiStore naming) (restoreOf inventory b drive
      (some (createdSetting naming inventory b).token)) (s.become (inventory.managed false)) =
      (.ok (), s.become (inventory.managed false)) := by
    rw [restoreTarget, restoreOf, ht]
    rfl
  have hswitched : (s.become (inventory.managed false)).faults = [] := hfaults
  rw [restorePagefileTransaction, hparse]
  show (restorePagefileSettings _ _ >>= _) s = _
  have hsettings : restorePagefileSettings (wmiStore naming) (restoreOf inventory b drive
      (some (createdSetting naming inventory b).token)) s = _ :=
    settings_checked h.valid hdrive hfaults hvalid hidentity.1 hidentity.2
  rw [bind_apply_ok hdelete, htarget] at hsettings
  rw [bind_apply_ok hsettings]
  exact verify_restored h hswitched rfl hgone

/-- Writing sizes leaves the instance with these sizes. -/
private theorem find_resized (h : Separate inventory.settings) {t : PagefileSetting}
    (ht : t ∈ inventory.settings) (initial maximum : UInt32) :
    (inventory.resized t initial maximum).settings.find? (·.objectPath = t.objectPath) =
      some { t with initialSize := initial, maximumSize := maximum } := by
  have hsame : (fun x : PagefileSetting => decide (x.objectPath = t.objectPath)) ∘
      (fun x : PagefileSetting =>
        if x.objectPath = t.objectPath then
          { x with initialSize := initial, maximumSize := maximum }
        else x) = fun x => decide (x.objectPath = t.objectPath) := by
    funext x
    by_cases hx : x.objectPath = t.objectPath <;> simp [hx]
  rw [PagefileInventory.resized, List.find?_map, hsame, h.find_objectPath ht]
  simp

/-- After its sizes were written, the instance as it was is found if and only if
it had these sizes. -/
theorem resolves_resized_iff (h : Separate inventory.settings) {t : PagefileSetting}
    (ht : t ∈ inventory.settings) {initial maximum : UInt32} :
    (inventory.resized t initial maximum).resolves t = true ↔
      t.initialSize = initial ∧ t.maximumSize = maximum := by
  rw [PagefileInventory.resolves, find_resized h ht, decide_eq_true_iff, Option.some_inj]
  constructor
  · intro heq
    rw [← heq]
    exact ⟨rfl, rfl⟩
  · rintro ⟨rfl, rfl⟩
    rfl

/-- Writing the sizes it has changes nothing. -/
theorem resized_same (h : Separate inventory.settings) {t : PagefileSetting}
    (ht : t ∈ inventory.settings) :
    inventory.resized t t.initialSize t.maximumSize = inventory := by
  have hid : inventory.settings.map (fun x : PagefileSetting =>
      if x.objectPath = t.objectPath then
        { x with initialSize := t.initialSize, maximumSize := t.maximumSize }
      else x) = inventory.settings := by
    refine (List.map_congr_left fun x hx => ?_).trans (List.map_id _)
    by_cases hpath : x.objectPath = t.objectPath
    · have : x = t := h.eq_of_clash hx ht (by simp [clash, eqIgnoreAsciiCase, hpath])
      rw [if_pos hpath, this]
      rfl
    · rw [if_neg hpath]
      rfl
  rw [PagefileInventory.resized, hid]

/-- The restore of a target that existed writes the captured sizes. -/
theorem target_restored (h : Captured inventory b) {t : PagefileSetting}
    (ht : b.target = some t) :
    restoreTarget (wmiStore naming) (restoreOf inventory b drive none) s =
      (wmiStore naming).update t t.initialSize t.maximumSize s := by
  have hfind : (restoreInventory inventory drive).settings.find? (·.isAt b.targetPath) =
      some t := by
    rw [← ht, h.target]
    rfl
  rw [restoreTarget, restoreOf, ht]
  show (Effect.ofExcept (Checks.okOr ((restoreInventory inventory drive).settings.find?
    (·.isAt b.targetPath)) _) >>= _) s = _
  rw [hfind]
  rfl

/-- The settings part of a restore in the updated branch. -/
private theorem settings_updated (h : Captured inventory b) (hfaults : s.faults = [])
    (hdrive : drive.isEmpty = false) {t : PagefileSetting} (ht : b.target = some t)
    (hlive : s.live = (inventory.managed false).resized t b.initialSize b.maximumSize)
    (hvalid : validateInventory s.live = .ok ()) :
    restorePagefileSettings (wmiStore naming) (restoreOf inventory b drive none) s =
      (wmiStore naming).update t t.initialSize t.maximumSize s := by
  have hidentity : s.live.computerObjectPath = inventory.computerObjectPath ∧
      s.live.computerRelativePath = inventory.computerRelativePath := by
    rw [hlive]
    exact ⟨rfl, rfl⟩
  rw [settings_checked h.valid hdrive hfaults hvalid hidentity.1 hidentity.2]
  exact target_restored h ht

/-- **The updated branch, unchanged sizes.** -/
theorem restore_updated (h : Captured inventory b) (hstep : b.step = "P1:8")
    (hfaults : s.faults = []) {t : PagefileSetting} (ht : b.target = some t) (now : String)
    (hlive : s.live = (inventory.managed false).resized t b.initialSize b.maximumSize)
    (hvalid : validateInventory s.live = .ok ())
    (hsizes : t.initialSize = b.initialSize ∧ t.maximumSize = b.maximumSize) :
    restorePagefileTransaction (wmiStore naming) (persistedEntry now b none) s =
      (.ok (), (s.become (inventory.managed false)).become inventory) := by
  obtain ⟨drive, hdrive, hparse⟩ := parse_updated h hstep ht now
  have hpassing := PagefileHost.failing_of_noFaults hfaults
  have hseparate : Separate (inventory.managed false).settings := h.separate
  have hmem : t ∈ (inventory.managed false).settings := (h.mem_target ht).1
  have hsame : s.live = inventory.managed false := by
    rw [hlive, ← hsizes.1, ← hsizes.2]
    exact resized_same hseparate hmem
  have hresolves : s.live.resolves t = true := by
    rw [hlive]
    exact (resolves_resized_iff hseparate hmem).mpr hsizes
  have hswitched : (s.become (inventory.managed false)).faults = [] := hfaults
  have hupdate : (wmiStore naming).update t t.initialSize t.maximumSize s = _ :=
    update_passing hpassing hresolves
  rw [hsame, resized_same hseparate hmem, PagefileHost.pop_of_noFaults hfaults] at hupdate
  rw [restorePagefileTransaction, hparse]
  show (restorePagefileSettings _ _ >>= _) s = _
  rw [← settings_updated h hfaults hdrive ht hlive hvalid] at hupdate
  rw [bind_apply_ok hupdate]
  exact verify_restored h hswitched rfl rfl

/-- **The updated branch, other sizes.**  The captured sizes are not those the
target has, and the write that would restore them is refused. -/
theorem sizes_of_restore_updated (h : Captured inventory b) (hstep : b.step = "P1:8")
    (hfaults : s.faults = []) {t : PagefileSetting} (ht : b.target = some t) {now : String}
    (hlive : s.live = (inventory.managed false).resized t b.initialSize b.maximumSize)
    (hvalid : validateInventory s.live = .ok ()) {u : Unit} {s' : PagefileHost}
    (hrestore : restorePagefileTransaction (wmiStore naming) (persistedEntry now b none) s =
      (.ok u, s')) :
    t.initialSize = b.initialSize ∧ t.maximumSize = b.maximumSize := by
  obtain ⟨drive, hdrive, hparse⟩ := parse_updated h hstep ht now
  rw [restorePagefileTransaction, hparse] at hrestore
  obtain ⟨r, s₁, hread, hrestore⟩ := bind_eq_ok hrestore
  obtain ⟨hvalue, rfl⟩ := Prod.mk.inj hread
  obtain rfl := Except.ok.inj hvalue
  obtain ⟨_, s₂, hsettings, -⟩ := bind_eq_ok hrestore
  rw [settings_updated h hfaults hdrive ht hlive hvalid] at hsettings
  have hresolves := (update_returned hsettings).1
  rw [hlive] at hresolves
  have hseparate : Separate (inventory.managed false).settings := h.separate
  exact (resolves_resized_iff hseparate (h.mem_target ht).1).mp hresolves

/-! ## Foreign settings -/

/-- The captured settings of the other paths are there, as they were. -/
def KeepsForeign (inventory : PagefileInventory) (targetPath : String)
    (live : PagefileInventory) : Prop :=
  ∀ x ∈ inventory.settings, x.isAt targetPath = false → x ∈ live.settings

theorem keepsForeign_resized (h : Captured inventory b) {t : PagefileSetting}
    (ht : b.target = some t) (initial maximum : UInt32) :
    KeepsForeign inventory b.targetPath
      ((inventory.managed false).resized t initial maximum) := by
  intro x hx hforeign
  have hne := h.foreign hx hforeign ht
  show x ∈ inventory.settings.map _
  rw [List.mem_map]
  exact ⟨x, hx, if_neg hne⟩

theorem keepsForeign_extended (setting : PagefileSetting) :
    KeepsForeign inventory b.targetPath ((inventory.managed false).extended setting) := by
  intro x hx _
  exact List.mem_append_left _ hx

/-! ## The transaction and its restore -/

/-- The host on which a transaction starts. -/
def quietHost (inventory : PagefileInventory) (backup : BackupFile) : PagefileHost where
  live := inventory
  backup := backup

/-- **What a restore owes.**  It returns, the settings and the management are
the captured ones, and no foreign setting was ever touched. -/
def Reversed (naming : Naming) (inventory : PagefileInventory) (b : PagefileBinding)
    (entry : BackupEntry) (s : PagefileHost) : Prop :=
  ∃ s' : PagefileHost,
    restorePagefileTransaction (wmiStore naming) entry s = (.ok (), s') ∧
    (∀ x, x ∈ s'.live.settings ↔ x ∈ inventory.settings) ∧
    s'.live.automaticManaged = inventory.automaticManaged ∧
    ∀ live ∈ s'.past, KeepsForeign inventory b.targetPath live

/-- A host that went through three configurations and back. -/
private theorem reversed_of_restored {entry : BackupEntry} {backup : BackupFile}
    {changed : PagefileInventory} (h : Captured inventory b)
    (hchanged : KeepsForeign inventory b.targetPath changed)
    (hrestore : restorePagefileTransaction (wmiStore naming) entry
        (((quietHost inventory backup).become (inventory.managed false)).become changed) =
      (.ok (), ((((quietHost inventory backup).become (inventory.managed false)).become
        changed).become (inventory.managed false)).become inventory)) :
    Reversed naming inventory b entry
      (((quietHost inventory backup).become (inventory.managed false)).become changed) := by
  refine ⟨_, hrestore, fun x => Iff.rfl, rfl, ?_⟩
  have hself : KeepsForeign inventory b.targetPath inventory := fun _ hx _ => hx
  have hmanaged : KeepsForeign inventory b.targetPath (inventory.managed false) :=
    fun _ hx _ => hx
  intro live hlive
  have hcases : live = inventory.managed false ∨ live = changed ∨
      live = inventory.managed false ∨ live = inventory := by
    simpa [quietHost, or_assoc] using hlive
  rcases hcases with rfl | rfl | rfl | rfl
  · exact hmanaged
  · exact hchanged
  · exact hmanaged
  · exact hself

/-- **Exactly when the restore reverses the transaction.**  It does for a target
that was created, and for one that already had the sizes; the sizes of any
other target stay as the transaction wrote them. -/
theorem pagefileInverse {naming : Naming} {state : State} {inventory : PagefileInventory}
    {backup : BackupFile} {now : String} {b : PagefileBinding}
    {created : Option CreatedPagefileToken} {s₁ s₂ : PagefileHost}
    (hcapture : capturePagefileBinding "P1:8" state inventory = .ok b)
    (hbegin : beginPagefileMutation (wmiStore naming) b (quietHost inventory backup) =
      (.ok created, s₁))
    (hverify : verifyPagefileMutation (wmiStore naming) b created s₁ = (.ok (), s₂)) :
    Reversed naming inventory b (persistedEntry now b created) s₂ ↔
      ∀ t, b.target = some t →
        t.initialSize = b.initialSize ∧ t.maximumSize = b.maximumSize := by
  obtain ⟨hstep, h⟩ := captured_of_capture hcapture
  have hquiet : (quietHost inventory backup).faults = [] := rfl
  cases ht : b.target with
  | none =>
      rw [begin_create h rfl hquiet ht] at hbegin
      obtain ⟨hvalue, rfl⟩ := Prod.mk.inj hbegin
      obtain rfl := Except.ok.inj hvalue
      obtain ⟨rfl, hvalid⟩ := verify_returned (by rfl) hverify
      constructor
      · intro _ t htarget
        cases htarget
      · intro _
        exact reversed_of_restored h (keepsForeign_extended _)
          (restore_created h hstep rfl ht now rfl hvalid)
  | some t =>
      rw [begin_update h rfl hquiet ht] at hbegin
      obtain ⟨hvalue, rfl⟩ := Prod.mk.inj hbegin
      obtain rfl := Except.ok.inj hvalue
      obtain ⟨rfl, hvalid⟩ := verify_returned (by rfl) hverify
      constructor
      · rintro ⟨s', hrestore, -⟩ t' htarget
        obtain rfl := Option.some.inj htarget
        exact sizes_of_restore_updated h hstep rfl ht rfl hvalid hrestore
      · intro hsizes
        exact reversed_of_restored h (keepsForeign_resized h ht _ _)
          (restore_updated h hstep rfl ht now rfl hvalid (hsizes t rfl))

end

/-! ## Two hosts -/

/-- Page file settings are identified by their path. -/
def pathNaming : Naming := fun _ path =>
  ("\\\\PC\\root\\cimv2:Win32_PageFileSetting.Name=" ++ path,
    "Win32_PageFileSetting.Name=" ++ path)

/-- A host with the given settings. -/
def hostInventory (settings : List PagefileSetting) : PagefileInventory where
  automaticManaged := false
  computerObjectPath := "\\\\PC\\root\\cimv2:Win32_ComputerSystem.Name=PC"
  computerRelativePath := "Win32_ComputerSystem.Name=PC"
  systemDrive := "C:"
  physicalRamMb := 16384
  freeSpaceMb := 100000
  settings := settings

/-- A state that asks for a page file of 8 GiB. -/
def wantsPagefile : State where
  pagefileMb := 8192

/-- A page file of 1 GiB on the system drive. -/
def smallPagefile : PagefileSetting where
  path := "C:\\pagefile.sys"
  initialSize := 1024
  maximumSize := 1024
  objectPath := "\\\\PC\\root\\cimv2:Win32_PageFileSetting.Name=C:\\pagefile.sys"
  relativePath := "Win32_PageFileSetting.Name=C:\\pagefile.sys"

/-- The binding of P1:8 on a host. -/
def bindingOf (target : Option PagefileSetting) (settings : List PagefileSetting) :
    PagefileBinding where
  step := "P1:8"
  targetPath := "C:\\pagefile.sys"
  initialSize := 8192
  maximumSize := 8192
  before := hostInventory settings
  target := target

/-- A quiet host with the given settings. -/
def hostWith (settings : List PagefileSetting) : PagefileHost :=
  quietHost (hostInventory settings) ⟨[], "now", ∅⟩

/-- The page file that P1:8 creates. -/
def newPagefile : PagefileSetting :=
  createdSetting pathNaming (hostInventory []) (bindingOf none [])

/-- The empty host after P1:8. -/
def createdHost : PagefileHost :=
  ((hostWith []).become ((hostInventory []).managed false)).become
    (((hostInventory []).managed false).extended newPagefile)

/-- Without a setting, the page file is created and deleted again. -/
theorem pagefileInverse_created :
    Reversed pathNaming (hostInventory []) (bindingOf none [])
      (persistedEntry "now" (bindingOf none []) (some newPagefile.token)) createdHost := by
  have hcapture : capturePagefileBinding "P1:8" wantsPagefile (hostInventory []) =
      .ok (bindingOf none []) := by decide +kernel
  have hbegin : beginPagefileMutation (wmiStore pathNaming) (bindingOf none [])
      (hostWith []) = (.ok (some newPagefile.token), createdHost) := by
    decide +kernel
  have hverify : verifyPagefileMutation (wmiStore pathNaming) (bindingOf none [])
      (some newPagefile.token) createdHost = (.ok (), createdHost) := by
    decide +kernel
  exact (pagefileInverse hcapture hbegin hverify).mpr fun _ h => by cases h

/-- The binding for a host with a page file of 1 GiB. -/
def resizing : PagefileBinding :=
  bindingOf (some smallPagefile) [smallPagefile]

/-- The host with a page file of 1 GiB, after P1:8. -/
def resizedHost : PagefileHost :=
  ((hostWith [smallPagefile]).become ((hostInventory [smallPagefile]).managed false)).become
    (((hostInventory [smallPagefile]).managed false).resized smallPagefile 8192 8192)

/-- **A resized page file is not restored.**  The sizes were 1 GiB and are 8 GiB
now; the restore asks for the setting with 1 GiB, and there is none. -/
theorem pagefileInverse_resized :
    ¬ ∀ (naming : Naming) (state : State) (inventory : PagefileInventory)
        (backup : BackupFile) (now : String) (b : PagefileBinding)
        (created : Option CreatedPagefileToken) (s₁ s₂ : PagefileHost),
      capturePagefileBinding "P1:8" state inventory = .ok b →
      beginPagefileMutation (wmiStore naming) b (quietHost inventory backup) =
        (.ok created, s₁) →
      verifyPagefileMutation (wmiStore naming) b created s₁ = (.ok (), s₂) →
      Reversed naming inventory b (persistedEntry now b created) s₂ := by
  intro h
  obtain ⟨s', hrestore, -⟩ := h pathNaming wantsPagefile (hostInventory [smallPagefile])
    ⟨[], "now", ∅⟩ "now" resizing none resizedHost resizedHost
    (by decide +kernel) (by decide +kernel) (by decide +kernel)
  have hrefused : (restorePagefileTransaction (wmiStore pathNaming)
      (persistedEntry "now" resizing none) resizedHost).1 ≠ .ok () := by
    decide +kernel
  exact hrefused (congrArg Prod.fst hrestore)

end FrametimeCfg.Verified.PagefileInverse
