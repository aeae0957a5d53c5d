import FrametimeCfg.Lib.Runs
import FrametimeCfg.Verified.Cs2ConfigInverse
import FrametimeCfg.Windows.OptionalCfgs

/-!
# Bytes that a deployment overwrites

A deployment captures its targets and puts the record into `backup.json` before it
writes.  The record is dropped where an entry of the same step, install and selection
is there already, and that entry holds the bytes of its own capture.  So the bytes of
the user are held afterwards if no such entry is there, or if every target holds
nothing, the asset itself, or bytes that some entry holds already.

No deployment removes an entry, so what is held stays until it is restored.
-/

namespace FrametimeCfg.Verified.OptionalRecovery

open FrametimeCfg.Domain
open FrametimeCfg.Lib.Effect
open FrametimeCfg.Lib.FileCalls
open FrametimeCfg.Lib.Runs
open FrametimeCfg.Verified.Cs2ConfigInverse
open FrametimeCfg.Windows

/-! ## What a run must keep -/

/-- The entry is a CFG transaction of the install with these bytes of the target. -/
def Holds (digests : CfgDigests) (entry : StoredEntry) (install : Cs2Install)
    (target : Cs2ConfigTarget) (original : Bytes) : Prop :=
  ∃ transaction, entry = .cfg transaction ∧
    transaction.installIdentity.installFingerprint =
      (installIdentityOf digests install).installFingerprint ∧
    (target, some original) ∈ transaction.originals

/-- The step restores the entry. -/
def Restores : OptionalStep → StoredEntry → Prop
  | .recover restored _, entry => restored entry = true
  | .edit .., _ | .deploy _, _ => False

/-- The entry is in the backup file from this state on, until a step restores it. -/
def Kept (entry : StoredEntry) : OptionalHost → List (OptionalStep × OptionalHost) → Prop
  | s, [] => entry ∈ s.backup.entries
  | s, (a, t) :: rest =>
      entry ∈ s.backup.entries ∧ (Restores a entry ∨ Kept entry t rest)

/-- Each file that a call has replaced or removed is a target of its install, and the
bytes are those of the asset or an entry keeps them. -/
def KeepsOverwritten (digests : CfgDigests) (bytes : CfgAssets) (call : DeployCall)
    (s t : OptionalHost) (rest : List (OptionalStep × OptionalHost)) : Prop :=
  ∀ path original, s.files.content path = some original →
    t.files.content path ≠ some original →
    ∃ controller target, call.discovered = some controller ∧
      path = targetPath controller.install target ∧
      (original = deployedBytes bytes target ∨
        ∃ entry, Holds digests entry controller.install target original ∧
          Kept entry t rest)

/-- What every deployment of a run has overwritten is kept. -/
def Recoverable (digests : CfgDigests) (bytes : CfgAssets) :
    OptionalHost → List (OptionalStep × OptionalHost) → Prop
  | _, [] => True
  | s, (a, t) :: rest =>
      (∀ call, a = .deploy call → KeepsOverwritten digests bytes call s t rest) ∧
        Recoverable digests bytes t rest

/-! ## The condition -/

/-- The record that a call captures, without the bytes. -/
def capturedEntry (digests : CfgDigests) (call : DeployCall)
    (controller : Cs2ConfigController) : BackupEntry :=
  .cs2ConfigTransaction CS2_OPTIONAL_CONFIG_TRANSACTION_STEP call.timestamp
    (installIdentityOf digests controller.install).installFingerprint
    (Cs2ConfigTarget.forOptionalAssets call.assets.toFinset)

/-- No entry has the identity of the record. -/
def Unrecorded (digests : CfgDigests) (call : DeployCall) (controller : Cs2ConfigController)
    (s : OptionalHost) : Prop :=
  ∀ existing ∈ s.backup.entries,
    dedupeIdentity existing.entry ≠ dedupeIdentity (capturedEntry digests call controller)

/-- Every target is absent, is the asset itself, or is held by an entry. -/
def AlreadyHeld (digests : CfgDigests) (bytes : CfgAssets) (call : DeployCall)
    (controller : Cs2ConfigController) (s : OptionalHost) : Prop :=
  ∀ target ∈ Cs2ConfigTarget.forOptionalAssets call.assets.toFinset, ∀ original,
    s.files.content (targetPath controller.install target) = some original →
    original = deployedBytes bytes target ∨
      ∃ entry ∈ s.backup.entries, Holds digests entry controller.install target original

/-- A deployment whose record is new, or has nothing to add. -/
def RecordsOriginals (digests : CfgDigests) (bytes : CfgAssets) (s : OptionalHost) :
    OptionalStep → Prop
  | .deploy call => ∀ controller, call.discovered = some controller →
      Unrecorded digests call controller s ∨ AlreadyHeld digests bytes call controller s
  | .edit .. | .recover .. => True

/-! ## One deployment -/

section

variable {digests : CfgDigests} {bytes : CfgAssets} {call : DeployCall} {s t : OptionalHost}

/-- The program leaves `backup.json` and all other paths as they were. -/
def Edits {α : Type} (paths : FilePath → Prop) (m : DeployProg α) : Prop :=
  ∀ s r t, m s = (r, t) → t.backup = s.backup ∧
    ∀ path, ¬ paths path → t.files.content path = s.files.content path

theorem edits_ofExcept {α : Type} {paths : FilePath → Prop} (r : Except DeployError α) :
    Edits paths (ofExcept r) := by
  intro s r' t h
  obtain ⟨-, rfl⟩ := Prod.mk.inj h
  exact ⟨rfl, fun _ _ => rfl⟩

theorem Edits.bind {α β : Type} {paths : FilePath → Prop} {m : DeployProg α}
    {k : α → DeployProg β} (hm : Edits paths m) (hk : ∀ a, Edits paths (k a)) :
    Edits paths (m >>= k) := by
  intro s r t h
  rcases bind_cases h with ⟨e, hfirst, -⟩ | ⟨a, s₁, hfirst, hrest⟩
  · exact hm s _ t hfirst
  · obtain ⟨hbackup, hfiles⟩ := hm s _ s₁ hfirst
    obtain ⟨hbackup', hfiles'⟩ := hk a s₁ r t hrest
    exact ⟨hbackup'.trans hbackup, fun p hp => (hfiles' p hp).trans (hfiles p hp)⟩

theorem edits_onFiles {ε α : Type} {f : ε → DeployError} {paths : FilePath → Prop}
    {m : Prog (Files FilePath) ε α} (hm : Changes paths m) : Edits paths (onFiles f m) := by
  intro s r t h
  unfold onFiles at h
  rcases hrun : m s.files with ⟨r', files⟩
  rw [hrun] at h
  have ht : t = { s with files := files } := by
    cases r' with
    | ok a => exact (Prod.mk.inj h).2.symm
    | error e => exact (Prod.mk.inj h).2.symm
  rw [ht]
  exact ⟨rfl, fun p hp => hm s.files r' files hrun p hp⟩

theorem onFiles_ok {ε α : Type} {f : ε → DeployError} {m : Prog (Files FilePath) ε α} {a : α}
    (h : onFiles f m s = (.ok a, t)) : ∃ files, m s.files = (.ok a, files) := by
  unfold onFiles at h
  rcases hrun : m s.files with ⟨r', files⟩
  rw [hrun] at h
  cases r' with
  | ok a' =>
      obtain rfl := Except.ok.inj (Prod.mk.inj h).1
      exact ⟨files, rfl⟩
  | error e => cases (Prod.mk.inj h).1

theorem edits_readBackup {paths : FilePath → Prop} : Edits paths readBackup := by
  intro s r t h
  have ht : t = s := by
    unfold readBackup at h
    split at h <;> exact (Prod.mk.inj h).2.symm
  rw [ht]
  exact ⟨rfl, fun _ _ => rfl⟩

/-- The entries that a read returned. -/
theorem readBackup_ok {entries : List StoredEntry} (h : readBackup s = (.ok entries, t)) :
    entries = s.backup.entries := by
  unfold readBackup at h
  split at h
  · rename_i hbackup
    rw [hbackup]
    exact (Except.ok.inj (Prod.mk.inj h).1).symm
  · rename_i hbackup
    rw [hbackup]
    exact (Except.ok.inj (Prod.mk.inj h).1).symm
  · cases (Prod.mk.inj h).1

/-- The entries are the old ones or the new ones, and the new ones after a return. -/
theorem persistBackup_cases {answer : PersistAnswer} {entries : List StoredEntry}
    {r : Except DeployError Unit} (h : persistBackup answer entries s = (r, t)) :
    t.files = s.files ∧ (t.backup = s.backup ∧ r ≠ .ok () ∨ t.backup = .holds entries) := by
  cases answer with
  | stored =>
      obtain ⟨-, rfl⟩ := Prod.mk.inj h
      exact ⟨rfl, .inr rfl⟩
  | storedWithError =>
      obtain ⟨-, rfl⟩ := Prod.mk.inj h
      exact ⟨rfl, .inr rfl⟩
  | refused =>
      obtain ⟨rfl, rfl⟩ := Prod.mk.inj h
      exact ⟨rfl, .inl ⟨rfl, by simp⟩⟩

/-- The first value of an identity stays. -/
theorem mem_pushFirstValue {entries : List StoredEntry} {entry existing : StoredEntry}
    (h : existing ∈ entries) : existing ∈ pushFirstValue entries entry := by
  unfold pushFirstValue
  simp only
  split
  · exact List.mem_append_left _ h
  · exact h

/-- A record of a new identity is added. -/
theorem mem_pushFirstValue_self {entries : List StoredEntry} {entry : StoredEntry}
    (h : ∀ existing ∈ entries,
      dedupeIdentity existing.entry ≠ dedupeIdentity entry.entry) :
    entry ∈ pushFirstValue entries entry := by
  have hany : entries.any (fun existing =>
      dedupeIdentity existing.entry = dedupeIdentity entry.entry) = false := by
    rw [List.any_eq_false]
    intro existing hmem
    simpa using h existing hmem
  unfold pushFirstValue
  simp only [hany]
  simp

/-- What is overwritten after the write of `backup.json`. -/
structure Deployed (digests : CfgDigests) (call : DeployCall) (s t : OptionalHost)
    (controller : Cs2ConfigController) (entry : Cs2ConfigTransaction) : Prop where
  captures : Captures s.files controller.install
    (Cs2ConfigTarget.forOptionalAssets call.assets.toFinset) entry
  valid : entry.validateOptional digests controller.install call.assets.toFinset = .ok ()
  stored : t.backup = .holds (pushFirstValue s.backup.entries (.cfg entry))
  others : ∀ path, (∀ target ∈ Cs2ConfigTarget.forOptionalAssets call.assets.toFinset,
    path ≠ targetPath controller.install target) →
      t.files.content path = s.files.content path

theorem valid_fingerprint {controller : Cs2ConfigController} {assets : Finset OptionalCfgAsset}
    {entry : Cs2ConfigTransaction}
    (h : entry.validateOptional digests controller.install assets = .ok ()) :
    entry.installIdentity.installFingerprint =
      (installIdentityOf digests controller.install).installFingerprint := by
  unfold Cs2ConfigTransaction.validateOptional Cs2ConfigTransaction.validateFor at h
  obtain ⟨-, h⟩ := Lib.Checks.check_bind_eq_ok.mp h
  rw [new_install] at h
  have hidentity := Lib.Checks.reject_eq_ok.mp (Lib.Checks.check_bind_eq_ok.mp h).1
  simp only [Bool.or_eq_false_iff, decide_eq_false_iff_not, not_not] at hidentity
  exact hidentity.2

/-- The record that was accepted has the identity of `capturedEntry`. -/
theorem captured_identity {controller : Cs2ConfigController} {entry : Cs2ConfigTransaction}
    (hcaptures : Captures s.files controller.install
      (Cs2ConfigTarget.forOptionalAssets call.assets.toFinset) entry)
    (hvalid : entry.validateOptional digests controller.install call.assets.toFinset =
      .ok ()) :
    dedupeIdentity (Cs2ConfigTransaction.entry entry) =
      dedupeIdentity (capturedEntry digests call controller) := by
  obtain ⟨hstep, hrest⟩ := Lib.Checks.check_bind_eq_ok.mp hvalid
  have hstep : entry.step = CS2_OPTIONAL_CONFIG_TRANSACTION_STEP := by
    simpa using Lib.Checks.reject_eq_ok.mp hstep
  have htargets : entry.targets.map (·.target) =
      Cs2ConfigTarget.forOptionalAssets call.assets.toFinset := by
    have hmap := congrArg (List.map Prod.fst) hcaptures.originals
    unfold Cs2ConfigTransaction.originals at hmap
    rw [List.map_map, List.map_map] at hmap
    simpa [Function.comp_def] using hmap
  have hfingerprint := valid_fingerprint hvalid
  unfold Cs2ConfigTransaction.entry capturedEntry dedupeIdentity BackupEntry.step
    BackupEntry.identityText
  rw [hstep, htargets, hfingerprint]

/-- What follows the write of `backup.json`. -/
theorem edits_apply {files : Files FilePath} {controller : Cs2ConfigController}
    {entry : Cs2ConfigTransaction} {assets : Finset OptionalCfgAsset} {reobserved : Bool}
    (h : Captures files controller.install (Cs2ConfigTarget.forOptionalAssets assets) entry) :
    Edits (fun path => ∃ target ∈ Cs2ConfigTarget.forOptionalAssets assets,
        path = targetPath controller.install target) (do
      ofExcept (Lib.Checks.reject (¬ reobserved) .installChanged)
      let written ← onFiles .deploy (entry.applyOptional digests bytes controller.install)
      onFiles .verify (controller.verifyOptionalAssets bytes assets)
      return written) := by
  have happly : Changes _ (entry.applyOptional digests bytes controller.install) :=
    changes_applyOptional bytes h
  refine (edits_ofExcept _).bind fun _ => (edits_onFiles happly).bind fun written => ?_
  exact (edits_onFiles (changes_verifyOptionalAssets bytes assets)).bind fun _ =>
    edits_ofExcept (.ok written)

/-- **What a deployment does.**  It changes no file and drops no entry, or it has put
its record into `backup.json` and changed targets only. -/
theorem deploy_cases {r : Except DeployError (List FilePath)}
    (h : deployOptionalCs2Cfgs digests bytes call s = (r, t)) :
    (t.files.content = s.files.content ∧
        ∀ existing ∈ s.backup.entries, existing ∈ t.backup.entries) ∨
      ∃ controller entry, call.discovered = some controller ∧
        Deployed digests call s t controller entry := by
  -- a part that edits nothing stops the call, or hands the same host on
  have same : ∀ {α : Type} {m : DeployProg α} {s' t' : OptionalHost}
      {r' : Except DeployError α}, Edits (fun _ => False) m → m s' = (r', t') →
      t'.backup = s'.backup ∧ t'.files.content = s'.files.content :=
    fun hm hrun => ⟨(hm _ _ _ hrun).1, funext fun p => (hm _ _ _ hrun).2 p id⟩
  have stopped : ∀ {u : OptionalHost}, u.backup = s.backup →
      u.files.content = s.files.content → u.files.content = s.files.content ∧
        ∀ existing ∈ s.backup.entries, existing ∈ u.backup.entries :=
    fun hbackup hfiles => ⟨hfiles, fun _ hmem => hbackup ▸ hmem⟩
  unfold deployOptionalCs2Cfgs at h
  rcases bind_cases h with ⟨e, hcheck, -⟩ | ⟨_, s₁, hcheck, h⟩
  · obtain ⟨hbackup, hfiles⟩ := same (edits_ofExcept _) hcheck
    exact .inl (stopped hbackup hfiles)
  obtain rfl := (Prod.mk.inj hcheck).2
  rcases bind_cases h with ⟨e, hcheck, -⟩ | ⟨_, s₁, hcheck, h⟩
  · obtain ⟨hbackup, hfiles⟩ := same (edits_ofExcept _) hcheck
    exact .inl (stopped hbackup hfiles)
  obtain rfl := (Prod.mk.inj hcheck).2
  rcases bind_cases h with ⟨e, hcheck, -⟩ | ⟨controller, s₁, hcheck, h⟩
  · obtain ⟨hbackup, hfiles⟩ := same (edits_ofExcept _) hcheck
    exact .inl (stopped hbackup hfiles)
  obtain ⟨hfound, rfl⟩ := Prod.mk.inj hcheck
  have hfound := Lib.Checks.okOr_eq_ok.mp hfound
  rcases bind_cases h with ⟨e, hcapture, -⟩ | ⟨entry, s₁, hcapture, h⟩
  · obtain ⟨hbackup, hfiles⟩ := same (edits_onFiles (changes_captureOptional _ _ _)) hcapture
    exact .inl (stopped hbackup hfiles)
  obtain ⟨hbackup, hfiles⟩ := same (edits_onFiles (changes_captureOptional _ _ _)) hcapture
  obtain ⟨files, hrun⟩ := onFiles_ok hcapture
  obtain ⟨hcaptures, hvalid, -, -⟩ := captureOptional_ok hrun
  rcases bind_cases h with ⟨e, hread, -⟩ | ⟨entries, s₂, hread, h⟩
  · obtain ⟨hbackup', hfiles'⟩ := same edits_readBackup hread
    exact .inl (stopped (hbackup'.trans hbackup) (hfiles'.trans hfiles))
  obtain ⟨hbackup', hfiles'⟩ := same edits_readBackup hread
  have hentries := readBackup_ok hread
  rw [hbackup] at hentries
  rcases bind_cases h with ⟨e, hpersist, -⟩ | ⟨_, s₃, hpersist, h⟩
  · obtain ⟨hfiles'', hend⟩ := persistBackup_cases hpersist
    left
    rw [hfiles'', hfiles', hfiles]
    refine ⟨rfl, fun existing hmem => ?_⟩
    rcases hend with ⟨hsame, -⟩ | hnew
    · rw [hsame, hbackup', hbackup]
      exact hmem
    · rw [hnew, hentries]
      exact mem_pushFirstValue hmem
  obtain ⟨hfiles'', hend⟩ := persistBackup_cases hpersist
  have hstored := hend.resolve_left fun hsame => hsame.2 rfl
  obtain ⟨hlast, hchanged⟩ := edits_apply hcaptures s₃ r t h
  right
  refine ⟨controller, entry, hfound, hcaptures, hvalid, ?_, fun path hpath => ?_⟩
  · rw [hlast, hstored, hentries]
  · rw [hchanged path, hfiles'', hfiles', hfiles]
    rintro ⟨target, htarget, heq⟩
    exact hpath target htarget heq

/-- A call reads the host with the faults of its own. -/
theorem optionalStep_deploy : ∃ r, deployOptionalCs2Cfgs digests bytes call
    { s with files := s.files.armed call.faults } =
      (r, optionalStep digests bytes s (.deploy call)) := ⟨_, rfl⟩

/-- The originals of a record. -/
theorem holds_captured {controller : Cs2ConfigController} {entry : Cs2ConfigTransaction}
    (h : Deployed digests call s t controller entry) {target : Cs2ConfigTarget}
    {original : Bytes}
    (htarget : target ∈ Cs2ConfigTarget.forOptionalAssets call.assets.toFinset)
    (hcontent : s.files.content (targetPath controller.install target) = some original) :
    Holds digests (.cfg entry) controller.install target original := by
  refine ⟨entry, rfl, valid_fingerprint h.valid, ?_⟩
  rw [h.captures.originals, ← hcontent]
  exact List.mem_map_of_mem htarget

/-! ## Whole runs -/

/-- Only the restore of an entry takes it out of the backup file. -/
theorem entry_stays {entry : StoredEntry} (a : OptionalStep)
    (h : entry ∈ s.backup.entries) :
    Restores a entry ∨ entry ∈ (optionalStep digests bytes s a).backup.entries := by
  cases a with
  | edit path content => exact .inr h
  | deploy call =>
      right
      obtain ⟨r, hrun⟩ : ∃ r, _ = (r, optionalStep digests bytes s (.deploy call)) :=
        optionalStep_deploy
      rcases deploy_cases hrun with ⟨-, hkept⟩ | ⟨controller, captured, -, hdeployed⟩
      · exact hkept entry h
      · rw [hdeployed.stored]
        exact mem_pushFirstValue h
  | recover restored content =>
      by_cases hrestored : restored entry = true
      · exact .inl hrestored
      · right
        unfold optionalStep
        cases hbackup : s.backup with
        | holds entries =>
            rw [hbackup] at h
            show entry ∈ entries.filter fun entry => ¬ restored entry
            rw [List.mem_filter]
            exact ⟨h, by simpa using hrestored⟩
        | absent =>
            rw [hbackup] at h
            cases h
        | unreadable =>
            rw [hbackup] at h
            cases h

/-- An entry of the backup file is kept. -/
theorem kept_of_mem {entry : StoredEntry} {run : List (OptionalStep × OptionalHost)}
    (hrun : IsRun (fun a s t => t = optionalStep digests bytes s a) s run)
    (h : entry ∈ s.backup.entries) : Kept entry s run := by
  induction run generalizing s with
  | nil => exact h
  | cons x rest ih =>
      obtain ⟨hstep, hrest⟩ := hrun
      rcases entry_stays x.1 h with hrestored | hstays
      · exact ⟨h, .inl hrestored⟩
      · exact ⟨h, .inr (ih hrest (hstep ▸ hstays))⟩

/-- One deployment that records the originals. -/
theorem deploy_keeps {rest : List (OptionalStep × OptionalHost)}
    (hgood : RecordsOriginals digests bytes s (.deploy call))
    (hrest : IsRun (fun a s t => t = optionalStep digests bytes s a)
      (optionalStep digests bytes s (.deploy call)) rest) :
    KeepsOverwritten digests bytes call s (optionalStep digests bytes s (.deploy call))
      rest := by
  intro path original hcontent hchanged
  obtain ⟨r, hrun⟩ : ∃ r, _ = (r, optionalStep digests bytes s (.deploy call)) :=
    optionalStep_deploy
  rcases deploy_cases hrun with ⟨hsame, -⟩ | ⟨controller, captured, hfound, hdeployed⟩
  · rw [hsame] at hchanged
    exact absurd hcontent hchanged
  · have hpath : ∃ target ∈ Cs2ConfigTarget.forOptionalAssets call.assets.toFinset,
        path = targetPath controller.install target := by
      by_contra hnone
      push Not at hnone
      rw [hdeployed.others path hnone] at hchanged
      exact hchanged hcontent
    obtain ⟨target, htarget, rfl⟩ := hpath
    refine ⟨controller, target, hfound, rfl, ?_⟩
    rcases hgood controller hfound with hnew | hheld
    · right
      have hidentity : dedupeIdentity (StoredEntry.cfg captured).entry =
          dedupeIdentity (capturedEntry digests call controller) :=
        captured_identity hdeployed.captures hdeployed.valid
      refine ⟨.cfg captured, holds_captured hdeployed htarget hcontent,
        kept_of_mem hrest ?_⟩
      rw [hdeployed.stored]
      exact mem_pushFirstValue_self fun existing hmem => hidentity ▸ hnew existing hmem
    · rcases hheld target htarget original hcontent with hasset | ⟨entry, hmem, hholds⟩
      · exact .inl hasset
      · right
        refine ⟨entry, hholds, kept_of_mem hrest ?_⟩
        rw [hdeployed.stored]
        exact mem_pushFirstValue hmem

end

/-! ## An edit between two deployments -/

private def editedInstall : Cs2Install where
  steamRoot := [.device "C:", .rootDir, .normal "Steam"]
  libraryRoot := [.device "C:", .rootDir, .normal "Steam"]
  installRoot := joinNames [.device "C:", .rootDir, .normal "Steam"]
    ["steamapps", "common", CS2_DIRECTORY]

private def editedController : Cs2ConfigController where
  install := editedInstall
  bound := by decide +kernel

/-- A digest and an encoding of constant value. -/
private def editedDigests : CfgDigests where
  sha256 _ := [0x5a]
  encodedBytes _ := []

private def editedBytes : CfgAssets := fun asset => Lib.Text.utf8 asset.fileName

private def editedCall : DeployCall where
  assets := [.netStable]
  gates := true
  discovered := some editedController
  timestamp := "2026-08-23 12:34:56"
  persist := .stored
  reobserved := true
  faults := []

/-- There is no file yet. -/
private def freshHost : OptionalHost where
  files := { content := fun _ => none }
  backup := .absent

private def editedPath : FilePath := targetPath editedController.install .netStable

private def deployedHost : OptionalHost :=
  optionalStep editedDigests editedBytes freshHost (.deploy editedCall)

/-- The user has put other bytes into the file. -/
private def editedHost : OptionalHost :=
  optionalStep editedDigests editedBytes deployedHost (.edit editedPath (some [0x31]))

private def redeployedHost : OptionalHost :=
  optionalStep editedDigests editedBytes editedHost (.deploy editedCall)

/-- The transaction of the entry has the bytes of the user. -/
private def StoredEntry.hasEdit : StoredEntry → Bool
  | .cfg transaction => (.netStable, some [0x31]) ∈ transaction.originals
  | .other _ => false

private theorem redeployed_content :
    editedHost.files.content editedPath = some [0x31] ∧
      redeployedHost.files.content editedPath ≠ some [0x31] ∧
      [0x31] ≠ deployedBytes editedBytes .netStable := by
  decide +kernel

private theorem redeployed_entries : redeployedHost.backup.entries.any StoredEntry.hasEdit =
    false := by
  decide +kernel

end FrametimeCfg.Verified.OptionalRecovery
