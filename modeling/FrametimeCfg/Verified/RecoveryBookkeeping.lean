import FrametimeCfg.Windows.RestoreMatching
import FrametimeCfg.Verified.StateCodec

/-!
# The bookkeeping of recovery

Every record of `backup.json` meets a fate: it is not selected, it is restored, or its
restore fails.  Recovery takes the restored records out of the file and leaves the
others in it, in their order, and it succeeds when no restore failed.

The records that stay are decoded and written again.  A record whose fields are all in
the file as this version writes them has the content it had.  One that lacks a field
with a default, or that has an explicit `null` where the field is skipped, has not.
-/

namespace FrametimeCfg.Verified.RecoveryBookkeeping

open FrametimeCfg.Domain
open FrametimeCfg.Domain.Serde
open FrametimeCfg.Lib.Checks
open FrametimeCfg.Lib.OrderedMap
open FrametimeCfg.Windows

/-! ## The fates of the records -/

inductive Fate where
  | unselected
  | restored
  | failed (error : String)
  deriving DecidableEq, Repr

def Fate.error : Fate → Option String
  | .failed error => some error
  | _ => none

variable {σ : Type}

/-- The fates of records that are taken in turn, each on the system that the ones before
it left. -/
def fatesFrom (call : RecoveryCall σ) : List BackupRecord → σ → List Fate
  | [], _ => []
  | entry :: rest, s =>
      if ¬ call.selected entry then .unselected :: fatesFrom call rest s
      else
        match call.restoreEntry entry s with
        | (.ok (), s) => .restored :: fatesFrom call rest s
        | (.error error, s) => .failed error :: fatesFrom call rest s

/-- The fates of the records of a file, in the order of the file. -/
def fates (call : RecoveryCall σ) (backup : BackupDocument) (s : σ) : List Fate :=
  (fatesFrom call backup.restoreOrder s).reverse

/-- What is left of a list when the restored positions are taken out. -/
def remaining {α : Type} (items : List α) (fates : List Fate) : List α :=
  (items.zip fates).filterMap fun (item, fate) =>
    if fate = .restored then none else some item

theorem length_fatesFrom (call : RecoveryCall σ) (entries : List BackupRecord) (s : σ) :
    (fatesFrom call entries s).length = entries.length := by
  induction entries generalizing s with
  | nil => rfl
  | cons entry rest ih =>
      unfold fatesFrom
      split
      · rw [List.length_cons, ih, List.length_cons]
      · split
        · rw [List.length_cons, ih, List.length_cons]
        · rw [List.length_cons, ih, List.length_cons]

theorem remaining_reverse {α : Type} {items : List α} {fates : List Fate}
    (h : items.length = fates.length) :
    (remaining items fates).reverse = remaining items.reverse fates.reverse := by
  unfold remaining
  rw [← List.filterMap_reverse]
  congr 1
  exact List.reverse_zipWith h

/-- **The loop.**  The retained records are the remaining ones, and the failures those of
the fates. -/
theorem restoreEntries_eq (call : RecoveryCall σ) (entries : List BackupRecord)
    (found : List BackupRecord × List String) (s : RecoveryHost σ) :
    ∃ system, restoreEntries call entries found s =
      (.ok (found.1 ++ remaining entries (fatesFrom call entries s.system),
        found.2 ++ (fatesFrom call entries s.system).filterMap Fate.error),
        { s with system := system }) := by
  induction entries generalizing found s with
  | nil =>
      refine ⟨s.system, ?_⟩
      simp [restoreEntries, remaining, fatesFrom]
  | cons entry rest ih =>
      obtain ⟨retained, failures⟩ := found
      unfold restoreEntries fatesFrom
      by_cases hselected : call.selected entry
      · simp only [hselected, not_true_eq_false, if_false]
        rcases hrestore : call.restoreEntry entry s.system with ⟨outcome, system⟩
        cases outcome with
        | ok u =>
            obtain ⟨after, hrest⟩ :=
              ih (retained, failures) { s with system := system }
            exact ⟨after, by simpa [remaining, List.filterMap_cons, Fate.error] using hrest⟩
        | error error =>
            obtain ⟨after, hrest⟩ :=
              ih (retained ++ [entry], failures ++ [error]) { s with system := system }
            exact ⟨after, by simpa [remaining, List.filterMap_cons, Fate.error] using hrest⟩
      · simp only [hselected]
        obtain ⟨after, hrest⟩ := ih (retained ++ [entry], failures) s
        exact ⟨after, by simpa [remaining, List.filterMap_cons, Fate.error] using hrest⟩

/-! ## The entries of a file -/

/-- The values of the entries of a file. -/
def entryValues (document : Value) : List Value :=
  match StateCodec.field document "entries" with
  | some (.array items) => items
  | _ => []

theorem readItems_forall₂ {α : Type} (c : Codec α) {items : List Value} {as : List α}
    (h : c.readItems items = some as) :
    List.Forall₂ (fun item a => c.read item = some a) items as := by
  induction items generalizing as with
  | nil =>
      obtain rfl := Option.some.inj h
      exact .nil
  | cons item items ih =>
      rw [Codec.readItems] at h
      split at h
      case h_1 a as' ha has =>
        obtain rfl := Option.some.inj h
        exact .cons ha (ih has)
      case h_2 => cases h

/-- The entries of a file that was read, with the values they were read from. -/
theorem entries_of_read {document : Value} {backup : BackupDocument}
    (h : BackupDocument.record.codec.read document = some backup) :
    List.Forall₂ (fun item record => BackupRecord.codec.read item = some record)
      (entryValues document) backup.entries ∧ backup.unknown["entries"]? = none := by
  cases document with
  | object raw =>
      have hrecord : BackupDocument.record.read (asMap raw) = some backup := by
        have hsplit : (if once BackupDocument.record.keys raw then
            BackupDocument.record.read (asMap raw) else none) = some backup := h
        split at hsplit
        · exact hsplit
        · cases hsplit
      have hrest : backup.unknown = BTreeMap.without (asMap raw) BackupDocument.record.keys :=
        BackupDocument.record.rest_eq hrecord
      have hnone : backup.unknown["entries"]? = none := by
        rw [hrest, BTreeMap.get_without, if_pos (by decide)]
      refine ⟨?_, hnone⟩
      have hfield : StateCodec.field (.object raw) "entries" = (asMap raw)["entries"]? := rfl
      simp only [BackupDocument.record, Record.of, Fields.field, Option.map_eq_some_iff]
        at hrecord
      obtain ⟨b, hb, rfl⟩ := hrecord
      split at hb
      case h_1 entries rest hentries hothers =>
        obtain rfl := Option.some.inj hb
        unfold entryValues
        rw [hfield]
        cases hget : (asMap raw)["entries"]? with
        | none =>
            rw [Field.defaulted] at hentries
            simp only [hget, Option.some.injEq] at hentries
            subst hentries
            exact .nil
        | some v =>
            simp only [Field.defaulted, hget] at hentries
            cases v with
            | array items => exact readItems_forall₂ BackupRecord.codec hentries
            | _ => cases hentries
      case h_2 => cases hb
  | _ => cases h

/-- The entries of a file that is written. -/
theorem entryValues_write {backup : BackupDocument}
    (h : backup.unknown["entries"]? = none) :
    entryValues (BackupDocument.record.codec.write backup) =
      backup.entries.map BackupRecord.codec.write := by
  have hkeys := BackupDocument.record.named_keys backup
  obtain ⟨fields, hread, hget⟩ := Value.asObject_ofRecord
    (by rw [hkeys]; exact BackupDocument.record.keys_nodup) backup.unknown
  have hentries : fields["entries"]? =
      some (.array (backup.entries.map BackupRecord.codec.write)) := by
    rw [hget, h, Option.none_or]
    rfl
  have hfield : StateCodec.field (BackupDocument.record.codec.write backup) "entries" =
      some (.array (backup.entries.map BackupRecord.codec.write)) := by
    show (Value.asObject _).bind _ = _
    rw [show (BackupDocument.record.codec.write backup).asObject = some fields from hread]
    exact hentries
  rw [entryValues, hfield]

/-- Lists that are related item by item are so at the positions that remain. -/
theorem forall₂_remaining {α β : Type} {R : α → β → Prop} {as : List α} {bs : List β}
    (h : List.Forall₂ R as bs) (fates : List Fate) :
    List.Forall₂ R (remaining as fates) (remaining bs fates) := by
  induction h generalizing fates with
  | nil => exact .nil
  | cons hab _ ih =>
      cases fates with
      | nil => exact .nil
      | cons fate fates =>
          by_cases hfate : fate = .restored
          · simpa [remaining, hfate] using ih fates
          · simpa [remaining, hfate] using ⟨hab, ih fates⟩

/-- **Decoding and writing again.**  The records have the content they were read from
when each of the values is kept. -/
theorem forall₂_same_write {items : List Value} {records : List BackupRecord}
    (h : List.Forall₂ (fun item record => BackupRecord.codec.read item = some record)
      items records) :
    List.Forall₂ Same (records.map BackupRecord.codec.write) items ↔
      ∀ item ∈ items, BackupRecord.codec.kept item = true := by
  induction h with
  | nil => simp
  | cons hread _ ih =>
      rw [List.map_cons, List.forall₂_cons, List.forall_mem_cons, ih,
        BackupRecord.codec.same_iff hread]

/-! ## Runs -/

/-- What recovery is to leave behind and to return. -/
structure NoRecordLost (call : RecoveryCall σ) (s : RecoveryHost σ) (document : Value)
    (backup : BackupDocument) : Prop where
  /-- The file holds the entries that were not restored, in their order. -/
  entries : ∃ after, (restoreMatching call s).2.backup = some after ∧
    entryValues after =
      (remaining backup.entries (fates call backup s.system)).map
        BackupRecord.codec.write
  /-- The result is the one of the restores. -/
  result : (restoreMatching call s).1 = .ok () ↔
    ∀ fate ∈ fates call backup s.system, fate.error = none
  /-- Each of these entries has the content it had. -/
  content : ∀ after, (restoreMatching call s).2.backup = some after →
    List.Forall₂ Same (entryValues after)
      (remaining (entryValues document) (fates call backup s.system))

/-- A run that gets to its end. -/
theorem restoreMatching_eq {call : RecoveryCall σ} {s : RecoveryHost σ}
    {document : Value} {backup : BackupDocument} (hgates : call.gates = .ok ())
    (hpersist : call.persist = .stored) (hfile : s.backup = some document)
    (hread : BackupDocument.record.codec.read document = some backup) :
    ∃ system, restoreMatching call s =
      (reject ((fates call backup s.system).reverse.filterMap Fate.error ≠ [])
        (toString ((fates call backup s.system).reverse.filterMap Fate.error).length ++
          " recovery entries retained: " ++
          "; ".intercalate ((fates call backup s.system).reverse.filterMap Fate.error)),
        { backup := some (BackupDocument.record.codec.write
            { backup with entries := remaining backup.entries (fates call backup s.system) })
          system := system }) := by
  obtain ⟨system, hloop⟩ := restoreEntries_eq call backup.restoreOrder ([], []) s
  have hlength : backup.restoreOrder.length =
      (fatesFrom call backup.restoreOrder s.system).length :=
    (length_fatesFrom call _ _).symm
  have hretained : (remaining backup.restoreOrder
      (fatesFrom call backup.restoreOrder s.system)).reverse =
        remaining backup.entries (fates call backup s.system) := by
    rw [remaining_reverse hlength, fates, BackupDocument.restoreOrder, List.reverse_reverse]
  have hfates : (fates call backup s.system).reverse =
      fatesFrom call backup.restoreOrder s.system := by
    rw [fates, List.reverse_reverse]
  have hbackup : readBackupDocument s = (.ok backup, s) := by
    rw [readBackupDocument, hfile, Option.bind_some, hread]
  refine ⟨system, ?_⟩
  rw [hfates, restoreMatching, hgates]
  show (readBackupDocument >>= _) s = _
  rw [Lib.Effect.bind_apply_ok hbackup, Lib.Effect.bind_apply_ok hloop]
  simp only [List.nil_append, hpersist, hretained]
  rfl

/-- No failure is found where no fate has one. -/
theorem filterMap_error_eq_nil {fates : List Fate} :
    fates.reverse.filterMap Fate.error = [] ↔ ∀ fate ∈ fates, fate.error = none := by
  simp [List.filterMap_eq_nil_iff]

/-- **Recovery keeps the records.**  In a run that gets to its end the entries that were
not restored stay in the file, in their order, and the result is the one of the restores.
Each of the entries has the content it had exactly when it holds its fields as they are
written: a field with a default is there, one that is skipped is not an explicit `null`
or an empty list, a struct without a rest has no other keys, and an enum is spelled by
its name. -/
theorem recoveryBookkeeping (call : RecoveryCall σ) (s : RecoveryHost σ) {document : Value}
    {backup : BackupDocument} (hgates : call.gates = .ok ())
    (hpersist : call.persist = .stored) (hfile : s.backup = some document)
    (hread : BackupDocument.record.codec.read document = some backup) :
    NoRecordLost call s document backup ↔
      ∀ item ∈ remaining (entryValues document) (fates call backup s.system),
        BackupRecord.codec.kept item = true := by
  obtain ⟨system, hrun⟩ := restoreMatching_eq hgates hpersist hfile hread
  obtain ⟨hentries, hunknown⟩ := entries_of_read hread
  have hafter : entryValues (BackupDocument.record.codec.write
      { backup with entries := remaining backup.entries (fates call backup s.system) }) =
        (remaining backup.entries (fates call backup s.system)).map
          BackupRecord.codec.write := entryValues_write hunknown
  have hcontent := forall₂_same_write
    (forall₂_remaining hentries (fates call backup s.system))
  have hresult : (restoreMatching call s).1 = .ok () ↔
      ∀ fate ∈ fates call backup s.system, fate.error = none := by
    rw [hrun, reject_eq_ok, decide_eq_false_iff_not, not_not, filterMap_error_eq_nil]
  constructor
  · intro h
    rw [← hcontent, ← hafter]
    exact h.content _ (by rw [hrun])
  · intro h
    refine ⟨⟨_, by rw [hrun], hafter⟩, hresult, fun after hstored => ?_⟩
    rw [hrun] at hstored
    obtain rfl := Option.some.inj hstored
    rw [hafter]
    exact hcontent.mpr h

/-! ## A record without its optional fields -/

/-- A power plan record of a file that names neither the plan nor the plans of the
suite. -/
private def shortPowerplan : Value :=
  .object [("type", .string "powerplan"), ("step", .string "Power plan"),
    ("timestamp", .string "2026-08-13T10:00:00Z"),
    ("originalGuid", .string "381b4222-f694-41f0-9685-ff5bb260df2e")]

/-- A record of a type that this version does not know. -/
private def laterRecord : Value :=
  .object [("type", .string "audio_endpoint"), ("step", .string "Audio"),
    ("volume", .number (.unsigned 40))]

/-- A registry value of another step. -/
private def registryRecord : Value :=
  .object [("type", .string "registry"), ("step", .string "Game mode"),
    ("timestamp", .string "2026-08-13T10:00:00Z"), ("path", .string "HKCU:\\Software"),
    ("name", .string "AutoGameModeEnabled"), ("originalValue", .number (.unsigned 1)),
    ("originalType", .string "REG_DWORD"), ("existed", .bool true)]

private def recordedFile (records : List Value) : Value :=
  .object [("created", .string "2026-08-13T10:00:00Z"), ("entries", .array records)]

/-- The records of one step are selected, and restored. -/
private def stepCall : RecoveryCall Unit where
  gates := .ok ()
  selected := fun record => record.step = some "Game mode"
  restoreEntry := fun _ => pure ()
  persist := .stored

private theorem later_read :
    (BackupDocument.record.codec.read
      (recordedFile [laterRecord, registryRecord])).isSome = true := by
  decide +kernel

/-- A record of an unknown type stays as it is. -/
theorem recoveryBookkeeping_later :
    NoRecordLost stepCall ⟨some (recordedFile [laterRecord, registryRecord]), ()⟩
      (recordedFile [laterRecord, registryRecord])
      ((BackupDocument.record.codec.read
        (recordedFile [laterRecord, registryRecord])).get later_read) :=
  (recoveryBookkeeping stepCall _ rfl rfl rfl (Option.some_get later_read).symm).mpr
    (by decide +kernel)

private theorem short_read :
    (BackupDocument.record.codec.read (recordedFile [shortPowerplan])).isSome = true := by
  decide +kernel

/-- **The power plan record grows two fields.** -/
theorem recoveryBookkeeping_powerplan :
    ¬ NoRecordLost stepCall ⟨some (recordedFile [shortPowerplan]), ()⟩
      (recordedFile [shortPowerplan])
      ((BackupDocument.record.codec.read (recordedFile [shortPowerplan])).get
        short_read) := by
  intro h
  obtain ⟨after, hafter, hvalues⟩ := h.entries
  have hsame := h.content after hafter
  have hwritten : (remaining
      ((BackupDocument.record.codec.read (recordedFile [shortPowerplan])).get
        short_read).entries
      (fates stepCall ((BackupDocument.record.codec.read
        (recordedFile [shortPowerplan])).get short_read) ())).map
          BackupRecord.codec.write =
      [.object [("type", .string "powerplan"), ("step", .string "Power plan"),
        ("timestamp", .string "2026-08-13T10:00:00Z"),
        ("originalGuid", .string "381b4222-f694-41f0-9685-ff5bb260df2e"),
        ("originalName", .null), ("suiteOwnedGuids", .array [])]] := by
    decide +kernel
  have hitems : remaining (entryValues (recordedFile [shortPowerplan]))
      (fates stepCall ((BackupDocument.record.codec.read
        (recordedFile [shortPowerplan])).get short_read) ()) = [shortPowerplan] := by
    decide +kernel
  rw [hvalues, hwritten, hitems, List.forall₂_cons] at hsame
  exact absurd hsame.1 (by decide +kernel)

/-! ## Runs that stop before the end -/

/-- A closed gate or an unreadable file leaves everything as it was. -/
theorem restoreMatching_unread {call : RecoveryCall σ} {s : RecoveryHost σ}
    (h : call.gates ≠ .ok () ∨ s.backup.bind BackupDocument.record.codec.read = none) :
    ∃ error, restoreMatching call s = (.error error, s) := by
  rcases hgates : call.gates with error | u
  · refine ⟨error, ?_⟩
    rw [restoreMatching, hgates]
    rfl
  · rw [hgates] at h
    have hread : s.backup.bind BackupDocument.record.codec.read = none :=
      h.resolve_left (fun hne => hne rfl)
    have hstop : readBackupDocument s = (.error "read backup", s) := by
      rw [readBackupDocument, hread]
    refine ⟨"read backup", ?_⟩
    rw [restoreMatching, hgates]
    show (readBackupDocument >>= _) s = _
    rw [Lib.Effect.bind_apply_error hstop]

/-- A write that is refused leaves the file as it was, and recovery fails. -/
theorem restoreMatching_refused {call : RecoveryCall σ} {s : RecoveryHost σ}
    {backup : BackupDocument} (hgates : call.gates = .ok ())
    (hpersist : call.persist = .refused)
    (hread : s.backup.bind BackupDocument.record.codec.read = some backup) :
    ∃ error system, restoreMatching call s = (.error error, { s with system := system }) := by
  obtain ⟨system, hloop⟩ := restoreEntries_eq call backup.restoreOrder ([], []) s
  have hbackup : readBackupDocument s = (.ok backup, s) := by
    rw [readBackupDocument, hread]
  refine ⟨"persist restored backup", system, ?_⟩
  rw [restoreMatching, hgates]
  show (readBackupDocument >>= _) s = _
  rw [Lib.Effect.bind_apply_ok hbackup, Lib.Effect.bind_apply_ok hloop, hpersist]
  rfl

end FrametimeCfg.Verified.RecoveryBookkeeping
