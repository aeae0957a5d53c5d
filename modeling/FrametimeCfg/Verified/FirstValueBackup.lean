import FrametimeCfg.Domain.Backup
import FrametimeCfg.Lib.FirstValue

/-!
# The first-value backup

`backup.json` is a journal of first values: an operation captures what it is
about to change, `push_first_value` keeps an entry unless one of its dedupe key
is there, and `restore_order` writes the entries back, the newest first.

The dedupe key is a text.  It is put together from the step, the kind and the
names, and two identities can have one text: the key of a scheduled task has
nothing between the path and the name, and the separator of a registry value and
of an adapter property may occur in the names.  The entry of the second identity
is then dropped.
-/

namespace FrametimeCfg.Verified.FirstValueBackup

open FrametimeCfg.Domain
open FrametimeCfg.Lib.FirstValue
open FrametimeCfg.Lib.Runs
open FrametimeCfg.Lib.Text

/-! ## Identities and values -/

/-- What a recovery entry is about.  The names are in lower case. -/
inductive RecoveryIdentity where
  | registry (path name : String)
  | service (name : String)
  | bootconfig (key : String)
  | scheduledtask (taskPath taskName : String)
  | nicAdapter (adapterName propertyName : String)
  deriving DecidableEq

/-- What was there. -/
inductive CapturedValue where
  | registry (value : Value) (type : Option String) (existed : Bool)
  | service (startType : String) (delayedAutoStart : Bool) (status : String)
  | bootconfig (value : Value) (existed : Bool)
  | scheduledtask (existed wasEnabled : Bool)
  | nicAdapter (value : Value) (type : String)
  deriving DecidableEq

/-- The identity and the value of an entry. -/
def capturedBy : BackupEntry → Option (RecoveryIdentity × CapturedValue)
  | .registry _ _ path name value type existed _ =>
      some (.registry (asciiLower path) (asciiLower name), .registry value type existed)
  | .service _ _ name startType delayedAutoStart status _ =>
      some (.service (asciiLower name), .service startType delayedAutoStart status)
  | .bootconfig _ _ key value existed _ =>
      some (.bootconfig (asciiLower key), .bootconfig value existed)
  | .scheduledtask _ _ taskName taskPath existed wasEnabled _ _ =>
      some (.scheduledtask (asciiLower taskPath) (asciiLower taskName),
        .scheduledtask existed wasEnabled)
  | .nicAdapter _ _ adapterName _ propertyName value type _ =>
      some (.nicAdapter (asciiLower adapterName) (asciiLower propertyName),
        .nicAdapter value type)
  | _ => none

/-- The entries as records of a first-value journal. -/
def reading : Reading BackupEntry String RecoveryIdentity CapturedValue where
  key := dedupeIdentity
  captured := capturedBy

/-- What the identities hold. -/
abbrev Host : Type := RecoveryIdentity → CapturedValue

/-! ## Operations -/

/-- The host and its backup file. -/
structure World where
  host : Host
  file : BackupFile

/-- Store the entries of an operation. -/
def pushAll (file : BackupFile) (entries : List BackupEntry) : BackupFile :=
  entries.foldl BackupFile.pushFirstValue file

/-- One operation: the entries hold what is there, they are stored, and then
the captured identities change. -/
def Operates (entries : List BackupEntry) (w w' : World) : Prop :=
  Captures reading w.host entries ∧ w'.file = pushAll w.file entries ∧
    ChangesOnly reading entries w.host w'.host

/-- Restore every entry, in restore order. -/
def restoreAll (w : World) : Host :=
  w.file.restoreOrder.foldl (fun host entry => put reading entry host) w.host

/-- The dedupe keys of the captured entries are no keys of other identities. -/
def KeysApart (w : World) (entries : List BackupEntry) : Prop :=
  Apart reading w.file.entries entries

theorem entries_pushAll (file : BackupFile) (entries : List BackupEntry) :
    (pushAll file entries).entries = storeAll reading file.entries entries := by
  induction entries generalizing file with
  | nil => rfl
  | cons e entries ih =>
      have hpush : (file.pushFirstValue e).entries = store reading file.entries e := by
        unfold BackupFile.pushFirstValue store
        by_cases hnew : dedupeIdentity e = none ∨ ¬ file.entries.any
            (fun existing => dedupeIdentity existing = dedupeIdentity e) = true
        · rw [if_pos hnew]
          exact (if_pos hnew).symm
        · rw [if_neg hnew]
          exact (if_neg hnew).symm
      have hrest := ih (file.pushFirstValue e)
      rw [hpush] at hrest
      exact hrest

theorem restoreAll_eq (w : World) : restoreAll w = undo reading w.file.entries w.host := by
  unfold restoreAll BackupFile.restoreOrder undo
  rw [List.foldl_reverse]

/-- One operation leaves what a restore gives. -/
theorem restoreAll_step {entries : List BackupEntry} {w w' : World}
    (hstep : Operates entries w w') (hapart : KeysApart w entries) :
    restoreAll w' = restoreAll w := by
  obtain ⟨hcaptures, hfile, hchanges⟩ := hstep
  rw [restoreAll_eq, restoreAll_eq, hfile, entries_pushAll]
  exact undo_step hcaptures hapart hchanges

/-- **A restore gives the first values**, after every run whose operations capture
identities with keys of their own. -/
theorem firstValueBackup {host : Host} {file : BackupFile}
    {run : List (List BackupEntry × World)} (hempty : file.entries = [])
    (hrun : IsRun Operates ⟨host, file⟩ run) (hapart : EachStep KeysApart ⟨host, file⟩ run) :
    ∀ w ∈ states ⟨host, file⟩ run, restoreAll w = host := by
  have hstart : restoreAll ⟨host, file⟩ = host := by
    rw [restoreAll_eq, hempty]
    rfl
  have hstep : ∀ (entries : List BackupEntry) (w w' : World),
      (Operates entries w w' ∧ KeysApart w entries) → restoreAll w = host →
        restoreAll w' = host := by
    intro entries w w' hstep hw
    rw [restoreAll_step hstep.1 hstep.2, hw]
  exact (hrun.restrict hapart).invariant hstep hstart

/-! ## Names that keep keys apart -/

/-- The text has the character. -/
def HasChar (c : Char) (text : String) : Prop := c ∈ (asciiLower text).toList

/-- The names of the entry leave no doubt where one ends: a value name and a
property name have no colon, and the path of a task ends in the only backslash
after the folders. -/
def Delimited : BackupEntry → Prop
  | .registry _ _ _ name .. => ¬ HasChar ':' name
  | .nicAdapter _ _ _ _ propertyName .. => ¬ HasChar ':' propertyName
  | .scheduledtask _ _ taskName taskPath .. =>
      (∃ folder, asciiLower taskPath = folder ++ "\\") ∧ ¬ HasChar '\\' taskName
  | _ => True

private theorem split_last {c : Char} {a a' b b' : List Char}
    (h : a ++ c :: b = a' ++ c :: b') (hb : c ∉ b) (hb' : c ∉ b') : a = a' ∧ b = b' := by
  induction a generalizing a' with
  | nil =>
      cases a' with
      | nil => exact ⟨rfl, (List.cons.inj h).2⟩
      | cons x a' =>
          exfalso
          apply hb
          have htail : b = a' ++ c :: b' := (List.cons.inj h).2
          rw [htail]
          simp
  | cons x a ih =>
      cases a' with
      | nil =>
          exfalso
          apply hb'
          have htail : a ++ c :: b = b' := (List.cons.inj h).2
          rw [← htail]
          simp
      | cons y a' =>
          obtain ⟨hxy, htail⟩ := List.cons.inj h
          obtain ⟨ha, hb⟩ := ih htail
          exact ⟨by rw [hxy, ha], hb⟩

/-- A text that was put together around a separator comes apart at its last
occurrence. -/
private theorem texts_of_append {path path' name name' separator : String} {c : Char}
    (hseparator : separator.toList = [c])
    (h : path ++ separator ++ name = path' ++ separator ++ name')
    (hname : c ∉ name.toList) (hname' : c ∉ name'.toList) : path = path' ∧ name = name' := by
  have hlists : path.toList ++ c :: name.toList = path'.toList ++ c :: name'.toList := by
    have hl := congrArg String.toList h
    simpa [hseparator] using hl
  obtain ⟨hpath, hname⟩ := split_last hlists hname hname'
  exact ⟨String.toList_inj.mp hpath, String.toList_inj.mp hname⟩

/-- The text of the identity that the key is made of. -/
private theorem identityText_of_key {e e' : BackupEntry} {step : String}
    (hstep : e.step = some step) (hstep' : e'.step = some step)
    (hkey : dedupeIdentity e = dedupeIdentity e') (hsome : dedupeIdentity e ≠ none) :
    e.identityText = e'.identityText := by
  unfold dedupeIdentity at hkey hsome
  rw [hstep] at hkey hsome
  rw [hstep'] at hkey
  cases ht : e.identityText with
  | none =>
      rw [ht] at hsome
      exact absurd rfl hsome
  | some text =>
      cases ht' : e'.identityText with
      | none =>
          rw [ht, ht'] at hkey
          cases hkey
      | some text' =>
          rw [ht, ht'] at hkey
          have happend : asciiLower step ++ text = asciiLower step ++ text' :=
            Option.some.inj hkey
          rw [String.append_right_inj] at happend
          rw [happend]

/-- **Names that are delimited keep the keys apart.**  Two entries of one step and
one dedupe key are of one identity. -/
theorem identity_of_key {e e' : BackupEntry} {p p' : RecoveryIdentity × CapturedValue}
    (hcaptured : capturedBy e = some p) (hcaptured' : capturedBy e' = some p')
    (hdelimited : Delimited e) (hdelimited' : Delimited e') (hstep : e.step = e'.step)
    (hkey : dedupeIdentity e = dedupeIdentity e') : p.1 = p'.1 := by
  cases e <;> simp only [capturedBy, reduceCtorEq, Option.some.injEq] at hcaptured <;>
    cases e' <;> simp only [capturedBy, reduceCtorEq, Option.some.injEq] at hcaptured' <;>
    subst hcaptured <;> subst hcaptured' <;>
    have htext := identityText_of_key rfl hstep.symm hkey (by simp [dedupeIdentity,
      BackupEntry.step, BackupEntry.identityText]) <;>
    simp only [BackupEntry.identityText, Option.some.injEq] at htext
  -- texts of two kinds differ right after the first colon
  all_goals try (have hlists := congrArg String.toList htext; simp at hlists; done)
  case registry.registry =>
    rw [String.append_assoc, String.append_assoc, String.append_assoc, String.append_assoc,
      String.append_right_inj, ← String.append_assoc, ← String.append_assoc] at htext
    obtain ⟨hpath, hname⟩ := texts_of_append rfl htext hdelimited hdelimited'
    show RecoveryIdentity.registry _ _ = .registry _ _
    rw [hpath, hname]
  case service.service =>
    rw [String.append_right_inj] at htext
    exact congrArg RecoveryIdentity.service htext
  case bootconfig.bootconfig =>
    rw [String.append_right_inj] at htext
    exact congrArg RecoveryIdentity.bootconfig htext
  case scheduledtask.scheduledtask =>
    obtain ⟨⟨folder, hfolder⟩, hname⟩ := hdelimited
    obtain ⟨⟨folder', hfolder'⟩, hname'⟩ := hdelimited'
    rw [String.append_assoc, String.append_assoc, String.append_right_inj, hfolder,
      hfolder'] at htext
    obtain ⟨hpath, hname⟩ := texts_of_append rfl htext hname hname'
    show RecoveryIdentity.scheduledtask _ _ = .scheduledtask _ _
    rw [hfolder, hfolder', hpath, hname]
  case nicAdapter.nicAdapter =>
    rw [String.append_assoc, String.append_assoc, String.append_assoc, String.append_assoc,
      String.append_right_inj, ← String.append_assoc, ← String.append_assoc] at htext
    obtain ⟨hadapter, hproperty⟩ := texts_of_append rfl htext hdelimited hdelimited'
    show RecoveryIdentity.nicAdapter _ _ = .nicAdapter _ _
    rw [hadapter, hproperty]

/-! ## Two scheduled tasks -/

/-- A captured task. -/
def taskEntry (taskPath taskName : String) (wasEnabled : Bool) : BackupEntry :=
  .scheduledtask "P1:13" "now" taskName taskPath true wasEnabled none ∅

/-- A host whose tasks are enabled or not. -/
def taskHost (enabled : Bool) : Host := fun _ => .scheduledtask true enabled

/-- The entries of two tasks. -/
def twoTasks (path path' : String) : List BackupEntry :=
  [taskEntry path "AppUpdate" true, taskEntry path' "Update" true]

/-- The identities of two tasks. -/
def areTasks (path path' : String) (i : RecoveryIdentity) : Bool :=
  i = .scheduledtask (asciiLower path) (asciiLower "AppUpdate") ||
    i = .scheduledtask (asciiLower path') (asciiLower "Update")

/-- The host after the two tasks were disabled. -/
def tasksDisabled (path path' : String) : World where
  host i := .scheduledtask true (!areTasks path path' i)
  file := pushAll ⟨[], "now", ∅⟩ (twoTasks path path')

private theorem tasks_operate (path path' : String) :
    Operates (twoTasks path path') ⟨taskHost true, ⟨[], "now", ∅⟩⟩
      (tasksDisabled path path') := by
  refine ⟨?_, rfl, ?_⟩
  · intro e he
    rcases List.mem_cons.mp he with rfl | he
    · exact ⟨_, rfl⟩
    · obtain rfl := List.mem_singleton.mp he
      exact ⟨_, rfl⟩
  · intro i
    by_cases hi : areTasks path path' i = true
    · left
      rcases Bool.or_eq_true_iff.mp hi with h | h
      · exact ⟨_, List.mem_cons_self, congrArg some (of_decide_eq_true h).symm⟩
      · exact ⟨_, List.mem_cons_of_mem _ List.mem_cons_self,
          congrArg some (of_decide_eq_true h).symm⟩
    · right
      show CapturedValue.scheduledtask true true = .scheduledtask true (!areTasks path path' i)
      rw [Bool.eq_false_iff.mpr hi]
      rfl

/-- Of two entries with one key, the first is stored. -/
private theorem one_entry {e e' : BackupEntry} {file : BackupFile}
    (hkey : dedupeIdentity e = dedupeIdentity e') (hsome : dedupeIdentity e' ≠ none)
    (hempty : file.entries = []) : (pushAll file [e, e']).entries = [e] := by
  rw [entries_pushAll, hempty]
  show store reading (store reading [] e) e' = [e]
  have hfirst : store reading [] e = [e] := by simp [store]
  have hsecond : ¬ (dedupeIdentity e' = none ∨
      ¬ [e].any (fun b => dedupeIdentity b = dedupeIdentity e') = true) := by
    simp [hkey, hsome]
  rw [hfirst]
  exact if_neg hsecond

/-- The folders are named without the last backslash. -/
private theorem same_key : dedupeIdentity (taskEntry "\\Vendor" "AppUpdate" true) =
    dedupeIdentity (taskEntry "\\VendorApp" "Update" true) := by
  decide +kernel

/-- Two tasks whose keys differ are enabled again. -/
theorem firstValueBackup_tasks :
    restoreAll (tasksDisabled "\\Vendor\\" "\\VendorApp\\") = taskHost true := by
  have hrun : IsRun Operates ⟨taskHost true, ⟨[], "now", ∅⟩⟩
      [(twoTasks "\\Vendor\\" "\\VendorApp\\",
        tasksDisabled "\\Vendor\\" "\\VendorApp\\")] :=
    ⟨tasks_operate _ _, trivial⟩
  have hapart : EachStep KeysApart ⟨taskHost true, ⟨[], "now", ∅⟩⟩
      [(twoTasks "\\Vendor\\" "\\VendorApp\\",
        tasksDisabled "\\Vendor\\" "\\VendorApp\\")] := by
    refine ⟨?_, trivial⟩
    unfold KeysApart FrametimeCfg.Lib.FirstValue.Apart
    decide +kernel
  exact firstValueBackup rfl hrun hapart _
    (List.mem_cons_of_mem _ (List.mem_singleton.mpr rfl))

/-- **Two tasks with one key.**  The folders are named without the last backslash:
the second entry is taken for a duplicate of the first, and its task stays
disabled. -/
theorem firstValueBackup_collision :
    ¬ ∀ (host : Host) (file : BackupFile) (run : List (List BackupEntry × World)),
      file.entries = [] → IsRun Operates ⟨host, file⟩ run →
        ∀ w ∈ states ⟨host, file⟩ run, restoreAll w = host := by
  intro h
  have hrun : IsRun Operates ⟨taskHost true, ⟨[], "now", ∅⟩⟩
      [(twoTasks "\\Vendor" "\\VendorApp", tasksDisabled "\\Vendor" "\\VendorApp")] :=
    ⟨tasks_operate _ _, trivial⟩
  have hrestored : restoreAll (tasksDisabled "\\Vendor" "\\VendorApp") = taskHost true :=
    h _ _ _ rfl hrun _ (List.mem_cons_of_mem _ (List.mem_singleton.mpr rfl))
  have hdropped : (tasksDisabled "\\Vendor" "\\VendorApp").file.entries =
      [taskEntry "\\Vendor" "AppUpdate" true] := one_entry same_key (by simp [taskEntry, dedupeIdentity,
        BackupEntry.step, BackupEntry.identityText]) rfl
  have hother : reading.cell (taskEntry "\\Vendor" "AppUpdate" true) ≠
      some (.scheduledtask "\\vendorapp" "update") := by
    decide +kernel
  have hdisabled : (tasksDisabled "\\Vendor" "\\VendorApp").host
      (.scheduledtask "\\vendorapp" "update") = .scheduledtask true false := by
    have htask : areTasks "\\Vendor" "\\VendorApp"
        (.scheduledtask "\\vendorapp" "update") = true := by decide +kernel
    show CapturedValue.scheduledtask true (!areTasks _ _ _) = _
    rw [htask]
    rfl
  rw [restoreAll_eq, hdropped] at hrestored
  have hvalues := congrFun hrestored (.scheduledtask "\\vendorapp" "update")
  rw [undo_cons, put_of_ne hother] at hvalues
  have hboth : CapturedValue.scheduledtask true false = .scheduledtask true true :=
    hdisabled.symm.trans hvalues
  exact absurd hboth (by decide)

end FrametimeCfg.Verified.FirstValueBackup
