import FrametimeCfg.Northclock.Persistence

/-!
# Interrupted replacements

A replacement that stops leaves the old content under the path or the new one, but for
three places: between the two renames the path has no file; after a second rename that
failed it has none until the old file is back; and when the old file cannot be removed,
the error comes after the new file is in its place.

The readers see a file without content as a file that never was.  What the replacement
leaves beside the path they do not see.
-/

namespace FrametimeCfg.Verified.StoredFiles

open FrametimeCfg.Lib.Effect
open FrametimeCfg.Lib.OrderedMap
open FrametimeCfg.Northclock

/-- How a replacement ended. -/
abbrev Ended : Type := Except Died (Except NorthclockError Unit)

/-! ## The property -/

/-- The path has its old content or all of the new one; after an error it has the old. -/
structure Survives (path : String) (data : List UInt8) (files files' : DataDirectory)
    (ended : Ended) : Prop where
  whole : files'[path]? = files[path]? ∨ files'[path]? = some data
  kept : ∀ error, ended = .ok (.error error) → files'[path]? = files[path]?

/-- Nothing happened to the path. -/
theorem survives_unchanged {path : String} {data : List UInt8} {files files' : DataDirectory}
    {ended : Ended} (h : files'[path]? = files[path]?) : Survives path data files files' ended :=
  ⟨.inl h, fun _ _ => h⟩

/-- The new file is in its place, and nobody says otherwise. -/
theorem survives_replaced {path : String} {data : List UInt8} {files files' : DataDirectory}
    {ended : Ended} (h : files'[path]? = some data)
    (hended : ∀ error, ended ≠ .ok (.error error)) : Survives path data files files' ended :=
  ⟨.inr h, fun error heq => absurd heq (hended error)⟩

/-- A file that was there is gone. -/
theorem not_survives_gone {path : String} {data old : List UInt8}
    {files files' : DataDirectory} {ended : Ended} (hold : files[path]? = some old)
    (h : files'[path]? = none) : ¬ Survives path data files files' ended := by
  intro hsurvives
  have hwhole := hsurvives.whole
  rw [h, hold] at hwhole
  cases hwhole with
  | inl heq => cases heq
  | inr heq => cases heq

/-! ## Steps -/

section

variable {act : DataDirectory → Except String DataDirectory} {files files' : DataDirectory}
  {call : Prog DataDirectory Died (Except String Unit)} {rest : Process}

theorem step_done (h : act files = .ok files') :
    step .proceeds act files = (.ok (.ok ()), files') := by
  simp only [step, h]

theorem step_failed (error : String) (act : DataDirectory → Except String DataDirectory)
    (files : DataDirectory) :
    step (.fails error) act files = (.ok (.error error), files) := rfl

theorem step_died (act : DataDirectory → Except String DataDirectory)
    (files : DataDirectory) : step .dies act files = (.error .died, files) := rfl

theorem orReturn_done (h : call files = (.ok (.ok ()), files')) :
    orReturn call rest files = rest files' := by
  unfold orReturn
  rw [bind_apply_ok h]

theorem orReturn_failed (error : String) (h : call files = (.ok (.error error), files')) :
    orReturn call rest files = (.ok (.error (ioError error)), files') := by
  unfold orReturn
  rw [bind_apply_ok h]
  rfl

theorem orReturn_died (h : call files = (.error .died, files')) :
    orReturn call rest files = (.error .died, files') := by
  unfold orReturn
  rw [bind_apply_error h]

theorem orReport_done (h : call files = (.ok (.ok ()), files')) :
    orReport call files = (.ok (.ok ()), files') := by
  unfold orReport
  rw [bind_apply_ok h]
  rfl

theorem orReport_failed (error : String) (h : call files = (.ok (.error error), files')) :
    orReport call files = (.ok (.error (ioError error)), files') := by
  unfold orReport
  rw [bind_apply_ok h]
  rfl

theorem orReport_died (h : call files = (.error .died, files')) :
    orReport call files = (.error .died, files') := by
  unfold orReport
  rw [bind_apply_error h]

end

/-! ## The exchange -/

/-- Where the exchange of an old file stops with the path exposed. -/
def ExposedExchange (schedule : Step → Fate) (old data : List UInt8) : Prop :=
  schedule .renameAway = .proceeds ∧
    (schedule .renameIn = .dies ∨
      (∃ error, schedule .renameIn = .fails error) ∧ schedule .restore ≠ .proceeds ∨
      schedule .renameIn = .proceeds ∧ (∃ error, schedule .remove = .fails error) ∧ old ≠ data)

/-- Three different paths, one of them with the new file. -/
structure Places (path temporary backup : String) (data : List UInt8)
    (files : DataDirectory) : Prop where
  temporary_ne : temporary ≠ path
  backup_ne : backup ≠ path
  backup_ne_temporary : backup ≠ temporary
  written : files[temporary]? = some data

section

variable {schedule : Step → Fate} {path temporary backup : String} {old data : List UInt8}
  {files : DataDirectory}

/-- The files after a rename. -/
def renamed (files : DataDirectory) (source target : String) (bytes : List UInt8) :
    DataDirectory := (files.erase source).insert target bytes

theorem get_renamed (files : DataDirectory) (source target k : String) (bytes : List UInt8) :
    (renamed files source target bytes)[k]? =
      if k = target then some bytes else if k = source then none else files[k]? := by
  rw [renamed, BTreeMap.get_insert, BTreeMap.get_erase]

theorem rename_done {source target : String} {bytes : List UInt8}
    (h : files[source]? = some bytes) :
    rename source target files = .ok (renamed files source target bytes) := by
  simp only [rename, h, renamed]

/-- The rest after a second rename that failed. -/
theorem settle_failed (error : String) {moved moved' : DataDirectory}
    {restored : Except String Unit}
    (h : step (schedule .restore) (rename backup path) moved = (.ok restored, moved')) :
    ∃ reported, settle schedule path backup (.error error) moved =
      (.ok (.error reported), moved') := by
  unfold settle
  exact ⟨_, bind_apply_ok h⟩

/-- After a second rename that failed, the path has its file when that is back. -/
theorem settle_failed_survives {error : String} {moved : DataDirectory}
    (hold : files[path]? = some old) (hgone : moved[path]? = none)
    (hbackup : moved[backup]? = some old) :
    Survives path data files (settle schedule path backup (.error error) moved).2
        (settle schedule path backup (.error error) moved).1 ↔
      schedule .restore = .proceeds := by
  cases hrestore : schedule .restore with
  | proceeds =>
      have hback : step (schedule .restore) (rename backup path) moved =
          (.ok (.ok ()), renamed moved backup path old) := by
        rw [hrestore]
        exact step_done (rename_done hbackup)
      obtain ⟨reported, hsettle⟩ := settle_failed error hback
      rw [hsettle]
      refine iff_of_true (survives_unchanged ?_) rfl
      rw [get_renamed, if_pos rfl, hold]
  | fails failure =>
      have hback : step (schedule .restore) (rename backup path) moved =
          (.ok (.error failure), moved) := by
        rw [hrestore]
        rfl
      obtain ⟨reported, hsettle⟩ := settle_failed error hback
      rw [hsettle]
      exact iff_of_false (not_survives_gone hold hgone) (by simp)
  | dies =>
      have hback : step (schedule .restore) (rename backup path) moved =
          (.error .died, moved) := by
        rw [hrestore]
        rfl
      have hsettle : settle schedule path backup (.error error) moved = (.error .died, moved) :=
        bind_apply_error hback
      rw [hsettle]
      exact iff_of_false (not_survives_gone hold hgone) (by simp)

/-- After the second rename, the path has the new file; an error that follows denies it. -/
theorem settle_done_survives {moved : DataDirectory} (hold : files[path]? = some old)
    (hnew : moved[path]? = some data) (hbackup : moved[backup]? = some old)
    (hne : backup ≠ path) :
    Survives path data files (settle schedule path backup (.ok ()) moved).2
        (settle schedule path backup (.ok ()) moved).1 ↔
      ¬ ((∃ error, schedule .remove = .fails error) ∧ old ≠ data) := by
  have hsettle : settle schedule path backup (.ok ()) =
      orReport (step (schedule .remove) (removeFile backup)) := rfl
  rw [hsettle]
  cases hremove : schedule .remove with
  | proceeds =>
      have hremoved : removeFile backup moved = .ok (moved.erase backup) := by
        rw [removeFile, hbackup]
        rfl
      rw [orReport_done (step_done hremoved)]
      have hpath : (moved.erase backup)[path]? = some data := by
        rw [BTreeMap.get_erase, if_neg hne.symm, hnew]
      exact iff_of_true (survives_replaced hpath (by simp)) (by simp)
  | fails failure =>
      rw [orReport_failed failure (step_failed _ _ _)]
      by_cases hsame : old = data
      · refine iff_of_true (survives_unchanged ?_) (by simp [hsame])
        rw [hnew, hold, hsame]
      · refine iff_of_false (fun hsurvives => ?_) (by simp [hsame])
        have hkept := hsurvives.kept _ rfl
        rw [hnew, hold] at hkept
        exact hsame (Option.some.inj hkept).symm
  | dies =>
      rw [orReport_died (step_died _ _)]
      exact iff_of_true (survives_replaced hnew (by simp)) (by simp)

/-- **The exchange of an old file for the temporary one.** -/
theorem exchange_survives (h : Places path temporary backup data files)
    (hold : files[path]? = some old) :
    Survives path data files (exchange schedule path temporary backup files).2
        (exchange schedule path temporary backup files).1 ↔
      ¬ ExposedExchange schedule old data := by
  unfold exchange
  cases haway : schedule .renameAway with
  | dies =>
      rw [orReturn_died (step_died _ _)]
      exact iff_of_true (survives_unchanged rfl) (by simp [ExposedExchange, haway])
  | fails error =>
      rw [orReturn_failed error (step_failed _ _ _)]
      exact iff_of_true (survives_unchanged rfl) (by simp [ExposedExchange, haway])
  | proceeds =>
      rw [orReturn_done (step_done (rename_done hold))]
      have hgone : (renamed files path backup old)[path]? = none := by
        rw [get_renamed, if_neg h.backup_ne.symm, if_pos rfl]
      have hbackup : (renamed files path backup old)[backup]? = some old := by
        rw [get_renamed, if_pos rfl]
      have htemporary : (renamed files path backup old)[temporary]? = some data := by
        rw [get_renamed, if_neg h.backup_ne_temporary.symm, if_neg h.temporary_ne, h.written]
      generalize renamed files path backup old = away at hgone hbackup htemporary
      cases hin : schedule .renameIn with
      | dies =>
          have hrun : (step .dies (rename temporary path) >>= settle schedule path backup) away =
              (.error .died, away) := rfl
          rw [hrun]
          exact iff_of_false (not_survives_gone hold hgone)
            (by simp [ExposedExchange, haway, hin])
      | fails error =>
          have hrun : (step (.fails error) (rename temporary path) >>=
              settle schedule path backup) away =
                settle schedule path backup (.error error) away := rfl
          rw [hrun, settle_failed_survives hold hgone hbackup]
          simp [ExposedExchange, haway, hin]
      | proceeds =>
          have hrun : (step .proceeds (rename temporary path) >>=
              settle schedule path backup) away =
                settle schedule path backup (.ok ()) (renamed away temporary path data) :=
            bind_apply_ok (step_done (rename_done htemporary))
          have hnew : (renamed away temporary path data)[path]? = some data := by
            rw [get_renamed, if_pos rfl]
          have hkept : (renamed away temporary path data)[backup]? = some old := by
            rw [get_renamed, if_neg h.backup_ne, if_neg h.backup_ne_temporary, hbackup]
          rw [hrun, settle_done_survives hold hnew hkept h.backup_ne]
          simp [ExposedExchange, haway, hin]

end

/-! ## The replacement -/

section

variable {schedule : Step → Fate} {path temporary backup : String} {data : List UInt8}
  {files : DataDirectory}

/-- A first file has nothing to lose. -/
theorem renameNew_survives (h : Places path temporary backup data files) :
    Survives path data files
      (orReport (step (schedule .renameNew) (rename temporary path)) files).2
      (orReport (step (schedule .renameNew) (rename temporary path)) files).1 := by
  cases schedule .renameNew with
  | proceeds =>
      rw [orReport_done (step_done (rename_done h.written))]
      apply survives_replaced
      · rw [get_renamed, if_pos rfl]
      · simp
  | fails error =>
      rw [orReport_failed error (step_failed _ _ _)]
      exact survives_unchanged rfl
  | dies =>
      rw [orReport_died (step_died _ _)]
      exact survives_unchanged rfl

theorem moveIntoPlace_survives (h : Places path temporary backup data files) :
    Survives path data files (moveIntoPlace schedule path temporary backup files).2
        (moveIntoPlace schedule path temporary backup files).1 ↔
      ¬ (schedule .exists = .proceeds ∧
        ∃ old, files[path]? = some old ∧ ExposedExchange schedule old data) := by
  have hnew : ∀ files', existsStep (schedule .exists) path files = (.ok false, files') →
      files' = files → moveIntoPlace schedule path temporary backup files =
        orReport (step (schedule .renameNew) (rename temporary path)) files := by
    intro files' hexists hsame
    unfold moveIntoPlace
    rw [bind_apply_ok hexists, hsame]
    rfl
  cases hexists : schedule .exists with
  | dies =>
      have hrun : moveIntoPlace schedule path temporary backup files =
          (.error .died, files) := by
        unfold moveIntoPlace
        rw [hexists]
        rfl
      rw [hrun]
      exact iff_of_true (survives_unchanged rfl) (by simp)
  | fails error =>
      rw [hnew files (by rw [hexists]; rfl) rfl]
      exact iff_of_true (renameNew_survives h) (by simp)
  | proceeds =>
      cases hold : files[path]? with
      | none =>
          rw [hnew files (by rw [hexists, existsStep, hold]; rfl) rfl]
          exact iff_of_true (renameNew_survives h) (by simp)
      | some old =>
          have hrun : moveIntoPlace schedule path temporary backup files =
              exchange schedule path temporary backup files := by
            have hpresent : existsStep (schedule .exists) path files = (.ok true, files) := by
              rw [hexists, existsStep, hold]
              rfl
            unfold moveIntoPlace
            rw [bind_apply_ok hpresent]
            rfl
          rw [hrun, exchange_survives h hold]
          simp

/-- The path is what it was before the step. -/
theorem survives_congr {files₁ files' : DataDirectory} {ended : Ended}
    (h : files₁[path]? = files[path]?) :
    Survives path data files₁ files' ended ↔ Survives path data files files' ended := by
  constructor
  · intro hsurvives
    exact ⟨h ▸ hsurvives.whole, fun error hended => h ▸ hsurvives.kept error hended⟩
  · intro hsurvives
    exact ⟨h ▸ hsurvives.whole, fun error hended => h ▸ hsurvives.kept error hended⟩

/-- **A step before the exchange**: what stops there leaves the path, and what goes on is
judged by the rest. -/
theorem orReturn_survives {fate : Fate} {act : DataDirectory → Except String DataDirectory}
    {rest : Process} {files' : DataDirectory} (h : files'[path]? = files[path]?) :
    Survives path data files (orReturn (step fate act) rest files').2
        (orReturn (step fate act) rest files').1 ↔
      (fate = .proceeds → ∀ files₁, act files' = .ok files₁ →
        Survives path data files (rest files₁).2 (rest files₁).1) := by
  cases fate with
  | dies =>
      rw [orReturn_died (step_died _ _)]
      exact iff_of_true (survives_unchanged h) (by simp)
  | fails error =>
      rw [orReturn_failed error (step_failed _ _ _)]
      exact iff_of_true (survives_unchanged h) (by simp)
  | proceeds =>
      cases hact : act files' with
      | ok files₁ =>
          rw [orReturn_done (step_done hact)]
          simp
      | error error =>
          have hstep : step .proceeds act files' = (.ok (.error error), files') := by
            simp only [step, hact]
          rw [orReturn_failed error hstep]
          exact iff_of_true (survives_unchanged h) (by simp)

end

/-! ## Names -/

theorem extension_ne (path : StoredPath) {start rest : String}
    (hstart : start = "tmp-" ∨ start = "bak-") : path.extension ≠ start ++ rest := by
  intro h
  have hchar := congrArg (fun text => text.toList[1]?) h
  simp only [String.toList_append] at hchar
  rcases path.stored with hext | hext <;> rcases hstart with rfl | rfl <;>
    · rw [hext, List.getElem?_append_left (by decide)] at hchar
      exact absurd hchar (by decide)

theorem withExtension_inj {path : StoredPath} {a b : String}
    (h : path.withExtension a = path.withExtension b) : a = b := by
  have hlist := congrArg String.toList h
  simp only [StoredPath.withExtension, String.toList_append] at hlist
  exact String.toList_inj.mp (List.append_cancel_left hlist)

/-- The name of the temporary file. -/
def temporaryPath (path : StoredPath) (suffix : FileSuffix) : String :=
  path.withExtension ("tmp-" ++ suffix.text)

/-- The name of the old file that is out of the way. -/
def backupPath (path : StoredPath) (suffix : FileSuffix) : String :=
  path.withExtension ("bak-" ++ suffix.text)

theorem temporaryPath_ne (path : StoredPath) (suffix : FileSuffix) :
    temporaryPath path suffix ≠ path.text :=
  fun h => extension_ne path (.inl rfl) (withExtension_inj h).symm

theorem backupPath_ne (path : StoredPath) (suffix : FileSuffix) :
    backupPath path suffix ≠ path.text :=
  fun h => extension_ne path (.inr rfl) (withExtension_inj h).symm

theorem backupPath_ne_temporary (path : StoredPath) (suffix : FileSuffix) :
    backupPath path suffix ≠ temporaryPath path suffix := by
  intro h
  have hchar := congrArg (fun text => text.toList[0]?) (withExtension_inj h)
  simp only [String.toList_append] at hchar
  rw [List.getElem?_append_left (by decide), List.getElem?_append_left (by decide)] at hchar
  exact absurd hchar (by decide)

/-- **Where a replacement stops with the path exposed.** -/
def Exposed (schedule : Step → Fate) (suffix : FileSuffix) (path : StoredPath)
    (data : List UInt8) (files : DataDirectory) : Prop :=
  (∀ step ∈ [Step.createDirectory, .createTemporary, .write, .sync, .exists],
      schedule step = .proceeds) ∧
    files[temporaryPath path suffix]? = none ∧
    ∃ old, files[path.text]? = some old ∧ ExposedExchange schedule old data

theorem createNew_eq_ok {path : String} {files files' : DataDirectory} :
    createNew path files = .ok files' ↔ files[path]? = none ∧ files' = files.insert path [] := by
  rw [createNew]
  cases files[path]? with
  | none => simp [eq_comm]
  | some bytes => simp

/-- The files when the temporary one is complete. -/
def prepared (path : StoredPath) (suffix : FileSuffix) (data : List UInt8)
    (files : DataDirectory) : DataDirectory :=
  (files.insert (temporaryPath path suffix) []).insert (temporaryPath path suffix) data

section

variable (path : StoredPath) (suffix : FileSuffix) (data : List UInt8) (files : DataDirectory)

theorem get_prepared {k : String} (h : k ≠ temporaryPath path suffix) :
    (prepared path suffix data files)[k]? = files[k]? := by
  rw [prepared, BTreeMap.get_insert, if_neg h, BTreeMap.get_insert, if_neg h]

theorem places_prepared :
    Places path.text (temporaryPath path suffix) (backupPath path suffix) data
      (prepared path suffix data files) where
  temporary_ne := temporaryPath_ne path suffix
  backup_ne := backupPath_ne path suffix
  backup_ne_temporary := backupPath_ne_temporary path suffix
  written := by rw [prepared, BTreeMap.get_insert, if_pos rfl]

/-- The exchange after the temporary file was written. -/
theorem moveIntoPlace_prepared (schedule : Step → Fate) :
    Survives path.text data files
        (moveIntoPlace schedule path.text (temporaryPath path suffix) (backupPath path suffix)
          (prepared path suffix data files)).2
        (moveIntoPlace schedule path.text (temporaryPath path suffix) (backupPath path suffix)
          (prepared path suffix data files)).1 ↔
      ¬ (schedule .exists = .proceeds ∧
        ∃ old, files[path.text]? = some old ∧ ExposedExchange schedule old data) := by
  have hpath := get_prepared path suffix data files (temporaryPath_ne path suffix).symm
  rw [← survives_congr hpath, moveIntoPlace_survives (places_prepared path suffix data files),
    hpath]

/-- **When the file survives.** -/
theorem replaceFile_survives (schedule : Step → Fate) :
    Survives path.text data files (replaceFile schedule suffix path data files).2
        (replaceFile schedule suffix path data files).1 ↔
      ¬ Exposed schedule suffix path data files := by
  have hne := (temporaryPath_ne path suffix).symm
  have hcreated : (files.insert (temporaryPath path suffix) [])[path.text]? =
      files[path.text]? := by
    rw [BTreeMap.get_insert, if_neg hne]
  have hwritten := get_prepared path suffix data files hne
  constructor
  · rintro hsurvives ⟨hproceeds, habsent, hexchange⟩
    have hcreate := createNew_eq_ok.mpr ⟨habsent, rfl⟩
    have h₁ := (orReturn_survives rfl).mp hsurvives (hproceeds _ (by simp)) files rfl
    have h₂ := (orReturn_survives rfl).mp h₁ (hproceeds _ (by simp)) _ hcreate
    have h₃ := (orReturn_survives hcreated).mp h₂ (hproceeds _ (by simp)) _ rfl
    have h₄ := (orReturn_survives hwritten).mp h₃ (hproceeds _ (by simp)) _ rfl
    exact (moveIntoPlace_prepared path suffix data files schedule).mp h₄
      ⟨hproceeds _ (by simp), hexchange⟩
  · intro hsafe
    apply (orReturn_survives rfl).mpr
    intro hdirectory _ hsame
    obtain rfl := Except.ok.inj hsame
    apply (orReturn_survives rfl).mpr
    intro htemporary files₁ hcreate
    obtain ⟨habsent, rfl⟩ := createNew_eq_ok.mp hcreate
    apply (orReturn_survives hcreated).mpr
    intro hwrite _ hsame
    obtain rfl := Except.ok.inj hsame
    apply (orReturn_survives hwritten).mpr
    intro hsync _ hsame
    obtain rfl := Except.ok.inj hsame
    apply (moveIntoPlace_prepared path suffix data files schedule).mpr
    rintro ⟨hexists, hexchange⟩
    refine hsafe ⟨?_, habsent, hexchange⟩
    simp [hdirectory, htemporary, hwrite, hsync, hexists]

end

/-! ## What the replacement leaves alone -/

/-- Other paths have what they had. -/
def Others (paths : List String) (files files' : DataDirectory) : Prop :=
  ∀ k, k ∉ paths → files'[k]? = files[k]?

section

variable {paths : List String}

theorem others_refl (files : DataDirectory) : Others paths files files := fun _ _ => rfl

theorem others_trans (s t u : DataDirectory) (hst : Others paths s t) (htu : Others paths t u) :
    Others paths s u := fun k hk => (htu k hk).trans (hst k hk)

theorem within_step {fate : Fate} {act : DataDirectory → Except String DataDirectory}
    (h : ∀ files files', act files = .ok files' → Others paths files files') :
    Within (Others paths) (step fate act) := by
  intro files
  cases fate with
  | proceeds =>
      unfold step
      cases hact : act files with
      | ok files' => simpa only [hact] using h files files' hact
      | error error => simpa only [hact] using others_refl files
  | fails error => exact others_refl files
  | dies => exact others_refl files

theorem within_orReturn {call : Prog DataDirectory Died (Except String Unit)} {rest : Process}
    (hcall : Within (Others paths) call) (hrest : Within (Others paths) rest) :
    Within (Others paths) (orReturn call rest) := by
  apply Within.bind others_trans hcall
  intro result
  cases result with
  | ok _ => exact hrest
  | error error => exact Within.pure others_refl _

theorem within_orReport {call : Prog DataDirectory Died (Except String Unit)}
    (hcall : Within (Others paths) call) : Within (Others paths) (orReport call) :=
  Within.bind others_trans hcall fun _ => Within.pure others_refl _

theorem others_insert {files : DataDirectory} {path : String} {bytes : List UInt8}
    (h : path ∈ paths) : Others paths files (files.insert path bytes) := by
  intro k hk
  rw [BTreeMap.get_insert, if_neg]
  rintro rfl
  exact hk h

theorem others_rename {source target : String} (hsource : source ∈ paths)
    (htarget : target ∈ paths) {files files' : DataDirectory}
    (h : rename source target files = .ok files') : Others paths files files' := by
  intro k hk
  rw [rename] at h
  split at h
  · obtain rfl := Except.ok.inj h
    rw [BTreeMap.get_insert, BTreeMap.get_erase, if_neg, if_neg]
    · rintro rfl
      exact hk hsource
    · rintro rfl
      exact hk htarget
  · cases h

theorem others_removeFile {path : String} (hpath : path ∈ paths)
    {files files' : DataDirectory} (h : removeFile path files = .ok files') :
    Others paths files files' := by
  intro k hk
  rw [removeFile] at h
  split at h
  · obtain rfl := Except.ok.inj h
    rw [BTreeMap.get_erase, if_neg]
    rintro rfl
    exact hk hpath
  · cases h

end

/-- The paths of a replacement. -/
def replacedPaths (path : StoredPath) (suffix : FileSuffix) : List String :=
  [path.text, temporaryPath path suffix, backupPath path suffix]

theorem within_moveIntoPlace {schedule : Step → Fate} {paths : List String}
    {path temporary backup : String} (hpath : path ∈ paths) (htemporary : temporary ∈ paths)
    (hbackup : backup ∈ paths) :
    Within (Others paths) (moveIntoPlace schedule path temporary backup) := by
  have hexists : Within (Others paths) (existsStep (schedule .exists) path) := by
    intro files
    cases schedule .exists with
    | proceeds | fails | dies => exact others_refl files
  have hrename : ∀ {fate source target}, source ∈ paths → target ∈ paths →
      Within (Others paths) (step fate (rename source target)) := by
    intro fate source target hsource htarget
    exact within_step fun _ _ => others_rename hsource htarget
  apply Within.bind others_trans hexists
  intro present
  cases present with
  | false => exact within_orReport (hrename htemporary hpath)
  | true =>
      apply within_orReturn (hrename hpath hbackup)
      apply Within.bind others_trans (hrename htemporary hpath)
      intro moved
      cases moved with
      | ok _ => exact within_orReport (within_step fun _ _ => others_removeFile hbackup)
      | error error =>
          exact Within.bind others_trans (hrename hbackup hpath) fun _ =>
            Within.pure others_refl _

/-- **A replacement changes no other path.** -/
theorem within_replaceFile (schedule : Step → Fate) (suffix : FileSuffix) (path : StoredPath)
    (data : List UInt8) :
    Within (Others (replacedPaths path suffix)) (replaceFile schedule suffix path data) := by
  have hsame : ∀ files files', (Except.ok files : Except String DataDirectory) = .ok files' →
      Others (replacedPaths path suffix) files files' := by
    intro files files' h
    obtain rfl := Except.ok.inj h
    exact others_refl files
  have htemporary : temporaryPath path suffix ∈ replacedPaths path suffix := by
    simp [replacedPaths]
  apply within_orReturn (within_step hsame)
  apply within_orReturn
  · apply within_step
    intro files files' hcreate
    obtain ⟨-, rfl⟩ := createNew_eq_ok.mp hcreate
    exact others_insert htemporary
  apply within_orReturn
  · apply within_step
    intro files files' hwrite
    obtain rfl := Except.ok.inj hwrite
    exact others_insert htemporary
  apply within_orReturn (within_step hsame)
  have hbackup : backupPath path suffix ∈ replacedPaths path suffix := by
    simp [replacedPaths]
  exact within_moveIntoPlace (by simp [replacedPaths]) htemporary hbackup

/-! ## Readers -/

theorem stripPrefix_eq_some {start value rest : List Char}
    (h : Lib.Text.stripPrefix start value = some rest) : value = start ++ rest := by
  rw [Lib.Text.stripPrefix] at h
  split at h
  · rename_i hprefix
    obtain ⟨tail, rfl⟩ := List.isPrefixOf_iff_prefix.mp hprefix
    rw [List.drop_left] at h
    rw [Option.some.inj h]
  · cases h

/-- The last part of a path that is listed as a profile. -/
theorem lastPart_of_profile {text : String} (h : isProfilePath text = true) :
    text.toList.reverse.takeWhile (· ≠ '.') = "toml".toList.reverse := by
  rw [isProfilePath] at h
  split at h
  case h_2 => cases h
  case h_1 name hname =>
    have hextension := (Bool.and_eq_true_iff.mp h).2
    rw [decide_eq_true_eq, fileExtension] at hextension
    split at hextension
    case h_2 => cases hextension
    case h_1 a b rest hrest =>
      have hpart : name.reverse.takeWhile (· ≠ '.') = "toml".toList.reverse := by
        rw [← Option.some.inj hextension, List.reverse_reverse]
      have hshort : (name.reverse.takeWhile (· ≠ '.')).length ≠ name.reverse.length := by
        have hsplit := congrArg List.length
          (List.takeWhile_append_dropWhile (p := (· ≠ '.')) (l := name.reverse))
        rw [hrest, List.length_append, List.length_cons] at hsplit
        omega
      rw [stripPrefix_eq_some hname, List.reverse_append, List.takeWhile_append, if_neg hshort,
        hpart]

/-- The last part of a path with another extension. -/
theorem lastPart_withExtension (path : StoredPath) {extension : String}
    (h : ∀ c ∈ extension.toList, c ≠ '.') :
    (path.withExtension extension).toList.reverse.takeWhile (· ≠ '.') =
      extension.toList.reverse := by
  have hall : ∀ c ∈ extension.toList.reverse, decide (c ≠ '.') = true := by
    intro c hc
    exact decide_eq_true (h c (List.mem_reverse.mp hc))
  have htext : (path.withExtension extension).toList.reverse =
      extension.toList.reverse ++ ('.' :: path.base.toList.reverse) := by
    simp [StoredPath.withExtension]
  rw [htext, List.takeWhile_append_of_pos hall, List.takeWhile_cons]
  simp

theorem suffix_plain {start : String} {suffix : FileSuffix} (hstart : '.' ∉ start.toList) :
    ∀ c ∈ (start ++ suffix.text).toList, c ≠ '.' := by
  intro c hc heq
  rw [String.toList_append, List.mem_append, heq] at hc
  rcases hc with hc | hc
  · exact hstart hc
  · exact absurd (suffix.plain _ hc) (by decide)

/-- What a replacement leaves beside the path is not listed. -/
theorem not_profile_withExtension (path : StoredPath) (suffix : FileSuffix) {start : String}
    (hstart : start = "tmp-" ∨ start = "bak-") :
    isProfilePath (path.withExtension (start ++ suffix.text)) = false := by
  rw [Bool.eq_false_iff]
  intro h
  have hplain : '.' ∉ start.toList := by
    rcases hstart with rfl | rfl <;> decide
  have hpart := lastPart_of_profile h
  rw [lastPart_withExtension path (suffix_plain hplain), List.reverse_inj] at hpart
  exact extension_ne settingsPath hstart (String.toList_inj.mp hpart).symm

theorem settingsPath_ne (path : StoredPath) (suffix : FileSuffix) {start : String}
    (hstart : start = "tmp-" ∨ start = "bak-") :
    settingsPath.text ≠ path.withExtension (start ++ suffix.text) := by
  intro h
  have hplain : '.' ∉ start.toList := by
    rcases hstart with rfl | rfl <;> decide
  have hchars : ∀ c ∈ (start ++ suffix.text).toList, c ≠ '.' := suffix_plain hplain
  have hpart := lastPart_withExtension path hchars
  rw [← h] at hpart
  have hlast : settingsPath.text.toList.reverse.takeWhile (· ≠ '.') =
      "toml".toList.reverse := by decide
  rw [hlast, List.reverse_inj] at hpart
  exact extension_ne settingsPath hstart (String.toList_inj.mp hpart)

/-- The settings and the listed profiles are the same. -/
def ReadsAs (files files' : DataDirectory) : Prop :=
  files'[settingsPath.text]? = files[settingsPath.text]? ∧
    ∀ k, isProfilePath k = true → files'[k]? = files[k]?

theorem loadSettings_congr {files files' : DataDirectory} (toml : Toml)
    (h : ReadsAs files files') : loadSettings toml files' = loadSettings toml files := by
  rw [loadSettings, loadSettings, h.1]

theorem listProfiles_congr {files files' : DataDirectory} (toml : Toml)
    (h : ReadsAs files files') : listProfiles toml files' = listProfiles toml files := by
  have hsame : profileFiles files' = profileFiles files := by
    refine BTreeMap.ext fun k => ?_
    rw [profileFiles, profileFiles, Std.ExtTreeMap.getElem?_filter',
      Std.ExtTreeMap.getElem?_filter']
    by_cases hk : isProfilePath k = true
    · rw [h.2 k hk]
    · simp [hk]
  rw [listProfiles, listProfiles, hsame]

/-- The readers look at no path of a replacement but the one that is replaced. -/
theorem readsAs_of_agree {path : StoredPath} {suffix : FileSuffix}
    {files files' other : DataDirectory}
    (hpath : files'[path.text]? = other[path.text]?)
    (hother : ∀ k, k ≠ path.text → other[k]? = files[k]?)
    (h : Others (replacedPaths path suffix) files files') : ReadsAs other files' := by
  have hagree : ∀ k, k ≠ temporaryPath path suffix → k ≠ backupPath path suffix →
      files'[k]? = other[k]? := by
    intro k htemporary hbackup
    by_cases hk : k = path.text
    · rw [hk, hpath]
    · rw [hother k hk]
      apply h
      simp [replacedPaths, hk, htemporary, hbackup]
  constructor
  · exact hagree _ (settingsPath_ne path suffix (.inl rfl)) (settingsPath_ne path suffix (.inr rfl))
  · intro k hk
    apply hagree
    · rintro rfl
      rw [temporaryPath, not_profile_withExtension path suffix (.inl rfl)] at hk
      cases hk
    · rintro rfl
      rw [backupPath, not_profile_withExtension path suffix (.inr rfl)] at hk
      cases hk

/-- **When a stored file survives a replacement that stops**, and what is read then: what
was stored before, or what is stored by a replacement that was not stopped. -/
theorem storedFiles (schedule : Step → Fate) (suffix : FileSuffix) (path : StoredPath)
    (data : List UInt8) (files : DataDirectory) (toml : Toml) :
    (Survives path.text data files (replaceFile schedule suffix path data files).2
        (replaceFile schedule suffix path data files).1 ↔
      ¬ Exposed schedule suffix path data files) ∧
    (¬ Exposed schedule suffix path data files →
      ∃ seen, (seen = files ∨ seen = files.insert path.text data) ∧
        loadSettings toml (replaceFile schedule suffix path data files).2 =
          loadSettings toml seen ∧
        listProfiles toml (replaceFile schedule suffix path data files).2 =
          listProfiles toml seen) := by
  have hsurvives := replaceFile_survives path suffix data files schedule
  refine ⟨hsurvives, fun hsafe => ?_⟩
  have hothers := within_replaceFile schedule suffix path data files
  rcases (hsurvives.mpr hsafe).whole with hpath | hpath
  · have hreads : ReadsAs files (replaceFile schedule suffix path data files).2 :=
      readsAs_of_agree hpath (fun _ _ => rfl) hothers
    exact ⟨files, .inl rfl, loadSettings_congr toml hreads, listProfiles_congr toml hreads⟩
  · have hinserted : (files.insert path.text data)[path.text]? = some data := by
      rw [BTreeMap.get_insert, if_pos rfl]
    have hreads : ReadsAs (files.insert path.text data)
        (replaceFile schedule suffix path data files).2 := by
      apply readsAs_of_agree (hpath.trans hinserted.symm) _ hothers
      intro k hk
      rw [BTreeMap.get_insert, if_neg hk]
    exact ⟨_, .inr rfl, loadSettings_congr toml hreads, listProfiles_congr toml hreads⟩

/-! ## A death between the renames -/

/-- The process dies before the new file is in its place. -/
private def dyingSchedule (step : Step) : Fate := if step = .renameIn then .dies else .proceeds

/-- The settings are gone, the old ones and the new ones. -/
theorem settings_lost :
    ¬ ∀ (schedule : Step → Fate) (suffix : FileSuffix) (path : StoredPath)
        (data : List UInt8) (files : DataDirectory),
      Survives path.text data files (replaceFile schedule suffix path data files).2
        (replaceFile schedule suffix path data files).1 := by
  intro h
  have hsurvives := h dyingSchedule (uniqueFileSuffix 1 2 3) settingsPath [49]
    (Std.ExtTreeMap.ofList [("settings.toml", [(48 : UInt8)])])
  refine (replaceFile_survives _ _ _ _ _).mp hsurvives
    ⟨by decide, by decide +kernel, [48], ?_, ?_⟩
  · decide +kernel
  · exact ⟨rfl, .inl rfl⟩

end FrametimeCfg.Verified.StoredFiles
