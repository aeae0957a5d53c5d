import FrametimeCfg.Lib.Hex
import FrametimeCfg.Lib.Runs
import FrametimeCfg.Lib.Shelves
import FrametimeCfg.Lib.Splitting
import FrametimeCfg.Verified.StoredFiles
import Mathlib

/-!
# The store of the profiles

Profiles are saved under their names, and the legacy file is imported once, under a name of
its own and to a file that is named for every import.  A listing shows what was stored last
under each name as long as the name of the import and the name of its file are not both in
use for different profiles.
-/

namespace FrametimeCfg.Verified.ProfileStore

open FrametimeCfg.Lib.Effect
open FrametimeCfg.Lib.OrderedMap
open FrametimeCfg.Lib.Runs
open FrametimeCfg.Lib.Shelves
open FrametimeCfg.Lib.Text
open FrametimeCfg.Northclock
open FrametimeCfg.Verified.StoredFiles

/-! ## What a finished replacement leaves -/

section

variable {act : DataDirectory → Except String DataDirectory} {files files' : DataDirectory}
  {call : Prog DataDirectory Died (Except String Unit)} {rest : Process} {fate : Fate}

theorem step_eq_done (h : step fate act files = (.ok (.ok ()), files')) :
    act files = .ok files' := by
  cases fate with
  | proceeds =>
      rw [step] at h
      cases hact : act files with
      | ok after =>
          rw [hact] at h
          rw [(Prod.mk.inj h).2]
      | error error =>
          rw [hact] at h
          cases h
  | fails error => cases h
  | dies => cases h

theorem orReturn_eq_done (h : orReturn call rest files = (.ok (.ok ()), files')) :
    ∃ between, call files = (.ok (.ok ()), between) ∧ rest between = (.ok (.ok ()), files') := by
  rw [orReturn] at h
  obtain ⟨result, between, hcall, hrest⟩ := bind_eq_ok h
  cases result with
  | ok _ => exact ⟨between, hcall, hrest⟩
  | error error => cases hrest

theorem orReport_eq_done (h : orReport call files = (.ok (.ok ()), files')) :
    call files = (.ok (.ok ()), files') := by
  rw [orReport] at h
  obtain ⟨result, between, hcall, hrest⟩ := bind_eq_ok h
  cases result with
  | ok _ =>
      cases hrest
      exact hcall
  | error error => cases hrest

theorem rename_eq_ok {source target : String} (h : rename source target files = .ok files') :
    ∃ bytes, files[source]? = some bytes ∧ files' = renamed files source target bytes := by
  rw [rename] at h
  cases hsource : files[source]? with
  | none =>
      rw [hsource] at h
      cases h
  | some bytes =>
      rw [hsource] at h
      exact ⟨bytes, rfl, (Except.ok.inj h).symm⟩

theorem removeFile_eq_ok {path : String} (h : removeFile path files = .ok files') :
    files' = files.erase path := by
  rw [removeFile] at h
  split_ifs at h
  exact (Except.ok.inj h).symm

/-- A look-up finds what is there, if it does not fail. -/
theorem existsStep_eq_ok {path : String} {present : Bool}
    (h : existsStep fate path files = (.ok present, files')) :
    files' = files ∧ (present = true ↔ fate = .proceeds ∧ files[path]? ≠ none) := by
  cases fate with
  | proceeds =>
      obtain ⟨hpresent, hfiles⟩ := Prod.mk.inj h
      refine ⟨hfiles.symm, ?_⟩
      rw [← Except.ok.inj hpresent, Option.isSome_iff_ne_none]
      simp only [true_and]
  | fails error =>
      obtain ⟨hpresent, hfiles⟩ := Prod.mk.inj h
      refine ⟨hfiles.symm, ?_⟩
      rw [← Except.ok.inj hpresent]
      simp only [Bool.false_eq_true, reduceCtorEq, false_and]
  | dies => cases h

variable {schedule : Step → Fate} {path temporary backup : String} {data : List UInt8}

/-- The second rename was done, and then the backup was removed. -/
theorem exchange_eq_done (hplaces : Places path temporary backup data files)
    (h : exchange schedule path temporary backup files = (.ok (.ok ()), files')) :
    files'[path]? = some data := by
  rw [exchange] at h
  obtain ⟨away, haway, hrest⟩ := orReturn_eq_done h
  obtain ⟨old, -, rfl⟩ := rename_eq_ok (step_eq_done haway)
  obtain ⟨result, moved, hmoved, hsettle⟩ := bind_eq_ok hrest
  cases result with
  | error error =>
      rw [settle] at hsettle
      obtain ⟨restored, between, -, hreturn⟩ := bind_eq_ok hsettle
      cases hreturn
  | ok _ =>
      obtain ⟨bytes, hbytes, rfl⟩ := rename_eq_ok (step_eq_done hmoved)
      rw [get_renamed, if_neg hplaces.backup_ne_temporary.symm, if_neg hplaces.temporary_ne,
        hplaces.written] at hbytes
      have hremoved := removeFile_eq_ok (step_eq_done (orReport_eq_done hsettle))
      rw [hremoved, BTreeMap.get_erase, if_neg hplaces.backup_ne.symm, get_renamed, if_pos rfl,
        hbytes]

theorem moveIntoPlace_eq_done (hplaces : Places path temporary backup data files)
    (h : moveIntoPlace schedule path temporary backup files = (.ok (.ok ()), files')) :
    files'[path]? = some data := by
  rw [moveIntoPlace] at h
  obtain ⟨present, between, hexists, hrest⟩ := bind_eq_ok h
  obtain ⟨hsame, -⟩ := existsStep_eq_ok hexists
  subst hsame
  cases present with
  | true => exact exchange_eq_done hplaces hrest
  | false =>
      obtain ⟨bytes, hbytes, rfl⟩ := rename_eq_ok (step_eq_done (orReport_eq_done hrest))
      rw [hplaces.written] at hbytes
      rw [get_renamed, if_pos rfl, hbytes]

end

/-- **A replacement that returns** has put the new content under the path. -/
theorem replaceFile_eq_done {schedule : Step → Fate} {suffix : FileSuffix} {path : StoredPath}
    {data : List UInt8} {files files' : DataDirectory}
    (h : replaceFile schedule suffix path data files = (.ok (.ok ()), files')) :
    files'[path.text]? = some data := by
  rw [replaceFile] at h
  obtain ⟨_, hdirectory, h⟩ := orReturn_eq_done h
  obtain ⟨_, hcreate, h⟩ := orReturn_eq_done h
  obtain ⟨_, hwrite, h⟩ := orReturn_eq_done h
  obtain ⟨_, hsync, h⟩ := orReturn_eq_done h
  obtain rfl := Except.ok.inj (step_eq_done hdirectory)
  obtain ⟨-, rfl⟩ := createNew_eq_ok.mp (step_eq_done hcreate)
  have hwritten := step_eq_done hwrite
  obtain rfl := Except.ok.inj hwritten
  obtain rfl := Except.ok.inj (step_eq_done hsync)
  exact moveIntoPlace_eq_done (places_prepared path suffix data files) h

/-- The readers of profiles see it as a file that was put there. -/
theorem replaceFile_profiles {schedule : Step → Fate} {suffix : FileSuffix} {path : StoredPath}
    {data : List UInt8} {files files' : DataDirectory}
    (h : replaceFile schedule suffix path data files = (.ok (.ok ()), files')) (k : String)
    (hk : isProfilePath k = true) : files'[k]? = (files.insert path.text data)[k]? := by
  have hothers := within_replaceFile schedule suffix path data files
  rw [h] at hothers
  have hpath : files'[path.text]? = (files.insert path.text data)[path.text]? := by
    rw [replaceFile_eq_done h, BTreeMap.get_insert, if_pos rfl]
  refine (readsAs_of_agree hpath (fun k hk => ?_) hothers).2 k hk
  rw [BTreeMap.get_insert, if_neg hk]

/-! ## Names and files -/

/-- The characters of the names. -/
def plainName (c : Char) : Bool := c.isAlphanum || c = '-' || c = '_'

/-- A name of a file in the directory of the profiles. -/
structure FileName (file : String) : Prop where
  nonempty : file.toList ≠ []
  plain : ∀ c ∈ file.toList, plainName c = true

theorem plainName_toLower {c : Char} (h : plainName c = true) : plainName c.toLower = true := by
  unfold Char.toLower
  split_ifs with hupper
  · -- A letter in upper case becomes one in lower case.
    have hlow : 65 ≤ c.val.toNat := UInt32.le_iff_toNat_le.mp hupper.1
    have hhigh : c.val.toNat ≤ 90 := UInt32.le_iff_toNat_le.mp hupper.2
    have hsum : (c.val + ('a'.val - 'A'.val)).toNat = c.val.toNat + 32 := by
      have hdistance : ('a'.val - 'A'.val).toNat = 32 := rfl
      rw [UInt32.toNat_add, hdistance]
      exact Nat.mod_eq_of_lt (by omega)
    have hlower : ('a'.val ≤ c.val + ('a'.val - 'A'.val)) ∧
        c.val + ('a'.val - 'A'.val) ≤ 'z'.val := by
      rw [UInt32.le_iff_toNat_le, UInt32.le_iff_toNat_le, hsum]
      exact ⟨Nat.add_le_add_right hlow 32, Nat.add_le_add_right hhigh 32⟩
    simp only [plainName, Char.isAlphanum, Char.isAlpha, Char.isLower, ge_iff_le, hlower.1,
      hlower.2, decide_true, Bool.and_self, Bool.or_true, Bool.true_or]
  · exact h

theorem fileName_asciiLower {name : String} (h : FileName name) : FileName (asciiLower name) where
  nonempty := by
    rw [asciiLower, String.toList_map]
    exact fun hnil => h.nonempty (List.map_eq_nil_iff.mp hnil)
  plain := by
    intro c hc
    rw [asciiLower, String.toList_map] at hc
    obtain ⟨d, hd, rfl⟩ := List.mem_map.mp hc
    exact plainName_toLower (h.plain d hd)

theorem profilePath_text (file : String) :
    (profilePath file).text.toList =
      "profiles/".toList ++ (file.toList ++ ".toml".toList) := by
  have htext : (profilePath file).text = "profiles/" ++ file ++ "." ++ "toml" := rfl
  rw [htext]
  simp

theorem profilePath_inj {file other : String}
    (h : (profilePath file).text = (profilePath other).text) : file = other := by
  have hchars := congrArg String.toList h
  rw [profilePath_text, profilePath_text] at hchars
  exact String.toList_inj.mp (List.append_cancel_right (List.append_cancel_left hchars))

/-- The files of names are listed. -/
theorem isProfilePath_profilePath {file : String} (h : FileName file) :
    isProfilePath (profilePath file).text = true := by
  have hstrip : stripPrefix "profiles/".toList (profilePath file).text.toList =
      some (file.toList ++ ".toml".toList) := by
    rw [profilePath_text, stripPrefix, if_pos (List.isPrefixOf_iff_prefix.mpr
      (List.prefix_append _ _)), List.drop_left]
  have hslash : (file.toList ++ ".toml".toList).contains '/' = false := by
    rw [Bool.eq_false_iff, ne_eq, List.contains_iff_mem, List.mem_append]
    rintro (hmem | hmem)
    · exact absurd (h.plain _ hmem) (by decide)
    · exact absurd hmem (by decide)
  have hextension : fileExtension (file.toList ++ ".toml".toList) = some "toml".toList := by
    have hreverse : (file.toList ++ ".toml".toList).reverse =
        "lmot".toList ++ ('.' :: file.toList.reverse) := by
      rw [List.reverse_append]
      rfl
    have hall : ∀ c ∈ "lmot".toList, decide (c ≠ '.') = true :=
      List.all_iff_forall_prop.mp (by decide)
    obtain ⟨c, rest, hfile⟩ := List.exists_cons_of_ne_nil (List.reverse_ne_nil_iff.mpr h.nonempty)
    rw [fileExtension, hreverse, List.dropWhile_append_of_pos hall, List.takeWhile_append_of_pos hall,
      hfile]
    simp
  rw [isProfilePath, hstrip]
  simp only [hslash, hextension, Bool.not_false, decide_true, Bool.and_self]

/-! ## The system -/

/-- A profile that was stored, with the name of its file. -/
structure Stored where
  file : String
  profile : Profile
  legacy : Bool

/-- The name of a profile, as names are compared. -/
def Stored.key (stored : Stored) : String := asciiLower stored.profile.name

/-- The path of the file. -/
def Stored.place (stored : Stored) : String := (profilePath stored.file).text

/-- The data directory, with what was stored in it, the newest first. -/
structure Store where
  files : DataDirectory
  history : List Stored

/-- A call on the storage. -/
inductive Call where
  | save (schedule : Step → Fate) (suffix : FileSuffix) (profile : Profile)
  | importIni (schedule : ImportSchedule) (ini : LegacyIni)

/-- What a call stores when it returns. -/
def Call.perform (toml : Toml) : Call →
    Prog DataDirectory Died (Except NorthclockError (Option Stored))
  | .save schedule suffix profile => do
      let result ← saveProfile toml schedule suffix profile
      return result.map fun () => some ⟨asciiLower profile.name, profile, false⟩
  | .importIni schedule ini => do
      let result ← importIniOnce toml schedule ini
      return result.map (Option.map fun profile => ⟨"imported-legacy", profile, true⟩)

/-- A call that returns `Ok`. -/
def Returns (toml : Toml) (call : Call) (s t : Store) : Prop :=
  ∃ stored, call.perform toml s.files = (.ok (.ok stored), t.files) ∧
    t.history = stored.toList ++ s.history

/-! ## The property -/

/-- The profiles of a name that a listing shows. -/
def profilesNamed (toml : Toml) (files : DataDirectory) (key : String) :
    Except NorthclockError (List Profile) :=
  (listProfiles toml files).map fun profiles =>
    profiles.filter fun profile => decide (asciiLower profile.name = key)

/-- A listing shows of each name the profile that was stored last. -/
def Listed (toml : Toml) (s : Store) : Prop :=
  ∀ key, profilesNamed toml s.files key =
    .ok ((latest Stored.key s.history key).map Stored.profile).toList

/-- An import replaces nothing that was saved, and a second one does nothing. -/
def ImportKeeps (call : Call) (s t : Store) : Prop :=
  match call with
  | .save _ _ _ => True
  | .importIni _ _ =>
      (∀ stored ∈ s.history, stored.legacy = false →
        latest Stored.key t.history stored.key = latest Stored.key s.history stored.key) ∧
      ((∃ stored ∈ s.history, stored.legacy = true) → t = s)

/-! ## The condition -/

/-- The key of what an import stores. -/
def importKey (ini : LegacyIni) : String :=
  asciiLower (normalizeLegacyProfileName (ini.stem.getD "legacy-profile"))

/-- The import finds no marker, and it finds the legacy file. -/
def Performed (s : Store) (schedule : ImportSchedule) (ini : LegacyIni) : Prop :=
  (schedule.lookup = .proceeds → s.files[importMarkerPath.text]? = none) ∧ ini.contents ≠ none

/-- **The calls that keep the store a map.**  An import that is performed is the first, and
neither its name nor that of its file is in use; a profile that is saved later has both names
or neither. -/
def Compatible (s : Store) (call : Call) : Prop :=
  match call with
  | .save _ _ profile =>
      ∀ stored ∈ s.history, stored.key = asciiLower profile.name ↔
        stored.file = asciiLower profile.name
  | .importIni schedule ini =>
      Performed s schedule ini →
        (∀ stored ∈ s.history, stored.legacy = false) ∧
        ∀ stored ∈ s.history, stored.key ≠ importKey ini ∧ stored.file ≠ "imported-legacy"

/-! ## What the directory holds -/

/-- The library reads back what it has written. -/
def RoundTrips (toml : Toml) : Prop :=
  ∀ profile data, toml.writeProfile profile = .ok data → toml.readProfile data = .ok profile

/-- The bytes of a profile. -/
def bytesOf (toml : Toml) (profile : Profile) : List UInt8 :=
  match toml.writeProfile profile with
  | .ok data => utf8 data
  | .error _ => []

/-- What is known of a profile that was stored. -/
structure WellStored (toml : Toml) (stored : Stored) : Prop where
  valid : validateProfile stored.profile = .ok ()
  written : ∃ data, toml.writeProfile stored.profile = .ok data
  file : FileName stored.file
  saved : stored.legacy = false → stored.file = stored.key
  imported : stored.legacy = true → stored.file = "imported-legacy"

/-- The listed files are those of the history, and after an import the marker is there. -/
structure Inv (toml : Toml) (s : Store) : Prop where
  stored : ∀ stored ∈ s.history, WellStored toml stored
  files : profileFiles s.files =
    (shelves Stored.place s.history).map fun _ stored => bytesOf toml stored.profile
  marker : (∃ stored ∈ s.history, stored.legacy = true) →
    s.files[importMarkerPath.text]? ≠ none

theorem mapM_eq_ok_map {ε α β : Type} {g : α → Except ε β} {h : α → β} {l : List α}
    (hg : ∀ x ∈ l, g x = .ok (h x)) : l.mapM g = .ok (l.map h) := by
  induction l with
  | nil => rfl
  | cons x l ih =>
      obtain ⟨hx, hl⟩ := List.forall_mem_cons.mp hg
      rw [List.mapM_cons, hx, ih hl]
      rfl

/-- A stored profile is read back. -/
theorem loadProfilePath_bytesOf {toml : Toml} (htoml : RoundTrips toml) {stored : Stored}
    (h : WellStored toml stored) (path : String) :
    loadProfilePath toml path (bytesOf toml stored.profile) = .ok stored.profile := by
  obtain ⟨data, hdata⟩ := h.written
  have hread : readToString (bytesOf toml stored.profile) = .ok data := by
    rw [bytesOf, hdata]
    exact Lib.Checks.okOr_eq_ok.mpr (fromUtf8_utf8 data)
  rw [loadProfilePath, hread, Lib.Checks.bind_ok, htoml _ _ hdata]
  simp only [Except.mapError, Lib.Checks.bind_ok, h.valid]
  rfl

/-- **What a listing shows**: what is on the shelves. -/
theorem listProfiles_eq {toml : Toml} (htoml : RoundTrips toml) {s : Store} (h : Inv toml s) :
    listProfiles toml s.files =
      .ok ((shelves Stored.place s.history).toList.map fun entry => entry.2.profile) := by
  rw [listProfiles, h.files, Std.ExtTreeMap.toList_map]
  have hload : ∀ entry ∈ (shelves Stored.place s.history).toList,
      loadProfilePath toml entry.1 (bytesOf toml entry.2.profile) = .ok entry.2.profile := by
    intro entry hentry
    have hmem := List.mem_of_find?_eq_some (mem_toList_shelves.mp hentry).2
    exact loadProfilePath_bytesOf htoml (h.stored _ hmem) entry.1
  rw [List.mapM_map]
  exact mapM_eq_ok_map hload

theorem profilesNamed_eq {toml : Toml} (htoml : RoundTrips toml) {s : Store} (h : Inv toml s)
    (key : String) : profilesNamed toml s.files key =
      .ok ((named Stored.key Stored.place s.history key).map Stored.profile) := by
  rw [profilesNamed, listProfiles_eq htoml h, named]
  simp only [Except.map, List.filter_map, List.map_map, Function.comp_def, Stored.key]
  rfl

/-! ## What a call does -/

theorem validateProfile_eq_ok {profile : Profile} :
    validateProfile profile = .ok () ↔ profile.schemaVersion = SETTINGS_SCHEMA_VERSION ∧
      ∃ file, profileFileName profile.name = .ok file := by
  rw [validateProfile]
  simp only [Lib.Checks.bind_eq_ok, Lib.Checks.reject_eq_ok, decide_eq_false_iff_not, not_not]
  constructor
  · rintro ⟨_, hschema, file, hfile, -⟩
    exact ⟨hschema, file, hfile⟩
  · rintro ⟨hschema, file, hfile⟩
    exact ⟨(), hschema, file, hfile, rfl⟩

theorem profileFileName_eq_ok {name file : String} :
    profileFileName name = .ok file ↔
      (name.isEmpty = false ∧ byteLen name ≤ 80 ∧ ∀ c ∈ name.toList, plainName c = true) ∧
        file = asciiLower name := by
  rw [profileFileName]
  simp only [Lib.Checks.bind_eq_ok, Lib.Checks.reject_eq_ok, Bool.or_eq_false_iff,
    decide_eq_false_iff_not, Bool.not_eq_false', List.all_eq_true, not_lt]
  constructor
  · rintro ⟨_, ⟨⟨hempty, hshort⟩, hall⟩, hfile⟩
    exact ⟨⟨hempty, hshort, hall⟩, (Except.ok.inj hfile).symm⟩
  · rintro ⟨⟨hempty, hshort, hall⟩, rfl⟩
    exact ⟨(), ⟨⟨hempty, hshort⟩, hall⟩, rfl⟩

theorem fileName_of_valid {profile : Profile} (h : validateProfile profile = .ok ()) :
    FileName (asciiLower profile.name) := by
  obtain ⟨-, file, hfile⟩ := validateProfile_eq_ok.mp h
  obtain ⟨⟨hempty, -, hall⟩, -⟩ := profileFileName_eq_ok.mp hfile
  refine fileName_asciiLower ⟨fun hnil => ?_, hall⟩
  rw [String.toList_eq_nil_iff.mp hnil] at hempty
  cases hempty

theorem ascii_of_plainName {c : Char} (h : plainName c = true) : c.toNat < 128 := by
  simp only [plainName, Char.isAlphanum, Char.isAlpha, Char.isUpper, Char.isLower, Char.isDigit,
    Bool.or_eq_true, Bool.and_eq_true, decide_eq_true_eq, ge_iff_le, UInt32.le_iff_toNat_le] at h
  rcases h with ((((h | h) | h) | h) | h)
  · exact Nat.lt_of_le_of_lt h.2 (by decide)
  · exact Nat.lt_of_le_of_lt h.2 (by decide)
  · exact Nat.lt_of_le_of_lt h.2 (by decide)
  · rw [h]
    decide
  · rw [h]
    decide

/-- A normalized name is one that a profile may have. -/
theorem normalizeLegacyProfileName_valid (name : String) :
    (normalizeLegacyProfileName name).isEmpty = false ∧
      byteLen (normalizeLegacyProfileName name) ≤ 80 ∧
      ∀ c ∈ (normalizeLegacyProfileName name).toList, plainName c = true := by
  rw [normalizeLegacyProfileName]
  generalize hnormalized : ((name.toList.take 80).map fun c =>
    if c.isAlphanum || c = '-' || c = '_' then c else '_') = normalized
  have hplain : ∀ c ∈ normalized, plainName c = true := by
    intro c hc
    rw [← hnormalized] at hc
    obtain ⟨d, -, rfl⟩ := List.mem_map.mp hc
    split_ifs with hd
    · exact hd
    · decide
  have hshort : normalized.length ≤ 80 := by
    rw [← hnormalized, List.length_map, List.length_take]
    exact Nat.min_le_left _ _
  simp only [List.isEmpty_iff]
  by_cases hempty : normalized = []
  · rw [if_pos hempty]
    refine ⟨by decide, by decide, List.all_eq_true.mp (by decide)⟩
  · rw [if_neg hempty, byteLen_ascii fun c hc => ascii_of_plainName (hplain c hc),
      String.toList_ofList]
    refine ⟨?_, hshort, hplain⟩
    rw [Bool.eq_false_iff]
    intro h
    have hlist := congrArg String.toList (String.isEmpty_iff.mp h)
    rw [String.toList_ofList] at hlist
    exact hempty hlist

/-- The profile that an import stores is valid. -/
theorem validateProfile_legacy (stem : Option String) (source : String) :
    validateProfile (legacyProfile stem source) = .ok () :=
  validateProfile_eq_ok.mpr
    ⟨rfl, _, profileFileName_eq_ok.mpr ⟨normalizeLegacyProfileName_valid _, rfl⟩⟩

/-- A profile that is put at a path. -/
theorem profileFiles_insert {files files' : DataDirectory} {path : String} {data : List UInt8}
    (h : ∀ k, isProfilePath k = true → files'[k]? = (files.insert path data)[k]?)
    (hpath : isProfilePath path = true) :
    profileFiles files' = (profileFiles files).insert path data := by
  refine BTreeMap.ext fun k => ?_
  rw [BTreeMap.get_insert, profileFiles, profileFiles, Std.ExtTreeMap.getElem?_filter',
    Std.ExtTreeMap.getElem?_filter']
  by_cases hk : isProfilePath k = true
  · rw [h k hk, BTreeMap.get_insert]
    by_cases heq : k = path
    · rw [if_pos heq, if_pos heq]
      simp [hk]
    · rw [if_neg heq, if_neg heq]
  · have hne : k ≠ path := fun heq => hk (heq ▸ hpath)
    rw [if_neg hne]
    simp [hk]

/-- A profile is stored. -/
theorem Inv.store {toml : Toml} {s : Store} {files' : DataDirectory} {stored : Stored}
    (h : Inv toml s) (hstored : WellStored toml stored)
    (hfiles : ∀ k, isProfilePath k = true →
      files'[k]? = (s.files.insert stored.place (bytesOf toml stored.profile))[k]?)
    (hmarker : (stored.legacy = true ∨ s.files[importMarkerPath.text]? ≠ none) →
      files'[importMarkerPath.text]? ≠ none) :
    Inv toml ⟨files', stored :: s.history⟩ where
  stored := List.forall_mem_cons.mpr ⟨hstored, h.stored⟩
  files := by
    rw [profileFiles_insert hfiles (isProfilePath_profilePath hstored.file), h.files]
    refine BTreeMap.ext fun k => ?_
    show _ = (((shelves Stored.place s.history).insert stored.place stored).map _)[k]?
    rw [BTreeMap.get_insert, Std.ExtTreeMap.getElem?_map, Std.ExtTreeMap.getElem?_map,
      BTreeMap.get_insert]
    by_cases hk : k = stored.place
    · rw [if_pos hk, if_pos hk, Option.map_some]
    · rw [if_neg hk, if_neg hk]
  marker := by
    rintro ⟨other, hother, hlegacy⟩
    rcases List.mem_cons.mp hother with rfl | hother
    · exact hmarker (.inl hlegacy)
    · exact hmarker (.inr (h.marker ⟨other, hother, hlegacy⟩))

theorem saveProfile_eq_done {toml : Toml} {schedule : Step → Fate} {suffix : FileSuffix}
    {profile : Profile} {files files' : DataDirectory}
    (h : saveProfile toml schedule suffix profile files = (.ok (.ok ()), files')) :
    validateProfile profile = .ok () ∧ ∃ data, toml.writeProfile profile = .ok data ∧
      replaceFile schedule suffix (profilePath (asciiLower profile.name)) (utf8 data) files =
        (.ok (.ok ()), files') := by
  rw [saveProfile] at h
  cases hvalid : validateProfile profile with
  | error error =>
      rw [hvalid] at h
      cases h
  | ok _ =>
      obtain ⟨-, file, hfile⟩ := validateProfile_eq_ok.mp hvalid
      obtain ⟨-, rfl⟩ := profileFileName_eq_ok.mp hfile
      rw [hvalid, hfile] at h
      cases hdata : toml.writeProfile profile with
      | error error =>
          simp only [hdata] at h
          cases h
      | ok data =>
          simp only [hdata] at h
          exact ⟨rfl, data, rfl, h⟩

theorem storeImport_eq_done {schedule : ImportSchedule} {ini : LegacyIni} {profile : Profile}
    {data : String} {files files' : DataDirectory} {result : Option Profile}
    (h : storeImport schedule ini profile data files = (.ok (.ok result), files')) :
    ∃ between, result = some profile ∧
      replaceFile schedule.profile schedule.profileSuffix (profilePath "imported-legacy")
        (utf8 data) files = (.ok (.ok ()), between) ∧
      replaceFile schedule.marker schedule.markerSuffix importMarkerPath ini.path between =
        (.ok (.ok ()), files') := by
  rw [storeImport] at h
  obtain ⟨stored, between, hstored, h⟩ := bind_eq_ok h
  cases stored with
  | error error => cases h
  | ok _ =>
      obtain ⟨marked, after, hmarked, h⟩ := bind_eq_ok h
      cases marked with
      | error error => cases h
      | ok _ =>
          cases h
          exact ⟨between, rfl, hstored, hmarked⟩

/-- What an import does that returns: nothing, or it stores the profile and the marker. -/
theorem importIniOnce_eq_done {toml : Toml} {schedule : ImportSchedule} {ini : LegacyIni}
    {s : Store} {files' : DataDirectory} {result : Option Profile}
    (h : importIniOnce toml schedule ini s.files = (.ok (.ok result), files')) :
    ¬ Performed s schedule ini ∧ result = none ∧ files' = s.files ∨
    Performed s schedule ini ∧ ∃ source data between,
      result = some (legacyProfile ini.stem source) ∧
      toml.writeProfile (legacyProfile ini.stem source) = .ok data ∧
      replaceFile schedule.profile schedule.profileSuffix (profilePath "imported-legacy")
        (utf8 data) s.files = (.ok (.ok ()), between) ∧
      replaceFile schedule.marker schedule.markerSuffix importMarkerPath ini.path between =
        (.ok (.ok ()), files') := by
  rw [importIniOnce] at h
  obtain ⟨present, after, hexists, hrest⟩ := bind_eq_ok h
  obtain ⟨rfl, hpresent⟩ := existsStep_eq_ok hexists
  cases present with
  | true =>
      obtain ⟨hlookup, hmarker⟩ := hpresent.mp rfl
      refine .inl ⟨fun hperformed => hmarker (hperformed.1 hlookup), ?_⟩
      cases hrest
      exact ⟨rfl, rfl⟩
  | false =>
      have habsent : schedule.lookup = .proceeds → s.files[importMarkerPath.text]? = none := by
        intro hlookup
        by_contra hmarker
        exact absurd (hpresent.mpr ⟨hlookup, hmarker⟩) (by decide)
      cases hcontents : ini.contents with
      | none =>
          simp only [hcontents] at hrest
          cases hrest
          exact .inl ⟨fun hperformed => hperformed.2 hcontents, rfl, rfl⟩
      | some read =>
          have hperformed : Performed s schedule ini := ⟨habsent, by rw [hcontents]; simp⟩
          simp only [hcontents] at hrest
          cases hsource : (read.mapError ioError) >>= readToString with
          | error error =>
              simp only [hsource] at hrest
              cases hrest
          | ok source =>
              simp only [hsource] at hrest
              cases hdata : toml.writeProfile (legacyProfile ini.stem source) with
              | error error =>
                  simp only [hdata] at hrest
                  cases hrest
              | ok data =>
                  simp only [hdata] at hrest
                  obtain ⟨between, hresult, hprofile, hmarker⟩ := storeImport_eq_done hrest
                  exact .inr ⟨hperformed, source, data, between, hresult, hdata, hprofile, hmarker⟩

/-- What is replaced for a profile is not the marker. -/
theorem marker_not_mem (file : String) (suffix : FileSuffix) :
    importMarkerPath.text ∉ replacedPaths (profilePath file) suffix := by
  have hne : ∀ extension : String,
      importMarkerPath.text ≠ (profilePath file).withExtension extension := by
    intro extension h
    have hchar := congrArg (fun text => text.toList.head?) h
    have hbase : ((profilePath file).withExtension extension).toList.head? = some 'p' := by
      show ("profiles/" ++ file ++ "." ++ extension).toList.head? = some 'p'
      simp
    simp only [hbase] at hchar
    exact absurd hchar (by decide)
  intro h
  simp only [replacedPaths, List.mem_cons, List.not_mem_nil, or_false] at h
  rcases h with h | h | h
  · exact hne "toml" h
  · exact hne _ h
  · exact hne _ h

/-- A profile that is replaced leaves the marker. -/
theorem marker_replaceFile {schedule : Step → Fate} {suffix : FileSuffix} {file : String}
    {data : List UInt8} {files files' : DataDirectory}
    (h : replaceFile schedule suffix (profilePath file) data files = (.ok (.ok ()), files')) :
    files'[importMarkerPath.text]? = files[importMarkerPath.text]? := by
  have hothers := within_replaceFile schedule suffix (profilePath file) data files
  rw [h] at hothers
  exact hothers _ (marker_not_mem file suffix)

theorem bytesOf_eq {toml : Toml} {profile : Profile} {data : String}
    (h : toml.writeProfile profile = .ok data) : bytesOf toml profile = utf8 data := by
  rw [bytesOf, h]

/-- The name of the file of the import. -/
theorem importedFile : FileName "imported-legacy" where
  nonempty := by decide
  plain := List.all_eq_true.mp (by decide)

/-- **What a call does that returns.**  It stores a profile, or it is an import that is not
performed and does nothing. -/
theorem returns_cases {toml : Toml} {call : Call} {s t : Store} (hs : Inv toml s)
    (h : Returns toml call s t) :
    (∃ schedule ini, call = .importIni schedule ini ∧ ¬ Performed s schedule ini ∧ t = s) ∨
    ∃ stored, t.history = stored :: s.history ∧ Inv toml t ∧
      match call with
      | .save _ _ profile => stored = ⟨asciiLower profile.name, profile, false⟩
      | .importIni schedule ini => Performed s schedule ini ∧ stored.legacy = true ∧
          stored.file = "imported-legacy" ∧ stored.key = importKey ini := by
  obtain ⟨stored, hperform, hhistory⟩ := h
  cases call with
  | save schedule suffix profile =>
      right
      rw [Call.perform] at hperform
      obtain ⟨result, after, hsave, hreturn⟩ := bind_eq_ok hperform
      cases result with
      | error error => cases hreturn
      | ok _ =>
          cases hreturn
          obtain ⟨hvalid, data, hdata, hreplace⟩ := saveProfile_eq_done hsave
          refine ⟨⟨asciiLower profile.name, profile, false⟩, hhistory, ?_, rfl⟩
          have hinv : Inv toml ⟨t.files, ⟨asciiLower profile.name, profile, false⟩ :: s.history⟩ := by
            refine hs.store ⟨hvalid, ⟨data, hdata⟩, fileName_of_valid hvalid, fun _ => rfl,
              fun h => by cases h⟩ (fun k hk => ?_) ?_
            · rw [bytesOf_eq hdata]
              exact replaceFile_profiles hreplace k hk
            · rw [marker_replaceFile hreplace]
              rintro (h | h)
              · cases h
              · exact h
          rw [← List.singleton_append, ← Option.toList_some, ← hhistory] at hinv
          exact hinv
  | importIni schedule ini =>
      rw [Call.perform] at hperform
      obtain ⟨result, after, himport, hreturn⟩ := bind_eq_ok hperform
      cases result with
      | error error => cases hreturn
      | ok result =>
          cases hreturn
          rcases importIniOnce_eq_done himport with ⟨hnot, rfl, hfiles⟩ |
            ⟨hperformed, source, data, between, rfl, hdata, hprofile, hmarker⟩
          · refine .inl ⟨schedule, ini, rfl, hnot, ?_⟩
            cases t
            cases s
            obtain rfl : _ = _ := hhistory
            obtain rfl : _ = _ := hfiles
            rfl
          · right
            refine ⟨⟨"imported-legacy", legacyProfile ini.stem source, true⟩, hhistory, ?_,
              hperformed, rfl, rfl, rfl⟩
            have hinv : Inv toml ⟨t.files,
                ⟨"imported-legacy", legacyProfile ini.stem source, true⟩ :: s.history⟩ := by
              refine hs.store ⟨validateProfile_legacy _ _, ⟨data, hdata⟩, importedFile,
                fun h => (by cases h), fun _ => rfl⟩ (fun k hk => ?_) fun _ => ?_
              · have hne : k ≠ importMarkerPath.text := fun heq => by
                  rw [heq] at hk
                  exact absurd hk (by decide)
                rw [bytesOf_eq hdata, replaceFile_profiles hmarker k hk, BTreeMap.get_insert,
                  if_neg hne]
                exact replaceFile_profiles hprofile k hk
              · rw [replaceFile_eq_done hmarker]
                exact Option.some_ne_none _
            rw [← List.singleton_append, ← Option.toList_some] at hinv
            simp only [Option.map_some] at hhistory
            rw [← hhistory] at hinv
            exact hinv

/-! ## One call -/

/-- Two stored profiles have one name just when they have one file. -/
abbrev Agreeing (stored other : Stored) : Prop := Agree Stored.key Stored.place stored other

theorem place_eq_iff {stored other : Stored} :
    stored.place = other.place ↔ stored.file = other.file :=
  ⟨fun h => profilePath_inj h, fun h => by rw [Stored.place, Stored.place, h]⟩

/-- Stored profiles that agree in pairs are listed. -/
theorem listed_of_pairwise {toml : Toml} (htoml : RoundTrips toml) {s : Store}
    (hs : Inv toml s) (h : s.history.Pairwise Agreeing) : Listed toml s := by
  intro key
  rw [profilesNamed_eq htoml hs, named_eq_latest h]
  cases latest Stored.key s.history key <;> rfl

/-- A further profile that is listed agrees with those before it. -/
theorem agreeing_of_listed {toml : Toml} (htoml : RoundTrips toml) {s t : Store} {stored : Stored}
    (ht : Inv toml t) (hhistory : t.history = stored :: s.history)
    (h : s.history.Pairwise Agreeing) (hlisted : Listed toml t) :
    ∀ other ∈ s.history, Agreeing other stored := by
  refine agree_of_named h fun key => ?_
  have hkey := hlisted key
  rw [profilesNamed_eq htoml ht, hhistory] at hkey
  have hlength := congrArg List.length (Except.ok.inj hkey)
  rw [List.length_map] at hlength
  rw [hlength]
  cases latest Stored.key (stored :: s.history) key <;> rfl

/-- The newest profile of a name, when another name is stored. -/
theorem latest_cons_of_ne {stored : Stored} {history : List Stored} {key : String}
    (h : stored.key ≠ key) :
    latest Stored.key (stored :: history) key = latest Stored.key history key := by
  rw [latest, List.find?_cons, decide_eq_false h]
  rfl

/-- **One call.**  Where the profiles agree that are stored, a call that returns leaves a
listing of what was stored last, and keeps what was saved, just when it is compatible; and
then the profiles agree again. -/
theorem returns_iff {toml : Toml} (htoml : RoundTrips toml) {call : Call} {s t : Store}
    (hs : Inv toml s) (hagree : s.history.Pairwise Agreeing) (h : Returns toml call s t) :
    (Listed toml t ∧ ImportKeeps call s t ↔ Compatible s call) ∧
      (Compatible s call → t.history.Pairwise Agreeing) := by
  rcases returns_cases hs h with ⟨schedule, ini, rfl, hnot, rfl⟩ |
    ⟨stored, hhistory, ht, hstored⟩
  · have hlisted := listed_of_pairwise htoml hs hagree
    refine ⟨iff_of_true ⟨hlisted, fun _ _ _ => rfl, fun _ => rfl⟩ fun hperformed => ?_,
      fun _ => hagree⟩
    exact absurd hperformed hnot
  · have hpairwise : (∀ other ∈ s.history, Agreeing other stored) →
        t.history.Pairwise Agreeing := by
      intro hall
      rw [hhistory]
      exact List.pairwise_cons.mpr ⟨fun other hother => symm (hall other hother), hagree⟩
    have hlisted : Listed toml t ↔ ∀ other ∈ s.history, Agreeing other stored :=
      ⟨agreeing_of_listed htoml ht hhistory hagree,
        fun hall => listed_of_pairwise htoml ht (hpairwise hall)⟩
    cases call with
    | save schedule suffix profile =>
        have hcompatible : (∀ other ∈ s.history, Agreeing other stored) ↔
            Compatible s (.save schedule suffix profile) := by
          refine forall₂_congr fun other _ => ?_
          rw [Agreeing, Agree, place_eq_iff, hstored]
          rfl
        rw [hlisted, hcompatible]
        exact ⟨and_iff_left trivial, fun hc => hpairwise (hcompatible.mpr hc)⟩
    | importIni schedule ini =>
        obtain ⟨hperformed, hlegacy, hfile, hkey⟩ := hstored
        have hagreeing : Compatible s (.importIni schedule ini) →
            ∀ other ∈ s.history, Agreeing other stored := by
          intro hc other hother
          obtain ⟨hname, hplace⟩ := (hc hperformed).2 other hother
          rw [Agreeing, Agree, place_eq_iff, hkey, hfile]
          exact iff_of_false hname hplace
        refine ⟨⟨?_, fun hc => ⟨hlisted.mpr (hagreeing hc), fun other hother _ => ?_, ?_⟩⟩,
          fun hc => hpairwise (hagreeing hc)⟩
        · rintro ⟨hl, hkeeps, hsecond⟩ -
          have hfirst : ∀ other ∈ s.history, other.legacy = false := by
            intro other hother
            rw [Bool.eq_false_iff]
            intro hother'
            rw [hsecond ⟨other, hother, hother'⟩] at hhistory
            exact List.cons_ne_self stored s.history hhistory.symm
          refine ⟨hfirst, fun other hother => ?_⟩
          have hname : other.key ≠ importKey ini := by
            -- Else the profile of the import would be the last one of a name that was saved.
            intro heq
            have hlast := hkeeps other hother (hfirst other hother)
            have hnew : decide (stored.key = other.key) = true :=
              decide_eq_true (hkey.trans heq.symm)
            rw [hhistory, latest, List.find?_cons, hnew] at hlast
            have hold := hfirst stored (List.mem_of_find?_eq_some hlast.symm)
            rw [hlegacy] at hold
            cases hold
          refine ⟨hname, fun heq => hname ?_⟩
          rw [← hkey]
          exact (hlisted.mp hl other hother).mpr (place_eq_iff.mpr (heq.trans hfile.symm))
        · rw [hhistory, latest_cons_of_ne]
          rw [hkey]
          exact ((hc hperformed).2 other hother).1.symm
        · rintro ⟨other, hother, hother'⟩
          rw [(hc hperformed).1 other hother] at hother'
          cases hother'

/-! ## Runs -/

/-- A step of a run after which the listing shows what was stored last under each name. -/
def Kept (toml : Toml) (call : Call) (s t : Store) : Prop := Listed toml t ∧ ImportKeeps call s t

theorem inv_of_returns {toml : Toml} {call : Call} {s t : Store} (hs : Inv toml s)
    (h : Returns toml call s t) : Inv toml t := by
  rcases returns_cases hs h with ⟨_, _, _, _, rfl⟩ | ⟨_, _, ht, _⟩
  · exact hs
  · exact ht

theorem run_iff {toml : Toml} (htoml : RoundTrips toml) {s : Store} {run : List (Call × Store)}
    (hs : Inv toml s) (hagree : s.history.Pairwise Agreeing)
    (hrun : IsRun (Returns toml) s run) :
    IsRun (Kept toml) s run ↔ EachStep Compatible s run := by
  induction run generalizing s with
  | nil => exact Iff.rfl
  | cons x run ih =>
      obtain ⟨hstep, hrest⟩ := hrun
      obtain ⟨hiff, hnext⟩ := returns_iff htoml hs hagree hstep
      show Kept toml x.1 s x.2 ∧ IsRun (Kept toml) x.2 run ↔
        Compatible s x.1 ∧ EachStep Compatible x.2 run
      rw [Kept, hiff]
      exact and_congr_right fun hc => ih (inv_of_returns hs hstep) (hnext hc) hrest

/-- A directory without profiles. -/
theorem inv_empty (toml : Toml) {files : DataDirectory}
    (h : ∀ path, isProfilePath path = true → files[path]? = none) : Inv toml ⟨files, []⟩ where
  stored := by simp
  files := by
    refine BTreeMap.ext fun k => ?_
    rw [profileFiles, Std.ExtTreeMap.getElem?_filter', Std.ExtTreeMap.getElem?_map]
    have hempty : (shelves Stored.place ([] : List Stored))[k]? = none :=
      Std.ExtTreeMap.getElem?_empty
    rw [hempty, Option.map_none]
    by_cases hk : isProfilePath k = true
    · rw [h k hk]
      rfl
    · simp [hk]
  marker := by simp

/-- **When the store of the profiles is a map.**  In a run of calls that return, from a
directory without profiles, every listing shows of each name the one profile that was stored
last, no import replaces a profile that was saved, and no second import does anything, just
when every call is compatible.  Whatever the calls, no stored profile makes a listing fail,
and after an import its marker is there. -/
theorem profileStore (toml : Toml) (htoml : RoundTrips toml) (files : DataDirectory)
    (hempty : ∀ path, isProfilePath path = true → files[path]? = none)
    (run : List (Call × Store)) (hrun : IsRun (Returns toml) ⟨files, []⟩ run) :
    (Listed toml ⟨files, []⟩ ∧ IsRun (Kept toml) ⟨files, []⟩ run ↔
      EachStep Compatible ⟨files, []⟩ run) ∧
    ∀ t ∈ states ⟨files, []⟩ run, (∃ profiles, listProfiles toml t.files = .ok profiles) ∧
      ((∃ stored ∈ t.history, stored.legacy = true) →
        t.files[importMarkerPath.text]? ≠ none) := by
  have hinv := inv_empty toml hempty
  constructor
  · rw [run_iff htoml hinv List.Pairwise.nil hrun]
    exact and_iff_right (listed_of_pairwise htoml hinv List.Pairwise.nil)
  · intro t ht
    have htinv : Inv toml t := hrun.invariant (fun _ _ _ h hs => inv_of_returns hs h) hinv t ht
    exact ⟨⟨_, listProfiles_eq htoml htinv⟩, htinv.marker⟩

/-! ## An import beside a saved profile -/

deriving instance DecidableEq for Profile
deriving instance DecidableEq for Stored

def quietProfile : Profile where
  schemaVersion := 1
  name := "quiet"
  values := ∅
  importedFromIni := false

/-- A legacy file with one value. -/
def legacyIni (stem : String) : LegacyIni where
  path := utf8 (stem ++ ".ini")
  stem := some stem
  contents := some (.ok (utf8 "[CPU]\nCurveOptimizer=-12\n"))

/-- The profile of that file. -/
def importedProfile (stem : String) : Profile where
  schemaVersion := 1
  name := stem
  values := Std.ExtTreeMap.ofList [("curveoptimizer", (-12 : Int64))]
  importedFromIni := true

def quietText : String :=
  "schema_version = 1\nname = \"quiet\"\nimported_from_ini = false\n\n[values]\n"

def importedText (stem : String) : String :=
  "schema_version = 1\nname = \"" ++ stem ++
    "\"\nimported_from_ini = true\n\n[values]\ncurveoptimizer = -12\n"

/-- TOML, as far as it goes for a saved profile and one that is imported. -/
def testToml (stem : String) : Toml where
  readSettings _ := .error "expected settings"
  writeSettings _ := .error "unsupported"
  readProfile source :=
    if source = quietText then .ok quietProfile
    else if source = importedText stem then .ok (importedProfile stem)
    else .error "expected a profile"
  writeProfile profile :=
    if profile = quietProfile then .ok quietText
    else if profile = importedProfile stem then .ok (importedText stem)
    else .error "unsupported"

def plainSchedule : ImportSchedule where
  lookup := .proceeds
  profile _ := .proceeds
  profileSuffix := uniqueFileSuffix 1 2 4
  marker _ := .proceeds
  markerSuffix := uniqueFileSuffix 1 2 5

def saveQuiet : Call := .save (fun _ => .proceeds) (uniqueFileSuffix 1 2 3) quietProfile

/-- The store after a call that stores a profile. -/
def after (toml : Toml) (call : Call) (stored : Stored) (s : Store) : Store :=
  ⟨(call.perform toml s.files).2, stored :: s.history⟩

def savedStore (stem : String) : Store :=
  after (testToml stem) saveQuiet ⟨"quiet", quietProfile, false⟩ ⟨∅, []⟩

def importedStore (stem : String) : Store :=
  after (testToml stem) (.importIni plainSchedule (legacyIni stem))
    ⟨"imported-legacy", importedProfile stem, true⟩ (savedStore stem)

/-- A profile is saved, then the legacy file is imported. -/
def saveThenImport (stem : String) : List (Call × Store) :=
  [(saveQuiet, savedStore stem),
    (.importIni plainSchedule (legacyIni stem), importedStore stem)]

theorem testToml_roundTrips (stem : String) (h : importedText stem ≠ quietText) :
    RoundTrips (testToml stem) := by
  intro profile data hwrite
  simp only [testToml] at hwrite ⊢
  split_ifs at hwrite with hquiet himported
  · obtain rfl := Except.ok.inj hwrite
    rw [if_pos rfl, hquiet]
  · obtain rfl := Except.ok.inj hwrite
    rw [if_neg h, if_pos rfl, himported]

theorem saveThenImport_returns (stem : String) (h : stem = "quiet" ∨ stem = "old") :
    IsRun (Returns (testToml stem)) ⟨∅, []⟩ (saveThenImport stem) := by
  refine ⟨⟨some ⟨"quiet", quietProfile, false⟩, Prod.ext ?_ rfl, rfl⟩,
    ⟨some ⟨"imported-legacy", importedProfile stem, true⟩, Prod.ext ?_ rfl, rfl⟩, trivial⟩
  · rcases h with rfl | rfl <;> decide +kernel
  · rcases h with rfl | rfl <;> decide +kernel

theorem empty_directory (path : String) (_ : isProfilePath path = true) :
    (∅ : DataDirectory)[path]? = none :=
  Std.ExtTreeMap.getElem?_empty

/-- A profile "quiet" and an import of `old.ini`. -/
theorem profileStore_saveThenImport :
    Listed (testToml "old") ⟨∅, []⟩ ∧
      IsRun (Kept (testToml "old")) ⟨∅, []⟩ (saveThenImport "old") := by
  have hruns := profileStore (testToml "old") (testToml_roundTrips "old" (by decide +kernel)) ∅
    empty_directory (saveThenImport "old") (saveThenImport_returns "old" (.inr rfl))
  refine hruns.1.mpr ⟨by simp [Compatible, saveQuiet], fun _ => ⟨?_, ?_⟩, trivial⟩
  · decide +kernel
  · decide +kernel

/-- A profile "quiet" is saved, then `quiet.ini` is imported: both are listed. -/
theorem profiles_duplicated :
    profilesNamed (testToml "quiet") (importedStore "quiet").files "quiet" =
      .ok [importedProfile "quiet", quietProfile] ∧
    ¬ ∀ (toml : Toml) (files : DataDirectory) (run : List (Call × Store)), RoundTrips toml →
      (∀ path, isProfilePath path = true → files[path]? = none) →
      IsRun (Returns toml) ⟨files, []⟩ run → IsRun (Kept toml) ⟨files, []⟩ run := by
  refine ⟨by decide +kernel, fun h => ?_⟩
  have htoml := testToml_roundTrips "quiet" (by decide +kernel)
  have hrun := saveThenImport_returns "quiet" (.inl rfl)
  have hkept := h (testToml "quiet") ∅ (saveThenImport "quiet") htoml empty_directory hrun
  have hcompatible := (run_iff htoml (inv_empty _ empty_directory) List.Pairwise.nil hrun).mp hkept
  have hperformed : Performed (savedStore "quiet") plainSchedule (legacyIni "quiet") :=
    ⟨fun _ => by decide +kernel, by simp [legacyIni]⟩
  have hkeys := (hcompatible.2.1 hperformed).2 ⟨"quiet", quietProfile, false⟩
    List.mem_cons_self
  exact hkeys.1 (by decide +kernel)

end FrametimeCfg.Verified.ProfileStore
