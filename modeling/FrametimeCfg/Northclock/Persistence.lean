import FrametimeCfg.Lib.Effect
import FrametimeCfg.Lib.Text
import FrametimeCfg.Northclock.Operation

/-!
# Stored files

Settings, profiles and the marker of an import are files below the data directory.  A
file is replaced through a temporary one: the old file is renamed away, the new one takes
its place, and the old one is removed.

The directory is a map from paths to bytes.  Each step of a replacement is done as a
whole, or fails and does nothing, or the process dies before it.  What the TOML library
reads and writes is a parameter.
-/

namespace FrametimeCfg.Northclock

open FrametimeCfg.Lib.Checks
open FrametimeCfg.Lib.Effect
open FrametimeCfg.Lib.OrderedMap

/-! ## Paths -/

/-- The files of the data directory, under their paths. -/
abbrev DataDirectory : Type := BTreeMap (List UInt8)

/-- The path of a stored file. -/
structure StoredPath where
  base : String
  extension : String
  stored : extension = "toml" ∨ extension = "complete"

def StoredPath.text (path : StoredPath) : String := path.base ++ "." ++ path.extension

/-- `Path::with_extension`. -/
def StoredPath.withExtension (path : StoredPath) (extension : String) : String :=
  path.base ++ "." ++ extension

def settingsPath : StoredPath := ⟨"settings", "toml", .inl rfl⟩

def profilePath (fileName : String) : StoredPath := ⟨"profiles/" ++ fileName, "toml", .inl rfl⟩

def importMarkerPath : StoredPath := ⟨"imports/legacy-ini", "complete", .inr rfl⟩

/-- The suffix that makes the names of one replacement its own.  It has digits and
hyphens. -/
structure FileSuffix where
  text : String
  plain : ∀ c ∈ text.toList, c.isDigit = true ∨ c = '-'

/-- `unique_file_suffix`, of what the process, the clock and the counter answer. -/
def uniqueFileSuffix (processId nanos sequence : Nat) : FileSuffix where
  text := toString processId ++ "-" ++ toString nanos ++ "-" ++ toString sequence
  plain := by
    have hdigits : ∀ n : Nat, ∀ c ∈ (toString n).toList, c.isDigit = true := by
      intro n c hc
      rw [Nat.toString_eq_ofList_toDigits, String.toList_ofList] at hc
      exact Nat.isDigit_of_mem_toDigits (by decide) (by decide) hc
    intro c hc
    simp only [String.toList_append, List.mem_append] at hc
    rcases hc with (((hc | hc) | hc) | hc) | hc
    · exact .inl (hdigits _ c hc)
    · exact .inr (List.mem_singleton.mp hc)
    · exact .inl (hdigits _ c hc)
    · exact .inr (List.mem_singleton.mp hc)
    · exact .inl (hdigits _ c hc)

/-- `Path::extension`, of a file name. -/
def fileExtension (name : List Char) : Option (List Char) :=
  match name.reverse.dropWhile (· ≠ '.') with
  | _ :: _ :: _ => some (name.reverse.takeWhile (· ≠ '.')).reverse
  | _ => none

/-- The path is that of a file in the directory of the profiles with their extension. -/
def isProfilePath (path : String) : Bool :=
  match Lib.Text.stripPrefix "profiles/".toList path.toList with
  | some name => !name.contains '/' && fileExtension name = some "toml".toList
  | none => false

/-! ## Settings and profiles -/

def SETTINGS_SCHEMA_VERSION : UInt32 := 1

structure AppSettings where
  schemaVersion : UInt32 := SETTINGS_SCHEMA_VERSION
  selectedProfile : Option String := none
  measurementIntervalMs : UInt64 := 1000

structure Profile where
  schemaVersion : UInt32
  name : String
  values : BTreeMap Int64
  importedFromIni : Bool

/-- `profile_file_name`. -/
def profileFileName (name : String) : Except NorthclockError String := do
  reject (name.isEmpty || 80 < Lib.Text.byteLen name ||
      !name.toList.all fun c => c.isAlphanum || c = '-' || c = '_')
    (.invalidUsage "profile names may contain only ASCII letters, numbers, '-' and '_'")
  return Lib.Text.asciiLower name

/-- `validate_profile`. -/
def validateProfile (profile : Profile) : Except NorthclockError Unit := do
  reject (profile.schemaVersion ≠ SETTINGS_SCHEMA_VERSION)
    (.invalidUsage ("unsupported profile schema " ++ toString profile.schemaVersion.toNat))
  let _ ← profileFileName profile.name

/-- What the TOML library reads and writes. -/
structure Toml where
  readSettings : String → Except String AppSettings
  writeSettings : AppSettings → Except String String
  readProfile : String → Except String Profile
  writeProfile : Profile → Except String String

/-- `fs::read_to_string`, of the bytes of a file. -/
def readToString (bytes : List UInt8) : Except NorthclockError String :=
  okOr (Lib.Text.fromUtf8 bytes) (.internal "stream did not contain valid UTF-8")

/-- `load_settings`. -/
def loadSettings (toml : Toml) (files : DataDirectory) : Except NorthclockError AppSettings :=
  match files[settingsPath.text]? with
  | none => .ok {}
  | some bytes => do
      let source ← readToString bytes
      let settings ← (toml.readSettings source).mapError fun error =>
        .internal ("invalid settings TOML: " ++ error)
      reject (settings.schemaVersion ≠ SETTINGS_SCHEMA_VERSION) (.internal
        ("unsupported settings schema " ++ toString settings.schemaVersion.toNat))
      return settings

/-- `load_profile_path`. -/
def loadProfilePath (toml : Toml) (path : String) (bytes : List UInt8) :
    Except NorthclockError Profile := do
  let source ← readToString bytes
  let profile ← (toml.readProfile source).mapError fun error =>
    .internal ("invalid profile TOML in " ++ path ++ ": " ++ error)
  validateProfile profile
  return profile

/-- The files that are listed as profiles, in the order of their paths. -/
def profileFiles (files : DataDirectory) : DataDirectory :=
  files.filter fun path _ => isProfilePath path

/-- `list_profiles`. -/
def listProfiles (toml : Toml) (files : DataDirectory) :
    Except NorthclockError (List Profile) :=
  (profileFiles files).toList.mapM fun (path, bytes) => loadProfilePath toml path bytes

/-! ## Replacement -/

/-- The steps of a replacement, in order. -/
inductive Step where
  | createDirectory
  | createTemporary
  | write
  | sync
  | exists
  | renameNew
  | renameAway
  | renameIn
  | restore
  | remove
  deriving DecidableEq

/-- What becomes of a step. -/
inductive Fate where
  | proceeds
  | fails (error : String)
  | dies
  deriving DecidableEq

/-- The process is gone. -/
inductive Died where
  | died
  deriving DecidableEq

/-- A program of the process that reports errors as values. -/
abbrev Process : Type := Prog DataDirectory Died (Except NorthclockError Unit)

/-- A step that changes the files. -/
def step (fate : Fate) (act : DataDirectory → Except String DataDirectory) :
    Prog DataDirectory Died (Except String Unit) := fun files =>
  match fate with
  | .proceeds =>
      match act files with
      | .ok files' => (.ok (.ok ()), files')
      | .error error => (.ok (.error error), files)
  | .fails error => (.ok (.error error), files)
  | .dies => (.error .died, files)

/-- `Path::exists`: an error is no file. -/
def existsStep (fate : Fate) (path : String) : Prog DataDirectory Died Bool := fun files =>
  match fate with
  | .proceeds => (.ok files[path]?.isSome, files)
  | .fails _ => (.ok false, files)
  | .dies => (.error .died, files)

/-- `io_error`. -/
def ioError (error : String) : NorthclockError := .internal error

/-- The step with its error as the result, as at the end of a function. -/
def orReport (call : Prog DataDirectory Died (Except String Unit)) : Process := do
  let result ← call
  return result.mapError ioError

/-- The step, then the rest unless it failed. -/
def orReturn (call : Prog DataDirectory Died (Except String Unit)) (rest : Process) :
    Process := do
  let result ← call
  match result with
  | .ok () => rest
  | .error error => return .error (ioError error)

/-- `create_new`. -/
def createNew (path : String) (files : DataDirectory) : Except String DataDirectory :=
  if files[path]?.isSome then .error "file exists" else .ok (files.insert path [])

def rename (source target : String) (files : DataDirectory) : Except String DataDirectory :=
  match files[source]? with
  | some bytes => .ok ((files.erase source).insert target bytes)
  | none => .error "no such file"

def removeFile (path : String) (files : DataDirectory) : Except String DataDirectory :=
  if files[path]?.isSome then .ok (files.erase path) else .error "no such file"

/-- What follows the second rename of `replace_file`: the backup goes, or it comes back. -/
def settle (schedule : Step → Fate) (path backup : String) : Except String Unit → Process
  | .ok () => orReport (step (schedule .remove) (removeFile backup))
  | .error error => do
      let restored ← step (schedule .restore) (rename backup path)
      return .error (match restored with
        | .ok () => ioError error
        | .error restoreError => .internal ("settings replacement failed (" ++ error ++
            ") and backup restoration failed (" ++ restoreError ++ ")"))

/-- The end of `replace_file`, when there is an old file. -/
def exchange (schedule : Step → Fate) (path temporary backup : String) : Process :=
  orReturn (step (schedule .renameAway) (rename path backup))
    (step (schedule .renameIn) (rename temporary path) >>= settle schedule path backup)

/-- The end of `replace_file`, from its look at the path. -/
def moveIntoPlace (schedule : Step → Fate) (path temporary backup : String) :
    Process := do
  let present ← existsStep (schedule .exists) path
  if present then exchange schedule path temporary backup
  else orReport (step (schedule .renameNew) (rename temporary path))

/-- `replace_file`. -/
def replaceFile (schedule : Step → Fate) (suffix : FileSuffix) (path : StoredPath)
    (data : List UInt8) : Process :=
  let temporary := path.withExtension ("tmp-" ++ suffix.text)
  let backup := path.withExtension ("bak-" ++ suffix.text)
  orReturn (step (schedule .createDirectory) .ok) <|
  orReturn (step (schedule .createTemporary) (createNew temporary)) <|
  orReturn (step (schedule .write) fun files => .ok (files.insert temporary data)) <|
  orReturn (step (schedule .sync) .ok) <|
  moveIntoPlace schedule path.text temporary backup

/-- `save_settings`. -/
def saveSettings (toml : Toml) (schedule : Step → Fate) (suffix : FileSuffix)
    (settings : AppSettings) : Process :=
  if settings.schemaVersion ≠ SETTINGS_SCHEMA_VERSION then
    pure (.error (.invalidUsage "settings schema does not match this Northclock build"))
  else
    match toml.writeSettings settings with
    | .error error => pure (.error (.internal error))
    | .ok data => replaceFile schedule suffix settingsPath (Lib.Text.utf8 data)

/-- `save_profile`. -/
def saveProfile (toml : Toml) (schedule : Step → Fate) (suffix : FileSuffix)
    (profile : Profile) : Process :=
  match validateProfile profile, profileFileName profile.name with
  | .error error, _ => pure (.error error)
  | .ok (), .error error => pure (.error error)
  | .ok (), .ok fileName =>
      match toml.writeProfile profile with
      | .error error => pure (.error (.internal error))
      | .ok data => replaceFile schedule suffix (profilePath fileName) (Lib.Text.utf8 data)

/-! ## The import of the legacy file -/

/-- `normalize_legacy_profile_name`. -/
def normalizeLegacyProfileName (name : String) : String :=
  let normalized := (name.toList.take 80).map fun c =>
    if c.isAlphanum || c = '-' || c = '_' then c else '_'
  if normalized.isEmpty then "legacy-profile" else String.ofList normalized

/-- `str::parse` of an `i64`. -/
def parseI64 (value : List Char) : Option Int64 :=
  match value with
  | '-' :: digits =>
      if digits.head? = some '+' then none
      else ((Lib.Text.parseDecimalNat digits).filter (· ≤ 9223372036854775808)).map fun n =>
        Int64.ofInt (-n)
  | digits =>
      ((Lib.Text.parseDecimalNat digits).filter (· < 9223372036854775808)).map fun n =>
        Int64.ofInt n

/-- The value that a line of the legacy file adds, if it has one. -/
def legacyLine (values : BTreeMap Int64) (line : List Char) : BTreeMap Int64 :=
  let line := Lib.Text.trim line
  match line.head? with
  | none => values
  | some first =>
      if first = ';' ∨ first = '#' ∨ first = '[' then values
      else
        match Lib.Text.splitOnce '=' line with
        | none => values
        | some (key, value) =>
            match parseI64 (Lib.Text.trim value) with
            | none => values
            | some value =>
                values.insert (Lib.Text.asciiLower (String.ofList (Lib.Text.trim key))) value

/-- The legacy file as an import finds it: its path as the system has it, the stem of its
name if that is a text, and what reading it gives, unless there is no such file. -/
structure LegacyIni where
  path : List UInt8
  stem : Option String
  contents : Option (Except String (List UInt8))

/-- The profile of the legacy file. -/
def legacyProfile (stem : Option String) (source : String) : Profile where
  schemaVersion := SETTINGS_SCHEMA_VERSION
  name := normalizeLegacyProfileName (stem.getD "legacy-profile")
  values := (Lib.Text.lines source.toList).foldl legacyLine ∅
  importedFromIni := true

/-- What becomes of the calls of an import. -/
structure ImportSchedule where
  lookup : Fate
  profile : Step → Fate
  profileSuffix : FileSuffix
  marker : Step → Fate
  markerSuffix : FileSuffix

/-- The end of `import_ini_once`: the profile is stored, then the marker. -/
def storeImport (schedule : ImportSchedule) (ini : LegacyIni) (profile : Profile)
    (data : String) : Prog DataDirectory Died (Except NorthclockError (Option Profile)) := do
  let stored ← replaceFile schedule.profile schedule.profileSuffix
    (profilePath "imported-legacy") (Lib.Text.utf8 data)
  match stored with
  | .error error => return .error error
  | .ok () => do
      let marked ← replaceFile schedule.marker schedule.markerSuffix importMarkerPath ini.path
      return marked.map fun () => some profile

/-- `import_ini_once`. -/
def importIniOnce (toml : Toml) (schedule : ImportSchedule) (ini : LegacyIni) :
    Prog DataDirectory Died (Except NorthclockError (Option Profile)) := do
  let present ← existsStep schedule.lookup importMarkerPath.text
  if present then return .ok none
  else
    match ini.contents with
    | none => return .ok none
    | some read =>
        match (read.mapError ioError) >>= readToString with
        | .error error => return .error error
        | .ok source =>
            let profile := legacyProfile ini.stem source
            match toml.writeProfile profile with
            | .error error => return .error (.internal error)
            | .ok data => storeImport schedule ini profile data

end FrametimeCfg.Northclock
