import FrametimeCfg.Domain.Serde
import FrametimeCfg.Lib.Checks
import FrametimeCfg.Lib.Effect
import FrametimeCfg.Lib.OrderedSet
import FrametimeCfg.Lib.Text
import Mathlib.Data.List.Sort

/-!
# The package catalog and the selection of components

A catalog lists the packages of a driver, which of them are required, and what each
depends on.  It is read from JSON and refused when an id is unsafe as a file name, when
two ids differ in ASCII case only, when a dependency is unknown, and when the dependencies
run in a circle.

A selection starts from a preset and is changed by what the user selects and deselects.
`PackageCatalog.resolveWithDeps` adds what the selection needs.

The two searches along the dependencies call themselves.  Here each call has one unit less
of fuel than its caller, and a search without fuel halts without a result.
-/

namespace FrametimeCfg.DriverFoundry

open FrametimeCfg.Domain
open FrametimeCfg.Domain.Serde
open FrametimeCfg.Lib.Checks
open FrametimeCfg.Lib.Effect
open FrametimeCfg.Lib.OrderedMap
open FrametimeCfg.Lib.OrderedSet

/-! ## Errors -/

inductive InstallError where
  | unknownPreset (preset : String)
  | packageMissing (path : String)
  | io (error : String)
  | json (error : String)
  | other (message : String)
  deriving DecidableEq

/-- Why a search stops before its end. -/
inductive Halt where
  | error (error : InstallError)
  /-- An index that is not there. -/
  | panics
  | outOfFuel
  deriving DecidableEq

/-- What the libraries do with texts: `serde_json` reads a value, or says why it cannot,
and says why a value has not the expected type; `{:?}` quotes a text. -/
structure Texts where
  parse : String → Except String Value
  mismatch : Value → String
  quote : String → String

/-- `serde_json::from_str`. -/
def fromStr {α : Type} (texts : Texts) (c : Codec α) (text : String) :
    Except InstallError α := do
  let v ← (texts.parse text).mapError .json
  okOr (c.read v) (.json (texts.mismatch v))

/-! ## Catalogs -/

def CATALOG_SCHEMA : String := "driver-foundry.catalog/v1"

structure PackageDefinition where
  id : String
  title : String := ""
  required : Bool := false
  dependencies : List String := []
  description : String := ""
  deriving DecidableEq

structure CatalogFile where
  schema : String
  packages : List PackageDefinition
  deriving DecidableEq

structure PackageCatalog where
  packages : BTreeMap PackageDefinition

/-- A package as the catalog file has it.  Only the reader is used. -/
def PackageDefinition.codec : Codec PackageDefinition :=
  .closed
    (.field (.required "id" .string) <|
      .field (.orElse "title" .string "") <|
      .field (.orElse "required" .bool false) <|
      .field (.defaulted "dependencies" .string) <|
      .field (.orElse "description" .string "") .done)
    (fun (id, title, required, dependencies, description, _) =>
      { id, title, required, dependencies, description })
    (fun p => (p.id, p.title, p.required, p.dependencies, p.description, ()))
    (fun _ => rfl) (by decide)

def CatalogFile.codec : Codec CatalogFile :=
  .closed
    (.field (.required "schema" .string) <|
      .field (.required "packages" PackageDefinition.codec.vec) .done)
    (fun (schema, packages, _) => { schema, packages })
    (fun file => (file.schema, file.packages, ()))
    (fun _ => rfl) (by decide)

/-! ## Component ids -/

/-- `Path::file_name`, of a path without separators. -/
def fileName (component : String) : Option String :=
  if component = "" ∨ component = "." ∨ component = ".." then none else some component

/-- The stems that are names of devices. -/
def reservedStems : List String :=
  ["CON", "PRN", "AUX", "NUL", "COM1", "COM2", "COM3", "COM4", "COM5", "COM6", "COM7",
    "COM8", "COM9", "LPT1", "LPT2", "LPT3", "LPT4", "LPT5", "LPT6", "LPT7", "LPT8", "LPT9"]

/-- The part of the id before its first dot. -/
def stem (id : String) : String := Lib.Text.asciiUpper
  (String.ofList (id.toList.takeWhile (· ≠ '.')))

/-- The first condition of `validate_component_id`. -/
def isUnsafeId (id : String) : Bool :=
  id = "" || id = "." || id = ".." ||
    id.toList.getLast?.any (fun c => c = '.' || c = ' ') ||
    id.toList.any (fun c => c.toNat < 0x20) ||
    id.toList.any (fun c => ['/', '\\', ':', '*', '?', '"', '<', '>', '|'].contains c) ||
    (fileName id).isNone

/-- `validate_component_id`. -/
def validateComponentId (texts : Texts) (id : String) : Except InstallError Unit := do
  reject (isUnsafeId id) (.other ("unsafe package component id: " ++ texts.quote id))
  reject (reservedStems.contains (stem id))
    (.other ("reserved Windows package component id: " ++ texts.quote id))

/-! ## Loading -/

namespace PackageCatalog

/-- `packages.values`. -/
def definitions (catalog : PackageCatalog) : List PackageDefinition :=
  catalog.packages.toList.map Prod.snd

/-- The map and the folded ids while the packages are read. -/
structure Loading where
  map : BTreeMap PackageDefinition := ∅
  foldedIds : BTreeSet := ∅

/-- The body of the loop of `load_from_json`. -/
def Loading.add (texts : Texts) (loading : Loading) (p : PackageDefinition) :
    Except InstallError Loading := do
  validateComponentId texts p.id
  let folded := Lib.Text.asciiLower p.id
  reject (loading.foldedIds.contains folded)
    (.other ("duplicate or case-fold-colliding package id: " ++ p.id))
  reject (loading.map.contains p.id) (.other ("duplicate package id: " ++ p.id))
  return { map := loading.map.insert p.id p, foldedIds := loading.foldedIds.insert folded }

/-- The ids on the path of the search, and those it is done with. -/
structure Visits where
  visiting : BTreeSet := ∅
  visited : BTreeSet := ∅

/-- `self.packages[id]`. -/
def index {σ : Type} (catalog : PackageCatalog) (id : String) :
    Prog σ Halt PackageDefinition :=
  ofExcept (okOr catalog.packages[id]? .panics)

/-- `visit_dependency`. -/
def visitDependency (catalog : PackageCatalog) : Nat → String → Prog Visits Halt Unit
  | 0, _ => raise .outOfFuel
  | fuel + 1, id => do
      let visits ← gets fun s : Visits => s
      if id ∈ visits.visited then
        return ()
      else if id ∈ visits.visiting then
        raise (.error (.other ("package dependency cycle detected at " ++ id)))
      else do
        update fun s => { s with visiting := s.visiting.insert id }
        let package ← catalog.index id
        forEach (visitDependency catalog fuel) package.dependencies
        update fun s => { visiting := s.visiting.erase id, visited := s.visited.insert id }

/-- The first loop of `validate_dependencies`. -/
def validateKnown (texts : Texts) (catalog : PackageCatalog) : Except InstallError Unit :=
  catalog.packages.toList.forM fun (id, package) =>
    package.dependencies.forM fun dependency => do
      validateComponentId texts dependency
      reject (!catalog.packages.contains dependency)
        (.other ("package " ++ id ++ " depends on unknown component " ++ dependency))

/-- `validate_dependencies`. -/
def validateDependencies (texts : Texts) (fuel : Nat) (catalog : PackageCatalog) :
    Except Halt Unit := do
  (validateKnown texts catalog).mapError .error
  (forEach (catalog.visitDependency fuel) catalog.packages.keys {}).1

/-- `load_from_json`. -/
def loadFromJson (texts : Texts) (fuel : Nat) (json : String) :
    Except Halt PackageCatalog := do
  let file ← (fromStr texts CatalogFile.codec json).mapError .error
  reject (file.schema ≠ CATALOG_SCHEMA) (.error (.other
    ("unsupported package catalog schema: " ++ texts.quote file.schema)))
  let loading ← (file.packages.foldlM (Loading.add texts) {}).mapError .error
  let catalog : PackageCatalog := { packages := loading.map }
  catalog.validateDependencies texts fuel
  return catalog

/-! ## Resolution -/

/-- `required_ids`. -/
def requiredIds (catalog : PackageCatalog) : List String :=
  (catalog.definitions.filter (·.required)).map (·.id)

/-- `add_with_deps`. -/
def addWithDeps (catalog : PackageCatalog) : Nat → String → Prog BTreeSet Halt Unit
  | 0, _ => raise .outOfFuel
  | fuel + 1, id => do
      let out ← gets fun s : BTreeSet => s
      if id ∈ out then
        return ()
      else
        match catalog.packages[id]? with
        | none => return ()
        | some package => do
            forEach (addWithDeps catalog fuel) package.dependencies
            update fun s => s.insert id

/-- `resolve_with_deps`. -/
def resolveWithDeps (catalog : PackageCatalog) (fuel : Nat) (selected : BTreeSet) :
    Except Halt (List String) :=
  match forEach (catalog.addWithDeps fuel) selected.toList
      (BTreeSet.ofList catalog.requiredIds) with
  | (.ok (), out) => .ok (out.toList.insertionSort (· ≤ ·))
  | (.error halt, _) => .error halt

end PackageCatalog

/-! ## Presets -/

namespace SelectionPresets

def MINIMAL : String := "minimal"
def CLEAN : String := "clean"
def RECOMMENDED : String := "recommended"
def NOTEBOOK : String := "notebook"
def GAMING : String := "gaming"
def FULL : String := "full"

def allIds : List String := [MINIMAL, CLEAN, RECOMMENDED, NOTEBOOK, GAMING, FULL]

/-- `preset.trim().to_ascii_lowercase()`. -/
def fold (preset : String) : String :=
  Lib.Text.asciiLower (String.ofList (Lib.Text.trim preset.toList))

def isKnown (preset : String) : Bool := allIds.any (· = fold preset)

/-- `optional_selections`. -/
def optionalSelections (preset : String) : Except InstallError (List String) :=
  let p := fold preset
  if p = MINIMAL then .ok []
  else if p = CLEAN then .ok ["HDAudio", "PhysX", "NGXCore"]
  else if p = RECOMMENDED then .ok ["HDAudio", "PhysX", "NGXCore", "MSVCRT"]
  else if p = NOTEBOOK then .ok ["HDAudio", "PhysX", "NGXCore", "MSVCRT", "Display.Optimus"]
  else if p = GAMING then .ok ["HDAudio", "PhysX", "NGXCore", "MSVCRT", "NvCpl"]
  else if p = FULL then .ok []
  else .error (.unknownPreset p)

def bloatTelemetryIds : BTreeSet := .ofList
  ["GFExperience", "GFExperience.NvStreamSrv", "NvTelemetry", "NvBackend", "ShadowPlay",
    "Update.Core", "NvApp", "NvApp.MessageBus", "nodejs"]

/-- `create_selection`. -/
def createSelection (catalog : PackageCatalog) (preset : String) :
    Except InstallError BTreeSet :=
  if fold preset = FULL then
    .ok (.ofList ((catalog.definitions.filter fun package =>
      !package.required && !bloatTelemetryIds.contains package.id).map (·.id)))
  else do
    let options ← optionalSelections (fold preset)
    return .ofList (options.filter catalog.packages.contains)

end SelectionPresets

/-! ## Selections -/

/-- The options that the selection is made from. -/
structure InstallOptions where
  preset : String
  select : List String := []
  deselect : List String := []
  importSelection : Option String := none

/-- A selection file that is not a plain array. -/
structure SelectionFile where
  selected : List String
  components : List String

def SelectionFile.codec : Codec SelectionFile :=
  .closed
    (.field (.defaulted "selected" .string) <| .field (.defaulted "components" .string) .done)
    (fun (selected, components, _) => { selected, components })
    (fun file => (file.selected, file.components, ()))
    (fun _ => rfl) (by decide)

/-- `import_selection_file`, of what `read_to_string` answers. -/
def importSelectionFile (texts : Texts) (content : Except String String) :
    Except InstallError (List String) := do
  let text ← content.mapError .io
  match fromStr texts Codec.string.vec text with
  | .ok array => return array
  | .error _ => do
      let selection ← fromStr texts SelectionFile.codec text
      return selection.selected ++ selection.components

/-- What `resolve_selection` adds to the selection of the preset, and its message. -/
def imported (texts : Texts) (readToString : String → Except String String) :
    Option String → Except InstallError (List String × List String)
  | none => .ok ([], [])
  | some path => do
      let ids ← importSelectionFile texts (readToString path)
      return (ids, ["import-selection: " ++ path])

/-- The selection that `resolve_selection` resolves, and the messages before. -/
def chooseSelection (texts : Texts) (readToString : String → Except String String)
    (opts : InstallOptions) (catalog : PackageCatalog) :
    Except InstallError (BTreeSet × List String) := do
  reject (!SelectionPresets.isKnown opts.preset) (.unknownPreset opts.preset)
  let selected ← SelectionPresets.createSelection catalog opts.preset
  let (ids, messages) ← imported texts readToString opts.importSelection
  let selected := (selected.extend ids).extend opts.select
  return (opts.deselect.foldl (·.erase ·) selected, messages)

/-- `resolve_selection`, with the messages it adds. -/
def resolveSelection (texts : Texts) (readToString : String → Except String String)
    (fuel : Nat) (opts : InstallOptions) (catalog : PackageCatalog) :
    Except Halt (List String × List String) := do
  let (selected, messages) ←
    (chooseSelection texts readToString opts catalog).mapError .error
  let resolved ← catalog.resolveWithDeps fuel selected
  return (resolved, messages ++ ["preset: " ++ Lib.Text.asciiLower opts.preset,
    "resolved (" ++ toString resolved.length ++ "): " ++ ", ".intercalate resolved])

end FrametimeCfg.DriverFoundry
