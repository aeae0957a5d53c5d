import FrametimeCfg.Domain.Json
import FrametimeCfg.Lib.Checks
import FrametimeCfg.Lib.Effect
import FrametimeCfg.Lib.Splitting

/-!
# Power plans

The restore of the power plan that was active before, and of the plans that the suite made.
The plans are those of `powercfg`, which compares identifiers without regard to case and
lists one plan in each line, with its identifier in lower case.  What the listing says
besides is a `ListingFormat`, as it depends on the language of the system.
-/

namespace FrametimeCfg.Windows.PowerPlan

open FrametimeCfg.Domain
open FrametimeCfg.Lib.Checks
open FrametimeCfg.Lib.Effect
open FrametimeCfg.Lib.OrderedMap
open FrametimeCfg.Lib.Text

/-! ## Identifiers -/

/-- A character of an identifier. -/
def isGuidChar (c : Char) : Bool := isHexDigit c || c = '-'

/-- The test of `validate_power_plan_guid`. -/
def isPowerPlanGuid (value : List Char) : Bool :=
  byteLen (String.ofList value) = 36 && value.zipIdx.all fun (c, index) =>
    (index = 8 || index = 13 || index = 18 || index = 23) && c = '-' || isHexDigit c

/-- `validate_power_plan_guid`. -/
def validatePowerPlanGuid (value : String) : Except String Unit :=
  reject (!isPowerPlanGuid value.toList) "power-plan GUID is not allowlisted"

/-- The text in lower case, by characters. -/
def lowerChars (value : List Char) : List Char := value.map Char.toLower

/-! ## The plans of `powercfg` -/

structure Plan where
  guid : List Char
  name : List Char
  deriving DecidableEq

/-- A well-formed identifier in lower case: groups of 8, 4, 4, 4 and 12 digits. -/
def isCanonicalGuid (value : List Char) : Bool :=
  value.length = 36 && value.zipIdx.all fun (c, index) =>
    if index = 8 || index = 13 || index = 18 || index = 23 then c = '-'
    else isLowerHexDigit c

/-- **The plans of a system**, one of which is active.  A name is one line. -/
structure PlanSet where
  plans : List Plan
  active : List Char
  canonical : ∀ plan ∈ plans, isCanonicalGuid plan.guid = true
  singleLine : ∀ plan ∈ plans, '\n' ∉ plan.name
  distinct : (plans.map (·.guid)).Nodup
  activeKnown : active ∈ plans.map (·.guid)

/-- What a listing says besides the plans: the lines before them, and the label before each
identifier, in neither of which an identifier occurs. -/
structure ListingFormat where
  header : List (List Char)
  label : List Char
  closing : Char
  headerLines : ∀ line ∈ header, '\n' ∉ line
  headerFree : ∀ line ∈ header, ∀ guid, isPowerPlanGuid guid = true → ¬ guid <:+: line
  labelLine : '\n' ∉ label
  labelFree : ∀ guid, isPowerPlanGuid guid = true → ¬ guid <:+: label
  closes : isGuidChar closing = false ∧ closing ≠ '\n'

namespace ListingFormat

/-- The line of a plan. -/
def planLine (format : ListingFormat) (active : Bool) (plan : Plan) : List Char :=
  format.label ++ format.closing :: plan.guid ++ [' ', ' ', '('] ++ plan.name ++ [')'] ++
    if active then [' ', '*'] else []

/-- Lines as `powercfg` writes them. -/
def text (lines : List (List Char)) : List Char :=
  lines.flatMap fun line => line ++ ['\r', '\n']

/-- `powercfg /list`. -/
def list (format : ListingFormat) (s : PlanSet) : List Char :=
  text (format.header ++ s.plans.map fun plan =>
    format.planLine (plan.guid = s.active) plan)

/-- `powercfg /getactivescheme`. -/
def activeScheme (format : ListingFormat) (s : PlanSet) : List Char :=
  text ((s.plans.filter fun plan => plan.guid = s.active).map (format.planLine false))

end ListingFormat

abbrev PlanProg := Prog PlanSet String

local instance lawfulBEq_chars : LawfulBEq (List Char) := inferInstance

/-- `powercfg /setactive`. -/
def setActive (guid : String) : PlanProg Unit := fun s =>
  if h : lowerChars guid.toList ∈ s.plans.map (·.guid) then
    (.ok (), { s with active := lowerChars guid.toList, activeKnown := h })
  else (.error "powercfg: the power scheme does not exist", s)

/-- `powercfg /delete`.  The active plan stays. -/
def deletePlan (guid : String) : PlanProg Unit := fun s =>
  if lowerChars guid.toList ∉ s.plans.map (·.guid) then
    (.error "powercfg: the power scheme does not exist", s)
  else if h : lowerChars guid.toList = s.active then
    (.error "powercfg: the active power scheme cannot be deleted", s)
  else
    (.ok (), {
      plans := s.plans.filter fun plan => plan.guid ≠ lowerChars guid.toList
      active := s.active
      canonical := fun plan hplan => s.canonical plan (List.mem_of_mem_filter hplan)
      singleLine := fun plan hplan => s.singleLine plan (List.mem_of_mem_filter hplan)
      distinct := s.distinct.sublist (List.filter_sublist.map _)
      activeKnown := by
        obtain ⟨plan, hplan, hactive⟩ := List.mem_map.mp s.activeKnown
        refine List.mem_map.mpr ⟨plan, List.mem_filter.mpr ⟨hplan, ?_⟩, hactive⟩
        simpa [hactive] using Ne.symm h })

/-! ## Reading a listing -/

def SUITE_POWER_PLAN_NAME : List Char := "frametime.cfg".toList

structure ActivePowerPlan where
  guid : List Char
  name : List Char
  deriving DecidableEq

/-- The first identifier of a text, as it is written. -/
def firstGuid (line : List Char) : Option (List Char) :=
  (FrametimeCfg.Lib.Text.splitAt (fun c => !isGuidChar c) line).find? isPowerPlanGuid

/-- `parse_power_plan_line`. -/
def parsePowerPlanLine (line : List Char) : Option ActivePowerPlan := do
  let rawGuid ← firstGuid line
  let (_, after) ← splitOnceText rawGuid line
  let tail := trim (trimEndMatches (· = '*') (trim after))
  let opened ← stripPrefix ['('] tail
  let closed ← stripSuffix [')'] opened
  if trim closed = [] then none
  else some { guid := lowerChars rawGuid, name := trim closed }

/-- `find_power_guid`. -/
def findPowerGuid (text : List Char) : Option (List Char) :=
  (firstGuid text).map lowerChars

/-- `parse_active_power_plan`. -/
def parseActivePowerPlan (text : List Char) : Except String ActivePowerPlan :=
  match (lines text).filterMap parsePowerPlanLine with
  | [plan] => .ok plan
  | [] => .error "powercfg active-plan output has no exact GUID/name pair"
  | _ => .error "powercfg active-plan output has ambiguous GUID/name pairs"

/-! ## The restore -/

/-- The entry checks of `restore_power_plan`. -/
def checkPowerPlanRecord (step originalGuid : String) (suiteOwnedGuids : List String)
    (unknown : BTreeMap Value) : Except String Unit := do
  reject (step ≠ "P1:6" || !unknown.isEmpty || !isPowerPlanGuid originalGuid.toList)
    "power-plan restore binding is not exact"
  reject (suiteOwnedGuids.isEmpty ||
      suiteOwnedGuids.any (fun guid =>
        !isPowerPlanGuid guid.toList || eqIgnoreAsciiCase guid originalGuid) ||
      suiteOwnedGuids.zipIdx.any fun (guid, index) =>
        (suiteOwnedGuids.take index).any fun previous => eqIgnoreAsciiCase previous guid)
    "power-plan recovery identities are not exact"

/-- One plan of the suite: it is deleted where it is listed under the name of the suite. -/
def deleteSuitePlan (format : ListingFormat) (suiteGuid : String) : PlanProg Unit := do
  let plans ← gets format.list
  match ((lines plans).filterMap parsePowerPlanLine).find?
      fun plan => plan.guid = suiteGuid.toList with
  | none => pure ()
  | some plan => do
      ofExcept (reject (plan.name ≠ SUITE_POWER_PLAN_NAME)
        "suite power-plan provenance is no longer exact")
      deletePlan suiteGuid
      let remaining ← gets format.list
      ofExcept (reject (((lines remaining).filterMap findPowerGuid).any
        (· = suiteGuid.toList)) "suite power-plan remains after deletion")

/-- `restore_power_plan`. -/
def restorePowerPlan (format : ListingFormat) (step originalGuid : String)
    (suiteOwnedGuids : List String) (unknown : BTreeMap Value) : PlanProg Unit := do
  ofExcept (checkPowerPlanRecord step originalGuid suiteOwnedGuids unknown)
  setActive originalGuid
  let text ← gets format.activeScheme
  let plan ← ofExcept (parseActivePowerPlan text)
  ofExcept (reject (plan.guid ≠ originalGuid.toList)
    "original power-plan readback did not match")
  forEach (deleteSuitePlan format) suiteOwnedGuids

end FrametimeCfg.Windows.PowerPlan
