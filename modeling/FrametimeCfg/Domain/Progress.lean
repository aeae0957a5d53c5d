import FrametimeCfg.Domain.Catalog
import FrametimeCfg.Domain.Json
import Mathlib.Data.Finset.Sort
import Mathlib.Logic.Function.Basic

/-!
# Progress of a run

`Progress` is the content of `progress.json`: the keys of the completed and
the skipped steps, the advisories acknowledged for steps that could not be
observed, and the time stamps of completions.  The three ways to record a step
keep the key out of the other two records, so a step is never both completed
and skipped; `isIn_completeStep` and its two companions say what each of them
changes and nothing more.

The decoder is tolerant: a malformed field reads as its default and every
field it does not know is kept.
-/

namespace FrametimeCfg.Domain

open FrametimeCfg.Lib.OrderedMap

/-- Acknowledged uncertainty for a check-only step. -/
structure AdvisoryResolution where
  reason : String
  unknown : BTreeMap Value := ∅
  deriving DecidableEq

/-- The content of `progress.json`. -/
structure Progress where
  phase : UInt8 := 0
  lastCompletedStep : UInt8 := 0
  lastSkippedStep : UInt8 := 0
  completedSteps : Finset String := ∅
  skippedSteps : Finset String := ∅
  timestamps : BTreeMap String := ∅
  advisories : BTreeMap AdvisoryResolution := ∅
  unknown : BTreeMap Value := ∅
  deriving DecidableEq

namespace Progress

/-- `Progress::key`. -/
def key (phase step : UInt8) : String := progressKeyOf phase step

/-- `Progress::key_for`. -/
def keyFor (id : StepId) : String := id.progressKey

def isCompleted (p : Progress) (id : StepId) : Bool :=
  keyFor id ∈ p.completedSteps

def isSkipped (p : Progress) (id : StepId) : Bool :=
  keyFor id ∈ p.skippedSteps

def hasAdvisory (p : Progress) (id : StepId) : Bool :=
  keyFor id ∈ p.advisories

/-- `Progress::complete`. -/
def complete (p : Progress) (phase step : UInt8) (timestamp : String) : Progress :=
  { p with
    skippedSteps := p.skippedSteps.erase (key phase step)
    advisories := p.advisories.erase (key phase step)
    completedSteps := insert (key phase step) p.completedSteps
    timestamps := p.timestamps.insert
      (toString phase.toNat ++ "-" ++ toString step.toNat) timestamp
    phase := phase
    lastCompletedStep := step }

/-- `Progress::skip`. -/
def skip (p : Progress) (phase step : UInt8) : Progress :=
  { p with
    completedSteps := p.completedSteps.erase (key phase step)
    advisories := p.advisories.erase (key phase step)
    skippedSteps := insert (key phase step) p.skippedSteps
    phase := phase
    lastSkippedStep := max p.lastSkippedStep step }

/-- `Progress::acknowledge_advisory`. -/
def acknowledgeAdvisory (p : Progress) (phase step : UInt8) (reason : String) :
    Progress :=
  { p with
    completedSteps := p.completedSteps.erase (key phase step)
    skippedSteps := p.skippedSteps.erase (key phase step)
    advisories := p.advisories.insert (key phase step) { reason := reason }
    phase := phase }

def completeStep (p : Progress) (id : StepId) (timestamp : String) : Progress :=
  p.complete id.phase.number id.number timestamp

def skipStep (p : Progress) (id : StepId) : Progress :=
  p.skip id.phase.number id.number

def acknowledgeStepAdvisory (p : Progress) (id : StepId) (reason : String) :
    Progress :=
  p.acknowledgeAdvisory id.phase.number id.number reason

/-- `Progress::resolved_count_in_phase`. -/
def resolvedCountInPhase (p : Progress) (phase : Phase) : Nat :=
  ((stepCatalog.filter fun step => step.id.phase = phase).filter fun step =>
    p.isCompleted step.id || p.isSkipped step.id).length

/-- `Progress::has_resolved_in_phase`. -/
def hasResolvedInPhase (p : Progress) (phase : Phase) : Bool :=
  0 < p.resolvedCountInPhase phase

/-! ## What recording a step changes -/

theorem keyFor_inj {i j : StepId} : keyFor i = keyFor j ↔ i = j :=
  progressKey_inj

/-- The three records a step can be in. -/
inductive Record where
  | completed
  | skipped
  | advised
  deriving DecidableEq

/-- The step is in the given record. -/
def isIn (p : Progress) : Record → StepId → Bool
  | .completed, id => p.isCompleted id
  | .skipped, id => p.isSkipped id
  | .advised, id => p.hasAdvisory id

/-- The step is recorded in some way; the engine passes over it. -/
def isRecorded (p : Progress) (id : StepId) : Bool :=
  p.isCompleted id || p.isSkipped id || p.hasAdvisory id

theorem isRecorded_iff (p : Progress) (id : StepId) :
    p.isRecorded id = true ↔ ∃ r, p.isIn r id = true := by
  constructor
  · intro h
    simp only [isRecorded, Bool.or_eq_true] at h
    rcases h with (h | h) | h
    · exact ⟨.completed, h⟩
    · exact ⟨.skipped, h⟩
    · exact ⟨.advised, h⟩
  · rintro ⟨r, h⟩
    simp only [isRecorded, Bool.or_eq_true]
    cases r with
    | completed => exact Or.inl (Or.inl h)
    | skipped => exact Or.inl (Or.inr h)
    | advised => exact Or.inr h

section

variable (p : Progress) (i j : StepId) (r : Record)

/-- Completing a step puts it in the completed record only. -/
theorem isIn_completeStep (ts : String) :
    (p.completeStep i ts).isIn r j =
      if j = i then decide (r = .completed) else p.isIn r j := by
  by_cases h : j = i
  · subst h
    cases r <;>
      simp [isIn, isCompleted, isSkipped, hasAdvisory, completeStep, complete,
        key, keyFor, StepId.progressKey]
  · have hk : keyFor j ≠ keyFor i := fun hk => h (keyFor_inj.mp hk)
    have hk' : progressKeyOf i.phase.number i.number ≠ keyFor j := Ne.symm hk
    have hk'' : keyFor j ≠ progressKeyOf i.phase.number i.number := hk
    cases r <;>
      simp [isIn, isCompleted, isSkipped, hasAdvisory, completeStep, complete,
        key, h, hk', hk'']

theorem isCompleted_completeStep (ts : String) :
    (p.completeStep i ts).isCompleted j = true ↔ j = i ∨ p.isCompleted j = true := by
  have h := isIn_completeStep p i j .completed ts
  simp only [isIn] at h
  rw [h]
  by_cases hj : j = i <;> simp [hj]

theorem isSkipped_completeStep (ts : String) :
    (p.completeStep i ts).isSkipped j = true ↔ j ≠ i ∧ p.isSkipped j = true := by
  have h := isIn_completeStep p i j .skipped ts
  simp only [isIn] at h
  rw [h]
  by_cases hj : j = i <;> simp [hj]

/-- Skipping a step puts it in the skipped record only. -/
theorem isIn_skipStep :
    (p.skipStep i).isIn r j =
      if j = i then decide (r = .skipped) else p.isIn r j := by
  by_cases h : j = i
  · subst h
    cases r <;>
      simp [isIn, isCompleted, isSkipped, hasAdvisory, skipStep, skip,
        key, keyFor, StepId.progressKey]
  · have hk : keyFor j ≠ keyFor i := fun hk => h (keyFor_inj.mp hk)
    have hk' : progressKeyOf i.phase.number i.number ≠ keyFor j := Ne.symm hk
    have hk'' : keyFor j ≠ progressKeyOf i.phase.number i.number := hk
    cases r <;>
      simp [isIn, isCompleted, isSkipped, hasAdvisory, skipStep, skip,
        key, h, hk', hk'']

/-- Acknowledging an advisory puts the step in the advisories only. -/
theorem isIn_acknowledgeStepAdvisory (reason : String) :
    (p.acknowledgeStepAdvisory i reason).isIn r j =
      if j = i then decide (r = .advised) else p.isIn r j := by
  by_cases h : j = i
  · subst h
    cases r <;>
      simp [isIn, isCompleted, isSkipped, hasAdvisory, acknowledgeStepAdvisory,
        acknowledgeAdvisory, key, keyFor, StepId.progressKey]
  · have hk : keyFor j ≠ keyFor i := fun hk => h (keyFor_inj.mp hk)
    have hk' : progressKeyOf i.phase.number i.number ≠ keyFor j := Ne.symm hk
    have hk'' : keyFor j ≠ progressKeyOf i.phase.number i.number := hk
    cases r <;>
      simp [isIn, isCompleted, isSkipped, hasAdvisory, acknowledgeStepAdvisory,
        acknowledgeAdvisory, key, h, hk', hk'']

end

/-! ## Records as a function of the step -/

/-- Which records each step is in. -/
def records (p : Progress) (id : StepId) : Record → Bool := fun r => p.isIn r id

/-- One record and no other. -/
def only (r : Record) : Record → Bool := fun r' => decide (r' = r)

/-- No record at all. -/
def noRecord : Record → Bool := fun _ => false

/-- A change of the records of one step. -/
private theorem records_eq_update {p q : Progress} {i : StepId} {r : Record}
    (h : ∀ r' j, q.isIn r' j = if j = i then decide (r' = r) else p.isIn r' j) :
    q.records = Function.update p.records i (only r) := by
  funext j r'
  by_cases hj : j = i
  · subst hj
    simp [records, only, h]
  · simp [records, h, hj]

section

variable (p : Progress) (i : StepId)

theorem records_completeStep (ts : String) :
    (p.completeStep i ts).records =
      Function.update p.records i (only .completed) :=
  records_eq_update fun r j => isIn_completeStep p i j r ts

theorem records_skipStep :
    (p.skipStep i).records = Function.update p.records i (only .skipped) :=
  records_eq_update fun r j => isIn_skipStep p i j r

theorem records_acknowledgeStepAdvisory (reason : String) :
    (p.acknowledgeStepAdvisory i reason).records =
      Function.update p.records i (only .advised) :=
  records_eq_update fun r j => isIn_acknowledgeStepAdvisory p i j r reason

/-- A step that is not recorded is in no record. -/
theorem isRecorded_eq_false_iff :
    p.isRecorded i = false ↔ p.records i = noRecord := by
  rw [← Bool.not_eq_true, isRecorded_iff, not_exists]
  constructor
  · intro h
    funext r
    simpa [records, noRecord] using h r
  · intro h r
    have hr : p.records i r = noRecord r := by rw [h]
    simpa [records, noRecord] using hr

end

section

variable {p : Progress} {i : StepId} {k ts reason : String}

theorem mem_completedSteps_completeStep :
    k ∈ (p.completeStep i ts).completedSteps ↔
      k = keyFor i ∨ k ∈ p.completedSteps :=
  Finset.mem_insert

theorem completedSteps_skipStep_subset :
    (p.skipStep i).completedSteps ⊆ p.completedSteps :=
  Finset.erase_subset _ _

theorem completedSteps_acknowledge_subset :
    (p.acknowledgeStepAdvisory i reason).completedSteps ⊆ p.completedSteps :=
  Finset.erase_subset _ _

end

end Progress

/-! ## Encoding and decoding -/

/-- `valid_progress_key`: the key of a step of the catalog. -/
def validProgressKey (key : String) : Bool :=
  (StepId.fromProgressKey key).any fun id => (stepById id).isSome

/-- `tolerant_keys`: the valid step keys of an array. -/
def tolerantKeys (value : Option Value) : Finset String :=
  (((value.bind Value.asArray).getD []).filterMap Value.asStr
    |>.filter validProgressKey).toFinset

/-- The derived `AdvisoryResolution::deserialize`. -/
def AdvisoryResolution.decode (value : Value) : Except String AdvisoryResolution :=
  match value.asObject with
  | none => .error "invalid type: expected struct AdvisoryResolution"
  | some fields => do
      let reason ← requiredString "reason" fields
      return { reason := reason, unknown := BTreeMap.without fields ["reason"] }

/-- The derived `AdvisoryResolution::serialize`. -/
def AdvisoryResolution.encode (a : AdvisoryResolution) : Value :=
  .ofRecord [("reason", some (.string a.reason))] a.unknown

/-- The entries of `advisories` that are kept: the key is one of a step, and
the reason is not empty. -/
def tolerantAdvisory (key : String) (value : Value) : Option AdvisoryResolution :=
  if validProgressKey key then
    (AdvisoryResolution.decode value).toOption.filter fun a => !a.reason.isEmpty
  else none

namespace Progress

/-- The keys of a progress document. -/
def knownKeys : List String :=
  ["phase", "lastCompletedStep", "lastSkippedStep", "completedSteps", "skippedSteps",
    "timestamps", "advisories"]

/-- `Progress::deserialize`. -/
def decode (value : Value) : Except String Progress :=
  match value.asObject with
  | none => .error "invalid type: expected a map"
  | some fields =>
      .ok {
        phase := ((tolerantU8 fields["phase"]?).filter (· ≤ 3)).getD 0
        lastCompletedStep := (tolerantU8 fields["lastCompletedStep"]?).getD 0
        lastSkippedStep := (tolerantU8 fields["lastSkippedStep"]?).getD 0
        completedSteps := tolerantKeys fields["completedSteps"]?
        skippedSteps := tolerantKeys fields["skippedSteps"]?
        timestamps := (((fields["timestamps"]?).bind Value.asObject).getD ∅).filterMap
          fun _ value => value.asStr
        advisories := (((fields["advisories"]?).bind Value.asObject).getD ∅).filterMap
          tolerantAdvisory
        unknown := BTreeMap.without fields knownKeys }

/-- The keys of a set, written in order. -/
def encodeKeys (keys : Finset String) : Value :=
  .array ((keys.sort (· ≤ ·)).map .string)

/-- The known entries of a written progress. -/
def entries (p : Progress) : List (String × Option Value) :=
  [("phase", some (.ofU64 p.phase.toUInt64)),
    ("lastCompletedStep", some (.ofU64 p.lastCompletedStep.toUInt64)),
    ("lastSkippedStep", some (.ofU64 p.lastSkippedStep.toUInt64)),
    ("completedSteps", some (encodeKeys p.completedSteps)),
    ("skippedSteps", some (encodeKeys p.skippedSteps)),
    ("timestamps", some (.ofObject (p.timestamps.map fun _ text => .string text))),
    ("advisories", if p.advisories.isEmpty then none
      else some (.ofObject (p.advisories.map fun _ a => a.encode)))]

/-- `Progress::serialize`. -/
def encode (p : Progress) : Value :=
  .ofRecord p.entries p.unknown

/-- Of a written set of keys, the valid ones come back. -/
theorem tolerantKeys_encodeKeys (keys : Finset String) :
    tolerantKeys (some (encodeKeys keys)) = keys.filter (validProgressKey ·) := by
  have hstrings : ((keys.sort (· ≤ ·)).map Value.string).filterMap Value.asStr =
      keys.sort (· ≤ ·) := by
    rw [List.filterMap_map]
    exact List.filterMap_some
  ext key
  simp [tolerantKeys, encodeKeys, Value.asArray, hstrings]

end Progress

end FrametimeCfg.Domain
