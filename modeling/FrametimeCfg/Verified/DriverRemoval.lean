import FrametimeCfg.Lib.Recorded
import FrametimeCfg.Verified.DriverDurability
import FrametimeCfg.Verified.PackageSets

/-!
# The removal of captured packages

The removal calls the adapter once for each captured package, in the order of the
names, reads the inventory again and validates the whole before it returns it.  The
calls are recorded beside the state of the adapters.

The capture is validated at the first reading of the clock, before any call.  It is
validated again, with the evidence, at the last reading: a removal that outlasted the
freshness of its capture ends with an error after the packages are gone.
-/

namespace FrametimeCfg.Verified.DriverRemoval

open FrametimeCfg.Domain
open FrametimeCfg.Lib
open FrametimeCfg.Lib.Effect
open FrametimeCfg.Lib.Recorded
open FrametimeCfg.Verified.DriverDurability
open FrametimeCfg.Verified.PackageSets
open FrametimeCfg.Windows

/-! ## Recorded removals -/

/-- The adapters beside a record of the packages that were passed to the removal. -/
def recordedAdapters {σ : Type} (adapters : DriverAdapters σ) :
    DriverAdapters (σ × List OemPublishedName) where
  currentUtc := beside adapters.currentUtc
  observeSafeMode gpu := beside (adapters.observeSafeMode gpu)
  removePublishedPackage gpu name :=
    recorded (fun _ => name) (adapters.removePublishedPackage gpu name)
  inspectPublishedPackages gpu := beside (adapters.inspectPublishedPackages gpu)

section

variable {σ : Type} {digests : DriverDigests} {adapters : DriverAdapters σ}
  {plan : DryRunDriverPlan} {capture : DriverExecutionCapture}
  {freshness : CaptureFreshnessPolicy} {now : String}

theorem mirrors_validated {α : Type} (operation : String) (r : Except ValidationError α) :
    Mirrors (σ := σ) (ι := OemPublishedName) (validated operation r) (validated operation r) :=
  Mirrors.relabel _ (Mirrors.ofExcept r)

/-- Recording the calls changes no removal. -/
theorem mirrors_removeCapturedPackages :
    Mirrors
      (removeCapturedPackages digests (recordedAdapters adapters) plan capture freshness)
      (removeCapturedPackages digests adapters plan capture freshness) := by
  apply (Mirrors.beside adapters.currentUtc).bind
  intro now
  apply (mirrors_validated _ _).bind
  intro _
  have hremove : ∀ package : PublishedDriverPackage,
      Mirrors ((recordedAdapters adapters).removePublishedPackage capture.targetGpu
          package.publishedName)
        (adapters.removePublishedPackage capture.targetGpu package.publishedName) :=
    fun package => Mirrors.recorded _ _
  apply (Mirrors.mapEach hremove capture.installedPackages.packages).bind
  intro outcomes
  apply (Mirrors.beside (adapters.inspectPublishedPackages capture.targetGpu)).bind
  intro packages
  apply (mirrors_validated _ _).bind
  intro post
  apply (Mirrors.beside adapters.currentUtc).bind
  intro observed
  apply (Mirrors.beside adapters.currentUtc).bind
  intro now
  apply (mirrors_validated _ _).bind
  intro _
  exact Mirrors.pure _

/-! ## What the validations decide -/

theorem validated_eq_ok {α : Type} {operation : String} {r : Except ValidationError α} {s t : σ}
    {a : α} : validated operation r s = (.ok a, t) ↔ r = .ok a ∧ t = s := by
  rw [validated, relabel_eq_ok, ofExcept_apply, Prod.mk.injEq]
  exact and_congr_right fun _ => eq_comm

/-- The captured packages are a canonical set with the names of the plan. -/
theorem capture_facts (h : capture.validateForPlanAt digests plan freshness now = .ok ()) :
    capture.installedPackages.validate = .ok () ∧
      plannedNames plan = .ok capture.installedPackages.names := by
  obtain ⟨_, -, h⟩ := Checks.bind_eq_ok.mp h
  obtain ⟨_, -, h⟩ := Checks.bind_eq_ok.mp h
  obtain ⟨_, hset, h⟩ := Checks.bind_eq_ok.mp h
  obtain ⟨_, -, h⟩ := Checks.bind_eq_ok.mp h
  obtain ⟨_, -, h⟩ := Checks.bind_eq_ok.mp h
  obtain ⟨_, -, h⟩ := Checks.bind_eq_ok.mp h
  obtain ⟨planned, hplanned, h⟩ := Checks.bind_eq_ok.mp h
  obtain ⟨_, hnames, -⟩ := Checks.bind_eq_ok.mp h
  have hsame : capture.installedPackages.names = planned := by
    simpa using Checks.reject_eq_ok.mp hnames
  exact ⟨hset, hsame ▸ hplanned⟩

/-- The age of the capture is checked last, and nothing else looks at the time. -/
theorem capture_later {later : String}
    (h : capture.validateForPlanAt digests plan freshness now = .ok ())
    (hfresh : freshness.validateCaptureAt capture.capturedAtUtc later = .ok ()) :
    capture.validateForPlanAt digests plan freshness later = .ok () := by
  unfold DriverExecutionCapture.validateForPlanAt at h ⊢
  iterate 14
    obtain ⟨a, ha, h⟩ := Checks.bind_eq_ok.mp h
    refine Checks.bind_eq_ok.mpr ⟨a, ha, ?_⟩
  exact hfresh

/-- A valid capture was valid at some age, so the policy allows one. -/
theorem maximumAge_of_valid
    (h : capture.validateForPlanAt digests plan freshness now = .ok ()) :
    (freshness.maximumAgeSeconds = 0) = False := by
  unfold DriverExecutionCapture.validateForPlanAt at h
  iterate 14
    obtain ⟨_, -, h⟩ := Checks.bind_eq_ok.mp h
  obtain ⟨_, hage, -⟩ := Checks.bind_eq_ok.mp h
  simpa using Checks.reject_eq_ok.mp hage

/-- A capture is fresh at a time that is not before it and not older than the limit. -/
theorem validateCaptureAt_of_window {captured later : String} {c n : Int}
    (hage : (freshness.maximumAgeSeconds = 0) = False)
    (hcaptured : evidenceTime captured "capturedAtUtc" = .ok c)
    (hlater : evidenceTime later "nowUtc" = .ok n) (hafter : c ≤ n)
    (hlimit : n - c ≤ freshness.limit) :
    freshness.validateCaptureAt captured later = .ok () := by
  have hnotStale : (decide (n - c < 0) || decide (freshness.limit < n - c)) = false := by
    rw [Bool.or_eq_false_iff, decide_eq_false_iff_not, decide_eq_false_iff_not]
    omega
  unfold CaptureFreshnessPolicy.validateCaptureAt
  simp only [hage, decide_false, Checks.reject_false, Checks.bind_ok, hcaptured, hlater,
    hnotStale]

theorem validateOutcomes_removed {captured : String} {outcomes : List PackageRemovalOutcome}
    (h : validateOutcomes captured outcomes = .ok ()) :
    ∀ outcome ∈ outcomes, outcome.disposition = .removed := by
  induction outcomes with
  | nil => simp
  | cons outcome outcomes ih =>
      obtain ⟨hremoved, h⟩ := Checks.check_bind_eq_ok.mp h
      obtain ⟨_, -, h⟩ := Checks.bind_eq_ok.mp h
      obtain ⟨_, -, h⟩ := Checks.bind_eq_ok.mp h
      obtain ⟨-, hrest⟩ := Checks.check_bind_eq_ok.mp h
      have hhead : outcome.disposition = .removed := by
        simpa using Checks.reject_eq_ok.mp hremoved
      exact List.forall_mem_cons.mpr ⟨hhead, ih hrest⟩

/-- Valid evidence: every outcome is a removal, and no captured name is left. -/
theorem removal_facts {evidence : RemovalExecutionEvidence}
    (h : evidence.validateForPlanAt digests plan freshness now = .ok ()) :
    evidence.capture.validateForPlanAt digests plan freshness now = .ok () ∧
      (∀ outcome ∈ evidence.outcomes, outcome.disposition = .removed) ∧
      Disjoint evidence.capture.installedPackages.names evidence.postRemovalPackages.names := by
  obtain ⟨_, hcapture, h⟩ := Checks.bind_eq_ok.mp h
  obtain ⟨_, -, h⟩ := Checks.bind_eq_ok.mp h
  obtain ⟨_, -, h⟩ := Checks.bind_eq_ok.mp h
  obtain ⟨_, -, h⟩ := Checks.bind_eq_ok.mp h
  obtain ⟨_, -, h⟩ := Checks.bind_eq_ok.mp h
  obtain ⟨_, -, h⟩ := Checks.bind_eq_ok.mp h
  obtain ⟨_, -, h⟩ := Checks.bind_eq_ok.mp h
  obtain ⟨houtcomes, hdisjoint⟩ := Checks.check_bind_eq_ok.mp h
  have hnone : Disjoint evidence.capture.installedPackages.names
      evidence.postRemovalPackages.names := by
    simpa using Checks.reject_eq_ok.mp hdisjoint
  exact ⟨hcapture, validateOutcomes_removed houtcomes, hnone⟩

theorem removal_later {evidence : RemovalExecutionEvidence} {later : String}
    (h : evidence.validateForPlanAt digests plan freshness now = .ok ())
    (hfresh : freshness.validateCaptureAt evidence.capture.capturedAtUtc later = .ok ()) :
    evidence.validateForPlanAt digests plan freshness later = .ok () := by
  obtain ⟨_, hcapture, h⟩ := Checks.bind_eq_ok.mp h
  exact Checks.bind_eq_ok.mpr ⟨_, capture_later hcapture hfresh, h⟩

/-! ## The run -/

/-- **A removal that returned**: its calls, the inventory it read afterwards, and the
validation of what it returns. -/
theorem removeCapturedPackages_ok {evidence : RemovalExecutionEvidence} {s t : σ}
    {log log' : List OemPublishedName}
    (h : removeCapturedPackages digests (recordedAdapters adapters) plan capture freshness
      (s, log) = (.ok evidence, (t, log'))) :
    log' = log ++ namesOf capture.installedPackages.packages ∧ evidence.capture = capture ∧
      (∃ packages u v,
        adapters.inspectPublishedPackages capture.targetGpu u = (.ok packages, v) ∧
        evidence.postRemovalPackages.packages = sortPackages packages) ∧
      ∃ now, evidence.validateForPlanAt digests plan freshness now = .ok () := by
  obtain ⟨now, ⟨s₁, log₁⟩, hclock, hrun₁⟩ := bind_eq_ok h
  obtain ⟨-, rfl⟩ := beside_eq.mp hclock
  obtain ⟨_, p₂, hcheck, hrun₂⟩ := bind_eq_ok hrun₁
  obtain ⟨-, rfl⟩ := validated_eq_ok.mp hcheck
  obtain ⟨outcomes, ⟨s₃, log₃⟩, hremovals, hrun₃⟩ := bind_eq_ok hrun₂
  obtain rfl := mapEach_recorded hremovals
  obtain ⟨packages, ⟨s₄, log₄⟩, hinspect, hrun₄⟩ := bind_eq_ok hrun₃
  obtain ⟨hinventory, rfl⟩ := beside_eq.mp hinspect
  obtain ⟨post, p₅, hreadback, hrun₅⟩ := bind_eq_ok hrun₄
  obtain ⟨hpost, rfl⟩ := validated_eq_ok.mp hreadback
  obtain ⟨observed, ⟨s₆, log₆⟩, hclock, hrun₆⟩ := bind_eq_ok hrun₅
  obtain ⟨-, rfl⟩ := beside_eq.mp hclock
  obtain ⟨last, ⟨s₇, log₇⟩, hclock, hrun₇⟩ := bind_eq_ok hrun₆
  obtain ⟨-, rfl⟩ := beside_eq.mp hclock
  obtain ⟨_, p₈, hverify, hrun₈⟩ := bind_eq_ok hrun₇
  obtain ⟨hvalid, rfl⟩ := validated_eq_ok.mp hverify
  obtain ⟨hevidence, hend⟩ := Prod.mk.inj hrun₈
  obtain ⟨rfl, rfl⟩ := Prod.mk.inj hend
  obtain rfl := Except.ok.inj hevidence
  obtain ⟨_, -, hset⟩ := Checks.bind_eq_ok.mp hpost
  obtain rfl := Except.ok.inj hset
  exact ⟨rfl, rfl, ⟨packages, s₃, s₄, hinventory, rfl⟩, last, hvalid⟩

end

/-- **Evidence of a removal.**  The record changes no run.  If the removal returns, each name of the plan was passed to the
adapter once, in canonical order, and nothing else was; every outcome is a removal; the
inventory that was read afterwards holds none of the names; and the evidence stays valid
for as long as its capture is fresh.  If the capture is not valid for the plan at the first
reading of the clock, or there is no reading, it fails before any call. -/
theorem removalEvidence {σ : Type} (digests : DriverDigests) (adapters : DriverAdapters σ)
    (plan : DryRunDriverPlan) (capture : DriverExecutionCapture)
    (freshness : CaptureFreshnessPolicy) (s : σ) :
    Mirrors
      (removeCapturedPackages digests (recordedAdapters adapters) plan capture freshness)
      (removeCapturedPackages digests adapters plan capture freshness) ∧
    (∀ evidence t log,
      removeCapturedPackages digests (recordedAdapters adapters) plan capture freshness
        (s, []) = (.ok evidence, (t, log)) →
      plannedNames plan = .ok log.toFinset ∧ log.Pairwise Before ∧
      (∀ outcome ∈ evidence.outcomes, outcome.disposition = .removed) ∧
      (∃ packages u v,
        adapters.inspectPublishedPackages capture.targetGpu u = (.ok packages, v) ∧
        evidence.postRemovalPackages.packages = sortPackages packages ∧
        ∀ package ∈ packages, package.publishedName ∉ log) ∧
      ∀ later c n, evidenceTime evidence.capture.capturedAtUtc "capturedAtUtc" = .ok c →
        evidenceTime later "nowUtc" = .ok n → c ≤ n → n - c ≤ freshness.limit →
        evidence.validateForPlanAt digests plan freshness later = .ok ()) ∧
    (∀ now s₁, adapters.currentUtc s = (.ok now, s₁) →
      capture.validateForPlanAt digests plan freshness now ≠ .ok () →
      ∃ failure, removeCapturedPackages digests (recordedAdapters adapters) plan capture
        freshness (s, []) = (.error failure, (s₁, []))) ∧
    ∀ failure s₁, adapters.currentUtc s = (.error failure, s₁) →
      removeCapturedPackages digests (recordedAdapters adapters) plan capture freshness
        (s, []) = (.error failure, (s₁, [])) := by
  refine ⟨mirrors_removeCapturedPackages, fun evidence t log h => ?_,
    fun now s₁ hclock hinvalid => ?_, fun failure s₁ hclock => ?_⟩
  · obtain ⟨hlog, hcapture, ⟨packages, u, v, hinspect, hpost⟩, now, hvalid⟩ :=
      removeCapturedPackages_ok h
    rw [List.nil_append] at hlog
    obtain ⟨hcaptured, hremoved, hdisjoint⟩ := removal_facts hvalid
    rw [hcapture] at hcaptured hdisjoint
    obtain ⟨hset, hplanned⟩ := capture_facts hcaptured
    have hnames : capture.installedPackages.names = log.toFinset := by
      rw [hlog]
      rfl
    have hsorted : log.Pairwise Before := hlog ▸ (validate_eq_ok.mp hset).2.2
    have hgone : ∀ package ∈ packages, package.publishedName ∉ log := by
      intro package hmem hcalled
      have hleft : package.publishedName ∈ evidence.postRemovalPackages.names := by
        rw [names_eq, List.mem_toFinset, hpost]
        exact List.mem_map_of_mem (mem_sortPackages.mpr hmem)
      have hbefore : package.publishedName ∈ capture.installedPackages.names := by
        rw [hnames, List.mem_toFinset]
        exact hcalled
      exact Finset.disjoint_left.mp hdisjoint hbefore hleft
    refine ⟨hnames ▸ hplanned, hsorted, hremoved, ⟨packages, u, v, hinspect, hpost, hgone⟩, ?_⟩
    intro later c n hc hn hafter hlimit
    exact removal_later hvalid
      (validateCaptureAt_of_window (maximumAge_of_valid hcaptured) hc hn hafter hlimit)
  · have hfirst : (recordedAdapters adapters).currentUtc (s, []) = (.ok now, (s₁, [])) :=
      beside_eq.mpr ⟨hclock, rfl⟩
    obtain ⟨error, herror⟩ : ∃ error,
        capture.validateForPlanAt digests plan freshness now = .error error := by
      cases h : capture.validateForPlanAt digests plan freshness now with
      | error error => exact ⟨error, rfl⟩
      | ok _ => exact absurd h hinvalid
    refine ⟨⟨"remove driver packages", error.message⟩, (bind_apply_ok hfirst).trans ?_⟩
    apply bind_apply_error
    rw [herror]
    rfl
  · have hfirst : (recordedAdapters adapters).currentUtc (s, []) =
        (.error failure, (s₁, [])) := beside_eq.mpr ⟨hclock, rfl⟩
    exact bind_apply_error hfirst

/-! ## A slow removal -/

/-- The machine of the test adapters with a clock that is at noon once, and twenty minutes
later ever after. -/
def slowAdapters : DriverAdapters (List PublishedDriverPackage × Bool) where
  currentUtc := fun (packages, late) =>
    (.ok (if late then "2026-03-01T12:20:00Z" else "2026-03-01T12:00:00Z"), (packages, true))
  observeSafeMode gpu := fun (packages, late) =>
    ((testAdapters.observeSafeMode gpu packages).1, (packages, late))
  removePublishedPackage gpu name := fun (packages, late) =>
    let (r, left) := testAdapters.removePublishedPackage gpu name packages
    (r, (left, late))
  inspectPublishedPackages _ := fun (packages, late) => (.ok packages, (packages, late))

/-- A removal may fail for the freshness of its capture after it has made its calls. -/
theorem slowRemoval :
    ¬ ∀ (σ : Type) (digests : DriverDigests) (adapters : DriverAdapters σ)
        (plan : DryRunDriverPlan) (capture : DriverExecutionCapture)
        (freshness : CaptureFreshnessPolicy) (s t : σ) (failure : AdapterFailure)
        (log : List OemPublishedName),
      removeCapturedPackages digests (recordedAdapters adapters) plan capture freshness
        (s, []) = (.error failure, (t, log)) →
      failure.reason = ValidationError.staleCapture.message → log = [] := by
  intro h
  have hrun : removeCapturedPackages sameDigests (recordedAdapters slowAdapters) testPlan
      testCapture REMOVAL_FRESHNESS (([testPackage], false), []) =
        (.error ⟨"verify driver removal", ValidationError.staleCapture.message⟩,
          (([], true), [testPackage.publishedName])) := by decide +kernel
  exact absurd (h _ _ _ _ _ _ _ _ _ _ hrun rfl) (by simp)

end FrametimeCfg.Verified.DriverRemoval
