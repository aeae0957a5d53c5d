import FrametimeCfg.Verified.DriverCoherence

/-!
# The order of an enumeration

Packages are enumerated in any order.  The names that a plan lets through are different, so
their order is one that sorting finds, and the plan, its digest and the package set that is
made of its packages depend on the packages alone.
-/

namespace FrametimeCfg.Verified.PlanOrder

open FrametimeCfg.Domain
open FrametimeCfg.Verified.DriverCoherence
open FrametimeCfg.Verified.DriverDurability
open FrametimeCfg.Verified.PackageSets

variable {packages others : List PublishedDriverPackage}

theorem namesOf_perm (h : packages.Perm others) : (namesOf packages).Perm (namesOf others) :=
  h.map _

/-- The packages of ascending names. -/
theorem ascending_iff : (namesOf packages).Pairwise Before ↔
    packages.Pairwise fun left right => left.publishedName.value < right.publishedName.value := by
  rw [namesOf, List.pairwise_map]
  rfl

/-- **One order for all permutations** of packages with different names. -/
theorem sortPackages_eq_of_perm (h : packages.Perm others) (hnodup : (namesOf others).Nodup) :
    sortPackages packages = sortPackages others := by
  have hfirst := pairwise_sortPackages ((namesOf_perm h).nodup_iff.mpr hnodup)
  have hsecond := pairwise_sortPackages hnodup
  have hperm : (sortPackages packages).Perm (sortPackages others) :=
    ((List.perm_insertionSort _ _).trans h).trans (List.perm_insertionSort _ _).symm
  exact hperm.eq_of_pairwise (fun _ _ _ _ hxy hyx => absurd hyx (lt_asymm hxy))
    (ascending_iff.mp hfirst) (ascending_iff.mp hsecond)

/-- The checks of an input do not see the order. -/
theorem validate_perm {input : DriverPlanInput} (h : packages.Perm input.installedPackages) :
    DriverPlanInput.validate { input with installedPackages := packages } = .ok () ↔
      input.validate = .ok () := by
  rw [input_validate_eq_ok, input_validate_eq_ok]
  have hempty : packages.isEmpty = input.installedPackages.isEmpty := by
    rw [Bool.eq_iff_iff, List.isEmpty_iff, List.isEmpty_iff]
    exact ⟨fun hnil => (hnil ▸ h).nil_eq.symm, fun hnil => (hnil ▸ h).eq_nil⟩
  simp only [hempty, h.mem_iff, (namesOf_perm h).nodup_iff]

/-- What a plan records: packages in the order of their names, which any order of them gives
again, as one set with one fingerprint. -/
structure Canonical (digests : DriverDigests) (plan : DryRunDriverPlan)
    (recorded : List PublishedDriverPackage) : Prop where
  packages : plan.entries[1]?.map DryRunDriverPlanEntry.action =
    some (.recordExactPackages recorded)
  names : plan.entries[2]?.map DryRunDriverPlanEntry.action =
    some (.proposePackageCleanup (recorded.map PublishedDriverPackage.publishedName))
  ascending : recorded.Pairwise fun left right =>
    left.publishedName.value < right.publishedName.value
  anyOrder : ∀ shuffled : List PublishedDriverPackage, shuffled.Perm recorded →
    CanonicalPackageSet.fromUnsorted plan.targetGpu shuffled =
      .ok ⟨plan.targetGpu, recorded⟩
  fingerprint : CanonicalPackageSet.fingerprint digests ⟨plan.targetGpu, recorded⟩ =
    .ok (digests.packageSet ⟨plan.targetGpu, recorded⟩)
  valid : plan.validate = .ok ()

theorem canonical_planOf {digests : DriverDigests} {input : DriverPlanInput}
    (h : input.validate = .ok ()) :
    Canonical digests (planOf digests.planInput input)
      (sortPackages input.installedPackages) where
  packages := rfl
  names := rfl
  ascending := by
    obtain ⟨-, -, ⟨-, hnodup⟩, -⟩ := input_validate_eq_ok.mp h
    exact ascending_iff.mp (pairwise_sortPackages hnodup)
  anyOrder shuffled hperm := by
    obtain ⟨-, -, ⟨-, hnodup⟩, -⟩ := input_validate_eq_ok.mp h
    have hsorted := pairwise_sortPackages hnodup
    have hsame : sortPackages shuffled = sortPackages input.installedPackages := by
      rw [sortPackages_eq_of_perm hperm (nodup_of_pairwise hsorted), sortPackages_eq_self hsorted]
    rw [fromUnsorted_eq_ok, hsame]
    exact ⟨canonical_of_generated h, rfl⟩
  fingerprint := fingerprint_eq_ok.mpr ⟨canonical_of_generated h, rfl⟩
  valid := validate_planOf h

/-- **Plans do not depend on the order of the enumeration**: for two inputs that differ in it
the plan is one plan or there is none, and a plan records its packages canonically. -/
theorem planOrder (digests : DriverDigests) (input : DriverPlanInput)
    (packages : List PublishedDriverPackage) (h : packages.Perm input.installedPackages) :
    (∀ plan : DryRunDriverPlan,
      generateDryRunPlan digests.planInput { input with installedPackages := packages } =
        .ok plan ↔ generateDryRunPlan digests.planInput input = .ok plan) ∧
    ∀ plan : DryRunDriverPlan, generateDryRunPlan digests.planInput input = .ok plan →
      ∃ recorded, Canonical digests plan recorded := by
  constructor
  · intro plan
    rw [generate_eq_ok, generate_eq_ok, validate_perm h]
    apply and_congr_right
    intro hvalid
    obtain ⟨-, -, ⟨-, hnodup⟩, -⟩ := input_validate_eq_ok.mp hvalid
    have hsort := sortPackages_eq_of_perm h hnodup
    simp only [planOf, hsort]
  · intro plan hplan
    obtain ⟨hvalid, rfl⟩ := generate_eq_ok.mp hplan
    exact ⟨_, canonical_planOf hvalid⟩

/-- The package of another number. -/
def laterPackage : PublishedDriverPackage :=
  { testPackage with publishedName := { value := "oem7.inf", valid := by decide } }

/-- Two packages, in both orders. -/
theorem planOrder_twoPackages :
    let input : DriverPlanInput :=
      { testInput with installedPackages := [laterPackage, testPackage] }
    let plan := planOf sameDigests.planInput input
    generateDryRunPlan sameDigests.planInput
      { input with installedPackages := [testPackage, laterPackage] } = .ok plan ∧
    ∃ recorded, Canonical sameDigests plan recorded := by
  intro input plan
  have hvalid : input.validate = .ok () := by decide +kernel
  have hplan : generateDryRunPlan sameDigests.planInput input = .ok plan :=
    generate_eq_ok.mpr ⟨hvalid, rfl⟩
  obtain ⟨hsame, hcanonical⟩ :=
    planOrder sameDigests input [testPackage, laterPackage] (List.Perm.swap _ _ _)
  exact ⟨(hsame plan).mpr hplan, hcanonical plan hplan⟩

end FrametimeCfg.Verified.PlanOrder
